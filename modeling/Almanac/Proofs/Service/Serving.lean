import Almanac.Proofs.Forecast.Course
import Almanac.Service.Basic

set_option autoImplicit false

namespace Almanac

def Http.Request.posting (body : String) : Http.Request :=
  ⟨"POST", "/weather", [⟨"content-type", "application/json"⟩], Utf8.encode body⟩

namespace Admission

theorem bind_of_granted {limit : Option UInt32} {call : Http.Request} {request : Request}
    (h : (of limit call).1 = .granted request) :
    Request.bind call = .ok request ∧ TooManyDays.check? limit request = none := by
  unfold of at h
  split at h
  · cases h
  · rename_i endpoint _
    split at h
    · cases endpoint with
      | health => cases h
      | weather =>
        simp only [weather] at h
        split at h
        · cases h
        · rename_i bound hbound
          cases hlimit : TooManyDays.check? limit bound with
          | some refusal => simp only [hlimit] at h; cases h
          | none =>
            simp only [hlimit, Admission.granted.injEq] at h
            subst h
            exact ⟨hbound, hlimit⟩
    · cases h

theorem granted_unique {limit limit' : Option UInt32} {call : Http.Request}
    {request request' : Request} (h : (of limit call).1 = .granted request)
    (h' : (of limit' call).1 = .granted request') : request = request' := by
  have bound := (bind_of_granted h).1
  rw [(bind_of_granted h').1] at bound
  exact (Except.ok.inj bound).symm

end Admission

def daysServed (replies : List Reply) : Nat := (replies.map (·.days.length)).sum

theorem daysServed_cons (reply : Reply) (replies : List Reply) :
    daysServed (reply :: replies) = reply.days.length + daysServed replies := by
  simp only [daysServed, List.map_cons, List.sum_cons]

namespace Service

variable {σ : Type} [Source σ]

theorem serve_of_answered {service : Service σ} {call : Http.Request} {response : Http.Response}
    (today : Date) (h : (Admission.of service.limit call).1 = .answered response) :
    (service.serve today call).reply = .direct response ∧
      (service.serve today call).service = service := by
  cases hp : Admission.of service.limit call with
  | mk admission events =>
    rw [hp] at h
    change admission = _ at h
    subst h
    simp only [serve, hp, and_self]

theorem serve_of_granted {service : Service σ} {call : Http.Request} {request : Request}
    (today : Date) (h : (Admission.of service.limit call).1 = .granted request) :
    (service.serve today call).reply =
        .ofResult (Forecast.generate request today service.source).result ∧
      (service.serve today call).service =
        { service with source := (Forecast.generate request today service.source).source } := by
  cases hp : Admission.of service.limit call with
  | mk admission events =>
    rw [hp] at h
    change admission = _ at h
    subst h
    simp only [serve, hp, and_self]

theorem serve_limit (service : Service σ) (today : Date) (call : Http.Request) :
    (service.serve today call).service.limit = service.limit := by
  cases h : (Admission.of service.limit call).1 with
  | answered response => rw [(serve_of_answered today h).2]
  | granted request => rw [(serve_of_granted today h).2]

def after (service : Service σ) (history : List (Date × Http.Request)) : Service σ :=
  (service.serveAll history).2.2

def replies (service : Service σ) (history : List (Date × Http.Request)) : List Reply :=
  (service.serveAll history).1

theorem replies_cons (service : Service σ) (call : Date × Http.Request)
    (rest : List (Date × Http.Request)) : service.replies (call :: rest) =
      (service.serve call.1 call.2).reply ::
        (service.serve call.1 call.2).service.replies rest := by rfl

theorem after_append (service : Service σ) (before rest : List (Date × Http.Request)) :
    service.after (before ++ rest) = (service.after before).after rest := by
  induction before generalizing service with
  | nil => rfl
  | cons call before ih => exact ih (service.serve call.1 call.2).service

theorem replies_append (service : Service σ) (before rest : List (Date × Http.Request)) :
    service.replies (before ++ rest) =
      service.replies before ++ (service.after before).replies rest := by
  induction before generalizing service with
  | nil => rfl
  | cons call before ih =>
    exact congrArg (List.cons _) (ih (service.serve call.1 call.2).service)

theorem after_limit (service : Service σ) (history : List (Date × Http.Request)) :
    (service.after history).limit = service.limit := by
  induction history generalizing service with
  | nil => rfl
  | cons call rest ih =>
    exact (ih (service.serve call.1 call.2).service).trans (serve_limit service call.1 call.2)

section Ranged

variable [Source.Ranged σ]

theorem serve_of_granted_ranged {service : Service σ} {call : Http.Request} {request : Request}
    (today : Date) (h : (Admission.of service.limit call).1 = .granted request) :
    ∃ f, (Forecast.generate request today service.source).result = .ok f ∧
      (service.serve today call).reply = .forecast f ∧
      (service.serve today call).service =
        { service with source := Forecast.afterDay^[f.days.length] service.source } := by
  obtain ⟨f, made, _, _, _, moved⟩ := Forecast.generate_ranged request today service.source
  obtain ⟨reply, left⟩ := serve_of_granted today h
  refine ⟨f, made, ?_, ?_⟩
  · rw [reply, made]
    rfl
  · rw [left, moved]

/-- Serving moves the source by one step for each day in the answer. -/
theorem serve_source (service : Service σ) (today : Date) (call : Http.Request) :
    (service.serve today call).service.source =
      Forecast.afterDay^[(service.serve today call).reply.days.length] service.source := by
  cases h : (Admission.of service.limit call).1 with
  | answered response =>
    obtain ⟨reply, left⟩ := serve_of_answered today h
    rw [reply, left]
    rfl
  | granted request =>
    obtain ⟨f, _, reply, left⟩ := serve_of_granted_ranged today h
    rw [reply, left]
    rfl

theorem after_source (service : Service σ) (history : List (Date × Http.Request)) :
    (service.after history).source =
      Forecast.afterDay^[daysServed (service.replies history)] service.source := by
  induction history generalizing service with
  | nil => rfl
  | cons call rest ih =>
    have first := serve_source service call.1 call.2
    have run := ih (service.serve call.1 call.2).service
    change ((service.serve call.1 call.2).service.after rest).source =
      Forecast.afterDay^[daysServed ((service.serve call.1 call.2).reply ::
        (service.serve call.1 call.2).service.replies rest)] service.source
    rw [run, first, daysServed_cons, Nat.add_comm, Function.iterate_add_apply]

/-- The number of days that a request is due: none unless it is granted, and no more than the
calendar has. -/
def daysDue (limit : Option UInt32) (today : Date) (call : Http.Request) : Nat :=
  match (Admission.of limit call).1 with
  | .answered _ => 0
  | .granted request => (Forecast.dates today request.days.toInt.toNat 0).length

theorem serve_days (service : Service σ) (today : Date) (call : Http.Request) :
    (service.serve today call).reply.days.length = daysDue service.limit today call := by
  unfold daysDue
  cases h : (Admission.of service.limit call).1 with
  | answered response =>
    rw [(serve_of_answered today h).1]
    rfl
  | granted request =>
    obtain ⟨f, made, _, _, days, _⟩ := Forecast.generate_ranged request today service.source
    rw [(serve_of_granted today h).1, made]
    exact days

/-- How many days a run serves depends on the requests and the limit alone. -/
theorem daysServed_replies (service : Service σ) (history : List (Date × Http.Request)) :
    daysServed (service.replies history) =
      (history.map fun call => daysDue service.limit call.1 call.2).sum := by
  induction history generalizing service with
  | nil => rfl
  | cons call rest ih =>
    change daysServed ((service.serve call.1 call.2).reply ::
      (service.serve call.1 call.2).service.replies rest) = _
    rw [daysServed_cons, serve_days, ih, serve_limit, List.map_cons, List.sum_cons]

end Ranged

end Service

end Almanac
