import Almanac.Proofs.Service.Serving
import Mathlib

set_option autoImplicit false

namespace Almanac

/-- The forecast request that a call posts to the place of forecasts, if it holds one. -/
def Request.posted? (call : Http.Request) : Option Request :=
  if call.path = "/weather" ∧ call.method = "POST" then (Request.bind call).toOption else none

def Http.Request.exceeds (limit : UInt32) (call : Http.Request) : Bool :=
  (Request.posted? call).any fun request => (limit.toNat : Int) < request.days.toInt

def Reply.Refuses (reply : Reply) : Prop :=
  ∃ refusal : TooManyDays, reply = .direct refusal.response.withLength

namespace Admission

theorem of_weather (limit : Option UInt32) {call : Http.Request}
    (place : call.path = "/weather" ∧ call.method = "POST") :
    of limit call = weather limit call := by
  have known : Endpoint.ofPath? call.path = some .weather := by
    rw [place.1]
    decide
  have served : Endpoint.weather.methods.contains call.method = true := by
    rw [place.2]
    decide
  simp only [of, known, served, ite_true]

theorem of_elsewhere {call : Http.Request} (h : ¬ (call.path = "/weather" ∧ call.method = "POST")) :
    ∃ response, ∀ limit, of limit call = (.answered response, []) := by
  unfold of
  cases place : Endpoint.ofPath? call.path with
  | none => exact ⟨_, fun _ => rfl⟩
  | some endpoint =>
    by_cases served : endpoint.methods.contains call.method = true
    · simp only [served, ite_true]
      cases endpoint with
      | health => exact ⟨_, fun _ => rfl⟩
      | weather =>
        have path : call.path = "/weather" := by
          unfold Endpoint.ofPath? at place
          split at place
          · cases place
          · split at place
            · assumption
            · cases place
        rw [List.contains_iff_mem] at served
        exact absurd ⟨path, List.mem_singleton.1 served⟩ h
    · simp only [served]
      exact ⟨_, fun _ => rfl⟩

theorem of_posted {call : Http.Request} {request : Request}
    (h : Request.posted? call = some request) (limit : Option UInt32) : (of limit call).1 =
      match TooManyDays.check? limit request with
      | some refusal => .answered refusal.response.withLength
      | none => .granted request := by
  unfold Request.posted? at h
  split at h
  · rename_i place
    rw [of_weather limit place]
    cases bound : Request.bind call with
    | error e =>
      rw [bound] at h
      cases h
    | ok found =>
      rw [bound] at h
      cases h
      simp only [weather, bound]
      cases TooManyDays.check? limit request <;> rfl
  · cases h

theorem of_not_posted {call : Http.Request} (h : Request.posted? call = none) :
    ∃ response, ∀ limit, (of limit call).1 = .answered response := by
  unfold Request.posted? at h
  split at h
  · rename_i place
    cases bound : Request.bind call with
    | ok request =>
      rw [bound] at h
      cases h
    | error e => exact ⟨e.response.withLength, fun limit => by simp only [of_weather limit place,
        weather, bound]⟩
  · rename_i elsewhere
    obtain ⟨response, answered⟩ := of_elsewhere elsewhere
    exact ⟨response, fun limit => by rw [answered]⟩

end Admission

namespace Service

variable {σ : Type} [Source σ]

theorem serve_exceeding {service : Service σ} {limit : UInt32}
    (limited : service.limit = some limit) (today : Date) {call : Http.Request}
    (h : call.exceeds limit = true) :
    (service.serve today call).reply.Refuses ∧ (service.serve today call).service = service := by
  obtain ⟨request, posted, tooMany⟩ := (Option.any_eq_true _ _).1 h
  have answered := Admission.of_posted posted service.limit
  simp only [limited, TooManyDays.check?, if_pos (of_decide_eq_true tooMany)] at answered
  rw [← limited] at answered
  obtain ⟨reply, left⟩ := serve_of_answered today answered
  exact ⟨⟨_, reply⟩, left⟩

theorem serve_within {service free : Service σ} {limit : UInt32}
    (limited : service.limit = some limit) (unlimited : free.limit = none)
    (source : service.source = free.source) (today : Date) {call : Http.Request}
    (h : call.exceeds limit = false) :
    (service.serve today call).reply = (free.serve today call).reply ∧
      (service.serve today call).service.source = (free.serve today call).service.source := by
  cases posted : Request.posted? call with
  | none =>
    obtain ⟨response, answered⟩ := Admission.of_not_posted posted
    obtain ⟨reply, left⟩ := serve_of_answered today (answered service.limit)
    obtain ⟨reply', left'⟩ := serve_of_answered today (answered free.limit)
    exact ⟨reply.trans reply'.symm, by rw [left, left', source]⟩
  | some request =>
    have within : ¬ (limit.toNat : Int) < request.days.toInt := by
      simpa only [Http.Request.exceeds, posted, Option.any_some, decide_eq_false_iff_not] using h
    have granted := Admission.of_posted posted service.limit
    have granted' := Admission.of_posted posted free.limit
    simp only [limited, TooManyDays.check?, if_neg within] at granted
    simp only [unlimited, TooManyDays.check?] at granted'
    rw [← limited] at granted
    rw [← unlimited] at granted'
    obtain ⟨reply, left⟩ := serve_of_granted today granted
    obtain ⟨reply', left'⟩ := serve_of_granted today granted'
    exact ⟨by rw [reply, reply', source], by rw [left, left', source]⟩

/-- The answers to the requests within the limit are those of a service without a limit that is
only asked these. -/
theorem replies_within {service free : Service σ} {limit : UInt32}
    (limited : service.limit = some limit) (unlimited : free.limit = none)
    (source : service.source = free.source) (history : List (Date × Http.Request)) :
    ((history.zip (service.replies history)).filter fun x => !x.1.2.exceeds limit).map (·.2) =
      free.replies (history.filter fun call => !call.2.exceeds limit) := by
  -- the two services keep the same source, past refusals on one side only
  induction history generalizing service free with
  | nil => rfl
  | cons call rest ih =>
    rw [replies_cons, List.zip_cons_cons]
    have kept : (service.serve call.1 call.2).service.limit = some limit :=
      (serve_limit service call.1 call.2).trans limited
    cases exceeds : call.2.exceeds limit with
    | true =>
      obtain ⟨_, left⟩ := serve_exceeding limited call.1 exceeds
      rw [List.filter_cons_of_neg (by simp only [exceeds]; decide),
        List.filter_cons_of_neg (by simp only [exceeds]; decide)]
      exact ih kept unlimited (by rw [left, source])
    | false =>
      obtain ⟨reply, moved⟩ := serve_within limited unlimited source call.1 exceeds
      rw [List.filter_cons_of_pos (by simp only [exceeds]; rfl),
        List.filter_cons_of_pos (by simp only [exceeds]; rfl), List.map_cons, replies_cons, reply]
      exact congrArg _ (ih kept ((serve_limit free call.1 call.2).trans unlimited) moved)

section Ranged

variable [Source.Ranged σ]

/-- A posted request gets a forecast or, exactly if it asks for more days than the limit, a
refusal. -/
theorem refuses_iff {service : Service σ} {limit : UInt32} (limited : service.limit = some limit)
    (today : Date) {call : Http.Request} {request : Request}
    (posted : Request.posted? call = some request) :
    (service.serve today call).reply.Refuses ↔ (limit.toNat : Int) < request.days.toInt := by
  constructor
  · rintro ⟨refusal, refused⟩
    by_contra within
    have granted := Admission.of_posted posted service.limit
    simp only [limited, TooManyDays.check?, if_neg within] at granted
    rw [← limited] at granted
    obtain ⟨f, _, reply, _⟩ := serve_of_granted_ranged today granted
    rw [reply] at refused
    cases refused
  · intro tooMany
    apply (serve_exceeding limited today _).1
    simp only [Http.Request.exceeds, posted, Option.any_some, decide_eq_true tooMany]

theorem serve_days_le {service : Service σ} {limit : UInt32} (limited : service.limit = some limit)
    (today : Date) (call : Http.Request) :
    (service.serve today call).reply.days.length ≤ limit.toNat := by
  rw [serve_days, limited]
  unfold daysDue
  cases h : (Admission.of (some limit) call).1 with
  | answered response => exact Nat.zero_le _
  | granted request =>
    have within := (Admission.bind_of_granted h).2
    have most := Forecast.dates_length_le today request.days.toInt.toNat 0
    simp only [TooManyDays.check?] at within
    split at within
    · cases within
    · simp only
      omega

theorem replies_days_le {service : Service σ} {limit : UInt32}
    (limited : service.limit = some limit) (history : List (Date × Http.Request)) :
    ∀ reply ∈ service.replies history, reply.days.length ≤ limit.toNat := by
  induction history generalizing service with
  | nil =>
    intro reply mem
    cases mem
  | cons call rest ih =>
    intro reply mem
    rw [replies_cons] at mem
    rcases List.mem_cons.1 mem with rfl | mem
    · exact serve_days_le limited call.1 call.2
    · exact ih ((serve_limit service call.1 call.2).trans limited) reply mem

end Ranged

/-- A day limit refuses the requests for more days than it, so none for a negative number of days
and none at all if it is beyond the integers of 32 bits. No forecast of a service with a limit has
more days than that, and to the other requests it gives the answers, in their order, of a service
of the same seed without a limit that is asked only these. -/
theorem limit_only_filters (seed : UInt64) (entropy entropy' : Key) (limit : UInt32)
    (history : List (Date × Http.Request)) :
    let service := (create (some seed) entropy (some limit)).1
    let free := (create (some seed) entropy' none).1
    (∀ before today call request, Request.posted? call = some request →
      let reply := ((service.after before).serve today call).reply
      (reply.Refuses ↔ (limit.toNat : Int) < request.days.toInt) ∧
        (request.days.toInt < 0 → ¬ reply.Refuses) ∧
        (2147483647 < limit.toNat → ¬ reply.Refuses)) ∧
      (∀ f, .forecast f ∈ service.replies history → f.days.length ≤ limit.toNat) ∧
      ((history.zip (service.replies history)).filter fun x => !x.1.2.exceeds limit).map (·.2) =
        free.replies (history.filter fun call => !call.2.exceeds limit) := by
  intro service free
  have created : service.limit = some limit := rfl
  have unlimited : free.limit = none := rfl
  refine ⟨?_, ?_, ?_⟩
  · intro before today call request posted reply
    have limited : (service.after before).limit = some limit := after_limit service before
    have refused : reply.Refuses ↔ (limit.toNat : Int) < request.days.toInt :=
      refuses_iff limited today posted
    have largest := request.days.toInt_lt
    exact ⟨refused, fun negative refuses => by have := refused.1 refuses; omega,
      fun beyond refuses => by have := refused.1 refuses; omega⟩
  · intro f mem
    exact replies_days_le created history (.forecast f) mem
  · exact replies_within created unlimited rfl history

/-- Past a limit of two days: a request for three is refused, and the other answers are as if it had
not been made. -/
theorem limit_of_two_filters :
    let today : Date := ⟨2024, 2, 28, by decide, by decide, by decide, by decide⟩
    let key : Key := Vector.replicate 8 0
    let service := (create (some 7) key (some 2)).1
    let free := (create (some 7) key none).1
    let three := Http.Request.posting "\x7b\"days\":3\x7d"
    let others := [(today, Http.Request.posting "\x7b\"days\":-1\x7d"),
      (today, ⟨"GET", "/health", [], []⟩), (today, Http.Request.posting "[null,2]")]
    let history := (today, three) :: others
    (service.serve today three).reply.Refuses ∧
      ((history.zip (service.replies history)).filter fun x => !x.1.2.exceeds 2).map (·.2) =
        free.replies others := by
  intro today key service free three others history
  obtain ⟨refused, _, filtered⟩ := limit_only_filters 7 key key 2 history
  have posted : Request.posted? three = some ⟨none, 3, "Farenheit"⟩ := by cbv
  have within : (history.filter fun call => !call.2.exceeds 2) = others := by cbv
  rw [within] at filtered
  exact ⟨(refused [] today three _ posted).1.2 (by decide), filtered⟩

end Service

end Almanac
