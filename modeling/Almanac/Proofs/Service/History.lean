import Almanac.Proofs.Forecast.Entries
import Almanac.Proofs.Service.Serving
import Mathlib

set_option autoImplicit false

namespace Almanac

def Reply.isForecast : Reply → Bool
  | .forecast _ => true
  | _ => false

theorem Reply.days_of_not_forecast {reply : Reply} (h : reply.isForecast = false) :
    reply.days = [] := by
  cases reply with
  | forecast f => cases h
  | direct response => rfl
  | failed error => rfl

theorem daysServed_eq_zero {replies : List Reply}
    (h : ∀ reply ∈ replies, reply.isForecast = false) : daysServed replies = 0 := by
  induction replies with
  | nil => rfl
  | cons reply replies ih =>
    have rest := ih fun r hr => h r (List.mem_cons_of_mem _ hr)
    rw [daysServed_cons, Reply.days_of_not_forecast (h reply List.mem_cons_self), rest]
    rfl

namespace Service

variable {σ : Type} [Source σ]

def Grants (service : Service σ) (call : Http.Request) : Prop :=
  ∃ request, (Admission.of service.limit call).1 = .granted request

variable [Source.Ranged σ]

/-- Services with the same source give the same forecast to a request that both grant. -/
theorem serve_eq_of_source {service service' : Service σ} {call : Http.Request} (today : Date)
    (source : service.source = service'.source) (granted : service.Grants call)
    (granted' : service'.Grants call) :
    ∃ f, (service.serve today call).reply = .forecast f ∧
      (service'.serve today call).reply = .forecast f := by
  obtain ⟨request, h⟩ := granted
  obtain ⟨request', h'⟩ := granted'
  have same : request = request' := Admission.granted_unique h h'
  subst same
  obtain ⟨f, made, reply, _⟩ := serve_of_granted_ranged today h
  obtain ⟨f', made', reply', _⟩ := serve_of_granted_ranged today h'
  rw [source, made', Except.ok.injEq] at made
  exact ⟨f, reply, made ▸ reply'⟩

/-- Requests that are not answered with a forecast leave no trace. -/
theorem after_of_no_forecast (service : Service σ) (history : List (Date × Http.Request))
    (h : ∀ reply ∈ service.replies history, reply.isForecast = false) :
    service.after history = service := by
  have source := after_source service history
  rw [daysServed_eq_zero h] at source
  change (service.after history).source = service.source at source
  calc
    service.after history = ⟨(service.after history).source, (service.after history).limit⟩ := rfl
    _ = ⟨service.source, service.limit⟩ := by rw [source, after_limit]
    _ = service := rfl

/-- The days served so far decide the generator, and with it every later forecast; requests that
get no forecast may come and go without a trace in the other answers. -/
theorem same_days_same_future (seed : UInt64) (entropy entropy' : Key)
    (limit limit' : Option UInt32) (history history' : List (Date × Http.Request))
    (h : daysServed ((create (some seed) entropy limit).1.replies history) =
      daysServed ((create (some seed) entropy' limit').1.replies history')) :
    let service := (create (some seed) entropy limit).1
    let service' := (create (some seed) entropy' limit').1
    (service.after history).source = (service'.after history').source ∧
      (∀ today call, (service.after history).Grants call → (service'.after history').Grants call →
        ∃ f, ((service.after history).serve today call).reply = .forecast f ∧
          ((service'.after history').serve today call).reply = .forecast f) ∧
      ∀ before inserted rest, history = before ++ rest →
        (∀ reply ∈ (service.after before).replies inserted, reply.isForecast = false) →
        service.replies history = service.replies before ++ (service.after before).replies rest ∧
          service.replies (before ++ inserted ++ rest) =
            service.replies before ++ (service.after before).replies inserted ++
              (service.after before).replies rest ∧
          service.after (before ++ inserted ++ rest) = service.after history := by
  intro service service'
  have source : (service.after history).source = (service'.after history').source := by
    rw [after_source, after_source, h]
    rfl
  refine ⟨source, ?_, ?_⟩
  · intro today call granted granted'
    exact serve_eq_of_source today source granted granted'
  · intro before inserted rest split silent
    have trace : (service.after before).after inserted = service.after before :=
      after_of_no_forecast _ inserted silent
    refine ⟨?_, ?_, ?_⟩
    · rw [split, replies_append]
    · rw [replies_append, replies_append, after_append, trace]
    · rw [after_append, after_append, trace, split, after_append]

/-- Three days served at once, and three served in parts between requests that fail. -/
theorem three_days_same_future :
    let today : Date := ⟨2024, 2, 28, by decide, by decide, by decide, by decide⟩
    let key : Key := Vector.replicate 8 0
    let service := (create (some 7) key none).1
    let service' := (create (some 7) key (some 5)).1
    let history := [(today, Http.Request.posting "\x7b\"days\":3\x7d")]
    let history' := [(today, ⟨"GET", "/health", [], []⟩),
      (today, Http.Request.posting "\x7b\"days\":1,\"units\":\"c\"\x7d"),
      (today, Http.Request.posting "\x7b\"days\""),
      (today, Http.Request.posting "\x7b\"days\":9\x7d"),
      (today, Http.Request.posting "[null,2]")]
    let next := Http.Request.posting "\x7b\"days\":4\x7d"
    daysServed (service.replies history) = daysServed (service'.replies history') ∧
      (service.after history).source = (service'.after history').source ∧
      ∃ f, ((service.after history).serve today next).reply = .forecast f ∧
        ((service'.after history').serve today next).reply = .forecast f := by
  intro today key service service' history history' next
  have days : daysServed (service.replies history) = daysServed (service'.replies history') := by
    rw [daysServed_replies, daysServed_replies]
    cbv
  have future := same_days_same_future 7 key key none (some 5) history history' days
  have granted : (service.after history).Grants next := by
    refine ⟨⟨none, 4, "Farenheit"⟩, ?_⟩
    rw [after_limit]
    cbv
  have granted' : (service'.after history').Grants next := by
    refine ⟨⟨none, 4, "Farenheit"⟩, ?_⟩
    rw [after_limit]
    cbv
  exact ⟨days, future.1, future.2.1 today next granted granted'⟩

end Service

/-- Whether the answer to a call is no failure and, if it is a forecast, has the entries that the
request in the call is due. -/
def Reply.Made (call : Date × Http.Request) (reply : Reply) : Prop :=
  (∀ e, reply ≠ .failed e) ∧
    ∀ f, reply = .forecast f → ∃ request, Request.bind call.2 = .ok request ∧
      ∀ d ∈ f.days, d.Drawn (namesCelsius request.units)

namespace Service

variable {σ : Type} [Source σ] [Source.Ranged σ]

theorem serve_made (service : Service σ) (call : Date × Http.Request) :
    (service.serve call.1 call.2).reply.Made call := by
  cases admitted : (Admission.of service.limit call.2).1 with
  | answered response =>
    rw [(serve_of_answered call.1 admitted).1]
    exact ⟨nofun, nofun⟩
  | granted request =>
    obtain ⟨f, made, _, entries⟩ := Forecast.generate_ranged_drawn request call.1 service.source
    rw [(serve_of_granted call.1 admitted).1, made]
    refine ⟨nofun, ?_⟩
    intro f' same
    cases same
    exact ⟨request, (Admission.bind_of_granted admitted).1, entries⟩

theorem replies_made (service : Service σ) (history : List (Date × Http.Request)) :
    List.Forall₂ (fun call reply => Reply.Made call reply) history (service.replies history) := by
  induction history generalizing service with
  | nil => exact .nil
  | cons call rest ih =>
    exact .cons (serve_made service call) (ih (service.serve call.1 call.2).service)

/-- Of every seed, limit and run, over HTTP or in a session with draws in between: forecasts never
fail, and each entry comes from a minimum between 50 and 89 and a maximum that is 5 to 19 above it,
both converted if the request names Celsius and both as they are if it does not. -/
theorem temperatures_drawn (seed : UInt64) (entropy : Key) (limit : Option UInt32)
    (history : List (Date × Http.Request)) (steps : List Session.Step) :
    List.Forall₂ (fun call reply => Reply.Made call reply) history
        ((create (some seed) entropy limit).1.replies history) ∧
      List.Forall₂ Session.Step.Made steps (Session.answers steps (Generator.ofSeed seed)) :=
  ⟨replies_made _ history, Session.answers_drawn steps _⟩

end Service

end Almanac
