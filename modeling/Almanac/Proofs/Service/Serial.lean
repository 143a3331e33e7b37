import Almanac.Proofs.Service.Handling
import Almanac.Proofs.Service.Serving
import Mathlib

set_option autoImplicit false

/-!
# Concurrent forecasts are serial

Whatever the order of the actions of all handlers, the answers and the source are those of making
the granted forecasts one after another, in the order of the lock (`run_serializable`). The
invariant says of each handler what its phase stands for; only the holder of the lock generates, and
what its making comes to from the shared source is what it would have come to alone.
-/
namespace Almanac

section Serially

variable {ι σ : Type} [Source σ]

theorem serially_append (s : σ) (before rest : List (Grant ι)) :
    serially s (before ++ rest) =
      ((serially s before).1 ++ (serially (serially s before).2 rest).1,
        (serially (serially s before).2 rest).2) := by
  induction before generalizing s with
  | nil => rfl
  | cons g before ih => simp only [List.cons_append, serially, ih]

omit [Source σ] in
theorem drawsOf_append (xs ys : List (ι × Forecast.Outcome σ)) :
    drawsOf (xs ++ ys) = drawsOf xs ++ drawsOf ys :=
  List.flatMap_append

theorem mem_drawsOf_serially {s : σ} {granted : List (Grant ι)} {d : ι × Draw}
    (h : d ∈ drawsOf (serially s granted).1) : d.1 ∈ granted.map (·.handler) := by
  induction granted generalizing s with
  | nil => cases h
  | cons g rest ih =>
    change d ∈ List.map _ _ ++ drawsOf (serially _ rest).1 at h
    rcases List.mem_append.1 h with first | later
    · obtain ⟨draw, _, eq⟩ := List.mem_map.1 first
      rw [← eq]
      exact List.mem_cons_self
    · exact List.mem_cons_of_mem _ (ih later)

end Serially

namespace Handling

variable {ι σ : Type} [Source σ]

def Admitted (limit : Option UInt32) (call : Http.Request) (request : Request) : Prop :=
  Request.bind call = .ok request ∧ TooManyDays.check? limit request = none

/-- An answer is that of the request served in its turn, or, for a handler that never got the lock,
that of a request which is not granted. -/
def Answers (limit : Option UInt32) (calls : ι → Http.Request) (source : σ)
    (granted : List (Grant ι)) (i : ι) (reply : Reply) : Prop :=
  (∃ outcome, (i, outcome) ∈ (serially source granted).1 ∧ reply = .ofResult outcome.result) ∨
    i ∉ granted.map (·.handler) ∧ ∃ response,
      (Admission.weather limit (calls i)).1 = .answered response ∧ reply = .direct response

/-- The holder of the lock generates the forecast last granted, after the others. -/
def Generates (source : σ) (st : Handling ι σ) (i : ι) (m : Forecast.Making) : Prop :=
  st.holder = some i ∧
    ∃ before g, st.granted = before ++ [g] ∧ g.handler = i ∧ m.request = g.request ∧
      m.resume st.source =
        (Forecast.Making.start g.request g.today).resume (serially source before).2 ∧
      st.trace = drawsOf (serially source before).1 ++ m.draws.toList.map (i, ·)

/-- What the phase of a handler stands for, after some actions. -/
def Sound (limit : Option UInt32) (calls : ι → Http.Request) (source : σ)
    (actions : List (Action ι)) (st : Handling ι σ) (i : ι) : Phase → Prop
  | .receiving | .dropped => i ∉ st.granted.map (·.handler)
  | .bound request => i ∉ st.granted.map (·.handler) ∧ Request.bind (calls i) = .ok request
  | .allowed request => i ∉ st.granted.map (·.handler) ∧ Admitted limit (calls i) request
  | .waiting request today =>
    i ∉ st.granted.map (·.handler) ∧ Admitted limit (calls i) request ∧
      .readDate i today ∈ actions
  | .generating m => Generates source st i m
  | .answered reply => Answers limit calls source st.granted i reply

structure Invariant (limit : Option UInt32) (calls : ι → Http.Request) (source : σ)
    (actions : List (Action ι)) (st : Handling ι σ) : Prop where
  order : st.granted.map (·.handler) = actions.filterMap Action.acquires?
  once : (st.granted.map (·.handler)).Nodup
  admitted : ∀ g ∈ st.granted, Admitted limit (calls g.handler) g.request ∧
    .readDate g.handler g.today ∈ actions
  sound : ∀ i, Sound limit calls source actions st i (st.phase i)
  holding : ∀ i, st.holder = some i → ∃ m, st.phase i = .generating m
  idle : st.holder = none → st.source = (serially source st.granted).2 ∧
    st.trace = drawsOf (serially source st.granted).1
  replays : Source.Replays source (st.trace.map (·.2)) st.source

variable {limit : Option UInt32} {calls : ι → Http.Request} {source : σ}
  {actions : List (Action ι)} {st : Handling ι σ}

theorem start_invariant : Invariant limit calls source [] (start source : Handling ι σ) where
  order := rfl
  once := List.nodup_nil
  admitted g h := by cases h
  sound i := by
    change i ∉ []
    exact List.not_mem_nil
  holding i h := by cases h
  idle _ := ⟨rfl, rfl⟩
  replays := .nil source

/-- Later actions leave what a phase stands for, as long as what it speaks of is the same. -/
theorem Sound.mono {st' : Handling ι σ} {a : Action ι} {i : ι} {phase : Phase}
    (h : Sound limit calls source actions st i phase) (granted : st'.granted = st.granted)
    (shared : ∀ m, phase = .generating m → Generates source st i m → Generates source st' i m) :
    Sound limit calls source (actions ++ [a]) st' i phase := by
  cases phase with
  | generating m => exact shared m rfl h
  | waiting request today =>
    obtain ⟨free, admitted, read⟩ := h
    exact ⟨granted ▸ free, admitted, List.mem_append_left _ read⟩
  | receiving | dropped | bound _ | allowed _ | answered _ =>
    simp only [Sound, granted] at h ⊢
    exact h

omit [Source σ] in
theorem not_mem_handlers_append {granted : List (Grant ι)} {g : Grant ι} {i : ι}
    (free : i ∉ granted.map (·.handler)) (other : g.handler ≠ i) :
    i ∉ (granted ++ [g]).map (·.handler) := by
  rw [List.map_append, List.mem_append]
  rintro (old | new)
  · exact free old
  · exact other (List.mem_singleton.1 new).symm

theorem Answers.append {granted : List (Grant ι)} {g : Grant ι} {i : ι} {reply : Reply}
    (h : Answers limit calls source granted i reply) (other : g.handler ≠ i) :
    Answers limit calls source (granted ++ [g]) i reply := by
  rcases h with ⟨outcome, made, eq⟩ | ⟨free, refused⟩
  · refine .inl ⟨outcome, ?_, eq⟩
    rw [serially_append]
    exact List.mem_append_left _ made
  · exact .inr ⟨not_mem_handlers_append free other, refused⟩

theorem Sound.append {st' : Handling ι σ} {a : Action ι} {g : Grant ι} {i : ι} {phase : Phase}
    (h : Sound limit calls source actions st i phase) (granted : st'.granted = st.granted ++ [g])
    (other : g.handler ≠ i) (quiet : ∀ m, phase ≠ .generating m) :
    Sound limit calls source (actions ++ [a]) st' i phase := by
  have free : i ∉ st.granted.map (·.handler) → i ∉ st'.granted.map (·.handler) := by
    intro old
    rw [granted]
    exact not_mem_handlers_append old other
  cases phase with
  | generating m => exact absurd rfl (quiet m)
  | waiting request today =>
    obtain ⟨old, admitted, read⟩ := h
    exact ⟨free old, admitted, List.mem_append_left _ read⟩
  | receiving | dropped => exact free h
  | bound _ | allowed _ => exact ⟨free h.1, h.2⟩
  | answered reply =>
    have answers := Answers.append (g := g) h other
    rw [← granted] at answers
    exact answers

/-- What an action of a handler that gets no lock has to keep. -/
theorem Invariant.frame (h : Invariant limit calls source actions st) {st' : Handling ι σ}
    {a : Action ι} {i : ι} (quiet : a.acquires? = none) (granted : st'.granted = st.granted)
    (others : ∀ j, j ≠ i → st'.phase j = st.phase j ∧
      ∀ m, Generates source st j m → Generates source st' j m)
    (sound : Sound limit calls source (actions ++ [a]) st' i (st'.phase i))
    (holding : ∀ j, st'.holder = some j → ∃ m, st'.phase j = .generating m)
    (idle : st'.holder = none → st'.source = (serially source st.granted).2 ∧
      st'.trace = drawsOf (serially source st.granted).1)
    (replays : Source.Replays source (st'.trace.map (·.2)) st'.source) :
    Invariant limit calls source (actions ++ [a]) st' where
  order := by
    rw [granted, List.filterMap_append, List.filterMap_cons, quiet]
    exact h.order.trans (List.append_nil _).symm
  once := granted ▸ h.once
  admitted g hg := by
    rw [granted] at hg
    exact ⟨(h.admitted g hg).1, List.mem_append_left _ (h.admitted g hg).2⟩
  sound j := by
    by_cases hj : j = i
    · rw [hj]
      exact sound
    · rw [(others j hj).1]
      exact (h.sound j).mono granted fun m _ => (others j hj).2 m
  holding := holding
  idle := by
    rw [granted]
    exact idle
  replays := replays

theorem Invariant.sound_of (h : Invariant limit calls source actions st) {i : ι} {phase : Phase}
    (eq : st.phase i = phase) : Sound limit calls source actions st i phase := eq ▸ h.sound i

theorem Invariant.generates_eq (h : Invariant limit calls source actions st) {i j : ι}
    {m m' : Forecast.Making} (generating : st.phase i = .generating m)
    (generates : Generates source st j m') : j = i := by
  have held : st.holder = some i := (h.sound_of generating).1
  rw [generates.1] at held
  exact Option.some.inj held

theorem Invariant.drawn (h : Invariant limit calls source actions st) {d : ι × Draw}
    (mem : d ∈ st.trace) : d.1 ∈ st.granted.map (·.handler) := by
  cases holder : st.holder with
  | none =>
    rw [(h.idle holder).2] at mem
    exact mem_drawsOf_serially mem
  | some i =>
    obtain ⟨m, generating⟩ := h.holding i holder
    obtain ⟨_, before, g, granted, handler, _, _, traced⟩ := h.sound_of generating
    rw [traced] at mem
    rw [granted, List.map_append, List.mem_append]
    rcases List.mem_append.1 mem with earlier | now
    · exact .inl (mem_drawsOf_serially earlier)
    · obtain ⟨draw, _, eq⟩ := List.mem_map.1 now
      rw [← eq]
      exact .inr (List.mem_singleton.2 handler.symm)

variable [DecidableEq ι]

theorem Invariant.enter (h : Invariant limit calls source actions st) {a : Action ι} {i : ι}
    {phase : Phase} (quiet : a.acquires? = none) (before : ∀ m, st.phase i ≠ .generating m)
    (sound : Sound limit calls source (actions ++ [a]) st i phase) :
    Invariant limit calls source (actions ++ [a]) (st.enter i phase) := by
  refine h.frame (i := i) quiet rfl ?_ ?_ ?_ h.idle h.replays
  · intro j hj
    exact ⟨enter_phase_of_ne hj, fun m generates => generates⟩
  · rw [enter_phase_self]
    exact sound
  · intro j held
    obtain ⟨m, generating⟩ := h.holding j held
    have hj : j ≠ i := by
      intro eq
      subst eq
      exact before m generating
    exact ⟨m, (enter_phase_of_ne hj).trans generating⟩

theorem Invariant.acquire (h : Invariant limit calls source actions st) {i : ι}
    {request : Request} {today : Date} (waiting : st.phase i = .waiting request today)
    (open' : st.holder = none) :
    Invariant limit calls source (actions ++ [.acquire i])
      { st.enter i (.generating (.start request today)) with
        holder := some i, granted := st.granted ++ [⟨i, request, today⟩] } := by
  obtain ⟨free, admitted, read⟩ := h.sound_of waiting
  obtain ⟨current, traced⟩ := h.idle open'
  refine ⟨?_, ?_, ?_, ?_, ?_, ?_, h.replays⟩
  · rw [List.map_append, List.filterMap_append, h.order]
    rfl
  · rw [List.map_append]
    refine List.Nodup.append h.once (List.nodup_singleton i) ?_
    intro j old new
    rw [List.mem_singleton.1 new] at old
    exact free old
  · intro g hg
    rcases List.mem_append.1 hg with old | new
    · exact ⟨(h.admitted g old).1, List.mem_append_left _ (h.admitted g old).2⟩
    · rw [List.mem_singleton.1 new]
      exact ⟨admitted, List.mem_append_left _ read⟩
  · intro j
    by_cases hj : j = i
    · subst hj
      change Sound _ _ _ _ _ j ((st.enter j (.generating (.start request today))).phase j)
      rw [enter_phase_self]
      refine ⟨rfl, st.granted, ⟨j, request, today⟩, rfl, rfl, rfl, ?_, ?_⟩
      · exact congrArg _ current
      · exact traced.trans (List.append_nil _).symm
    · change Sound _ _ _ _ _ j ((st.enter i (.generating (.start request today))).phase j)
      rw [enter_phase_of_ne hj]
      refine (h.sound j).append rfl (Ne.symm hj) ?_
      intro m generating
      have held : st.holder = some j := (h.sound_of generating).1
      rw [open'] at held
      cases held
  · intro j held
    cases held
    exact ⟨_, enter_phase_self⟩
  · intro none
    cases none

theorem Invariant.proceed (h : Invariant limit calls source actions st) {i : ι}
    {m m' : Forecast.Making} (generating : st.phase i = .generating m) {s : σ}
    {trace : List (ι × Draw)}
    (next : Generates source { st.enter i (.generating m') with source := s, trace } i m')
    (replays : Source.Replays source (trace.map (·.2)) s) :
    Invariant limit calls source (actions ++ [.draw i])
      { st.enter i (.generating m') with source := s, trace } := by
  have held : st.holder = some i := (h.sound_of generating).1
  refine h.frame (i := i) rfl rfl ?_ ?_ ?_ ?_ replays
  · intro j hj
    exact ⟨enter_phase_of_ne hj,
      fun _ generates => absurd (h.generates_eq generating generates) hj⟩
  · change Sound _ _ _ _ _ i ((st.enter i (.generating m')).phase i)
    rw [enter_phase_self]
    exact next
  · intro j now
    change st.holder = some j at now
    rw [held] at now
    cases now
    exact ⟨m', enter_phase_self⟩
  · intro none
    change st.holder = _ at none
    rw [held] at none
    cases none

theorem Invariant.drawFor (h : Invariant limit calls source actions st) {i : ι}
    {m : Forecast.Making} (generating : st.phase i = .generating m) {st' : Handling ι σ}
    (drawn : st.drawFor i m = some st') :
    Invariant limit calls source (actions ++ [.draw i]) st' := by
  obtain ⟨held, before, g, granted, handler, same, resumes, traced⟩ := h.sound_of generating
  unfold Handling.drawFor at drawn
  cases wants : m.wants with
  | none =>
    simp only [wants] at drawn
    cases drawn
  | some bounds =>
    obtain ⟨low, high⟩ := bounds
    cases answer : Source.draw st.source low high with
    | error e =>
      simp only [wants, answer, Option.some.injEq] at drawn
      subst drawn
      refine h.proceed generating ⟨held, before, g, granted, handler, same, ?_, traced⟩ h.replays
      exact (Forecast.Making.resume_stop wants answer).trans resumes
    | ok result =>
      obtain ⟨v, s'⟩ := result
      simp only [wants, answer, Option.some.injEq] at drawn
      subst drawn
      refine h.proceed generating ⟨held, before, g, granted, handler, ?_, ?_, ?_⟩ ?_
      · exact (Forecast.Making.take_request m v).trans same
      · exact (Forecast.Making.resume_take wants answer).trans resumes
      · change st.trace ++ [(i, ⟨low, high, v⟩)] = _
        rw [traced, Forecast.Making.take_draws wants, Array.toList_push, List.map_append,
          List.append_assoc]
        rfl
      · have replays : Source.Replays source (st.trace.map (·.2) ++ [⟨low, high, v⟩]) s' :=
          h.replays.snoc answer
        simpa only [List.map_append, List.map_cons, List.map_nil] using replays

theorem Invariant.release (h : Invariant limit calls source actions st) {i : ι}
    {m : Forecast.Making} (generating : st.phase i = .generating m) (done : m.wants = none) :
    Invariant limit calls source (actions ++ [.release i])
      { st.enter i (.answered (.ofResult (m.outcome st.source).result)) with holder := none } := by
  obtain ⟨held, before, g, granted, handler, same, resumes, traced⟩ := h.sound_of generating
  have outcome : m.outcome st.source =
      Forecast.generate g.request g.today (serially source before).2 :=
    Forecast.Making.outcome_eq_generate done same resumes
  -- with the last forecast done, the source is that of the serial run of all grants
  have made : serially source st.granted =
      ((serially source before).1 ++ [(i, m.outcome st.source)], st.source) := by
    have last : serially (serially source before).2 [g] =
        ([(g.handler, m.outcome st.source)], (m.outcome st.source).source) := by
      rw [outcome]
      rfl
    rw [granted, serially_append, last, handler]
    rfl
  refine h.frame (i := i) rfl rfl ?_ ?_ ?_ ?_ h.replays
  · intro j hj
    exact ⟨enter_phase_of_ne hj,
      fun m' generates => absurd (h.generates_eq generating generates) hj⟩
  · change Sound _ _ _ _ _ i ((st.enter i (.answered _)).phase i)
    rw [enter_phase_self]
    refine .inl ⟨m.outcome st.source, ?_, rfl⟩
    change (i, m.outcome st.source) ∈ (serially source st.granted).1
    rw [made]
    exact List.mem_append_right _ (List.mem_singleton.2 rfl)
  · intro j none
    cases none
  · intro _
    rw [made]
    refine ⟨rfl, ?_⟩
    rw [drawsOf_append]
    exact traced.trans (congrArg _ (List.append_nil _).symm)

theorem Invariant.bind (h : Invariant limit calls source actions st) {i : ι}
    (receiving : st.phase i = .receiving) :
    Invariant limit calls source (actions ++ [.bind i]) (st.enter i (.ofBody (calls i))) := by
  have free : i ∉ st.granted.map (·.handler) := h.sound_of receiving
  apply h.enter rfl (by rw [receiving]; intro m; exact Phase.noConfusion)
  unfold Phase.ofBody
  cases bound : Request.bind (calls i) with
  | error e =>
    refine .inr ⟨free, e.response.withLength, ?_, rfl⟩
    simp only [Admission.weather, bound]
  | ok request => exact ⟨free, bound⟩

theorem Invariant.check (h : Invariant limit calls source actions st) {i : ι} {request : Request}
    (arrived : st.phase i = .bound request) :
    Invariant limit calls source (actions ++ [.check i])
      (st.enter i (.ofLimit limit request)) := by
  obtain ⟨free, bound⟩ := h.sound_of arrived
  apply h.enter rfl (by rw [arrived]; intro m; exact Phase.noConfusion)
  unfold Phase.ofLimit
  cases limited : TooManyDays.check? limit request with
  | some refusal =>
    refine .inr ⟨free, refusal.response.withLength, ?_, rfl⟩
    simp only [Admission.weather, bound, limited]
  | none => exact ⟨free, bound, limited⟩

theorem Invariant.readDate (h : Invariant limit calls source actions st) {i : ι}
    {request : Request} (today : Date) (allowed : st.phase i = .allowed request) :
    Invariant limit calls source (actions ++ [.readDate i today])
      (st.enter i (.waiting request today)) := by
  obtain ⟨free, admitted⟩ := h.sound_of allowed
  apply h.enter rfl (by rw [allowed]; intro m; exact Phase.noConfusion)
  exact ⟨free, admitted, List.mem_append_right _ (List.mem_singleton.2 rfl)⟩

theorem Invariant.drop (h : Invariant limit calls source actions st) {i : ι}
    (pending : (st.phase i).isPending) :
    Invariant limit calls source (actions ++ [.drop i]) (st.enter i .dropped) := by
  have free : i ∉ st.granted.map (·.handler) := by
    cases hp : st.phase i with
    | receiving => exact h.sound_of hp
    | bound request => exact (h.sound_of hp).1
    | allowed request => exact (h.sound_of hp).1
    | waiting request today => exact (h.sound_of hp).1
    | generating _ | answered _ | dropped =>
      rw [hp] at pending
      cases pending
  refine h.enter rfl ?_ free
  intro m generating
  rw [generating] at pending
  cases pending

/-- Every action keeps the invariant. -/
theorem Invariant.step (h : Invariant limit calls source actions st) {a : Action ι}
    {st' : Handling ι σ} (taken : st.step limit calls a = some st') :
    Invariant limit calls source (actions ++ [a]) st' := by
  cases a with
  | bind i =>
    simp only [Handling.step] at taken
    split at taken
    · cases taken
      exact h.bind ‹_›
    · cases taken
  | check i =>
    simp only [Handling.step] at taken
    split at taken
    · cases taken
      exact h.check ‹_›
    · cases taken
  | readDate i today =>
    simp only [Handling.step] at taken
    split at taken
    · cases taken
      exact h.readDate today ‹_›
    · cases taken
  | acquire i =>
    simp only [Handling.step] at taken
    split at taken
    · cases taken
      exact h.acquire ‹_› ‹_›
    · cases taken
  | draw i =>
    simp only [Handling.step] at taken
    split at taken
    · exact h.drawFor ‹_› taken
    · cases taken
  | release i =>
    simp only [Handling.step] at taken
    split at taken
    · split at taken
      · cases taken
        exact h.release ‹_› (Option.isNone_iff_eq_none.1 ‹_›)
      · cases taken
    · cases taken
  | drop i =>
    simp only [Handling.step] at taken
    split at taken
    · cases taken
      exact h.drop ‹_›
    · cases taken

theorem Invariant.run (h : Invariant limit calls source actions st) {more : List (Action ι)}
    {st' : Handling ι σ} (taken : st.run limit calls more = some st') :
    Invariant limit calls source (actions ++ more) st' := by
  induction more generalizing actions st with
  | nil =>
    cases taken
    rw [List.append_nil]
    exact h
  | cons a more ih =>
    obtain ⟨middle, first, rest⟩ : ∃ middle, st.step limit calls a = some middle ∧
        middle.run limit calls more = some st' := by
      unfold Handling.run at taken
      rw [List.foldlM_cons] at taken
      exact Option.bind_eq_some_iff.1 taken
    have run := ih (h.step first) rest
    rw [List.append_assoc] at run
    exact run

/-- Whatever the order of their actions, handlers that share a source behind a lock answer as if the
forecasts were made one after another in the order of the lock, each for the date its handler had
read. The draws of each are one block of the draws that the source answers in a row, and one that is
dropped before it has the lock draws nothing. -/
theorem run_serializable (limit : Option UInt32) (calls : ι → Http.Request) (source : σ)
    (actions : List (Action ι)) (st : Handling ι σ)
    (h : (start source).run limit calls actions = some st) :
    (st.granted.map (·.handler) = actions.filterMap Action.acquires? ∧
      (st.granted.map (·.handler)).Nodup ∧
      ∀ g ∈ st.granted, Admitted limit (calls g.handler) g.request ∧
        .readDate g.handler g.today ∈ actions) ∧
      (∀ i reply, st.phase i = .answered reply → Answers limit calls source st.granted i reply) ∧
      ((∀ i m, st.phase i ≠ .generating m) →
        st.source = (serially source st.granted).2 ∧
          st.trace = drawsOf (serially source st.granted).1) ∧
      (∀ i m, st.phase i = .generating m → ∃ before g,
        st.granted = before ++ [g] ∧ g.handler = i ∧
          st.trace = drawsOf (serially source before).1 ++ m.draws.toList.map (i, ·)) ∧
      Source.Replays source (st.trace.map (·.2)) st.source ∧
      ∀ i, st.phase i = .dropped → i ∉ st.granted.map (·.handler) ∧ ∀ d ∈ st.trace, d.1 ≠ i := by
  have start : Invariant limit calls source [] (start source) := start_invariant
  have invariant : Invariant limit calls source actions st := start.run h
  refine ⟨⟨invariant.order, invariant.once, invariant.admitted⟩, ?_, ?_, ?_, invariant.replays, ?_⟩
  · intro i reply answered
    exact invariant.sound_of answered
  · intro quiet
    apply invariant.idle
    rw [Option.eq_none_iff_forall_not_mem]
    intro i holder
    obtain ⟨m, generating⟩ := invariant.holding i holder
    exact quiet i m generating
  · intro i m generating
    obtain ⟨_, before, g, granted, handler, _, _, traced⟩ := invariant.sound_of generating
    exact ⟨before, g, granted, handler, traced⟩
  · intro i dropped
    have free : i ∉ st.granted.map (·.handler) := invariant.sound_of dropped
    refine ⟨free, ?_⟩
    intro d mem eq
    have drawn := invariant.drawn mem
    rw [eq] at drawn
    exact free drawn

/-- Two forecasts, one of them made while the other handler waits, beside a handler that is
dropped. -/
theorem two_forecasts_serializable :
    let today : Date := ⟨2024, 2, 28, by decide, by decide, by decide, by decide⟩
    let calls : ℕ → Http.Request := fun i =>
      .posting (if i = 1 then "[null,1,\"c\"]" else "[null,1]")
    let source : Script := ⟨[60, 70, 55, 65]⟩
    let actions : List (Action ℕ) := [.bind 0, .bind 1, .check 1, .readDate 1 today, .check 0,
      .drop 2, .acquire 1, .draw 1, .readDate 0 today, .draw 1, .release 1, .acquire 0, .draw 0,
      .draw 0, .release 0]
    ∃ st, (start source).run (some 8) calls actions = some st ∧
      st.granted.map (·.handler) = [1, 0] ∧
      ∀ i reply, st.phase i = .answered reply →
        Answers (some 8) calls source st.granted i reply := by
  intro today calls source actions
  have plain : Phase.ofBody (calls 0) = .bound ⟨none, 1, "Farenheit"⟩ := by cbv
  have celsius : Phase.ofBody (calls 1) = .bound ⟨none, 1, "c"⟩ := by cbv
  have allowed (units : String) :
      Phase.ofLimit (some 8) ⟨none, 1, units⟩ = .allowed ⟨none, 1, units⟩ := rfl
  have started (units : String) : Forecast.Making.start ⟨none, 1, units⟩ today =
      ⟨⟨none, 1, units⟩, .days [today], #[], #[]⟩ := by
    unfold Forecast.Making.start
    have same : today.addDays? 0 = some today := by cbv
    have one_day : Forecast.dates today 1 0 = [today] := by
      rw [Forecast.dates_succ, same]
      rfl
    exact congrArg (fun dates => Forecast.Making.mk _ (.days dates) #[] #[]) one_day
  have runs : ((start source).run (some 8) calls actions).isSome = true := by
    simp only [run, List.foldlM_cons, List.foldlM_nil, Option.bind_eq_bind, Option.bind_some,
      Option.pure_def, Option.isSome_some, actions, start, source, step, enter, drawFor, plain,
      celsius, allowed, started, Phase.isPending, Forecast.Making.wants, Forecast.Making.take,
      Source.draw, Script.draw, Forecast.sum?, Forecast.minLow, Forecast.spreadLow,
      Forecast.spreadHigh, Function.update_of_ne, Function.update_self, Option.isNone_iff_eq_none,
      List.nil_append, List.cons_append, List.push_toArray, ne_eq, not_false_eq_true, and_self,
      reduceCtorEq, ite_true, Nat.zero_ne_one, Nat.succ_ne_self, Nat.reduceEqDiff, Int.reducePow,
      Int.reduceNeg, Int.reduceAdd, Int.reduceLT, Int.neg_ofNat_le_ofNat,
      Int32.reduceToInt, Int32.reduceOfInt, Int32.reduceAdd, Int32.ofInt_add, Int32.ofInt_toInt]
  obtain ⟨st, taken⟩ := Option.isSome_iff_exists.1 runs
  have serializable := run_serializable (some 8) calls source actions st taken
  exact ⟨st, taken, serializable.1.1, serializable.2.1⟩

end Handling

end Almanac
