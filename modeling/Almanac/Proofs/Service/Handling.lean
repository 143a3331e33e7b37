import Almanac.Proofs.Draw.Ranged
import Almanac.Proofs.Forecast.Stepwise
import Almanac.Service.Basic
import Mathlib.Logic.Function.Basic

set_option autoImplicit false

namespace Almanac

inductive Phase where
  | receiving
  | bound (request : Request)
  | allowed (request : Request)
  | waiting (request : Request) (today : Date)
  | generating (making : Forecast.Making)
  | answered (reply : Reply)
  | dropped

namespace Phase

def ofBody (call : Http.Request) : Phase :=
  match Request.bind call with
  | .error e => answered (.direct e.response.withLength)
  | .ok request => bound request

def ofLimit (limit : Option UInt32) (request : Request) : Phase :=
  match TooManyDays.check? limit request with
  | some refusal => answered (.direct refusal.response.withLength)
  | none => allowed request

/-- Whether a handler is neither done nor has ever held the lock, so that it may be dropped. -/
def isPending : Phase → Bool
  | receiving | bound _ | allowed _ | waiting .. => true
  | generating _ | answered _ | dropped => false

end Phase

structure Grant (ι : Type) where
  handler : ι
  request : Request
  today : Date

inductive Action (ι : Type) where
  | bind (i : ι)
  | check (i : ι)
  | readDate (i : ι) (today : Date)
  | acquire (i : ι)
  | draw (i : ι)
  | release (i : ι)
  | drop (i : ι)
deriving DecidableEq

def Action.acquires? {ι : Type} : Action ι → Option ι
  | acquire i => some i
  | _ => none

/-- The state of all handlers `ι` and of what they share. Who got the lock, and which draws were
made by whom, is kept in order; no action depends on these two. -/
structure Handling (ι σ : Type) where
  source : σ
  holder : Option ι
  phase : ι → Phase
  granted : List (Grant ι)
  trace : List (ι × Draw)

namespace Handling

variable {ι σ : Type} [DecidableEq ι]

def start (source : σ) : Handling ι σ := ⟨source, none, fun _ => .receiving, [], []⟩

def enter (st : Handling ι σ) (i : ι) (phase : Phase) : Handling ι σ :=
  { st with phase := Function.update st.phase i phase }

@[simp]
theorem enter_phase_self {st : Handling ι σ} {i : ι} {phase : Phase} :
    (st.enter i phase).phase i = phase := by
  simp only [enter, Function.update_self]

theorem enter_phase_of_ne {st : Handling ι σ} {i j : ι} {phase : Phase} (h : j ≠ i) :
    (st.enter i phase).phase j = st.phase j := by
  simp only [enter, Function.update_of_ne h]

variable [Source σ]

def drawFor (st : Handling ι σ) (i : ι) (m : Forecast.Making) : Option (Handling ι σ) :=
  match m.wants with
  | none => none
  | some (low, high) =>
    match Source.draw st.source low high with
    | .error e => some (st.enter i (.generating (m.stop e)))
    | .ok (v, source) =>
      some { st.enter i (.generating (m.take v)) with
        source, trace := st.trace ++ [(i, ⟨low, high, v⟩)] }

/-- One action, if the handler is in the phase for it. -/
def step (limit : Option UInt32) (calls : ι → Http.Request) (st : Handling ι σ) :
    Action ι → Option (Handling ι σ)
  | .bind i =>
    match st.phase i with
    | .receiving => some (st.enter i (.ofBody (calls i)))
    | _ => none
  | .check i =>
    match st.phase i with
    | .bound request => some (st.enter i (.ofLimit limit request))
    | _ => none
  | .readDate i today =>
    match st.phase i with
    | .allowed request => some (st.enter i (.waiting request today))
    | _ => none
  | .acquire i =>
    match st.phase i, st.holder with
    | .waiting request today, none =>
      some { st.enter i (.generating (.start request today)) with
        holder := some i, granted := st.granted ++ [⟨i, request, today⟩] }
    | _, _ => none
  | .draw i =>
    match st.phase i with
    | .generating m => st.drawFor i m
    | _ => none
  | .release i =>
    match st.phase i with
    | .generating m =>
      if m.wants.isNone then
        some { st.enter i (.answered (.ofResult (m.outcome st.source).result)) with
          holder := none }
      else none
    | _ => none
  | .drop i => if (st.phase i).isPending then some (st.enter i .dropped) else none

def run (limit : Option UInt32) (calls : ι → Http.Request) (st : Handling ι σ)
    (actions : List (Action ι)) : Option (Handling ι σ) :=
  actions.foldlM (step limit calls) st

end Handling

def serially {ι σ : Type} [Source σ] (s : σ) :
    List (Grant ι) → List (ι × Forecast.Outcome σ) × σ
  | [] => ([], s)
  | g :: rest =>
    let outcome := Forecast.generate g.request g.today s
    ((g.handler, outcome) :: (serially outcome.source rest).1, (serially outcome.source rest).2)

def drawsOf {ι σ : Type} (outcomes : List (ι × Forecast.Outcome σ)) : List (ι × Draw) :=
  outcomes.flatMap fun (i, outcome) => outcome.draws.map (i, ·)

end Almanac
