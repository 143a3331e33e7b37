import Almanac.Proofs.Forecast.Course
import Mathlib.Data.List.Forall2

set_option autoImplicit false

namespace Almanac

def Draw.InRange (d : Draw) : Prop := d.low ≤ d.value ∧ d.value ≤ d.high

/-- Whether the bounds of an entry come from two integers of the fixed ranges, both as they are or
both converted. -/
def DayForecast.Drawn (celsius : Bool) (d : DayForecast) : Prop :=
  ∃ a b : Int, 50 ≤ a ∧ a ≤ 89 ∧ 5 ≤ b - a ∧ b - a ≤ 19 ∧
    if celsius then d.min = toCelsius (.ofInt a) ∧ d.max = toCelsius (.ofInt b)
    else d.min = .ofInt a ∧ d.max = .ofInt b

namespace Forecast

variable {σ : Type} [Source σ]

def Behind (draws : List Draw) (min max : Int32) : Prop :=
  ∃ low high, sum? min spreadLow = some low ∧ sum? min spreadHigh = some high ∧
    ⟨minLow, minHigh, min⟩ ∈ draws ∧ ⟨low, high, max⟩ ∈ draws

def Beyond (draws : List Draw) (min : Int32) : Prop :=
  (sum? min spreadLow = none ∨ sum? min spreadHigh = none) ∧ ⟨minLow, minHigh, min⟩ ∈ draws

theorem drawDay_backed (s : σ) :
    match (drawDay s).bounds with
    | .ok bounds => Behind (drawDay s).draws bounds.1 bounds.2
    | .error .overflow => ∃ min, Beyond (drawDay s).draws min
    | .error (.draw _) => True := by
  have run := drawDay_run s
  generalize drawDay s = d at run ⊢
  cases run with
  | unanswered first => trivial
  | overflow first sums => exact ⟨_, sums, by simp⟩
  | half first hlow hhigh second => trivial
  | finished first hlow hhigh second => exact ⟨_, _, hlow, hhigh, by simp, by simp⟩

/-- Whether all that has come of a run so far has its draws. -/
structure Backed (units : String) (celsius : Bool) (p : Progress σ) : Prop where
  entries : ∀ d ∈ p.days.toList, ∃ date bounds,
    Behind p.draws.toList bounds.1 bounds.2 ∧ d = entry units celsius date bounds
  overflow : p.error = some .overflow → ∃ min, Beyond p.draws.toList min

theorem Behind.append {draws : List Draw} {min max : Int32} (h : Behind draws min max)
    (before after : List Draw) : Behind (before ++ draws ++ after) min max := by
  obtain ⟨low, high, hlow, hhigh, first, second⟩ := h
  exact ⟨low, high, hlow, hhigh, by simp [first], by simp [second]⟩

theorem Backed.make {units : String} {celsius : Bool} {p : Progress σ}
    (h : Backed units celsius p) (date : Date) :
    Backed units celsius (Progress.make units celsius p date) := by
  by_cases running : p.error = none
  · rw [Progress.make_eq_record running]
    have backed := drawDay_backed p.source
    have draws : (p.record units celsius date (drawDay p.source)).draws.toList =
        p.draws.toList ++ (drawDay p.source).draws := by simp [Progress.record]
    constructor
    · intro d mem
      rw [draws]
      cases made : (drawDay p.source).bounds with
      | error e =>
        simp only [Progress.record, made] at mem
        obtain ⟨date, bounds, behind, rfl⟩ := h.entries d mem
        exact ⟨date, bounds, behind.append [] _, rfl⟩
      | ok bounds =>
        simp only [Progress.record, made, Array.toList_push, List.mem_append,
          List.mem_singleton] at mem
        rcases mem with old | rfl
        · obtain ⟨date, bounds, behind, rfl⟩ := h.entries d old
          exact ⟨date, bounds, behind.append [] _, rfl⟩
        · rw [made] at backed
          have behind := Behind.append backed p.draws.toList []
          rw [List.append_nil] at behind
          exact ⟨date, bounds, behind, rfl⟩
    · intro overflow
      rw [draws]
      cases made : (drawDay p.source).bounds with
      | error e =>
        simp only [Progress.record, made, Option.some.injEq] at overflow
        subst overflow
        rw [made] at backed
        obtain ⟨min, beyond, mem⟩ := backed
        exact ⟨min, beyond, by simp [mem]⟩
      | ok bounds =>
        simp only [Progress.record, made, running] at overflow
        cases overflow
  · rw [Progress.make, if_pos (Option.isSome_iff_ne_none.2 running)]
    exact h

theorem backed_foldl {units : String} {celsius : Bool} (dates : List Date) {p : Progress σ}
    (h : Backed units celsius p) :
    Backed units celsius (dates.foldl (Progress.make units celsius) p) := by
  induction dates generalizing p with
  | nil => exact h
  | cons date dates ih => exact ih (h.make date)

theorem backed_run (request : Request) (today : Date) (s : σ) :
    Backed request.units (namesCelsius request.units)
      (Progress.run request.units (namesCelsius request.units) today request.days.toInt.toNat 0
        ⟨s, #[], #[], none⟩) := by
  rw [run_eq_foldl]
  apply backed_foldl
  constructor
  · intro d mem
    cases mem
  · intro overflow
    cases overflow

/-- A forecast that is made repeats its request, and each of its entries is made of two draws. -/
theorem generate_entries {request : Request} {today : Date} {s : σ} {f : Forecast}
    (made : (generate request today s).result = .ok f) :
    f.location = request.location ∧ f.units = request.units ∧
      ∀ d ∈ f.days, ∃ date bounds,
        Behind (generate request today s).draws bounds.1 bounds.2 ∧
          d = entry request.units (namesCelsius request.units) date bounds := by
  have backed := backed_run request today s
  unfold generate at made ⊢
  simp only at made ⊢
  split at made
  · cases made
  · cases made
    exact ⟨rfl, rfl, backed.entries⟩

theorem generate_overflow {request : Request} {today : Date} {s : σ}
    (stopped : (generate request today s).result = .error .overflow) :
    ∃ min, Beyond (generate request today s).draws min := by
  have backed := backed_run request today s
  unfold generate at stopped ⊢
  simp only at stopped ⊢
  split at stopped
  · rename_i overflow
    cases stopped
    exact backed.overflow overflow
  · cases stopped

theorem Behind.bounds {draws : List Draw} {min max : Int32} (h : Behind draws min max)
    (inRange : ∀ d ∈ draws, d.InRange) :
    50 ≤ min.toInt ∧ min.toInt ≤ 89 ∧ 5 ≤ max.toInt - min.toInt ∧ max.toInt - min.toInt ≤ 19 := by
  obtain ⟨low, high, hlow, hhigh, first, second⟩ := h
  have five : spreadLow.toInt = 5 := by decide
  have nineteen : spreadHigh.toInt = 19 := by decide
  have elow := sum?_eq_some_iff.1 hlow
  have ehigh := sum?_eq_some_iff.1 hhigh
  obtain ⟨above, below⟩ := inRange _ first
  obtain ⟨above', below'⟩ := inRange _ second
  have lower : 50 ≤ min.toInt := Int32.le_iff_toInt_le.1 above
  have upper : min.toInt ≤ 89 := Int32.le_iff_toInt_le.1 below
  have lower' : low.toInt ≤ max.toInt := Int32.le_iff_toInt_le.1 above'
  have upper' : max.toInt ≤ high.toInt := Int32.le_iff_toInt_le.1 below'
  omega

theorem Beyond.not_inRange {draws : List Draw} {min : Int32} (h : Beyond draws min) :
    ¬ ∀ d ∈ draws, d.InRange := by
  intro inRange
  obtain ⟨beyond, mem⟩ := h
  obtain ⟨above, below⟩ := inRange _ mem
  obtain ⟨low, high, hlow, hhigh, _⟩ := spread below
  rcases beyond with none | none
  · rw [hlow] at none
    cases none
  · rw [hhigh] at none
    cases none

theorem entry_drawn {units : String} {celsius : Bool} {date : Date} {bounds : Int32 × Int32}
    (lower : 50 ≤ bounds.1.toInt) (upper : bounds.1.toInt ≤ 89)
    (least : 5 ≤ bounds.2.toInt - bounds.1.toInt) (most : bounds.2.toInt - bounds.1.toInt ≤ 19) :
    (entry units celsius date bounds).Drawn celsius := by
  refine ⟨bounds.1.toInt, bounds.2.toInt, lower, upper, least, most, ?_⟩
  cases celsius <;> simp [entry, temperature]

/-- If all draws lie in their ranges there is no overflow, and the entries are in theirs. -/
theorem generate_drawn (request : Request) (today : Date) (s : σ)
    (inRange : ∀ d ∈ (generate request today s).draws, d.InRange) :
    (generate request today s).result ≠ .error .overflow ∧
      ∀ f, (generate request today s).result = .ok f →
        f.location = request.location ∧ f.units = request.units ∧
          ∀ d ∈ f.days, d.Drawn (namesCelsius request.units) := by
  refine ⟨?_, ?_⟩
  · intro overflow
    obtain ⟨min, beyond⟩ := generate_overflow overflow
    exact beyond.not_inRange inRange
  · intro f made
    obtain ⟨location, units, entries⟩ := generate_entries made
    refine ⟨location, units, ?_⟩
    intro d mem
    obtain ⟨date, bounds, behind, rfl⟩ := entries d mem
    obtain ⟨lower, upper, least, most⟩ := behind.bounds inRange
    exact entry_drawn lower upper least most

section Ranged

variable [Source.Ranged σ]

theorem generate_ranged_drawn (request : Request) (today : Date) (s : σ) :
    ∃ f, (generate request today s).result = .ok f ∧ f.units = request.units ∧
      ∀ d ∈ f.days, d.Drawn (namesCelsius request.units) := by
  refine ⟨_, generate_result request today s, rfl, ?_⟩
  intro d mem
  obtain ⟨i, found⟩ := List.mem_iff_getElem?.1 mem
  obtain ⟨date, bounds, _, drawn, rfl⟩ := List.getElem?_zipWith_eq_some.1 found
  obtain ⟨lower, upper, least, most⟩ := (course_ranged _ s).2 bounds (List.mem_of_getElem? drawn)
  exact entry_drawn lower upper (by omega) (by omega)

end Ranged

end Forecast

namespace Session

inductive Step where
  | draw (low high : Int32) (times : Nat)
  | forecast (today : Date) (request : Request)

inductive Answer where
  | values (result : Except DrawError (List Int32))
  | forecast (result : Except ForecastError Forecast)

variable {σ : Type} [Source σ]

def Step.run (s : σ) : Step → Answer × σ
  | draw low high times =>
    let (result, s) := Source.drawMany low high times [] s
    (.values result, s)
  | forecast today request =>
    let outcome := Forecast.generate request today s
    (.forecast outcome.result, outcome.source)

def answers : List Step → σ → List Answer
  | [], _ => []
  | step :: steps, s => (step.run s).1 :: answers steps (step.run s).2

/-- Whether a forecast that is asked for is made, with the entries that its request is due. -/
def Step.Made (step : Step) (answer : Answer) : Prop :=
  ∀ today request, step = .forecast today request →
    ∃ f, answer = .forecast (.ok f) ∧ ∀ d ∈ f.days, d.Drawn (namesCelsius request.units)

variable [Source.Ranged σ]

theorem Step.run_made (step : Step) (s : σ) : step.Made (step.run s).1 := by
  intro today request eq
  subst eq
  obtain ⟨f, made, _, entries⟩ := Forecast.generate_ranged_drawn request today s
  exact ⟨f, congrArg Answer.forecast made, entries⟩

theorem answers_drawn (steps : List Step) (s : σ) :
    List.Forall₂ Step.Made steps (answers steps s) := by
  induction steps generalizing s with
  | nil => exact .nil
  | cons step steps ih => exact .cons (step.run_made s) (ih (step.run s).2)

end Session

end Almanac
