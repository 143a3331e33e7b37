import Almanac.Forecast.Generation
import Almanac.Proofs.Draw.Ranged
import Mathlib.Logic.Function.Iterate

set_option autoImplicit false

namespace Almanac.Forecast

variable {σ : Type} [Source σ]

/-- What becomes of the two draws of a day: the draws made, the source after them, and the minimum
and the maximum or the error that stopped the day. -/
structure Drawn (σ : Type) where
  draws : List Draw
  source : σ
  bounds : Except ForecastError (Int32 × Int32)

def drawDay (s : σ) : Drawn σ :=
  match Source.draw s minLow minHigh with
  | .error e => ⟨[], s, .error (.draw e)⟩
  | .ok (min, s') =>
    match sum? min spreadLow, sum? min spreadHigh with
    | some low, some high =>
      match Source.draw s' low high with
      | .error e => ⟨[⟨minLow, minHigh, min⟩], s', .error (.draw e)⟩
      | .ok (max, s'') =>
        ⟨[⟨minLow, minHigh, min⟩, ⟨low, high, max⟩], s'', .ok (min, max)⟩
    | _, _ => ⟨[⟨minLow, minHigh, min⟩], s', .error .overflow⟩

/-- The ways that the draws of a day can go. -/
inductive DayRun (s : σ) : Drawn σ → Prop where
  | unanswered {e : DrawError} (first : Source.draw s minLow minHigh = .error e) :
      DayRun s ⟨[], s, .error (.draw e)⟩
  | overflow {min : Int32} {s' : σ} (first : Source.draw s minLow minHigh = .ok (min, s'))
      (sums : sum? min spreadLow = none ∨ sum? min spreadHigh = none) :
      DayRun s ⟨[⟨minLow, minHigh, min⟩], s', .error .overflow⟩
  | half {min low high : Int32} {s' : σ} {e : DrawError}
      (first : Source.draw s minLow minHigh = .ok (min, s')) (hlow : sum? min spreadLow = some low)
      (hhigh : sum? min spreadHigh = some high) (second : Source.draw s' low high = .error e) :
      DayRun s ⟨[⟨minLow, minHigh, min⟩], s', .error (.draw e)⟩
  | finished {min low high max : Int32} {s' s'' : σ}
      (first : Source.draw s minLow minHigh = .ok (min, s')) (hlow : sum? min spreadLow = some low)
      (hhigh : sum? min spreadHigh = some high)
      (second : Source.draw s' low high = .ok (max, s'')) :
      DayRun s ⟨[⟨minLow, minHigh, min⟩, ⟨low, high, max⟩], s'', .ok (min, max)⟩

theorem drawDay_run (s : σ) : DayRun s (drawDay s) := by
  unfold drawDay
  cases first : Source.draw s minLow minHigh with
  | error e => exact .unanswered first
  | ok drawn =>
    simp only
    cases hlow : sum? drawn.1 spreadLow with
    | none => exact .overflow first (.inl hlow)
    | some low =>
      cases hhigh : sum? drawn.1 spreadHigh with
      | none => exact .overflow first (.inr hhigh)
      | some high =>
        simp only
        cases second : Source.draw drawn.2 low high with
        | error e => exact .half first hlow hhigh second
        | ok drawn' => exact .finished first hlow hhigh second

def afterDay (s : σ) : σ := (drawDay s).source

def entry (units : String) (celsius : Bool) (date : Date) (bounds : Int32 × Int32) : DayForecast :=
  ⟨date, temperature celsius bounds.1, temperature celsius bounds.2, units⟩

namespace Progress

def record (units : String) (celsius : Bool) (date : Date) (p : Progress σ) (drawn : Drawn σ) :
    Progress σ where
  source := drawn.source
  draws := p.draws ++ drawn.draws.toArray
  days := match drawn.bounds with
    | .ok bounds => p.days.push (entry units celsius date bounds)
    | .error _ => p.days
  error := match drawn.bounds with
    | .ok _ => p.error
    | .error e => some e

theorem push_push {α : Type} (xs : Array α) (a b : α) : (xs.push a).push b = xs ++ #[a, b] := by
  rw [← Array.toList_inj]
  simp

theorem day_eq (units : String) (celsius : Bool) (date : Date) (p : Progress σ) :
    p.day units celsius date = p.record units celsius date (drawDay p.source) := by
  unfold day drawDay draw
  cases first : Source.draw p.source minLow minHigh with
  | error e => simp [record]
  | ok drawn =>
    obtain ⟨min, s⟩ := drawn
    simp only
    cases sum? min spreadLow with
    | none => simp [record]
    | some low =>
      cases sum? min spreadHigh with
      | none => simp [record]
      | some high =>
        simp only
        cases second : Source.draw s low high with
        | error e => simp [record]
        | ok drawn => simp [record, entry, push_push]

def make (units : String) (celsius : Bool) (p : Progress σ) (date : Date) : Progress σ :=
  if p.error.isSome then p else p.day units celsius date

theorem make_eq_record {p : Progress σ} (h : p.error = none) (units : String) (celsius : Bool)
    (date : Date) : make units celsius p date = p.record units celsius date (drawDay p.source) := by
  have running : ¬ p.error.isSome = true := by
    rw [h]
    exact Bool.false_ne_true
  rw [make, if_neg running, day_eq]

theorem foldl_make_of_error (units : String) (celsius : Bool) (dates : List Date) (p : Progress σ)
    (h : p.error.isSome) : dates.foldl (make units celsius) p = p := by
  induction dates with
  | nil => rfl
  | cons date dates ih =>
    rw [List.foldl_cons, make, if_pos h]
    exact ih

end Progress

/-- The dates from `offset` days after `today` on, `count` of them unless the calendar ends. -/
def dates (today : Date) : (count offset : Nat) → List Date
  | 0, _ => []
  | count + 1, offset =>
    match today.addDays? offset with
    | none => []
    | some date => date :: dates today count (offset + 1)

theorem dates_zero (today : Date) (offset : Nat) : dates today 0 offset = [] := by rfl

theorem dates_succ (today : Date) (count offset : Nat) :
    dates today (count + 1) offset = match today.addDays? offset with
      | none => []
      | some date => date :: dates today count (offset + 1) := by rfl

theorem dates_length_le (today : Date) (count offset : Nat) :
    (dates today count offset).length ≤ count := by
  induction count generalizing offset with
  | zero => exact Nat.le_refl 0
  | succ count ih =>
    rw [dates_succ]
    cases today.addDays? offset with
    | none => exact Nat.zero_le _
    | some date => exact Nat.succ_le_succ (ih (offset + 1))

theorem run_eq_foldl (units : String) (celsius : Bool) (today : Date) (count offset : Nat)
    (p : Progress σ) :
    p.run units celsius today count offset =
      (dates today count offset).foldl (Progress.make units celsius) p := by
  induction count generalizing offset p with
  | zero => rfl
  | succ count ih =>
    rw [Progress.run]
    by_cases stopped : p.error.isSome
    · rw [if_pos stopped, Progress.foldl_make_of_error _ _ _ _ stopped]
    · rw [if_neg stopped, dates_succ]
      cases today.addDays? offset with
      | none => rfl
      | some date =>
        simp only [List.foldl_cons]
        rw [ih, Progress.make, if_neg stopped]

theorem sum?_eq_some_iff {a b c : Int32} :
    sum? a b = some c ↔ c.toInt = a.toInt + b.toInt := by
  simp only [sum?]
  constructor
  · intro h
    split at h
    · rename_i fits
      cases h
      exact Int32.toInt_ofInt_of_le fits.1 fits.2
    · cases h
  · intro h
    have := c.le_toInt
    have := c.toInt_lt
    rw [if_pos (by omega), ← h, Int32.ofInt_toInt]

theorem eq_add_of_sum? {a b c : Int32} (h : sum? a b = some c) : c = a + b := by
  rw [← Int32.ofInt_toInt c, sum?_eq_some_iff.1 h, Int32.ofInt_add, Int32.ofInt_toInt,
    Int32.ofInt_toInt]

theorem sum?_of_fits {a b : Int32} (h : -2 ^ 31 ≤ a.toInt + b.toInt)
    (h' : a.toInt + b.toInt < 2 ^ 31) : sum? a b = some (a + b) := by
  obtain ⟨c, sum⟩ : ∃ c, sum? a b = some c :=
    ⟨.ofInt (a.toInt + b.toInt), sum?_eq_some_iff.2 (Int32.toInt_ofInt_of_le h h')⟩
  rw [sum, eq_add_of_sum? sum]

theorem sums_of_le {min : Int32} (h : min.toInt ≤ Int32.maxValue.toInt - 19) :
    sum? min spreadLow = some (min + spreadLow) ∧
      sum? min spreadHigh = some (min + spreadHigh) := by
  have lower := min.le_toInt
  have five : spreadLow.toInt = 5 := by decide
  have nineteen : spreadHigh.toInt = 19 := by decide
  have greatest : Int32.maxValue.toInt = 2 ^ 31 - 1 := by decide
  exact ⟨sum?_of_fits (by omega) (by omega), sum?_of_fits (by omega) (by omega)⟩

theorem spread {min : Int32} (below : min ≤ minHigh) :
    ∃ low high, sum? min spreadLow = some low ∧ sum? min spreadHigh = some high ∧
      low.toInt = min.toInt + 5 ∧ high.toInt = min.toInt + 19 ∧ low ≤ high := by
  have upper : min.toInt ≤ 89 := Int32.le_iff_toInt_le.1 below
  have greatest : Int32.maxValue.toInt = 2 ^ 31 - 1 := by decide
  obtain ⟨hlow, hhigh⟩ := sums_of_le (show min.toInt ≤ Int32.maxValue.toInt - 19 by omega)
  have elow : (min + spreadLow).toInt = min.toInt + 5 := sum?_eq_some_iff.1 hlow
  have ehigh : (min + spreadHigh).toInt = min.toInt + 19 := sum?_eq_some_iff.1 hhigh
  exact ⟨_, _, hlow, hhigh, elow, ehigh, Int32.le_iff_toInt_le.2 (by omega)⟩

section Ranged

variable [Source.Ranged σ]

/-- On a ranged source a day never fails: its minimum is one of the fixed range and its maximum
lies above it by the fixed spread. -/
theorem drawDay_bounds (s : σ) : ∃ min max, (drawDay s).bounds = .ok (min, max) ∧
    50 ≤ min.toInt ∧ min.toInt ≤ 89 ∧ min.toInt + 5 ≤ max.toInt ∧ max.toInt ≤ min.toInt + 19 := by
  obtain ⟨min, s', first, above, below⟩ :=
    Source.Ranged.draw_mem s minLow minHigh (by decide)
  obtain ⟨low, high, hlow, hhigh, elow, ehigh, order⟩ := spread below
  have lower : 50 ≤ min.toInt := Int32.le_iff_toInt_le.1 above
  have upper : min.toInt ≤ 89 := Int32.le_iff_toInt_le.1 below
  obtain ⟨max, s'', second, above', below'⟩ := Source.Ranged.draw_mem s' low high order
  have lower' := Int32.le_iff_toInt_le.1 above'
  have upper' := Int32.le_iff_toInt_le.1 below'
  refine ⟨min, max, ?_, lower, upper, by omega, by omega⟩
  simp only [drawDay, first, hlow, hhigh, second]

end Ranged

theorem afterDay_skip (g : Generator) : ∃ n, 2 ≤ n ∧ n ≤ 4 ∧ afterDay g = g.skip n := by
  obtain ⟨min, m, first, _, below, hm, hm'⟩ :=
    g.draw_mem (by decide : minLow ≤ minHigh)
  obtain ⟨low, high, hlow, hhigh, _, _, order⟩ := spread below
  obtain ⟨max, n, second, _, _, hn, hn'⟩ := (g.skip m).draw_mem order
  refine ⟨m + n, by omega, by omega, ?_⟩
  have first : Source.draw g minLow minHigh = .ok (min, g.skip m) := first
  have second : Source.draw (g.skip m) low high = .ok (max, (g.skip m).skip n) := second
  simp only [afterDay, drawDay, first, hlow, hhigh, second, Generator.skip_skip]

theorem afterDay_iterate_skip (days : Nat) (g : Generator) :
    ∃ n, 2 * days ≤ n ∧ n ≤ 4 * days ∧ afterDay^[days] g = g.skip n := by
  induction days generalizing g with
  | zero => exact ⟨0, Nat.le_refl 0, Nat.le_refl 0, rfl⟩
  | succ days ih =>
    obtain ⟨m, hm, hm', day⟩ := afterDay_skip g
    obtain ⟨n, hn, hn', later⟩ := ih (g.skip m)
    refine ⟨m + n, by omega, by omega, ?_⟩
    rw [Function.iterate_succ_apply, day, later, Generator.skip_skip]

end Almanac.Forecast
