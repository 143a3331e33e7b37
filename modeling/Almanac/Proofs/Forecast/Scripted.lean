import Almanac.Proofs.Forecast.Dates
import Almanac.Proofs.Forecast.Entries

set_option autoImplicit false

namespace Almanac.Forecast

/-- What is wrong with the value at a place of a script, if anything: even places hold minimums. -/
def violation? (values : List Int32) (place : Nat) : Option ForecastError :=
  match values[place]? with
  | none => some (.draw .exhausted)
  | some v => if place % 2 = 0 ∧ Int32.maxValue.toInt - 19 < v.toInt then some .overflow else none

theorem violation?_eq_none_iff {values : List Int32} {place : Nat} :
    violation? values place = none ↔
      ∃ v, values[place]? = some v ∧ (place % 2 = 0 → v.toInt ≤ Int32.maxValue.toInt - 19) := by
  unfold violation?
  cases values[place]? with
  | none => simp
  | some v => simp

theorem no_violation_iff {values : List Int32} {n : Nat} :
    (∀ p < 2 * n, violation? values p = none) ↔ 2 * n ≤ values.length ∧
      ∀ i v, i < n → values[2 * i]? = some v → v.toInt ≤ Int32.maxValue.toInt - 19 := by
  constructor
  · intro sound
    refine ⟨?_, ?_⟩
    · apply Nat.le_of_not_lt
      intro short
      obtain ⟨v, found, _⟩ := violation?_eq_none_iff.1 (sound values.length short)
      simp at found
    · intro i v below found
      obtain ⟨v', found', le⟩ := violation?_eq_none_iff.1 (sound (2 * i) (by omega))
      rw [found, Option.some.injEq] at found'
      subst found'
      exact le (by omega)
  · rintro ⟨long, le⟩ p below
    have found := List.getElem?_eq_getElem (show p < values.length by omega)
    refine violation?_eq_none_iff.2 ⟨_, found, ?_⟩
    intro even
    obtain ⟨i, rfl⟩ : ∃ i, p = 2 * i := ⟨p / 2, by omega⟩
    exact le i _ (by omega) found

/-- The draws of days, in order, that are answered with some values. The sums wrap, but no course
makes a draw from bounds that have. -/
def planned : List Int32 → List Draw
  | [] => []
  | [min] => [⟨minLow, minHigh, min⟩]
  | min :: max :: rest => dayDraws (min, max) ++ planned rest

section Day

variable {min : Int32}

theorem sum?_of_lt (h : Int32.maxValue.toInt - 19 < min.toInt) : sum? min spreadHigh = none := by
  have nineteen : spreadHigh.toInt = 19 := by decide
  have greatest : Int32.maxValue.toInt = 2 ^ 31 - 1 := by decide
  simp only [sum?]
  rw [if_neg (by omega)]

theorem drawDay_nil : drawDay (Script.mk []) = ⟨[], ⟨[]⟩, .error (.draw .exhausted)⟩ := rfl

theorem drawDay_of_lt (h : Int32.maxValue.toInt - 19 < min.toInt) (rest : List Int32) :
    drawDay (Script.mk (min :: rest)) = ⟨[⟨minLow, minHigh, min⟩], ⟨rest⟩, .error .overflow⟩ := by
  simp only [drawDay, Source.draw, Script.draw, sum?_of_lt h]
  cases sum? min spreadLow <;> rfl

theorem drawDay_single (h : min.toInt ≤ Int32.maxValue.toInt - 19) :
    drawDay (Script.mk [min]) =
      ⟨[⟨minLow, minHigh, min⟩], ⟨[]⟩, .error (.draw .exhausted)⟩ := by
  simp only [drawDay, Source.draw, Script.draw, sums_of_le h]

theorem drawDay_pair (h : min.toInt ≤ Int32.maxValue.toInt - 19) (max : Int32)
    (rest : List Int32) : drawDay (Script.mk (min :: max :: rest)) =
      ⟨dayDraws (min, max), ⟨rest⟩, .ok (min, max)⟩ := by
  simp only [drawDay, Source.draw, Script.draw, sums_of_le h, dayDraws]

end Day

/-- What is left of a script by a course of some days: the course has gone through the values up to
the first violation. -/
structure Played (days : Nat) (values : List Int32) (c : Course Script) : Prop where
  draws : c.draws <+: planned (values.take (2 * days))
  source : c.source = ⟨values.drop c.draws.length⟩
  finished : c.error = none →
    c.draws.length = 2 * days ∧ ∀ p < 2 * days, violation? values p = none
  stopped : ∀ e, c.error = some e → ∃ p < 2 * days, violation? values p = some e ∧
    (∀ q < p, violation? values q = none) ∧
      c.draws.length = if e = .overflow then p + 1 else p

theorem Played.error_eq_none_iff {days : Nat} {values : List Int32} {c : Course Script}
    (played : Played days values c) :
    c.error = none ↔ ∀ p < 2 * days, violation? values p = none := by
  constructor
  · exact fun finished => (played.finished finished).2
  · intro sound
    cases stopped : c.error with
    | none => rfl
    | some e =>
      obtain ⟨p, below, violation, _⟩ := played.stopped e stopped
      rw [sound p below] at violation
      cases violation

section Played

variable {days : Nat} {min max : Int32} {values : List Int32}

theorem violation?_skip (place : Nat) :
    violation? (min :: max :: values) (place + 2) = violation? values place := by
  simp [violation?]

theorem no_violation_pair (h : min.toInt ≤ Int32.maxValue.toInt - 19) {places : Nat}
    (later : ∀ q < places, violation? values q = none) :
    ∀ q < places + 2, violation? (min :: max :: values) q = none := by
  intro q below
  match q with
  | 0 => simp [violation?, Int.not_lt.2 h]
  | 1 => simp [violation?]
  | q + 2 =>
    rw [violation?_skip]
    exact later q (by omega)

theorem Played.pair {c : Course Script} (h : min.toInt ≤ Int32.maxValue.toInt - 19)
    (played : Played days values c) :
    Played (days + 1) (min :: max :: values)
      ⟨dayDraws (min, max) ++ c.draws, c.source, (min, max) :: c.bounds, c.error⟩ where
  draws := by
    rw [Nat.mul_add, List.take_succ_cons, List.take_succ_cons, planned]
    exact (List.prefix_append_right_inj _).2 played.draws
  source := by
    rw [played.source, List.length_append, Nat.add_comm]
    rfl
  finished none := by
    obtain ⟨length, sound⟩ := played.finished none
    refine ⟨?_, no_violation_pair h sound⟩
    rw [List.length_append, length, Nat.add_comm]
    rfl
  stopped e some := by
    obtain ⟨p, below, violation, sound, length⟩ := played.stopped e some
    refine ⟨p + 2, by omega, ?_, no_violation_pair h sound, ?_⟩
    · rw [violation?_skip, violation]
    · rw [List.length_append, length]
      change 2 + _ = _
      split <;> omega

theorem Played.of_violation {c : Course Script} {e : ForecastError} {p : Nat}
    (error : c.error = some e) (below : p < 2 * days) (violation : violation? values p = some e)
    (sound : ∀ q < p, violation? values q = none)
    (length : c.draws.length = if e = .overflow then p + 1 else p)
    (draws : c.draws <+: planned (values.take (2 * days)))
    (source : c.source = ⟨values.drop c.draws.length⟩) : Played days values c where
  draws := draws
  source := source
  finished none := by
    rw [error] at none
    cases none
  stopped e' some := by
    rw [error] at some
    cases some
    exact ⟨p, below, violation, sound, length⟩

theorem first_planned (min : Int32) (rest : List Int32) :
    [⟨minLow, minHigh, min⟩] <+: planned (min :: rest) := by
  cases rest with
  | nil => exact List.prefix_rfl
  | cons max rest => exact List.prefix_append [_] _

theorem course_played (days : Nat) (values : List Int32) :
    Played days values (course days ⟨values⟩) := by
  induction days generalizing values with
  | zero =>
    refine ⟨List.nil_prefix, rfl, fun _ => ⟨rfl, ?_⟩, ?_⟩
    · exact fun p below => absurd below (Nat.not_lt_zero p)
    · intro e stopped
      cases stopped
  | succ days ih =>
    have before : ∀ q < 0, violation? values q = none :=
      fun q below => absurd below (Nat.not_lt_zero q)
    rw [course]
    -- the first day stops without a minimum, at one that is too great, or without a maximum
    cases values with
    | nil =>
      rw [drawDay_nil]
      exact .of_violation rfl (Nat.succ_pos _) rfl before rfl List.nil_prefix rfl
    | cons min rest =>
      by_cases great : Int32.maxValue.toInt - 19 < min.toInt
      · rw [drawDay_of_lt great]
        have violation : violation? (min :: rest) 0 = some .overflow := by simp [violation?, great]
        exact .of_violation rfl (Nat.succ_pos _) violation before rfl (first_planned min _) rfl
      · rw [Int.not_lt] at great
        cases rest with
        | nil =>
          rw [drawDay_single great]
          have sound : ∀ q < 1, violation? [min] q = none := by
            simp [violation?, Int.not_lt.2 great]
          exact .of_violation rfl (by omega) rfl sound rfl (first_planned min _) rfl
        | cons max rest =>
          rw [drawDay_pair great]
          exact (ih rest).pair great

end Played

/-- A forecast from a script is made if and only if the script has two values for each of its days
and no minimum is too great. Otherwise it stops at the first value that is missing, without a draw,
or at the first minimum that is too great, once it is drawn. The draws made are the first of those
planned, and what comes next goes on with the values after them. -/
theorem generate_scripted (request : Request) (today : Date) (values : List Int32) :
    let n := min request.days.toInt.toNat (1 + today.remaining)
    let outcome := generate request today (Script.mk values)
    let made := outcome.draws.length
    ((∃ f, outcome.result = .ok f) ↔ 2 * n ≤ values.length ∧
        ∀ i v, i < n → values[2 * i]? = some v → v.toInt ≤ Int32.maxValue.toInt - 19) ∧
      (∀ f, outcome.result = .ok f → made = 2 * n) ∧
      (∀ e, outcome.result = .error e → ∃ p < 2 * n, violation? values p = some e ∧
        (∀ q < p, violation? values q = none) ∧ made = if e = .overflow then p + 1 else p) ∧
      outcome.draws <+: planned (values.take (2 * n)) ∧
      outcome.source = ⟨values.drop made⟩ ∧
      ∀ steps, Session.answers (.forecast today request :: steps) (Script.mk values) =
        .forecast outcome.result :: Session.answers steps (Script.mk (values.drop made)) := by
  intro n outcome made
  have whole : outcome = _ := generate_eq_course request today (Script.mk values)
  have played := course_played n values
  have source : outcome.source = ⟨values.drop made⟩ := by
    simp only [made, whole]
    exact played.source
  refine ⟨?_, ?_, ?_, ?_, source, ?_⟩
  · rw [whole, Course.outcome_ok_iff, played.error_eq_none_iff, no_violation_iff]
  · intro f ok
    rw [whole] at ok
    simp only [made, whole]
    exact (played.finished (Course.outcome_ok_iff.1 ⟨f, ok⟩)).1
  · intro e failed
    rw [whole, Course.outcome_error_iff] at failed
    simp only [made, whole]
    exact played.stopped e failed
  · rw [whole]
    exact played.draws
  · intro steps
    rw [← source]
    rfl

/-- The minimum of the second day is too great, and its maximum is missing. -/
example : (generate ⟨none, 2, "F"⟩ ⟨2025, 3, 1, by decide, by decide, by decide, by decide⟩
    (Script.mk [50, 55, 2147483629])).result = .error .overflow := by decide +kernel

end Almanac.Forecast
