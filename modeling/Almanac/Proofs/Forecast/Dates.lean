import Almanac.Proofs.Calendar.Successor
import Almanac.Proofs.Draw.Ranged
import Almanac.Proofs.Forecast.Course

set_option autoImplicit false

namespace Almanac.Forecast

theorem dates_beyond {today : Date} {offset : Nat} (h : today.remaining < offset) (count : Nat) :
    dates today count offset = [] := by
  cases count with
  | zero => rfl
  | succ count => rw [dates_succ, Date.addDays?_eq_later?, Date.later?_eq_none_iff.2 h]

theorem dates_length (today : Date) (count offset : Nat) :
    (dates today count offset).length = min count (today.remaining + 1 - offset) := by
  induction count generalizing offset with
  | zero => simp [dates_zero]
  | succ count ih =>
    by_cases beyond : today.remaining < offset
    · rw [dates_beyond beyond, List.length_nil]
      omega
    · obtain ⟨date, reached⟩ : ∃ date, today.later? offset = some date := by
        rwa [← Option.ne_none_iff_exists', ne_eq, Date.later?_eq_none_iff]
      rw [dates_succ, Date.addDays?_eq_later?, reached, List.length_cons, ih]
      omega

theorem later?_of_getElem?_dates {today : Date} {count offset i : Nat} {date : Date}
    (h : (dates today count offset)[i]? = some date) : today.later? (offset + i) = some date := by
  induction count generalizing offset i with
  | zero => simp [dates_zero] at h
  | succ count ih =>
    rw [dates_succ, Date.addDays?_eq_later?] at h
    cases reached : today.later? offset with
    | none => simp [reached] at h
    | some first =>
      rw [reached] at h
      cases i with
      | zero => simpa [reached] using h
      | succ i =>
        rw [Nat.add_comm i, ← Nat.add_assoc]
        exact ih h

theorem dates_add (today : Date) (m n offset : Nat) :
    dates today (m + n) offset = dates today m offset ++ dates today n (offset + m) := by
  induction m generalizing offset with
  | zero => simp [dates_zero]
  | succ m ih =>
    rw [Nat.add_right_comm, dates_succ, dates_succ, Date.addDays?_eq_later?]
    cases reached : today.later? offset with
    | none =>
      have beyond := Date.later?_eq_none_iff.1 reached
      rw [dates_beyond (show today.remaining < offset + (m + 1) by omega), List.append_nil]
    | some date =>
      have later : offset + 1 + m = offset + (m + 1) := by omega
      simp only [ih, List.cons_append, later]

theorem dates_later {today later : Date} {days : Nat} (h : today.later? days = some later)
    (count offset : Nat) : dates today count (days + offset) = dates later count offset := by
  induction count generalizing offset with
  | zero => rfl
  | succ count ih =>
    rw [dates_succ, dates_succ, Date.addDays?_eq_later?, Date.addDays?_eq_later?, Date.later?_add,
      h, Nat.add_assoc, ih]
    rfl

variable {σ : Type} [Source σ]

theorem generate_eq_course (request : Request) (today : Date) (s : σ) :
    generate request today s =
      (course (min request.days.toInt.toNat (1 + today.remaining)) s).outcome request
        (dates today request.days.toInt.toNat 0) := by
  rw [generate_eq, dates_length, Nat.sub_zero, Nat.add_comm]

variable [Source.Ranged σ]

/-- On a ranged source a forecast has as many entries as days are asked for, but none beyond the
last day of the calendar, and the date of each entry is reached from the first in as many steps as
entries stand before it. -/
theorem generate_dates (request : Request) (today : Date) (s : σ) :
    ∃ f, (generate request today s).result = .ok f ∧
      (f.days.length : Int) = min (max request.days.toInt 0) (1 + today.remaining) ∧
      (∀ i d, f.days[i]? = some d → today.later? i = some d.date) ∧
      today.later? today.remaining = some .last ∧ Date.last.next? = none := by
  refine ⟨_, generate_result request today s, ?_, ?_, today.later?_remaining, Date.next?_last⟩
  · have finished := (course_ranged (dates today request.days.toInt.toNat 0).length s).1
    rw [List.length_zipWith, (course_finished finished).1, dates_length]
    omega
  · intro i d found
    obtain ⟨date, bounds, dated, _, rfl⟩ := List.getElem?_zipWith_eq_some.1 found
    have := later?_of_getElem?_dates dated
    rwa [Nat.zero_add] at this

theorem two_days_left_dated :
    let today : Date := ⟨262142, 12, 30, by decide, by decide, by decide, by decide⟩
    ∃ f, (generate ⟨none, 5, "F"⟩ today (Generator.ofSeed 7)).result = .ok f ∧
      f.days.map (·.date) = [today, .last] := by
  intro today
  obtain ⟨f, made, length, dated, _⟩ :=
    generate_dates ⟨none, 5, "F"⟩ today (Generator.ofSeed 7)
  have two : (min (max (5 : Int32).toInt 0) (1 + today.remaining) : Int) = 2 := by decide
  obtain ⟨d, d', days⟩ := List.length_eq_two.1 (Int.ofNat_inj.1 (length.trans two))
  have first : today = d.date := Option.some.inj (dated 0 d (by rw [days]; rfl))
  have second : today.later? 1 = some d'.date := dated 1 d' (by rw [days]; rfl)
  have ends : today.later? 1 = some .last := by decide
  refine ⟨f, made, ?_⟩
  rw [days, List.map_cons, List.map_cons, List.map_nil, ← first,
    Option.some.inj (second.symm.trans ends)]

theorem toNat_add {m n : Int32} (hm : 0 ≤ m) (hn : 0 ≤ n) (fits : m.toInt + n.toInt < 2 ^ 31) :
    (m + n).toInt.toNat = m.toInt.toNat + n.toInt.toNat := by
  have hm : 0 ≤ m.toInt := Int32.le_iff_toInt_le.1 hm
  have hn : 0 ≤ n.toInt := Int32.le_iff_toInt_le.1 hn
  rw [sum?_eq_some_iff.1 (sum?_of_fits (show -2 ^ 31 ≤ m.toInt + n.toInt by omega) fits)]
  omega

theorem outcome_append (request : Request) (days days' : List Date) (s : σ) :
    let first := course days.length s
    let second := course days'.length first.source
    let entries := List.zipWith (entry request.units (namesCelsius request.units))
    (course (days ++ days').length s).outcome request (days ++ days') =
      ⟨.ok ⟨request.location, request.units,
          entries days first.bounds ++ entries days' second.bounds⟩,
        first.draws ++ second.draws, second.source⟩ := by
  intro first second entries
  have finished := (course_ranged days.length s).1
  have finished' := (course_ranged days'.length first.source).1
  rw [List.length_append, course_add, Course.andThen_of_finished finished, Course.outcome,
    List.zipWith_append (course_finished finished).1.symm, finished']

/-- On a ranged source a forecast for some days more has the entries of the shorter one, then those
of the forecast for the other days from the day after them, made with the source as the first left
it. If the calendar has no such day, the longer forecast is the shorter one. -/
theorem generate_split (location : Option String) (units : String) (today : Date) (s : σ)
    {m n : Int32} (hm : 0 ≤ m) (hn : 0 ≤ n) (fits : m.toInt + n.toInt < 2 ^ 31) :
    let whole := generate ⟨location, m + n, units⟩ today s
    let first := generate ⟨location, m, units⟩ today s
    ∃ f, first.result = .ok f ∧
      (∀ later, today.later? m.toInt.toNat = some later →
        let second := generate ⟨location, n, units⟩ later first.source
        ∃ g, second.result = .ok g ∧
          whole.result = .ok ⟨location, units, f.days ++ g.days⟩ ∧
          whole.draws = first.draws ++ second.draws ∧ whole.source = second.source) ∧
      (today.later? m.toInt.toNat = none → whole = first) := by
  intro whole first
  have days : dates today (m + n).toInt.toNat 0 =
      dates today m.toInt.toNat 0 ++ dates today n.toInt.toNat m.toInt.toNat := by
    rw [toNat_add hm hn fits, dates_add, Nat.zero_add]
  refine ⟨_, generate_result ⟨location, m, units⟩ today s, ?_, ?_⟩
  · intro later reached second
    have rest := dates_later reached n.toInt.toNat 0
    rw [Nat.add_zero] at rest
    have joined := outcome_append ⟨location, m + n, units⟩ (dates today m.toInt.toNat 0)
      (dates later n.toInt.toNat 0) s
    rw [← rest, ← days, ← generate_eq] at joined
    refine ⟨_, generate_result ⟨location, n, units⟩ later first.source, ?_⟩
    simp only [whole, second, first, joined, generate_eq, Course.outcome, rest, and_self]
  · intro beyond
    have none_left := dates_beyond (Date.later?_eq_none_iff.1 beyond) n.toInt.toNat
    rw [none_left, List.append_nil] at days
    simp only [whole, first, generate_eq, days]
    rfl

theorem split_on_last_day :
    let today : Date := ⟨262142, 12, 30, by decide, by decide, by decide, by decide⟩
    ∃ f g, (generate ⟨none, 1, "c"⟩ today (Generator.ofSeed 7)).result = .ok f ∧
      (generate ⟨none, 3, "c"⟩ .last
        (generate ⟨none, 1, "c"⟩ today (Generator.ofSeed 7)).source).result = .ok g ∧
      (generate ⟨none, 4, "c"⟩ today (Generator.ofSeed 7)).result =
        .ok ⟨none, "c", f.days ++ g.days⟩ := by
  intro today
  have one : (0 : Int32) ≤ 1 := by decide
  have three : (0 : Int32) ≤ 3 := by decide
  have four : (1 + 3 : Int32) = 4 := by decide
  have tomorrow : today.later? (1 : Int32).toInt.toNat = some .last := by decide
  obtain ⟨f, made, later, _⟩ :=
    generate_split none "c" today (Generator.ofSeed 7) one three (by decide)
  obtain ⟨g, made', result, _⟩ := later .last tomorrow
  rw [four] at result
  exact ⟨f, g, made, made', result⟩

end Almanac.Forecast
