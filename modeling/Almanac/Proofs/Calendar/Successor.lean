import Almanac.Proofs.Calendar.Numbering

set_option autoImplicit false

namespace Almanac.Date

open Calendar

def next? (date : Date) : Option Date :=
  (of? date.year date.month (date.day + 1)).or
    ((of? date.year (date.month + 1) 1).or (of? (date.year + 1) 1 1))

def later? (date : Date) : Nat → Option Date
  | 0 => some date
  | days + 1 => (date.later? days).bind next?

def last : Date := ⟨lastYear, 12, 31, by decide, by decide, by decide, by decide⟩

def remaining (date : Date) : Nat := (last.number - date.number).toNat

theorem eq_of_parts {date date' : Date} (year : date.year = date'.year)
    (month : date.month = date'.month) (day : date.day = date'.day) : date = date' := by
  cases date
  cases date'
  simp_all

theorem of?_eq_none {year : Int} {month day : Nat} (h : of? year month day = none)
    (lower : firstYear ≤ year) (upper : year ≤ lastYear) (positive : 1 ≤ day) :
    monthLength year month < day := by
  unfold of? at h
  rw [dif_pos ⟨lower, upper⟩] at h
  split at h
  · cases h
  · omega

theorem monthLength_pos (year : Int) (month : Nat) (first : 1 ≤ month) (last : month ≤ 12) :
    1 ≤ monthLength year month := by
  have inside : month - 1 < (monthLengths year).length := by
    change _ < 12
    omega
  have longer : ∀ length ∈ monthLengths year, 1 ≤ length := by
    simp only [monthLengths]
    cases isLeap year <;> decide
  rw [show month = month - 1 + 1 by omega, monthLength_succ inside]
  exact longer _ (List.getElem_mem inside)

theorem daysBeforeMonth_succ (year : Int) (month : Nat) (first : 1 ≤ month) (last : month ≤ 12) :
    daysBeforeMonth year (month + 1) = daysBeforeMonth year month + monthLength year month := by
  obtain ⟨k, rfl⟩ : ∃ k, month = k + 1 := ⟨month - 1, by omega⟩
  have inside : k < (monthLengths year).length := last
  rw [monthLength_succ inside]
  exact List.sum_take_succ _ k inside

section Ends

variable {date : Date}

theorem end_of_month (h : of? date.year date.month (date.day + 1) = none) :
    date.day = monthLength date.year date.month := by
  have longest := of?_eq_none h date.firstYear_le date.le_lastYear (by omega)
  have := date.day_le
  omega

theorem end_of_year (h : of? date.year (date.month + 1) 1 = none) : date.month = 12 := by
  obtain ⟨_, le_twelve, _⟩ := monthLength_bounds date.one_le_day date.day_le
  have missing := of?_eq_none h date.firstYear_le date.le_lastYear (by omega)
  have present (more : date.month + 1 ≤ 12) := monthLength_pos date.year _ (by omega) more
  omega

theorem end_of_calendar (h : of? (date.year + 1) 1 1 = none) : date.year = lastYear := by
  have lower := date.firstYear_le
  have upper := date.le_lastYear
  have missing (more : date.year + 1 ≤ lastYear) := of?_eq_none h (by omega) more (by omega)
  have present := monthLength_pos (date.year + 1) 1 (by omega) (by omega)
  omega

end Ends

theorem next?_number {date date' : Date} (h : date.next? = some date') :
    date'.number = date.number + 1 := by
  have positive := date.one_le_day
  rcases Option.or_eq_some_iff.1 h with sameMonth | ⟨noDay, later⟩
  · obtain ⟨year, month, day⟩ := of?_eq_some sameMonth
    rw [number, year, month, day, number]
    omega
  · have day_eq := end_of_month noDay
    rcases Option.or_eq_some_iff.1 later with sameYear | ⟨noMonth, nextYear⟩
    · obtain ⟨year, month, day⟩ := of?_eq_some sameYear
      obtain ⟨first, last, _⟩ := monthLength_bounds date.one_le_day date.day_le
      rw [number, year, month, day, daysBeforeMonth_succ _ _ first last, number]
      omega
    · obtain ⟨year, month, day⟩ := of?_eq_some nextYear
      have month_eq := end_of_year noMonth
      -- before a thirteenth month would stand all days of the year
      have whole := daysBeforeMonth_succ date.year 12 (by omega) (by omega)
      rw [month_eq] at day_eq
      rw [number, year, month, day, yearStart_succ, number, month_eq]
      change _ + ((0 : Nat) : Int) + _ = _
      change (monthLengths date.year).sum = _ at whole
      omega

theorem next?_eq_none {date : Date} (h : date.next? = none) : date = last := by
  obtain ⟨noDay, later⟩ := Option.or_eq_none_iff.1 h
  obtain ⟨noMonth, noYear⟩ := Option.or_eq_none_iff.1 later
  have year := end_of_calendar noYear
  have month := end_of_year noMonth
  have day := end_of_month noDay
  rw [year, month] at day
  exact eq_of_parts year month day

theorem next?_last : last.next? = none := by decide

theorem number_le_last (date : Date) : date.number ≤ last.number := by
  have year := yearStart_mono (show date.year + 1 ≤ lastYear + 1 by have := date.le_lastYear; omega)
  have below := (number_bounds date).2
  have ends : yearStart (lastYear + 1) = last.number + 1 := by decide
  omega

theorem addDays?_eq_some_iff {date date' : Date} {days : Nat} :
    date.addDays? days = some date' ↔ date'.number = date.number + days := by
  constructor
  · exact number_of_ofNumber?
  · intro h
    rw [addDays?, ← h]
    exact ofNumber?_number date'

theorem later?_number {date date' : Date} {days : Nat} (h : date.later? days = some date') :
    date'.number = date.number + days := by
  induction days generalizing date' with
  | zero =>
    cases h
    exact (Int.add_zero _).symm
  | succ days ih =>
    obtain ⟨middle, before, step⟩ := Option.bind_eq_some_iff.1 h
    rw [next?_number step, ih before]
    omega

theorem later?_eq_none {date : Date} {days : Nat} (h : date.later? days = none) :
    last.number < date.number + days := by
  induction days with
  | zero => cases h
  | succ days ih =>
    cases before : date.later? days with
    | none =>
      have := ih before
      omega
    | some middle =>
      have ended := next?_eq_none (h.symm.trans (congrArg (Option.bind · next?) before)).symm
      have := later?_number before
      subst ended
      omega

theorem addDays?_eq_none {date : Date} {days : Nat} (h : last.number < date.number + days) :
    date.addDays? days = none := by
  rw [Option.eq_none_iff_forall_ne_some]
  intro date' found
  have := addDays?_eq_some_iff.1 found
  have := number_le_last date'
  omega

theorem addDays?_eq_later? (date : Date) (days : Nat) : date.addDays? days = date.later? days := by
  cases reached : date.later? days with
  | some date' => exact addDays?_eq_some_iff.2 (later?_number reached)
  | none => exact addDays?_eq_none (later?_eq_none reached)

example : (of? 2023 12 31).bind (·.addDays? 60) = of? 2024 2 29 := by decide

theorem later?_eq_none_iff {date : Date} {days : Nat} :
    date.later? days = none ↔ date.remaining < days := by
  have within := number_le_last date
  unfold remaining
  constructor
  · intro h
    have := later?_eq_none h
    omega
  · intro h
    rw [← addDays?_eq_later?]
    exact addDays?_eq_none (by omega)

theorem later?_add (date : Date) (m n : Nat) :
    date.later? (m + n) = (date.later? m).bind (·.later? n) := by
  induction n with
  | zero => simp [later?]
  | succ n ih =>
    rw [← Nat.add_assoc, later?, ih, Option.bind_assoc]
    rfl

theorem later?_remaining (date : Date) : date.later? date.remaining = some last := by
  have within := number_le_last date
  rw [← addDays?_eq_later?, addDays?_eq_some_iff]
  unfold remaining
  omega

end Almanac.Date
