import Almanac.Proofs.Calendar.Text
import Mathlib.Algebra.BigOperators.Group.List.Basic

set_option autoImplicit false

namespace Almanac

namespace Calendar

theorem monthLength_succ {year : Int} {k : Nat} (hk : k < (monthLengths year).length) :
    monthLength year (k + 1) = (monthLengths year)[k] := by
  simp [monthLength, hk]

theorem isLeap_iff (year : Int) :
    isLeap year = true ↔ year % 4 = 0 ∧ (year % 100 ≠ 0 ∨ year % 400 = 0) := by
  simp [isLeap]

theorem yearStart_succ (year : Int) :
    Date.yearStart (year + 1) = Date.yearStart year + (monthLengths year).sum := by
  unfold Date.yearStart
  by_cases leap : isLeap year = true
  · have sum : (monthLengths year).sum = 366 := by simp [monthLengths, leap]
    rw [isLeap_iff] at leap
    omega
  · have sum : (monthLengths year).sum = 365 := by simp [monthLengths, leap]
    rw [isLeap_iff] at leap
    omega

end Calendar

namespace Date

open Calendar

section Years

theorem yearStart_mono {year year' : Int} (h : year ≤ year') :
    yearStart year ≤ yearStart year' := by
  unfold yearStart
  omega

/-- The mean length of a year is off by one year at most. -/
theorem yearOfNumber_bounds (n : Int) :
    yearStart (yearOfNumber n) ≤ n ∧ n < yearStart (yearOfNumber n + 1) := by
  have early : yearStart (400 * n / 146097 - 1) ≤ n := by
    unfold yearStart
    omega
  have late : n < yearStart (400 * n / 146097 + 1 + 1) := by
    unfold yearStart
    omega
  unfold yearOfNumber
  simp only
  split
  · exact ⟨‹_›, late⟩
  · split
    · exact ⟨‹_›, by omega⟩
    · exact ⟨early, by rw [Int.sub_add_cancel]; omega⟩

theorem yearOfNumber_eq {year n : Int} (h : yearStart year ≤ n) (h' : n < yearStart (year + 1)) :
    yearOfNumber n = year := by
  obtain ⟨lower, upper⟩ := yearOfNumber_bounds n
  have notEarlier (earlier : yearOfNumber n + 1 ≤ year) := yearStart_mono earlier
  have notLater (later : year + 1 ≤ yearOfNumber n) := yearStart_mono later
  omega

end Years

section Months

theorem monthAndDay_take (lengths : List Nat) (month : Nat) {k day : Nat} (hk : k < lengths.length)
    (hd : day < lengths[k]) :
    monthAndDay month lengths ((lengths.take k).sum + day) = (month + k, day + 1) := by
  induction lengths generalizing month k with
  | nil => cases hk
  | cons length rest ih =>
    cases k with
    | zero => simp [monthAndDay, show day < length from hd]
    | succ k =>
      have later := ih (month + 1) (Nat.lt_of_succ_lt_succ hk) hd
      rw [monthAndDay, List.take_succ_cons, List.sum_cons, if_neg (by omega),
        show length + (rest.take k).sum + day - length = (rest.take k).sum + day by omega, later]
      simp only [Prod.mk.injEq, and_true]
      omega

theorem exists_month (lengths : List Nat) {days : Nat} (h : days < lengths.sum) :
    ∃ k day, ∃ hk : k < lengths.length, day < lengths[k] ∧ days = (lengths.take k).sum + day := by
  induction lengths generalizing days with
  | nil => simp at h
  | cons length rest ih =>
    by_cases first : days < length
    · exact ⟨0, days, by simp, first, by simp⟩
    · rw [List.sum_cons] at h
      obtain ⟨k, day, hk, hd, eq⟩ := ih (show days - length < rest.sum by omega)
      refine ⟨k + 1, day, Nat.succ_lt_succ hk, hd, ?_⟩
      rw [List.take_succ_cons, List.sum_cons]
      omega

end Months

theorem of?_eq_some {year : Int} {month day : Nat} {date : Date}
    (h : of? year month day = some date) :
    date.year = year ∧ date.month = month ∧ date.day = day := by
  unfold of? at h
  split at h
  · split at h
    · cases h
      exact ⟨rfl, rfl, rfl⟩
    · cases h
  · cases h

theorem exists_place (date : Date) : ∃ k, ∃ hk : k < (monthLengths date.year).length,
    date.month = k + 1 ∧ date.day ≤ (monthLengths date.year)[k] := by
  obtain ⟨first, last, _⟩ := monthLength_bounds date.one_le_day date.day_le
  have inside : date.month - 1 < (monthLengths date.year).length := by
    change _ < 12
    omega
  have month : date.month = date.month - 1 + 1 := by omega
  refine ⟨date.month - 1, inside, month, ?_⟩
  rw [← monthLength_succ inside, ← month]
  exact date.day_le

theorem number_bounds (date : Date) :
    yearStart date.year ≤ date.number ∧ date.number < yearStart (date.year + 1) := by
  obtain ⟨k, hk, month, day⟩ := exists_place date
  have := date.one_le_day
  have within := List.sum_take_succ (monthLengths date.year) k hk
  have whole := List.sum_take_add_sum_drop (monthLengths date.year) (k + 1)
  have year := yearStart_succ date.year
  unfold number daysBeforeMonth
  rw [month, Nat.add_sub_cancel]
  omega

theorem ofNumber?_number (date : Date) : ofNumber? date.number = some date := by
  obtain ⟨k, hk, month, day⟩ := exists_place date
  obtain ⟨lower, upper⟩ := number_bounds date
  have positive := date.one_le_day
  have within : (date.number - yearStart date.year).toNat =
      ((monthLengths date.year).take k).sum + (date.day - 1) := by
    unfold number daysBeforeMonth
    rw [month, Nat.add_sub_cancel]
    omega
  have place := monthAndDay_take (monthLengths date.year) 1 hk (show date.day - 1 < _ by omega)
  simp only [ofNumber?, yearOfNumber_eq lower upper, within, place]
  rw [Nat.add_comm 1 k, ← month, Nat.sub_add_cancel positive]
  exact of?_self date

theorem number_of_ofNumber? {n : Int} {date : Date} (h : ofNumber? n = some date) :
    date.number = n := by
  obtain ⟨lower, upper⟩ := yearOfNumber_bounds n
  have inside : (n - yearStart (yearOfNumber n)).toNat < (monthLengths (yearOfNumber n)).sum := by
    have := yearStart_succ (yearOfNumber n)
    omega
  obtain ⟨k, day, hk, hd, eq⟩ := exists_month _ inside
  simp only [ofNumber?, eq, monthAndDay_take _ 1 hk hd] at h
  obtain ⟨year, month, day⟩ := of?_eq_some h
  simp only [number, year, month, day, daysBeforeMonth, Nat.add_sub_cancel_left]
  omega

end Date

end Almanac
