import Almanac.Calendar.Date

set_option autoImplicit false

namespace Almanac

theorem digitValue?_of_isDigit {c : Char} (h : c.isDigit = true) :
    digitValue? c = some (c.toNat - '0'.toNat) := by
  simp only [Char.isDigit, Bool.and_eq_true, decide_eq_true_eq] at h
  exact if_pos h

theorem isBlank_of_isDigit {c : Char} (h : c.isDigit = true) : isBlank c = false := by
  simp only [Char.isDigit, Bool.and_eq_true, decide_eq_true_eq, UInt32.le_iff_toNat_le] at h
  have bounds : 48 ≤ c.toNat ∧ c.toNat ≤ 57 := h
  simp only [isBlank, Bool.or_eq_false_iff, Bool.and_eq_false_iff, decide_eq_false_iff_not,
    beq_eq_false_iff_ne]
  omega

namespace Date

theorem digitsFrom_digits {cs rest : List Char} (h : ∀ c ∈ cs, c.isDigit = true)
    (stop : ∀ c ∈ rest.head?, digitValue? c = none) {room value : Nat} (fits : cs.length ≤ room)
    (small : Nat.ofDigitChars 10 cs value < 2 ^ 63) :
    digitsFrom room value (cs ++ rest) = .ok (Nat.ofDigitChars 10 cs value, rest) := by
  induction cs generalizing room value with
  | nil =>
    rw [List.nil_append]
    unfold digitsFrom
    cases rest with
    | nil => rfl
    | cons c rest =>
      simp only [stop c rfl]
      cases room <;> rfl
  | cons c cs ih =>
    obtain ⟨room, rfl⟩ : ∃ room', room = room' + 1 := ⟨room - 1, by simp at fits; omega⟩
    have digit := digitValue?_of_isDigit (h c List.mem_cons_self)
    have later : digitsFrom room (10 * value + (c.toNat - '0'.toNat)) (cs ++ rest) =
        .ok (Nat.ofDigitChars 10 (c :: cs) value, rest) :=
      ih (fun c mem => h c (List.mem_cons_of_mem _ mem)) (Nat.le_of_succ_le_succ fits) small
    have grows : 10 * value + (c.toNat - '0'.toNat) < 2 ^ 63 := by
      rw [Nat.ofDigitChars_cons, Nat.ofDigitChars_eq_ofDigitChars_zero] at small
      have := Nat.le_mul_of_pos_left (10 * value + (c.toNat - '0'.toNat))
        (Nat.pow_pos (n := cs.length) (show 0 < 10 by omega))
      omega
    rw [List.cons_append]
    unfold digitsFrom
    simp only [digit, if_pos grows]
    exact later

theorem digits_digits {cs rest : List Char} (some_digit : cs ≠ [])
    (h : ∀ c ∈ cs, c.isDigit = true) (stop : ∀ c ∈ rest.head?, digitValue? c = none) {width : Nat}
    (fits : cs.length ≤ width) (small : Nat.ofDigitChars 10 cs 0 < 2 ^ 63) :
    digits width (cs ++ rest) = .ok (Nat.ofDigitChars 10 cs 0, rest) := by
  obtain ⟨c, cs, rfl⟩ := List.exists_cons_of_ne_nil some_digit
  have digit := digitValue?_of_isDigit (h c List.mem_cons_self)
  rw [List.cons_append, digits, digit, ← List.cons_append]
  exact digitsFrom_digits h stop fits small

section Padded

variable (width n : Nat)

theorem padded_isDigit : ∀ c ∈ padded width n, c.isDigit = true := by
  intro c mem
  rcases List.mem_append.1 mem with zero | digit
  · rw [List.eq_of_mem_replicate zero]
    rfl
  · exact Nat.isDigit_of_mem_toDigits (by omega) (by omega) digit

theorem padded_value : Nat.ofDigitChars 10 (padded width n) 0 = n := by
  rw [padded, Nat.ofDigitChars_append, Nat.ofDigitChars_replicate_zero, Nat.mul_zero,
    Nat.ofDigitChars_ten_toDigits]

theorem padded_ne_nil : padded width n ≠ [] := by
  simp [padded, Nat.toDigits_ne_nil]

theorem dropBlanks_padded (rest : List Char) :
    dropBlanks (padded width n ++ rest) = padded width n ++ rest := by
  obtain ⟨c, cs, padding⟩ := List.exists_cons_of_ne_nil (padded_ne_nil width n)
  have digit := padded_isDigit width n c (by simp [padding])
  rw [padding, List.cons_append, dropBlanks, List.dropWhile_cons, isBlank_of_isDigit digit]
  rfl

variable {width n}

theorem padded_length (positive : 0 < width) (h : n < 10 ^ width) :
    (padded width n).length = width := by
  have := (Nat.length_toDigits_le_iff (by decide) positive).2 h
  simp [padded]
  omega

theorem digits_padded {room : Nat} (fits : (padded width n).length ≤ room) (small : n < 2 ^ 63)
    {rest : List Char} (stop : ∀ c ∈ rest.head?, digitValue? c = none) :
    digits room (padded width n ++ rest) = .ok (n, rest) := by
  have read := digits_digits (padded_ne_nil width n) (padded_isDigit width n) stop fits
    (by rw [padded_value]; exact small)
  rw [padded_value] at read
  exact read

end Padded

theorem hyphen_stops (rest : List Char) : ∀ c ∈ ('-' :: rest).head?, digitValue? c = none := by
  intro c head
  cases head
  decide

theorem readPart_padded {n last : Nat} (one_le : 1 ≤ n) (le_last : n ≤ last) (bound : last < 100)
    {rest : List Char} (stop : ∀ c ∈ rest.head?, digitValue? c = none) :
    readPart last (padded 2 n ++ rest) = .ok (n, rest) := by
  have length := padded_length Nat.two_pos (show n < 10 ^ 2 by omega)
  rw [readPart, digits_padded (Nat.le_of_eq length) (by omega) stop]
  exact if_pos ⟨one_le, le_last⟩

theorem readYear_yearText {year : Int} (lower : Calendar.firstYear ≤ year)
    (upper : year ≤ Calendar.lastYear) (rest : List Char) :
    readYear (yearText year ++ '-' :: rest) = .ok (year, '-' :: rest) := by
  unfold Calendar.firstYear at lower
  unfold Calendar.lastYear at upper
  have small : year.natAbs < 2 ^ 63 := by omega
  have stop := hyphen_stops rest
  -- with a sign the whole rest may be digits, without one there are four
  have signed (room : Nat) (fits : (padded 4 year.natAbs).length ≤ room) (sign : Int)
      (value : sign * year.natAbs = year) :
      ((digits room (padded 4 year.natAbs ++ '-' :: rest)).bind fun read =>
        if -2 ^ 31 ≤ sign * read.1 ∧ sign * read.1 < 2 ^ 31 then .ok (sign * read.1, read.2)
        else .error .outOfRange) = .ok (year, '-' :: rest) := by
    rw [digits_padded fits small stop]
    change (if -2 ^ 31 ≤ sign * year.natAbs ∧ sign * year.natAbs < 2 ^ 31 then _ else _) = _
    rw [value, if_pos (by omega)]
  unfold yearText
  by_cases before : year < 0
  · rw [if_pos before]
    exact signed _ (by simp) (-1) (by omega)
  · rw [if_neg before]
    by_cases after : 9999 < year
    · rw [if_pos after]
      exact signed _ (by simp) 1 (by omega)
    · rw [if_neg after, List.nil_append]
      have length := padded_length (by omega) (show year.natAbs < 10 ^ 4 by omega)
      have read := signed 4 (Nat.le_of_eq length) 1 (by omega)
      obtain ⟨c, cs, padding⟩ := List.exists_cons_of_ne_nil (padded_ne_nil 4 year.natAbs)
      have digit := padded_isDigit 4 year.natAbs c (by simp [padding])
      rw [padding] at read ⊢
      unfold readYear
      split
      · rename_i sign width cs' eq
        split at eq
        · rename_i minus
          cases minus
          cases digit
        · rename_i plus
          cases plus
          cases digit
        · cases eq
          exact read

theorem monthLength_bounds {year : Int} {month day : Nat} (one_le : 1 ≤ day)
    (h : day ≤ Calendar.monthLength year month) : 1 ≤ month ∧ month ≤ 12 ∧ day ≤ 31 := by
  unfold Calendar.monthLength at h
  cases found : (0 :: Calendar.monthLengths year)[month]? with
  | none =>
    simp only [found, Option.getD_none] at h
    omega
  | some length =>
    simp only [found, Option.getD_some] at h
    obtain ⟨inside, at_month⟩ := List.getElem?_eq_some_iff.1 found
    have months : (0 :: Calendar.monthLengths year).length = 13 := rfl
    have longest : ∀ length ∈ 0 :: Calendar.monthLengths year, length ≤ 31 := by
      simp only [Calendar.monthLengths]
      cases Calendar.isLeap year <;> decide
    have := longest length (at_month ▸ List.getElem_mem inside)
    refine ⟨?_, by omega, by omega⟩
    apply Nat.pos_of_ne_zero
    rintro rfl
    cases found
    omega

theorem of?_self (date : Date) : of? date.year date.month date.day = some date := by
  unfold of?
  rw [dif_pos ⟨date.firstYear_le, date.le_lastYear⟩, dif_pos ⟨date.one_le_day, date.day_le⟩]

theorem dropBlanks_yearText (year : Int) (rest : List Char) :
    dropBlanks (yearText year ++ rest) = yearText year ++ rest := by
  unfold yearText
  split
  · rfl
  · split
    · rfl
    · exact dropBlanks_padded 4 _ rest

theorem read_text (date : Date) : read date.text = .ok date := by
  obtain ⟨first_month, last_month, last_day⟩ := monthLength_bounds date.one_le_day date.day_le
  have hyphen (rest : List Char) : readHyphen (dropBlanks ('-' :: rest)) = .ok rest := rfl
  have year := readYear_yearText date.firstYear_le date.le_lastYear
    (padded 2 date.month ++ '-' :: padded 2 date.day)
  have month := readPart_padded first_month last_month (by omega)
    (hyphen_stops (padded 2 date.day))
  have day : readPart 31 (padded 2 date.day ++ []) = .ok (date.day, []) :=
    readPart_padded date.one_le_day last_day (by omega) nofun
  have noBlank := dropBlanks_padded 2 date.day []
  rw [List.append_nil] at day noBlank
  have text : date.text.toList =
      yearText date.year ++ '-' :: (padded 2 date.month ++ '-' :: padded 2 date.day) := by
    simp [Date.text]
  have ended : dropBlanks [] = [] := rfl
  simp only [read, text, dropBlanks_yearText, year, hyphen, dropBlanks_padded, month, noBlank, day,
    Bind.bind, Except.bind, ended, ite_true, of?_self]

end Date

end Almanac
