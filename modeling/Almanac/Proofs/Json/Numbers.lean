import Almanac.Json.NumberReader
import Almanac.Proofs.Json.Rendering

set_option autoImplicit false

namespace Almanac.Json

open Ascii

/-- Whether a text is at its end or at a byte that may follow a value. -/
def Delimited (rest : List UInt8) : Prop :=
  ∀ b ∈ rest.head?, isSpace b = true ∨ b = comma ∨ b = closeBracket ∨ b = closeBrace

theorem delimiter_not_in_number {b : UInt8}
    (h : isSpace b = true ∨ b = comma ∨ b = closeBracket ∨ b = closeBrace) :
    digit? b = none ∧ b ≠ point ∧ b ≠ 0x65 ∧ b ≠ 0x45 := by
  simp only [isSpace, Bool.or_eq_true, beq_iff_eq] at h
  rcases h with (((rfl | rfl) | rfl) | rfl) | rfl | rfl | rfl <;> decide

theorem Blank.delimited {blank rest : List UInt8} (h : Blank blank) (h' : Delimited rest) :
    Delimited (blank ++ rest) := by
  cases blank with
  | nil => exact h'
  | cons b blank =>
    intro b' head
    cases head
    exact .inl (h b List.mem_cons_self)

theorem digit?_digitByte (d : Fin 10) : digit? (digitByte d) = some d.val := by
  revert d
  decide

theorem digitByte_ne_minus (d : Fin 10) : digitByte d ≠ minus := by
  revert d
  decide

def NoDigit (rest : List UInt8) : Prop := ∀ b ∈ rest.head?, digit? b = none

theorem Delimited.noDigit {rest : List UInt8} (h : Delimited rest) : NoDigit rest :=
  fun b head => (delimiter_not_in_number (h b head)).1

theorem NoDigit.atDigit {rest : List UInt8} (h : NoDigit rest) (p : Position) :
    Cursor.atDigit ⟨rest, p⟩ = false := by
  cases rest with
  | nil => rfl
  | cons b rest =>
    change (digit? b).isSome = false
    rw [h b rfl]
    rfl

theorem Delimited.atPoint {rest : List UInt8} (h : Delimited rest) (p : Position) :
    Cursor.atPoint ⟨rest, p⟩ = false := by
  cases rest with
  | nil => rfl
  | cons b rest =>
    obtain ⟨_, noPoint, _⟩ := delimiter_not_in_number (h b rfl)
    simp only [Cursor.atPoint, List.head?_cons, beq_eq_false_iff_ne, ne_eq, Option.some.injEq]
    exact noPoint

theorem Delimited.atMark {rest : List UInt8} (h : Delimited rest) (p : Position) :
    Cursor.atMark ⟨rest, p⟩ = false := by
  cases rest with
  | nil => rfl
  | cons b rest =>
    obtain ⟨_, _, small, capital⟩ := delimiter_not_in_number (h b rfl)
    simp only [Cursor.atMark, List.head?_cons, Bool.or_eq_false_iff, beq_eq_false_iff_ne, ne_eq,
      Option.some.injEq]
    exact ⟨small, capital⟩

theorem passDigits_digits (ds : List (Fin 10)) {rest : List UInt8} (h : NoDigit rest)
    (p : Position) (k : Nat) :
    ∃ p', passDigits (ds.map digitByte ++ rest) p k = (k + ds.length, ⟨rest, p'⟩) := by
  induction ds generalizing p k with
  | nil =>
    refine ⟨p, ?_⟩
    cases rest with
    | nil => rfl
    | cons b rest =>
      rw [List.map_nil, List.nil_append, passDigits]
      simp only [h b rfl]
      rfl
  | cons d ds ih =>
    obtain ⟨p', passed⟩ := ih (p.after (digitByte d)) (k + 1)
    refine ⟨p', ?_⟩
    rw [List.map_cons, List.cons_append, passDigits]
    simp only [digit?_digitByte]
    rw [passed, List.length_cons, Nat.add_assoc, Nat.add_comm 1]

def appended (n : Nat) (ds : List (Fin 10)) : Nat := ds.foldl (fun n d => 10 * n + d.val) n

theorem le_appended (n : Nat) (ds : List (Fin 10)) : n ≤ appended n ds := by
  induction ds generalizing n with
  | nil => exact Nat.le_refl n
  | cons d ds ih =>
    have head : n ≤ 10 * n + d.val := by omega
    exact Nat.le_trans head (ih (10 * n + d.val))

/-- Of a run of digits, as many are collected as fit. -/
theorem collectDigits_digits (ds : List (Fin 10)) {rest : List UInt8} (h : NoDigit rest)
    (p : Position) (n k : Nat) :
    ∃ taken left p', ds = taken ++ left ∧
      collectDigits (ds.map digitByte ++ rest) p n k =
        (appended n taken, k + taken.length, ⟨left.map digitByte ++ rest, p'⟩) ∧
      (left = [] ∨ significandLimit < appended n ds) := by
  induction ds generalizing p n k with
  | nil =>
    refine ⟨[], [], p, rfl, ?_, .inl rfl⟩
    cases rest with
    | nil => rfl
    | cons b rest =>
      rw [List.map_nil, List.nil_append, collectDigits]
      simp only [h b rfl]
      rfl
  | cons d ds ih =>
    rw [List.map_cons, List.cons_append, collectDigits]
    simp only [digit?_digitByte]
    by_cases fits : 10 * n + d.val ≤ significandLimit
    · rw [if_pos fits]
      obtain ⟨taken, left, p', split, collected, complete⟩ :=
        ih (p.after (digitByte d)) (10 * n + d.val) (k + 1)
      refine ⟨d :: taken, left, p', ?_, ?_, complete⟩
      · rw [List.cons_append, split]
      · rw [collected, List.length_cons, Nat.add_assoc, Nat.add_comm 1]
        rfl
    · rw [if_neg fits]
      refine ⟨[], d :: ds, p, rfl, rfl, .inr ?_⟩
      have head := le_appended (10 * n + d.val) ds
      change significandLimit < appended (10 * n + d.val) ds
      omega

theorem numeral_whole (negative : Bool) {whole : Digits}
    (noLeadingZero : whole.first = 0 → whole.rest = []) {rest : List UInt8} (h : NoDigit rest)
    (p : Position) : ∃ significand dropped p',
      numeral negative ⟨whole.bytes ++ rest, p⟩ =
        afterInteger negative significand dropped ⟨rest, p'⟩ ∧
      (dropped = 0 → significand = whole.value) ∧
      (whole.value ≤ significandLimit → dropped = 0) := by
  obtain ⟨first, others⟩ := whole
  rw [Digits.bytes, List.cons_append, numeral]
  simp only [digit?_digitByte]
  by_cases zero : first = 0
  · subst zero
    have alone : others = [] := noLeadingZero rfl
    subst alone
    refine ⟨0, 0, p.after (digitByte 0), ?_, fun _ => rfl, fun _ => rfl⟩
    change (if Cursor.atDigit ⟨rest, _⟩ = true then _ else _) = _
    rw [h.atDigit]
    rfl
  · -- digits that are left over are only counted
    have positive : first.val ≠ 0 := fun h => zero (Fin.ext h)
    obtain ⟨taken, left, p₁, rfl, collected, complete⟩ :=
      collectDigits_digits others h (p.after (digitByte first)) first.val 0
    obtain ⟨p₂, passed⟩ := passDigits_digits left h p₁ 0
    refine ⟨appended first.val taken, left.length, p₂, ?_, ?_, ?_⟩
    · split
      · contradiction
      · exact absurd (Option.some.inj ‹some first.val = some 0›) positive
      · rename_i d notZero eq
        cases eq
        simp only [Cursor.ahead, collected, passed, Nat.zero_add]
    · intro none_left
      rw [List.eq_nil_of_length_eq_zero none_left, List.append_nil]
      rfl
    · intro fits
      rcases complete with rfl | tooLarge
      · rfl
      · exact absurd fits (Nat.not_le.2 tooLarge)

def NotInteger (result : Except Fault (Numeral × Cursor)) : Prop :=
  ∀ n c, result ≠ .ok (.integer n, c)

theorem NotInteger.error (fault : Fault) : NotInteger (.error fault) := by
  intro n c eq
  cases eq

theorem scaled_notInteger (negative : Bool) (significand : Nat) (exponent : Int) (c : Cursor) :
    NotInteger (scaled negative significand exponent c) := by
  intro n c' eq
  unfold scaled at eq
  split at eq <;> cases eq

theorem exponentPart_notInteger (negative : Bool) (significand : Nat) (start : Int) (c : Cursor) :
    NotInteger (exponentPart negative significand start c) := by
  unfold exponentPart
  simp only
  split
  · exact .error _
  · split
    · exact .error _
    · split
      · exact scaled_notInteger _ _ _ _
      · intro n c'' eq
        split at eq <;> cases eq

theorem afterDigits_notInteger (negative : Bool) (significand : Nat) (exponent : Int)
    (c : Cursor) : NotInteger (afterDigits negative significand exponent c) := by
  unfold afterDigits
  split
  · exact exponentPart_notInteger _ _ _ _
  · exact scaled_notInteger _ _ _ _

theorem fractionPart_notInteger (negative : Bool) (significand : Nat) (start : Int) (c : Cursor) :
    NotInteger (fractionPart negative significand start c) := by
  unfold fractionPart
  simp only
  split
  · exact afterDigits_notInteger _ _ _ _
  · split
    · split <;> exact .error _
    · exact afterDigits_notInteger _ _ _ _

theorem Exponent.bytes_head (e : Exponent) :
    ∃ rest, e.bytes = e.mark :: rest ∧ (e.mark = 0x65 ∨ e.mark = 0x45) :=
  ⟨e.sign.toList ++ e.digits.bytes, rfl, e.isMark⟩

theorem afterInteger_notInteger (n : Literal) (h : n.fraction ≠ none ∨ n.exponent ≠ none)
    (negative : Bool) (significand dropped : Nat) (rest : List UInt8) (p : Position) :
    NotInteger (afterInteger negative significand dropped ⟨n.tail ++ rest, p⟩) := by
  unfold afterInteger
  cases hf : n.fraction with
  | some ds =>
    have atPoint : Cursor.atPoint ⟨n.tail ++ rest, p⟩ = true := by
      simp only [Literal.tail, hf, Option.elim_some, List.cons_append]
      rfl
    rw [if_pos atPoint]
    exact fractionPart_notInteger _ _ _ _
  | none =>
    obtain ⟨e, he⟩ : ∃ e, n.exponent = some e := by
      rcases h with h | h
      · exact absurd hf h
      · exact Option.ne_none_iff_exists'.1 h
    obtain ⟨others, bytes, mark⟩ := e.bytes_head
    have tail : n.tail ++ rest = e.mark :: (others ++ rest) := by
      simp only [Literal.tail, hf, he, Option.elim_none, Option.elim_some, List.nil_append, bytes,
        List.cons_append]
    have notPoint : Cursor.atPoint ⟨n.tail ++ rest, p⟩ = false := by
      rw [tail]
      rcases mark with mark | mark <;> rw [mark] <;> rfl
    have atMark : Cursor.atMark ⟨n.tail ++ rest, p⟩ = true := by
      rw [tail]
      rcases mark with mark | mark <;> rw [mark] <;> rfl
    rw [notPoint, if_neg Bool.false_ne_true, if_pos atMark]
    exact exponentPart_notInteger _ _ _ _

theorem Literal.tail_noDigit (n : Literal) {rest : List UInt8} (h : Delimited rest) :
    NoDigit (n.tail ++ rest) := by
  unfold Literal.tail
  cases n.fraction with
  | some ds =>
    intro b head
    cases head
    decide
  | none =>
    cases n.exponent with
    | none => exact h.noDigit
    | some e =>
      obtain ⟨others, bytes, mark⟩ := e.bytes_head
      intro b head
      simp only [Option.elim_none, Option.elim_some, List.nil_append, bytes, List.cons_append]
        at head
      cases head
      rcases mark with mark | mark <;> rw [mark] <;> decide

theorem afterInteger_delimited {rest : List UInt8} (h : Delimited rest) (negative : Bool)
    (significand dropped : Nat) (p : Position) :
    afterInteger negative significand dropped ⟨rest, p⟩ =
      if dropped = 0 then .ok (wholeNumber negative significand, ⟨rest, p⟩)
      else scaled negative significand dropped ⟨rest, p⟩ := by
  unfold afterInteger
  rw [h.atPoint, h.atMark]
  rfl

theorem wholeNumber_eq_integer {n : Literal} (fraction : n.fraction = none)
    (exponent : n.exponent = none) {i : Int}
    (h : wholeNumber n.negative n.whole.value = .integer i) : n.integer? = some i := by
  unfold wholeNumber at h
  simp only [Literal.integer?, fraction, exponent]
  cases hn : n.negative with
  | false =>
    rw [hn] at h
    cases h
    rfl
  | true =>
    rw [hn] at h
    simp only [ite_true] at h
    split at h
    · cases h
    · rename_i inside
      cases h
      rw [if_pos rfl, if_neg (fun zero => inside (.inl zero))]

theorem Literal.integer?_eq_some {n : Literal} {i : Int} (h : n.integer? = some i) :
    n.fraction = none ∧ n.exponent = none ∧ n.whole.value = i.natAbs ∧
      (n.negative = true ↔ i < 0) := by
  unfold Literal.integer? at h
  split at h
  · rename_i fraction exponent
    refine ⟨fraction, exponent, ?_⟩
    split at h
    · rename_i negative
      split at h
      · cases h
      · cases h
        refine ⟨?_, ?_⟩
        · omega
        · simp only [negative, true_iff]
          omega
    · rename_i positive
      cases h
      refine ⟨?_, ?_⟩
      · omega
      · exact ⟨fun negative => absurd negative positive, fun below => by omega⟩
  · cases h

theorem integer?_of_numeral {n : Literal} {rest : List UInt8} (h : Delimited rest) {p : Position}
    {i : Int} {c : Cursor}
    (read : numeral n.negative ⟨n.whole.bytes ++ (n.tail ++ rest), p⟩ = .ok (.integer i, c)) :
    n.integer? = some i := by
  obtain ⟨significand, dropped, p', digits, exact_significand, _⟩ :=
    numeral_whole n.negative n.noLeadingZero (n.tail_noDigit h) p
  rw [digits] at read
  by_cases more : n.fraction ≠ none ∨ n.exponent ≠ none
  · exact absurd read (afterInteger_notInteger n more _ _ _ _ _ _ _)
  · have fraction : n.fraction = none := by
      by_contra some
      exact more (.inl some)
    have exponent : n.exponent = none := by
      by_contra some
      exact more (.inr some)
    have tail : n.tail = [] := by
      simp only [Literal.tail, fraction, exponent, Option.elim_none, List.append_nil]
    rw [tail, List.nil_append, afterInteger_delimited h] at read
    split at read
    · rename_i all
      rw [exact_significand all] at read
      have whole : wholeNumber n.negative n.whole.value = .integer i := by
        injection read with read
        injection read
      exact wholeNumber_eq_integer fraction exponent whole
    · exact absurd read (scaled_notInteger _ _ _ _ _ _)

theorem numeral_integer {n : Literal} {rest : List UInt8} (h : Delimited rest) (p : Position)
    {i : Int} (integer : n.integer? = some i) (lower : -2 ^ 63 ≤ i) (upper : i < 2 ^ 63) :
    ∃ p', numeral n.negative ⟨n.whole.bytes ++ (n.tail ++ rest), p⟩ =
      .ok (.integer i, ⟨rest, p'⟩) := by
  obtain ⟨fraction, exponent, value, sign⟩ := Literal.integer?_eq_some integer
  obtain ⟨significand, dropped, p', digits, exact_significand, fits⟩ :=
    numeral_whole n.negative n.noLeadingZero (n.tail_noDigit h) p
  have tail : n.tail = [] := by
    simp only [Literal.tail, fraction, exponent, Option.elim_none, List.append_nil]
  have none_dropped : dropped = 0 := by
    apply fits
    unfold significandLimit
    omega
  refine ⟨p', ?_⟩
  rw [digits, tail, List.nil_append, afterInteger_delimited h, if_pos none_dropped,
    exact_significand none_dropped]
  have whole : wholeNumber n.negative n.whole.value = .integer i := by
    unfold wholeNumber
    unfold Literal.integer? at integer
    simp only [fraction, exponent] at integer
    cases hn : n.negative with
    | false =>
      rw [hn] at integer
      simp only [Bool.false_eq_true, ite_false, Option.some.injEq] at integer
      simp only [Bool.false_eq_true, ite_false, integer]
    | true =>
      rw [hn] at integer
      simp only [ite_true] at integer
      split at integer
      · cases integer
      · rename_i notZero
        simp only [Option.some.injEq] at integer
        rw [if_pos rfl, if_neg (by omega), integer]
  rw [whole]

end Almanac.Json
