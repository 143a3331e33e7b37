import Almanac.Proofs.Binary64.Whole
import Almanac.Proofs.Json.Recovering

set_option autoImplicit false

namespace Almanac

namespace Decimal

def places (x : Decimal) : Nat := max 1 (-x.power).toNat

def collected (x : Decimal) : Nat := x.digits * 10 ^ (x.power + x.places).toNat

/-- Whether a decimal is written with the point behind one of its digits or the zeros after them. -/
structure Plain (x : Decimal) : Prop where
  canonical : x.digits = 0 → x.power = 0
  positive : 0 < digitCount x.digits + x.power
  le_sixteen : digitCount x.digits + x.power ≤ 16
  collectable : x.collected ≤ Json.significandLimit

instance (x : Decimal) : Decidable x.Plain :=
  decidable_of_iff ((x.digits = 0 → x.power = 0) ∧ 0 < digitCount x.digits + x.power ∧
      digitCount x.digits + x.power ≤ 16 ∧ x.collected ≤ Json.significandLimit)
    ⟨fun ⟨h₁, h₂, h₃, h₄⟩ => ⟨h₁, h₂, h₃, h₄⟩, fun ⟨h₁, h₂, h₃, h₄⟩ => ⟨h₁, h₂, h₃, h₄⟩⟩

end Decimal

def Binary64.reread? : Binary64 → Option Binary64
  | finite s a =>
    if a.shortest.Plain then
      (Json.scale (.ofNat a.shortest.collected) (-a.shortest.places)).map (Json.signed s)
    else none
  | _ => none

def digitChar (d : Fin 10) : Char := Nat.digitChar d.val

theorem exists_digits {cs : List Char} (h : ∀ c ∈ cs, c.isDigit = true) :
    ∃ ds : List (Fin 10), cs = ds.map digitChar := by
  induction cs with
  | nil => exact ⟨[], rfl⟩
  | cons c cs ih =>
    obtain ⟨ds, rfl⟩ := ih fun c mem => h c (List.mem_cons_of_mem _ mem)
    have digit := h c List.mem_cons_self
    simp only [Char.isDigit, Bool.and_eq_true, decide_eq_true_eq, UInt32.le_iff_toNat_le] at digit
    have bounds : 48 ≤ c.toNat ∧ c.toNat ≤ 57 := digit
    have codes : ∀ d : Fin 10, (digitChar d).toNat = 48 + d.val := by decide
    refine ⟨⟨c.toNat - 48, by omega⟩ :: ds, ?_⟩
    rw [List.map_cons]
    congr 1
    apply Char.toNat_inj.1
    rw [codes]
    simp only
    omega

theorem toDigits_head {n : Nat} (h : n ≠ 0) : (Nat.toDigits 10 n).head? ≠ some '0' := by
  induction n using Nat.strongRecOn with
  | _ n ih =>
    rw [Nat.toDigits_eq_if (by omega)]
    split
    · have digits : ∀ n < 10, n ≠ 0 → [Nat.digitChar n].head? ≠ some '0' := by decide
      exact digits n ‹n < 10› h
    · rw [List.head?_append_of_ne_nil _ Nat.toDigits_ne_nil]
      exact ih (n / 10) (by omega) (by omega)

namespace Json

open Ascii

theorem encode_digits (ds : List (Fin 10)) :
    (ds.map digitChar).flatMap String.utf8EncodeChar = ds.map digitByte := by
  have each : ∀ d : Fin 10, String.utf8EncodeChar (digitChar d) = [digitByte d] := by decide
  induction ds with
  | nil => rfl
  | cons d ds ih => rw [List.map_cons, List.flatMap_cons, ih, each]; rfl

theorem appended_eq (n : Nat) (ds : List (Fin 10)) :
    appended n ds = Nat.ofDigitChars 10 (ds.map digitChar) n := by
  have each : ∀ d : Fin 10, (digitChar d).toNat - '0'.toNat = d.val := by decide
  induction ds generalizing n with
  | nil => rfl
  | cons d ds ih =>
    rw [List.map_cons, Nat.ofDigitChars_cons, each]
    exact ih _

def Digits.toList (ds : Digits) : List (Fin 10) := ds.first :: ds.rest

theorem numeral_fraction (negative : Bool) {whole fraction : Digits}
    (noLeadingZero : whole.first = 0 → whole.rest = [])
    (fits : appended 0 (whole.toList ++ fraction.toList) ≤ significandLimit) {rest : List UInt8}
    (h : Delimited rest) (p : Position) :
    ∃ p', numeral negative ⟨whole.bytes ++ (point :: fraction.bytes ++ rest), p⟩ =
      scaled negative (appended 0 (whole.toList ++ fraction.toList))
        (-(fraction.toList.length : Nat)) ⟨rest, p'⟩ := by
  have split : appended 0 (whole.toList ++ fraction.toList) =
      appended whole.value fraction.toList := by
    simp [appended, Digits.value, Digits.toList]
  rw [split] at fits ⊢
  have noDigit : NoDigit (point :: fraction.bytes ++ rest) := by
    intro b head
    cases head
    decide
  obtain ⟨significand, dropped, p₁, digits, exact_significand, all⟩ :=
    numeral_whole negative noLeadingZero noDigit p
  have none_dropped := all (Nat.le_trans (le_appended _ _) fits)
  rw [digits, none_dropped, exact_significand none_dropped]
  -- the digits after the point are appended to those before it, and as all fit none is left
  obtain ⟨taken, left, p₂, eq, collected, complete⟩ :=
    collectDigits_digits fraction.toList h.noDigit (p₁.after point) whole.value 0
  have none_left : left = [] := complete.resolve_right (Nat.not_lt.2 fits)
  subst none_left
  rw [List.append_nil] at eq
  subst eq
  refine ⟨p₂, ?_⟩
  have atPoint : Cursor.atPoint ⟨point :: fraction.bytes ++ rest, p₁⟩ = true := rfl
  have bytes : fraction.bytes = fraction.toList.map digitByte := rfl
  have some_digit : fraction.toList.length ≠ 0 := Nat.succ_ne_zero _
  rw [afterInteger, if_pos atPoint, fractionPart]
  simp only [Cursor.next, List.cons_append, bytes, collected, List.map_nil, List.nil_append,
    h.noDigit.atDigit, Bool.false_eq_true, ite_false, if_neg some_digit, afterDigits, h.atMark,
    Nat.zero_add, Int.natCast_zero, Int.zero_sub]

end Json

open Json

namespace Decimal

theorem exists_digits_of (x : Decimal) : ∃ d ds, Nat.toDigits 10 x.digits =
      (d :: ds).map digitChar ∧ appended 0 (d :: ds) = x.digits ∧
      (d = 0 → x.digits = 0) ∧ (x.digits = 0 → ds = []) := by
  obtain ⟨ds, eq⟩ := exists_digits fun c mem =>
    Nat.isDigit_of_mem_toDigits (b := 10) (n := x.digits) (by omega) (by omega) mem
  cases ds with
  | nil => exact absurd eq Nat.toDigits_ne_nil
  | cons d ds =>
    refine ⟨d, ds, eq, ?_, ?_, ?_⟩
    · rw [appended_eq, ← eq, Nat.ofDigitChars_ten_toDigits]
    · rintro rfl
      by_contra nonzero
      apply toDigits_head nonzero
      rw [eq]
      rfl
    · intro zero
      rw [zero] at eq
      have length := congrArg List.length eq
      simpa using length.symm

structure Parts (x : Decimal) (whole fraction : Digits) : Prop where
  noLeadingZero : whole.first = 0 → whole.rest = []
  text : Layout.positional (Nat.toDigits 10 x.digits) (digitCount x.digits + x.power) =
    whole.toList.map digitChar ++ '.' :: fraction.toList.map digitChar
  value : appended 0 (whole.toList ++ fraction.toList) = x.collected
  places : fraction.toList.length = x.places

theorem Plain.parts_of_whole {x : Decimal} (h : x.Plain) (whole : 0 ≤ x.power) :
    ∃ whole fraction, x.Parts whole fraction := by
  obtain ⟨d, ds, eq, value, leading, single⟩ := x.exists_digits_of
  obtain ⟨j, power⟩ := Int.eq_ofNat_of_zero_le whole
  have length : (Nat.toDigits 10 x.digits).length = ds.length + 1 := by
    rw [eq, List.length_map, List.length_cons]
  have zero : digitChar 0 = '0' := by decide
  refine ⟨⟨d, ds ++ List.replicate j 0⟩, ⟨0, []⟩, ?_, ?_, ?_, ?_⟩
  · intro first
    have none := h.canonical (leading first)
    have j_zero : j = 0 := by omega
    simp [single (leading first), j_zero]
  · have zeros : ((digitCount x.digits : Int) + x.power).toNat - (ds.length + 1) = j := by
      unfold digitCount
      omega
    rw [Layout.positional, length, if_pos (by unfold digitCount; omega), zeros, eq]
    simp [Digits.toList, zero]
  · have exponent : (x.power + x.places).toNat = j + 1 := by
      simp [Decimal.places, power]
    have zeros : (Digits.toList ⟨d, ds ++ List.replicate j 0⟩) ++ Digits.toList ⟨0, []⟩ =
        d :: ds ++ List.replicate (j + 1) 0 := by
      simp [Digits.toList, List.replicate_succ']
    rw [zeros, appended_eq, List.map_append, List.map_replicate, zero, Nat.ofDigitChars_append,
      Nat.ofDigitChars_replicate_zero, ← appended_eq, value, collected, exponent, Nat.mul_comm]
  · simp [Digits.toList, Decimal.places, power]

theorem Plain.parts_of_fraction {x : Decimal} (h : x.Plain) (fraction : x.power < 0) :
    ∃ whole fraction, x.Parts whole fraction := by
  obtain ⟨d, ds, eq, value, leading, _⟩ := x.exists_digits_of
  have positive := h.positive
  have length : (Nat.toDigits 10 x.digits).length = ds.length + 1 := by
    rw [eq, List.length_map, List.length_cons]
  have nonzero : x.digits ≠ 0 := fun zero => Int.ne_of_lt fraction (h.canonical zero)
  obtain ⟨t, before⟩ : ∃ t : Nat, (digitCount x.digits : Int) + x.power = t + 1 :=
    ⟨(digitCount x.digits + x.power - 1).toNat, by omega⟩
  have places : x.places = ds.length - t := by
    unfold digitCount at before
    simp [Decimal.places]
    omega
  have left : ds.drop t ≠ [] := by
    rw [Ne, List.drop_eq_nil_iff]
    unfold digitCount at before
    omega
  obtain ⟨first, rest, drop⟩ := List.exists_cons_of_ne_nil left
  refine ⟨⟨d, ds.take t⟩, ⟨first, rest⟩, ?_, ?_, ?_, ?_⟩
  · exact fun zero => absurd (leading zero) nonzero
  · have above : ¬ ((ds.length + 1 : Nat) : Int) ≤ digitCount x.digits + x.power := by
      unfold digitCount
      omega
    have point : ((digitCount x.digits : Int) + x.power).toNat = t + 1 := by omega
    rw [Layout.positional, length, if_neg above, if_pos positive, point, eq, Digits.toList,
      Digits.toList, ← drop]
    simp
  · have all : Digits.toList ⟨d, ds.take t⟩ ++ Digits.toList ⟨first, rest⟩ = d :: ds := by
      rw [Digits.toList, Digits.toList, ← drop, List.cons_append, List.take_append_drop]
    have exponent : (x.power + x.places).toNat = 0 := by
      unfold digitCount at before
      omega
    rw [all, value, collected, exponent, Nat.pow_zero, Nat.mul_one]
  · rw [Digits.toList, ← drop, List.length_drop, places]

theorem Plain.parts {x : Decimal} (h : x.Plain) : ∃ whole fraction, x.Parts whole fraction := by
  by_cases whole : 0 ≤ x.power
  · exact h.parts_of_whole whole
  · exact h.parts_of_fraction (Int.not_le.1 whole)

theorem Plain.decimal_text {x : Decimal} (h : x.Plain) : Json.layout.decimal x =
    Layout.positional (Nat.toDigits 10 x.digits) (digitCount x.digits + x.power) := by
  have positive := h.positive
  have le_sixteen := h.le_sixteen
  unfold digitCount at positive le_sixteen ⊢
  have exponent : ((Nat.toDigits 10 x.digits).length : Int) - 1 + x.power + 1 =
      (Nat.toDigits 10 x.digits).length + x.power := by omega
  rw [Layout.decimal, if_pos ⟨by simp [layout]; omega, by simp [layout]; omega⟩, exponent]

end Decimal

namespace Json

open Ascii

theorem bytes_number {s : Bool} {a : Magnitude} (h : a.shortest.Plain) {whole fraction : Digits}
    (parts : a.shortest.Parts whole fraction) : (number (.finite s a)).bytes =
      (if s then [minus] else []) ++ (whole.bytes ++ point :: fraction.bytes) := by
  have dot : String.utf8EncodeChar '.' = [point] := by decide
  have hyphen : String.utf8EncodeChar '-' = [minus] := by decide
  rw [bytes, Json.text, numberText, Layout.binary64?, Option.getD_some, Utf8.encode_ofList,
    h.decimal_text, parts.text, List.flatMap_append, List.flatMap_append, List.flatMap_cons,
    encode_digits, encode_digits, dot]
  cases s with
  | true => simp [hyphen, Digits.bytes, Digits.toList]
  | false => simp [Digits.bytes, Digits.toList]

def fitBinary64 : Numeral × Cursor → Except Fault (Binary64 × Cursor)
  | (.integer n, c) => .ok (.ofInt n, c)
  | (.number x, c) => .ok (x, c)

theorem binary64_eq (c : Cursor) : Reader.binary64 c =
    if c.skipBlanks.rest.head? = some minus then numeral true c.skipBlanks.next >>= fitBinary64
    else if c.skipBlanks.atDigit then numeral false c.skipBlanks >>= fitBinary64
    else .error (otherThan "f64" c.skipBlanks) := by
  unfold Reader.binary64
  apply numeric_eq
  rintro (n | x) c <;> rfl

theorem binary64_literal (negative : Bool) (whole : Digits) (rest : List UInt8) (p : Position) :
    ∃ p', Reader.binary64 ⟨(if negative then [minus] else []) ++ (whole.bytes ++ rest), p⟩ =
      numeral negative ⟨whole.bytes ++ rest, p'⟩ >>= fitBinary64 := by
  rw [binary64_eq]
  cases negative with
  | true => exact ⟨p.after minus, rfl⟩
  | false =>
    refine ⟨p, ?_⟩
    have digit : ∀ d : Fin 10, isSpace (digitByte d) = false ∧
        ¬ some (digitByte d) = some minus ∧ (digit? (digitByte d)).isSome = true := by decide
    obtain ⟨token, notMinus, isDigit⟩ := digit whole.first
    have skipped : Cursor.skipBlanks ⟨whole.bytes ++ rest, p⟩ = ⟨whole.bytes ++ rest, p⟩ := by
      change (if isSpace (digitByte whole.first) = true then _ else _) = _
      rw [token]
      rfl
    rw [if_neg Bool.false_ne_true, List.nil_append, skipped]
    exact (if_neg notMinus).trans (if_pos isDigit)

theorem binary64_recovers {x y : Binary64} (h : x.reread? = some y) :
    Reader.binary64.Recovers (.number x) y := by
  intro rest delimited p
  unfold Binary64.reread? at h
  split at h
  · rename_i s a
    split at h
    · rename_i plain
      obtain ⟨z, scaled_eq, rfl⟩ := Option.map_eq_some_iff.1 h
      obtain ⟨whole, fraction, parts⟩ := plain.parts
      have fits := plain.collectable
      rw [← parts.value] at fits
      obtain ⟨p₁, start⟩ := binary64_literal s whole (point :: fraction.bytes ++ rest) p
      obtain ⟨p₂, digits⟩ := numeral_fraction s parts.noLeadingZero fits delimited p₁
      refine ⟨p₂, ?_⟩
      rw [bytes_number plain parts, List.append_assoc, List.append_assoc, start, digits,
        parts.value, parts.places, scaled, scaled_eq]
      rfl
    · cases h
  · cases h

end Json

section Whole

variable {a : Magnitude} {n : Nat}

theorem digitCount_add_le {k j m : Nat} (positive : 0 < k) (h : k * 10 ^ j < 10 ^ m) :
    digitCount k + j ≤ m := by
  have shorter : j < m := by
    rw [← Nat.pow_lt_pow_iff_right (show 1 < 10 by omega)]
    exact Nat.lt_of_le_of_lt (Nat.le_mul_of_pos_left _ positive) h
  have digits : k < 10 ^ (m - j) := by
    have split : 10 ^ m = 10 ^ (m - j) * 10 ^ j := by
      rw [← Nat.pow_add, Nat.sub_add_cancel (by omega)]
    rw [split] at h
    exact Nat.lt_of_mul_lt_mul_right h
  have := (Nat.length_toDigits_le_iff (b := 10) (by omega) (by omega)).2 digits
  unfold digitCount
  omega

theorem shortest_plain (units : a.units = n * 2 ^ unitExponent) (h : n * 10 < 2 ^ 53) :
    a.shortest.Plain ∧ a.shortest.collected = n * 10 ∧ a.shortest.places = 1 := by
  obtain ⟨j, power, value⟩ := Magnitude.shortest_isWhole units (by omega)
  have places : a.shortest.places = 1 := by
    simp [Decimal.places, power]
  have collected : a.shortest.collected = n * 10 := by
    have exponent : (a.shortest.power + a.shortest.places).toNat = j + 1 := by omega
    rw [Decimal.collected, exponent, Nat.pow_succ, ← Nat.mul_assoc, value]
  have canonical : a.shortest.digits = 0 → a.shortest.power = 0 := by
    intro zero
    have none : a.units = 0 := by
      rw [units, ← value, zero, Nat.zero_mul, Nat.zero_mul]
    rw [Magnitude.shortest, if_pos (Magnitude.units_eq_zero.1 none)]
  refine ⟨⟨canonical, ?_, ?_, ?_⟩, collected, places⟩
  · have : 0 < digitCount a.shortest.digits := Nat.length_toDigits_pos
    omega
  · by_cases zero : a.shortest.digits = 0
    · rw [zero, canonical zero]
      decide
    · have := digitCount_add_le (m := 16) (Nat.pos_of_ne_zero zero) (by rw [value]; omega)
      omega
  · rw [collected, significandLimit]
    omega

/-- Integers are read as they were written, with the sign that a zero has. -/
theorem Binary64.HasValue.reread {x : Binary64} {i : Int} (h : x.HasValue i)
    (small : i.natAbs * 10 < 2 ^ 53) : x.reread? = some x := by
  obtain ⟨s, a, rfl, units⟩ := h.units
  obtain ⟨plain, collected, places⟩ := shortest_plain units small
  have quotient := Binary64.ofNat_div_ofNat small (by omega) (by omega) units
  have scaled : Json.scale (.ofNat (i.natAbs * 10)) (-(1 : Nat)) = some (.finite false a) := by
    rw [← quotient]
    rfl
  rw [Binary64.reread?, if_pos plain, collected, places, scaled]
  cases s <;> rfl

end Whole

end Almanac
