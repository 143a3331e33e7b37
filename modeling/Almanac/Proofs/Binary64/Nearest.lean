import Almanac.Proofs.Binary64.Exact
import Mathlib

set_option autoImplicit false

/-!
# Rounding gives the nearest number

Rounding takes the nearest multiple of the unit that is shifted so that the quotient has 53 bits
(`nearest_half`). Each number of the format is such a multiple or lies below the quotient by more
than the rounding does, so that none is nearer (`ofQuotient?_closest`), nor is one of the other sign
(`signed_closest`). In terms of rationals that is `IsRounded.isNearest`.
-/
namespace Almanac

/-- Rounding moves a quotient by a half at most, and by a half only to an even number. -/
theorem nearest_half (n : Nat) {d : Nat} (positive : 0 < d) :
    2 * ((nearest n d * d : Nat) - n : Int).natAbs ≤ d ∧
      (2 * ((nearest n d * d : Nat) - n : Int).natAbs = d → nearest n d % 2 = 0) := by
  have split := Nat.div_add_mod' n d
  have small := Nat.mod_lt n positive
  have next := Nat.succ_mul (n / d) d
  unfold nearest
  dsimp only
  split
  · omega
  · split
    · rw [next]
      omega
    · rcases Nat.mod_two_eq_zero_or_one (n / d) with even | odd
      · rw [even, Nat.add_zero]
        omega
      · rw [odd, next]
        omega

theorem nearest_closest (n : Nat) {d : Nat} (positive : 0 < d) {k : Nat} (other : k ≠ nearest n d) :
    ((nearest n d * d : Nat) - n : Int).natAbs ≤ ((k * d : Nat) - n : Int).natAbs ∧
      (((nearest n d * d : Nat) - n : Int).natAbs = ((k * d : Nat) - n : Int).natAbs →
        nearest n d % 2 = 0) := by
  have half := nearest_half n positive
  have apart : k * d + d ≤ nearest n d * d ∨ nearest n d * d + d ≤ k * d := by
    rw [← Nat.succ_mul, ← Nat.succ_mul]
    exact (Nat.lt_or_gt_of_ne other).imp (Nat.mul_le_mul_right d) (Nat.mul_le_mul_right d)
  omega

theorem shiftOf_le {n d k : Nat} (small : n / d < 2 ^ k) : shiftOf n d ≤ k - 53 := by
  unfold shiftOf
  by_cases zero : n / d = 0
  · rw [zero]
    exact Nat.zero_le _
  · have := (Nat.log2_lt zero).2 small
    omega

namespace Magnitude

variable {n d : Nat} {a : Magnitude}

theorem units_of_ofQuotient? (h : ofQuotient? n d = some a) :
    a.units = nearest n (d * 2 ^ shiftOf n d) * 2 ^ shiftOf n d ∧
      (nearest n (d * 2 ^ shiftOf n d) % 2 = 0 → a.significand % 2 = 0) := by
  unfold ofQuotient? at h
  dsimp only at h
  split at h
  · split at h
    · cases h
      exact ⟨rfl, id⟩
    · cases h
  · split at h
    · rename_i wide _
      cases h
      have bound := nearest_bounds n (d * 2 ^ shiftOf n d)
      have quotient := shifted_quotient_lt n d
      have full : nearest n (d * 2 ^ shiftOf n d) = 2 ^ 53 := by omega
      rw [full]
      refine ⟨?_, fun _ => show 2 ^ 52 % 2 = 0 by decide⟩
      change 2 ^ 52 * 2 ^ (shiftOf n d + 1) = 2 ^ 53 * 2 ^ shiftOf n d
      omega
    · cases h

theorem ofQuotient?_closest (positive : 0 < d) (h : ofQuotient? n d = some a) {b : Magnitude}
    (other : b.units ≠ a.units) :
    ((a.units * d : Nat) - n : Int).natAbs ≤ ((b.units * d : Nat) - n : Int).natAbs ∧
      (((a.units * d : Nat) - n : Int).natAbs = ((b.units * d : Nat) - n : Int).natAbs →
        a.significand % 2 = 0) := by
  obtain ⟨rounded, even⟩ := units_of_ofQuotient? h
  have normal := le_shifted_quotient n d
  generalize shiftOf n d = shift at rounded even normal
  have step : 0 < d * 2 ^ shift := Nat.mul_pos positive (Nat.two_pow_pos shift)
  have scaled (k : Nat) : k * 2 ^ shift * d = k * (d * 2 ^ shift) := by
    rw [Nat.mul_assoc, Nat.mul_comm d]
  rw [rounded, scaled]
  by_cases fine : shift ≤ b.exponent
  · -- a multiple of the shifted unit
    have multiple : b.units = b.significand * 2 ^ (b.exponent - shift) * 2 ^ shift := by
      rw [Nat.mul_assoc, ← Nat.pow_add, Nat.sub_add_cancel fine, units]
    rw [rounded, multiple] at other
    rw [multiple, scaled]
    have closest := nearest_closest n step (fun same => other (congrArg (· * 2 ^ shift) same))
    exact ⟨closest.1, even ∘ closest.2⟩
  · -- below the least significand that is not subnormal, which the quotient reaches
    have reached : 2 ^ 52 * (d * 2 ^ shift) ≤ n :=
      (Nat.le_div_iff_mul_le step).1 (normal (by omega))
    have low : b.units < 2 ^ 52 * 2 ^ shift := by
      have half : 2 * 2 ^ b.exponent ≤ 2 ^ shift := by
        rw [← Nat.pow_succ']
        exact Nat.pow_le_pow_right Nat.two_pos (by omega)
      have small : b.units < 2 ^ 53 * 2 ^ b.exponent :=
        Nat.mul_lt_mul_of_pos_right b.significand_lt (Nat.two_pow_pos _)
      omega
    have below : b.units * d < 2 ^ 52 * (d * 2 ^ shift) := by
      rw [← scaled]
      exact Nat.mul_lt_mul_of_pos_right low positive
    by_cases least : 2 ^ 52 = nearest n (d * 2 ^ shift)
    · rw [← least]
      omega
    · have closest := nearest_closest n step least
      omega

theorem ofQuotient?_of_small {k : Nat} (small : n / d < 2 ^ k) (fits : k ≤ 2097) :
    ∃ a, ofQuotient? n d = some a := by
  have shift : shiftOf n d + 1 ≤ 2045 := by
    have := shiftOf_le small
    omega
  unfold ofQuotient?
  dsimp only
  split
  · rw [dif_pos (Nat.le_of_succ_le shift)]
    exact ⟨_, rfl⟩
  · exact ⟨_, rfl⟩

theorem ofQuotient?_error (positive : 0 < d) (h : ofQuotient? n d = some a) :
    2 * ((a.units * d : Nat) - n : Int).natAbs ≤ d * 2 ^ shiftOf n d := by
  obtain ⟨rounded, -⟩ := units_of_ofQuotient? h
  rw [rounded, Nat.mul_assoc, Nat.mul_comm _ d]
  exact (nearest_half n (Nat.mul_pos positive (Nat.two_pow_pos _))).1

end Magnitude

namespace Binary64

def signed (negative : Bool) (n : Nat) : Int := if negative then -(n : Int) else n

theorem signed_apart (s : Bool) (m n d : Nat) :
    (signed s m * d - signed s n).natAbs = ((m * d : Nat) - n : Int).natAbs := by
  cases s
  · simp [signed]
  · simp only [signed, ite_true, Int.natCast_mul, Int.neg_mul]
    omega

theorem signedUnits_eq (s : Bool) (a : Magnitude) : signedUnits s a = signed s a.units := rfl

theorem signed_closest {n d : Nat} {a : Magnitude} (positive : 0 < d)
    (h : Magnitude.ofQuotient? n d = some a) (s t : Bool) {b : Magnitude}
    (other : signedUnits t b ≠ signedUnits s a) :
    (signedUnits s a * d - signed s n).natAbs ≤ (signedUnits t b * d - signed s n).natAbs ∧
      ((signedUnits s a * d - signed s n).natAbs = (signedUnits t b * d - signed s n).natAbs →
        a.significand % 2 = 0) := by
  simp only [signedUnits_eq] at other ⊢
  by_cases same : t = s
  · subst same
    rw [signed_apart, signed_apart]
    exact Magnitude.ofQuotient?_closest positive h (fun units => other (congrArg _ units))
  · -- zero lies between, and is no nearer
    have across : (signed t b.units * d - signed s n).natAbs = b.units * d + n := by
      cases s <;> cases t <;> simp_all [signed] <;> omega
    rw [across, signed_apart]
    by_cases zero : a.units = 0
    · have positive' : 0 < b.units * d := by
        apply Nat.mul_pos _ positive
        apply Nat.pos_of_ne_zero
        intro zero'
        exact other (by rw [zero, zero']; cases s <;> cases t <;> rfl)
      rw [zero]
      omega
    · have none : Magnitude.zero.units = 0 := rfl
      have closest := Magnitude.ofQuotient?_closest positive h (none.trans_ne (Ne.symm zero))
      rw [none, Nat.zero_mul] at closest
      omega

def value? : Binary64 → Option ℚ
  | finite s a => some (signedUnits s a / 2 ^ unitExponent)
  | _ => none

/-- Whether no number of the format is nearer to a rational, and one of another value is as near
only if the significand is even. -/
def IsNearest (x : Binary64) (q : ℚ) : Prop :=
  ∃ s a v, x = finite s a ∧ x.value? = some v ∧ ∀ (y : Binary64) w, y.value? = some w → w ≠ v →
    |v - q| ≤ |w - q| ∧ (|v - q| = |w - q| → a.significand % 2 = 0)

def Less (x y : Binary64) : Prop := ∃ v w, x.value? = some v ∧ y.value? = some w ∧ v < w

section Rounded

variable {s : Bool} {n d : Nat} {a : Magnitude} (positive : 0 < d)
  (h : Magnitude.ofQuotient? n d = some a)
include positive

theorem abs_sub_eq (i j : Int) :
    |(i : ℚ) / 2 ^ unitExponent - j / (d * 2 ^ unitExponent)| =
      (i * d - j).natAbs / (d * 2 ^ unitExponent) := by
  have nonzero : (d : ℚ) ≠ 0 := by positivity
  have units : (0 : ℚ) < 2 ^ unitExponent := by positivity
  have common : (i : ℚ) / 2 ^ unitExponent - j / (d * 2 ^ unitExponent) =
      ((i * d - j : Int) : ℚ) / (d * 2 ^ unitExponent) := by
    push_cast
    field_simp
  rw [common, abs_div, Nat.cast_natAbs, Int.cast_abs, abs_of_pos (a := (d : ℚ) * _) (by positivity)]

include h

theorem finite_isNearest : (finite s a).IsNearest (signed s n / (d * 2 ^ unitExponent)) := by
  refine ⟨s, a, _, rfl, rfl, ?_⟩
  intro y w value other
  cases y with
  | finite t b =>
    cases value
    have apart : signedUnits t b ≠ signedUnits s a := fun same => other (by rw [same])
    have closest := signed_closest positive h s t apart
    have scale : (0 : ℚ) < d * 2 ^ unitExponent := by positivity
    rw [abs_sub_eq positive, abs_sub_eq positive, div_le_div_iff_of_pos_right scale, Nat.cast_le,
      div_left_inj' scale.ne', Nat.cast_inj]
    exact closest
  | infinite _ => cases value
  | nan => cases value

theorem finite_error {v : ℚ} (value : (finite s a).value? = some v) :
    |v - signed s n / (d * 2 ^ unitExponent)| ≤ 2 ^ shiftOf n d / (2 * 2 ^ unitExponent) := by
  cases value
  have error := Magnitude.ofQuotient?_error positive h
  rw [← signed_apart s] at error
  have scale : (0 : ℚ) < 2 ^ unitExponent := by positivity
  have positive' : (0 : ℚ) < d := by positivity
  have error' : (2 * (signedUnits s a * d - signed s n).natAbs : ℚ) ≤ d * 2 ^ shiftOf n d := by
    exact_mod_cast error
  rw [abs_sub_eq positive, div_le_div_iff₀ (by positivity) (by positivity)]
  calc _ = 2 * ((signedUnits s a * d - signed s n).natAbs : ℚ) * 2 ^ unitExponent := by ring
    _ ≤ d * 2 ^ shiftOf n d * 2 ^ unitExponent := mul_le_mul_of_nonneg_right error' scale.le
    _ = _ := by ring

end Rounded

/-- Whether a number is what a rational is rounded to whose size is less than `2 ^ k`. -/
def IsRounded (x : Binary64) (q : ℚ) (k : Nat) : Prop :=
  ∃ s a n d, 0 < d ∧ Magnitude.ofQuotient? n d = some a ∧ x = finite s a ∧
    q = signed s n / (d * 2 ^ unitExponent) ∧ n / d < 2 ^ (k + unitExponent)

section Rounded

variable {x : Binary64} {q : ℚ} {k : Nat} (h : x.IsRounded q k)
include h

theorem IsRounded.isNearest : x.IsNearest q := by
  obtain ⟨s, a, n, d, positive, rounded, rfl, rfl, -⟩ := h
  exact finite_isNearest positive rounded

/-- The error is half a unit of the last place at most. -/
theorem IsRounded.error {v : ℚ} (value : x.value? = some v) : |v - q| ≤ 2 ^ k / 2 ^ 54 := by
  obtain ⟨s, a, n, d, positive, rounded, rfl, rfl, size⟩ := h
  have shift : shiftOf n d + 54 ≤ k + (unitExponent + 1) := by
    have := shiftOf_le size
    unfold unitExponent at this ⊢
    omega
  refine (finite_error positive rounded value).trans ?_
  rw [div_le_div_iff₀ (by positivity) (by positivity), ← pow_succ', ← pow_add, ← pow_add]
  exact pow_le_pow_right₀ one_le_two shift

end Rounded

end Binary64

end Almanac
