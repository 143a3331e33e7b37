import Almanac.Binary64.Basic

set_option autoImplicit false

namespace Almanac

theorem nearest_mul (m : Nat) {d : Nat} (h : 0 < d) : nearest (m * d) d = m := by
  simp [nearest, Nat.mul_div_cancel _ h, h]

namespace Magnitude

theorem log2_units (a : Magnitude) : Nat.log2 a.units - 52 = a.exponent := by
  unfold units
  have small := a.significand_lt
  rcases a.normal with subnormal | normal
  · rw [subnormal, Nat.pow_zero, Nat.mul_one]
    by_cases zero : a.significand = 0
    · simp [zero]
    · have := (Nat.log2_lt zero).2 small
      omega
  · have positive : a.significand * 2 ^ a.exponent ≠ 0 := by
      have := Nat.two_pow_pos a.exponent
      exact Nat.mul_ne_zero (by omega) (by omega)
    have log : Nat.log2 (a.significand * 2 ^ a.exponent) = 52 + a.exponent := by
      rw [Nat.log2_eq_iff positive]
      constructor
      · rw [Nat.pow_add]
        exact Nat.mul_le_mul_right _ normal
      · have : 52 + a.exponent + 1 = 53 + a.exponent := by omega
        rw [this, Nat.pow_add]
        exact Nat.mul_lt_mul_of_pos_right small (Nat.two_pow_pos _)
    omega

theorem ofQuotient?_units (a : Magnitude) {d : Nat} (h : 0 < d) :
    ofQuotient? (a.units * d) d = some a := by
  have shift : shiftOf (a.units * d) d = a.exponent := by
    rw [shiftOf, Nat.mul_div_cancel _ h, log2_units]
  have rounded : nearest (a.units * d) (d * 2 ^ a.exponent) = a.significand := by
    rw [units, Nat.mul_assoc, Nat.mul_comm (2 ^ a.exponent) d]
    exact nearest_mul _ (Nat.mul_pos h (Nat.two_pow_pos _))
  simp only [ofQuotient?, shift, rounded, dif_pos a.significand_lt, dif_pos a.exponent_le]

theorem units_eq_zero {a : Magnitude} : a.units = 0 ↔ a.significand = 0 := by
  have := Nat.two_pow_pos a.exponent
  rw [units, Nat.mul_eq_zero]
  omega

theorem exists_units {n : Nat} (h : n < 2 ^ 53) :
    ∃ a : Magnitude, a.units = n * 2 ^ unitExponent := by
  by_cases zero : n = 0
  · exact ⟨Magnitude.zero, by simp [zero, units, Magnitude.zero]⟩
  · -- the significand is shifted up to its full 53 bits
    have log : Nat.log2 n < 53 := (Nat.log2_lt zero).2 h
    have upper : n * 2 ^ (52 - Nat.log2 n) < 2 ^ 53 := by
      have split : (2 : Nat) ^ 53 = 2 ^ (Nat.log2 n + 1) * 2 ^ (52 - Nat.log2 n) := by
        rw [← Nat.pow_add]
        congr 1
        omega
      rw [split]
      exact Nat.mul_lt_mul_of_pos_right Nat.lt_log2_self (Nat.two_pow_pos _)
    have lower : 2 ^ 52 ≤ n * 2 ^ (52 - Nat.log2 n) := by
      have split : (2 : Nat) ^ 52 = 2 ^ Nat.log2 n * 2 ^ (52 - Nat.log2 n) := by
        rw [← Nat.pow_add]
        congr 1
        omega
      rw [split]
      exact Nat.mul_le_mul_right _ (Nat.log2_self_le zero)
    refine ⟨⟨n * 2 ^ (52 - Nat.log2 n), 1022 + Nat.log2 n, upper, by omega, .inr lower⟩, ?_⟩
    have shifts : 52 - Nat.log2 n + (1022 + Nat.log2 n) = unitExponent := by
      unfold unitExponent
      omega
    rw [units, Nat.mul_assoc, ← Nat.pow_add, shifts]

end Magnitude

namespace Binary64

theorem roundQuotient_units (s : Bool) (a : Magnitude) {d : Nat} (h : 0 < d) :
    roundQuotient s (a.units * d) d = finite s a := by
  have same := a.ofQuotient?_units h
  unfold roundQuotient
  rw [same]

theorem roundQuotient_whole (s : Bool) {a : Magnitude} {n : Nat}
    (h : a.units = n * 2 ^ unitExponent) :
    roundQuotient s (n * 2 ^ unitExponent) 1 = finite s a := by
  have rounded := roundQuotient_units s a Nat.one_pos
  rw [Nat.mul_one a.units, h] at rounded
  exact rounded

/-- Whether a number is equal to an integer; both zeros are equal to zero. -/
def HasValue (x : Binary64) (i : Int) : Prop :=
  ∃ s a, x = finite s a ∧ signedUnits s a = i * (2 ^ unitExponent : Nat)

theorem ofInt_hasValue {i : Int} (h : i.natAbs < 2 ^ 53) : (ofInt i).HasValue i := by
  obtain ⟨a, units⟩ := Magnitude.exists_units h
  refine ⟨decide (i < 0), a, roundQuotient_whole _ units, ?_⟩
  unfold signedUnits
  rw [units]
  by_cases below : i < 0
  · simp only [below, decide_true, ite_true, Int.natCast_mul, Int.ofNat_natAbs_of_nonpos
      (Int.le_of_lt below), Int.neg_mul, Int.neg_neg]
  · simp only [below, decide_false, Bool.false_eq_true, ite_false, Int.natCast_mul,
      Int.natAbs_of_nonneg (Int.not_lt.1 below)]

theorem HasValue.units {x : Binary64} {i : Int} (h : x.HasValue i) :
    ∃ s a, x = finite s a ∧ a.units = i.natAbs * 2 ^ unitExponent := by
  obtain ⟨s, a, rfl, value⟩ := h
  refine ⟨s, a, rfl, ?_⟩
  have same : (signedUnits s a).natAbs = a.units := by
    cases s <;> simp [signedUnits]
  rw [← same, value, Int.natAbs_mul, Int.natAbs_natCast]

theorem ofNat_div_ofNat {n d : Nat} (hn : n * d < 2 ^ 53) (hd : d < 2 ^ 53) (positive : 0 < d)
    {a : Magnitude} (h : a.units = n * 2 ^ unitExponent) :
    ofNat (n * d) / ofNat d = finite false a := by
  obtain ⟨b, product⟩ := Magnitude.exists_units hn
  obtain ⟨c, divisor⟩ := Magnitude.exists_units hd
  have pow := Nat.two_pow_pos unitExponent
  have nonzero : c.units ≠ 0 := by
    rw [divisor]
    exact Nat.mul_ne_zero (by omega) (by omega)
  have quotient : b.units * 2 ^ unitExponent = a.units * c.units := by
    rw [product, divisor, h, Nat.mul_mul_mul_comm, Nat.mul_assoc (n * d)]
  rw [ofNat, ofNat, roundQuotient_whole false product, roundQuotient_whole false divisor]
  change (if c.significand = 0 then _ else _) = _
  rw [if_neg (mt Magnitude.units_eq_zero.2 nonzero), quotient]
  exact roundQuotient_units _ a (Nat.pos_of_ne_zero nonzero)

end Binary64

end Almanac
