import Almanac.Proofs.Binary64.Nearest

set_option autoImplicit false

namespace Almanac.Binary64

theorem signed_natAbs (s : Bool) (n : Nat) : (signed s n).natAbs = n := by
  cases s <;> simp [signed]

theorem signed_scale (s : Bool) (m n : Nat) : signed s (m * n) = signed s m * n := by
  cases s <;> simp [signed]

theorem units_of_signedUnits {s : Bool} {a : Magnitude} {i : Int}
    (h : signedUnits s a = i * (2 ^ unitExponent : Nat)) :
    a.units = i.natAbs * 2 ^ unitExponent := by
  rw [← signed_natAbs s a.units, ← signedUnits_eq, h, Int.natAbs_mul, Int.natAbs_natCast]

theorem signedUnits_zero (s : Bool) : signedUnits s .zero = 0 := by cases s <;> rfl

theorem ofNat_hasValue {n : Nat} (h : n < 2 ^ 53) : (ofNat n).HasValue n := by
  obtain ⟨a, units⟩ := Magnitude.exists_units h
  refine ⟨false, a, roundQuotient_whole false units, ?_⟩
  rw [signedUnits_eq, units, signed_scale]
  rfl

theorem HasValue.value? {x : Binary64} {i : Int} (h : x.HasValue i) : x.value? = some (i : ℚ) := by
  obtain ⟨s, a, rfl, units⟩ := h
  have nonzero : (2 : ℚ) ^ unitExponent ≠ 0 := by positivity
  rw [Binary64.value?, units, Int.cast_mul, Int.cast_natCast, Nat.cast_pow, Nat.cast_ofNat,
    mul_div_cancel_right₀ _ nonzero]

theorem signed_mul (s t : Bool) (m n : Nat) :
    signed (s != t) (m * n) = signed s m * signed t n := by
  cases s <;> cases t <;> simp [signed]

theorem signed_div (s t : Bool) (m n : Nat) :
    (signed (s != t) m : ℚ) / n = signed s m / signed t n := by
  cases s <;> cases t <;> simp [signed, neg_div, div_neg]

theorem roundQuotient_finite (s : Bool) {n d : Nat} {a : Magnitude}
    (h : Magnitude.ofQuotient? n d = some a) : roundQuotient s n d = finite s a := by
  unfold roundQuotient
  rw [h]

theorem finite_mul_finite (s t : Bool) (a b : Magnitude) :
    finite s a * finite t b = roundQuotient (s != t) (a.units * b.units) (2 ^ unitExponent) := by
  change mul _ _ = _
  rw [mul]

theorem finite_div_finite (s t : Bool) (a : Magnitude) {b : Magnitude} (h : b.significand ≠ 0) :
    finite s a / finite t b = roundQuotient (s != t) (a.units * 2 ^ unitExponent) b.units := by
  change div _ _ = _
  rw [div, if_neg h]

theorem quotient_lt {m n k unit : Nat} (bound : m < 2 ^ k * n) (positive : 0 < unit) :
    m * unit * unit / (n * unit) < 2 ^ k * unit := by
  rw [Nat.mul_div_mul_right _ _ positive]
  apply Nat.div_lt_of_lt_mul
  calc m * unit < 2 ^ k * n * unit := Nat.mul_lt_mul_of_pos_right bound positive
    _ = n * (2 ^ k * unit) := by rw [Nat.mul_comm (2 ^ k), Nat.mul_assoc]

section Operations

variable {x y : Binary64} {i j : Int} (hx : x.HasValue i) (hy : y.HasValue j)
include hx hy

theorem HasValue.sub (small : (i - j).natAbs < 2 ^ 53) : (x - y).HasValue (i - j) := by
  obtain ⟨s, a, rfl, first⟩ := hx
  obtain ⟨t, b, rfl, second⟩ := hy
  have flipped : signedUnits (!t) b = -signedUnits t b := by
    cases t <;> simp [signedUnits]
  have total : signedUnits s a + signedUnits (!t) b = (i - j) * (2 ^ unitExponent : Nat) := by
    rw [flipped, first, second, Int.sub_mul]
    rfl
  change HasValue (if _ = 0 then _ else _) _
  have unit : (0 : Int) < (2 ^ unitExponent : Nat) := by exact_mod_cast Nat.two_pow_pos unitExponent
  rw [total]
  by_cases zero : i - j = 0
  · rw [zero, Int.zero_mul, if_pos rfl]
    exact ⟨_, .zero, rfl, by rw [signedUnits_zero, Int.zero_mul]⟩
  · have same := ofInt_hasValue small
    rw [if_neg (Int.mul_ne_zero zero unit.ne'), Int.natAbs_mul, Int.natAbs_natCast]
    have sign : decide ((i - j) * (2 ^ unitExponent : Nat) < 0) = decide (i - j < 0) := by
      rw [decide_eq_decide]
      exact ⟨fun below => neg_of_mul_neg_left below unit.le,
        fun below => mul_neg_of_neg_of_pos below unit⟩
    rw [sign]
    exact same

theorem HasValue.mul (small : (i * j).natAbs < 2 ^ 53) : (x * y).HasValue (i * j) := by
  obtain ⟨s, a, rfl, first⟩ := hx
  obtain ⟨t, b, rfl, second⟩ := hy
  obtain ⟨c, units⟩ := Magnitude.exists_units small
  have unit := Nat.two_pow_pos unitExponent
  have product : a.units * b.units = c.units * 2 ^ unitExponent := by
    rw [units_of_signedUnits first, units_of_signedUnits second, units, Int.natAbs_mul,
      Nat.mul_mul_mul_comm, ← Nat.mul_assoc]
  have sign : signed (s != t) c.units * (2 ^ unitExponent : Nat) =
      i * j * (2 ^ unitExponent : Nat) * (2 ^ unitExponent : Nat) := by
    rw [← signed_scale, ← product, signed_mul, ← signedUnits_eq, ← signedUnits_eq, first, second,
      mul_mul_mul_comm, mul_assoc (i * j)]
  refine ⟨s != t, c, ?_, ?_⟩
  · rw [finite_mul_finite, product, roundQuotient_units _ c unit]
  · rw [signedUnits_eq]
    exact Int.eq_of_mul_eq_mul_right (Int.natCast_ne_zero.2 unit.ne') sign

theorem HasValue.div {k : Nat} (bound : i.natAbs < 2 ^ k * j.natAbs) (fits : k ≤ 1023) :
    (x / y).IsRounded (i / j) k := by
  obtain ⟨s, a, rfl, first⟩ := hx
  obtain ⟨t, b, rfl, second⟩ := hy
  have unit := Nat.two_pow_pos unitExponent
  have divisor : 0 < j.natAbs := Nat.pos_of_ne_zero (by rintro zero; simp [zero] at bound)
  have positive : 0 < b.units := by
    rw [units_of_signedUnits second]
    exact Nat.mul_pos divisor unit
  have small : a.units * 2 ^ unitExponent / b.units < 2 ^ (k + unitExponent) := by
    rw [units_of_signedUnits first, units_of_signedUnits second, Nat.pow_add]
    exact quotient_lt bound unit
  have enough : k + unitExponent ≤ 2097 := by
    unfold unitExponent
    omega
  obtain ⟨q, rounded⟩ := Magnitude.ofQuotient?_of_small small enough
  refine ⟨s != t, q, _, _, positive, rounded, ?_, ?_, small⟩
  · have nonzero : b.significand ≠ 0 := mt Magnitude.units_eq_zero.2 positive.ne'
    rw [finite_div_finite s t a nonzero, roundQuotient_finite _ rounded]
  · have unit' : ((2 ^ unitExponent : Nat) : ℚ) ≠ 0 := Nat.cast_ne_zero.2 unit.ne'
    calc (i / j : ℚ) = signedUnits s a / signedUnits t b := by
          rw [first, second, Int.cast_mul, Int.cast_mul, Int.cast_natCast]
          exact (mul_div_mul_right _ _ unit').symm
      _ = signed (s != t) a.units / b.units := (signed_div s t _ _).symm
      _ = signed (s != t) a.units * (2 ^ unitExponent : Nat) /
            (b.units * (2 ^ unitExponent : Nat)) := (mul_div_mul_right _ _ unit').symm
      _ = signed (s != t) (a.units * 2 ^ unitExponent) / (b.units * 2 ^ unitExponent) := by
          rw [signed_scale, Int.cast_mul, Int.cast_natCast, Nat.cast_pow, Nat.cast_ofNat]

end Operations

end Almanac.Binary64
