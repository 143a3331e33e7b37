import Almanac.Binary64.Shortest
import Almanac.Proofs.Binary64.Exact

set_option autoImplicit false

namespace Almanac

/-- Whether a decimal is equal to a whole number and needs no digits after the point. -/
def Decimal.IsWhole (x : Decimal) (n : Nat) : Prop :=
  ∃ j : Nat, x.power = j ∧ x.digits * 10 ^ j = n

theorem Decimal.IsWhole.strip {n : Nat} (fuel : Nat) {x : Decimal} (h : x.IsWhole n) :
    (x.strip fuel).IsWhole n := by
  induction fuel generalizing x with
  | zero => exact h
  | succ fuel ih =>
    rw [Decimal.strip]
    split
    · rename_i trailing
      obtain ⟨j, power, value⟩ := h
      refine ih ⟨j + 1, by simp [power], ?_⟩
      have digits : x.digits / 10 * 10 = x.digits := by omega
      rw [Nat.pow_succ, Nat.mul_comm _ 10, ← Nat.mul_assoc, digits, value]
    · exact h

namespace Magnitude

variable {a : Magnitude} {n q : Nat}

theorem exponent_le_unitExponent (units : a.units = n * 2 ^ unitExponent) (h : n < 2 ^ 53) :
    a.exponent ≤ unitExponent := by
  generalize unitExponent = unit at units ⊢
  rcases a.normal with subnormal | normal
  · omega
  · have bound : 2 ^ (52 + a.exponent) < 2 ^ (53 + unit) := by
      calc 2 ^ (52 + a.exponent) = 2 ^ 52 * 2 ^ a.exponent := Nat.pow_add ..
        _ ≤ a.units := Nat.mul_le_mul_right _ normal
        _ = n * 2 ^ unit := units
        _ < 2 ^ 53 * 2 ^ unit := Nat.mul_lt_mul_of_pos_right h (Nat.two_pow_pos _)
        _ = 2 ^ (53 + unit) := (Nat.pow_add ..).symm
    have := (Nat.pow_lt_pow_iff_right (by decide)).1 bound
    omega

theorem quarterStep_of_le (h : a.exponent ≤ unitExponent) :
    a.quarterStep = (1, 2 ^ (unitExponent + 2 - a.exponent)) :=
  if_neg (by omega)

/-- A whole number in quarter steps: there are four of them at least to a one. -/
theorem quarters_whole (units : a.units = n * 2 ^ unitExponent) (h : a.exponent ≤ unitExponent) :
    4 * a.significand = n * 2 ^ (unitExponent + 2 - a.exponent) := by
  have split : 2 ^ (unitExponent + 2 - a.exponent) * 2 ^ a.exponent = 2 ^ unitExponent * 4 := by
    rw [← Nat.pow_add, Nat.sub_add_cancel (by omega), Nat.pow_add]
  apply Nat.eq_of_mul_eq_mul_right (Nat.two_pow_pos a.exponent)
  rw [Nat.mul_assoc n, split, Nat.mul_assoc 4, ← Magnitude.units, units, Nat.mul_left_comm,
    Nat.mul_comm 4]

theorem covers_whole (quarters : 4 * a.significand = n * q) (hq : 4 ≤ q)
    (nonzero : a.significand ≠ 0) (k : Nat) : a.covers (k * q) 1 = true ↔ k = n := by
  have positive := Nat.pos_of_ne_zero nonzero
  -- another whole number is four quarter steps away at least, and only two of them round
  have apart : k = n ∨ k * q + q ≤ n * q ∨ n * q + q ≤ k * q := by
    rcases Nat.lt_trichotomy k n with below | rfl | above
    · have := Nat.mul_le_mul_right q below
      rw [Nat.succ_mul] at this
      exact .inr (.inl this)
    · exact .inl rfl
    · have := Nat.mul_le_mul_right q above
      rw [Nat.succ_mul] at this
      exact .inr (.inr this)
  rcases apart with rfl | far
  · simp only [covers, quarters, Nat.mul_one, iff_true]
    split <;> split <;> simp only [Bool.and_eq_true, decide_eq_true_eq] <;> omega
  · have different : k ≠ n := by
      rintro rfl
      omega
    simp only [covers, quarters, Nat.mul_one, different, iff_false]
    split <;> split <;> simp only [Bool.and_eq_true, decide_eq_true_eq] <;> omega

theorem onGrid_whole (step : a.quarterStep = (1, q)) (quarters : 4 * a.significand = n * q)
    (hq : 4 ≤ q) (nonzero : a.significand ≠ 0) (j : Nat) :
    a.onGrid j = if 10 ^ j ∣ n then some ⟨n / 10 ^ j, j⟩ else none := by
  have grid : a.grid j = (q * 10 ^ j, 1) := by
    simp [Magnitude.grid, step]
  have below : n * q / (q * 10 ^ j) = n / 10 ^ j := by
    rw [Nat.mul_comm n, Nat.mul_div_mul_left _ _ (by omega)]
  have covered (k : Nat) : a.covers (k * (q * 10 ^ j)) 1 = true ↔ k * 10 ^ j = n := by
    rw [Nat.mul_left_comm, Nat.mul_comm q]
    exact covers_whole quarters hq nonzero _
  have beyond : a.covers ((n / 10 ^ j + 1) * (q * 10 ^ j)) 1 = false := by
    rw [Bool.eq_false_iff, Ne, covered]
    have := Nat.lt_div_mul_add (a := n) (Nat.pow_pos (n := j) (show 0 < 10 by omega))
    rw [Nat.succ_mul]
    omega
  simp only [onGrid, grid, quarters, Nat.mul_one, below, beyond]
  by_cases divides : 10 ^ j ∣ n
  · rw [(covered _).2 (Nat.div_mul_cancel divides), if_pos divides]
  · have missed : a.covers (n / 10 ^ j * (q * 10 ^ j)) 1 = false := by
      rw [Bool.eq_false_iff, Ne, covered]
      exact fun value => divides ⟨n / 10 ^ j, by rw [Nat.mul_comm, value]⟩
    rw [missed, if_neg divides]

theorem searchGrids_whole (step : a.quarterStep = (1, q)) (quarters : 4 * a.significand = n * q)
    (hq : 4 ≤ q) (nonzero : a.significand ≠ 0) {fuel j : Nat} (enough : j < fuel) :
    (a.searchGrids fuel j).IsWhole n := by
  -- the grid of the ones is reached in time, and the number is on it
  induction fuel generalizing j with
  | zero => omega
  | succ fuel ih =>
    rw [searchGrids, onGrid_whole step quarters hq nonzero]
    by_cases divides : 10 ^ j ∣ n
    · rw [if_pos divides]
      exact ⟨j, rfl, Nat.div_mul_cancel divides⟩
    · rw [if_neg divides]
      cases j with
      | zero => exact absurd (Nat.one_dvd n) divides
      | succ j =>
        have next : ((j + 1 : Nat) : Int) - 1 = j := by omega
        simp only [next]
        exact ih (by omega)

theorem shortest_isWhole (units : a.units = n * 2 ^ unitExponent) (h : n < 2 ^ 53) :
    a.shortest.IsWhole n := by
  by_cases zero : a.significand = 0
  · have none : n = 0 := by
      have := Nat.two_pow_pos unitExponent
      have := units_eq_zero.2 zero
      rw [units, Nat.mul_eq_zero] at this
      omega
    rw [shortest, if_pos zero, none]
    exact ⟨0, rfl, rfl⟩
  · have low := exponent_le_unitExponent units h
    have step := quarterStep_of_le low
    have quarters := quarters_whole units low
    have hq : 4 ≤ 2 ^ (unitExponent + 2 - a.exponent) :=
      Nat.pow_le_pow_right Nat.two_pos (show 2 ≤ unitExponent + 2 - a.exponent by omega)
    generalize 2 ^ (unitExponent + 2 - a.exponent) = q at step quarters hq
    have positive : 0 < n := by
      apply Nat.pos_of_ne_zero
      rintro rfl
      omega
    have fits : digitCount n ≤ 16 := by
      rw [digitCount, Nat.length_toDigits_le_iff (by omega) (by omega)]
      exact Nat.lt_trans h (by decide)
    have top : leadingExponent (4 * a.significand * 1) q = (digitCount n - 1 : Nat) := by
      have some_digits : 0 < digitCount n := Nat.length_toDigits_pos
      rw [leadingExponent, Nat.mul_one, quarters, if_pos (Nat.le_mul_of_pos_left q positive),
        Nat.mul_div_cancel n (by omega)]
      omega
    rw [shortest, if_neg zero]
    simp only [step, top]
    exact (searchGrids_whole step quarters hq zero (by omega)).strip 17

end Magnitude

end Almanac
