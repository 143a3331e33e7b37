import Almanac.Proofs.Draw.Ranged
import Mathlib

set_option autoImplicit false

/-!
# Draws that are as good as even

What a draw gives depends on the next two words of the keystream only, whether or not the second is
taken (`pick`). As one number of 64 bits they are scaled down to the size of the range, so that the
words that give one value are an interval (`mem_wordsFor`) and no value has more than one pair of
words more than another (`draw_uniform`).
-/
namespace Almanac.Generator

/-- The pairs of words that give a value. -/
def wordsFor (low high v : Int32) : Finset (UInt32 × UInt32) :=
  Finset.univ.filter fun w => (pick low high w.1 w.2).value = v

theorem joined_injective : Function.Injective joined := by
  intro w w' same
  have second := w.2.toNat_lt
  have second' := w'.2.toNat_lt
  unfold joined at same
  exact Prod.ext (UInt32.toNat_inj.1 (by omega)) (UInt32.toNat_inj.1 (by omega))

theorem exists_joined {n : Nat} (h : n < 2 ^ 64) : ∃ w, joined w = n := by
  refine ⟨(.ofNat (n / 2 ^ 32), .ofNat (n % 2 ^ 32)), ?_⟩
  have first := UInt32.toNat_ofNat_of_lt' (show n / 2 ^ 32 < 2 ^ 32 by omega)
  have second := UInt32.toNat_ofNat_of_lt' (show n % 2 ^ 32 < 2 ^ 32 by omega)
  rw [joined, first, second]
  omega

section Counting

/-- The least number that is scaled down to `k` or more. -/
def firstFor (size k : Nat) : Nat := (k * 2 ^ 64 + (size - 1)) / size

variable {size : Nat} (positive : 0 < size)
include positive

theorem firstFor_le_iff (k n : Nat) : firstFor size k ≤ n ↔ k ≤ n * size / 2 ^ 64 := by
  rw [firstFor, Nat.div_le_iff_le_mul_add_pred positive, Nat.le_div_iff_mul_le (by decide),
    Nat.mul_comm size]
  omega

theorem scaled_eq_iff (k n : Nat) :
    n * size / 2 ^ 64 = k ↔ firstFor size k ≤ n ∧ n < firstFor size (k + 1) := by
  rw [← Nat.not_le, firstFor_le_iff positive, firstFor_le_iff positive]
  omega

/-- The numbers for one value are a `size`-th of all, rounded down or up. -/
theorem firstFor_succ (k : Nat) :
    firstFor size k + 2 ^ 64 / size ≤ firstFor size (k + 1) ∧
      firstFor size (k + 1) ≤ firstFor size k + 2 ^ 64 / size + 1 := by
  have next : firstFor size (k + 1) = (k * 2 ^ 64 + (size - 1) + 2 ^ 64) / size := by
    rw [firstFor, Nat.succ_mul, Nat.add_right_comm]
  rw [next, Nat.add_div positive, firstFor]
  split <;> omega

end Counting

section Even

variable {low high v : Int32} (h : low ≤ high) (fits : rangeSize low high < 2 ^ 32)
  (above : low ≤ v) (below : v ≤ high)
include h fits above

theorem mem_wordsFor (w : UInt32 × UInt32) :
    w ∈ wordsFor low high v ↔
      firstFor (rangeSize low high) (v.toInt - low.toInt).toNat ≤ joined w ∧
        joined w < firstFor (rangeSize low high) ((v.toInt - low.toInt).toNat + 1) := by
  have size := rangeSize_eq h
  have ordered := Int32.le_iff_toInt_le.1 h
  have least := Int32.le_iff_toInt_le.1 above
  obtain ⟨w, w'⟩ := w
  rw [← scaled_eq_iff (by omega), wordsFor, Finset.mem_filter, ← Int32.toInt_inj,
    pick_value h fits]
  simp only [Finset.mem_univ, true_and]
  omega

include below

theorem card_wordsFor :
    (wordsFor low high v).card =
      firstFor (rangeSize low high) ((v.toInt - low.toInt).toNat + 1) -
        firstFor (rangeSize low high) (v.toInt - low.toInt).toNat := by
  have size := rangeSize_eq h
  have least := Int32.le_iff_toInt_le.1 above
  have most := Int32.le_iff_toInt_le.1 below
  have positive : 0 < rangeSize low high := by omega
  generalize index : (v.toInt - low.toInt).toNat = k
  -- the numbers for the last value end where the words do
  have last : firstFor (rangeSize low high) (k + 1) ≤ 2 ^ 64 := by
    rw [firstFor_le_iff positive, Nat.mul_comm, Nat.mul_div_cancel _ (by decide)]
    omega
  have image : (wordsFor low high v).image joined =
      Finset.Ico (firstFor (rangeSize low high) k) (firstFor (rangeSize low high) (k + 1)) := by
    ext n
    simp only [Finset.mem_image, Finset.mem_Ico, mem_wordsFor h fits above, index]
    constructor
    · rintro ⟨w, bounds, rfl⟩
      exact bounds
    · intro bounds
      obtain ⟨w, rfl⟩ := exists_joined (Nat.lt_of_lt_of_le bounds.2 last)
      exact ⟨w, bounds, rfl⟩
  rw [← Finset.card_image_of_injective _ joined_injective, image, Nat.card_Ico]

theorem card_wordsFor_bounds :
    2 ^ 64 / rangeSize low high ≤ (wordsFor low high v).card ∧
      (wordsFor low high v).card ≤ 2 ^ 64 / rangeSize low high + 1 := by
  have size := rangeSize_eq h
  have ordered := Int32.le_iff_toInt_le.1 h
  have positive : 0 < rangeSize low high := by omega
  have share := firstFor_succ positive (v.toInt - low.toInt).toNat
  rw [card_wordsFor h fits above below]
  generalize 2 ^ 64 / rangeSize low high = part at share ⊢
  omega

end Even

/-- Of a range in order a draw gives a value, for one word of the keystream or two: the low end plus
the two next words scaled down to the size of the range, even if the second is not taken. No value
has more than one pair of words more than another. If the range is out of order there is no value
and nothing is taken. -/
theorem draw_uniform (low high : Int32) :
    (high < low → ∀ g : Generator, g.draw low high = .error .emptyRange ∧
      Source.drawMany low high 1 [] g = (.error .emptyRange, g)) ∧
    (low ≤ high →
      (∀ g : Generator,
        let picked := pick low high g.next.1 (g.skip 1).next.1
        g.draw low high = .ok (picked.value, g.skip picked.words)) ∧
      (∀ w w', let picked := pick low high w w'
        low ≤ picked.value ∧ picked.value ≤ high ∧ (picked.words = 1 ∨ picked.words = 2)) ∧
      (rangeSize low high < 2 ^ 32 →
        (∀ w w', (pick low high w w').value.toInt = low.toInt +
          ((w.toNat * 2 ^ 32 + w'.toNat) * rangeSize low high / 2 ^ 64 : Nat)) ∧
        ∀ v v', low ≤ v → v ≤ high → low ≤ v' → v' ≤ high →
          (wordsFor low high v).card ≤ (wordsFor low high v').card + 1)) := by
  refine ⟨fun disordered g => ?_, fun ordered =>
    ⟨fun g => ?_, fun w w' => ?_, fun fits => ⟨?_, ?_⟩⟩⟩
  · have refused : Source.draw g low high = .error .emptyRange := if_pos disordered
    refine ⟨refused, ?_⟩
    rw [Source.drawMany, refused]
  · exact draw_eq_pick g ordered
  · obtain ⟨above, below⟩ := pick_mem ordered w w'
    exact ⟨above, below, pick_words low high w w'⟩
  · exact pick_value ordered fits
  · intro v v' above below above' below'
    have most := (card_wordsFor_bounds ordered fits above below).2
    have least := (card_wordsFor_bounds ordered fits above' below').1
    exact most.trans (Nat.add_le_add_right least 1)

/-- The widest range but that of all integers, and one that is out of order. -/
theorem widest_range_uniform :
    let low : Int32 := -2147483648
    let high : Int32 := 2147483646
    let g := Generator.ofSeed 7
    (0 : Int32) < 1 ∧ g.draw 1 0 = .error .emptyRange ∧
      low ≤ high ∧ rangeSize low high < 2 ^ 32 ∧
      (∃ v n, g.draw low high = .ok (v, g.skip n) ∧ low ≤ v ∧ v ≤ high ∧ (n = 1 ∨ n = 2)) ∧
      (wordsFor low high low).card ≤ (wordsFor low high high).card + 1 := by
  intro low high g
  have disordered : (0 : Int32) < 1 := by decide
  have ordered : low ≤ high := by decide
  have fits : rangeSize low high < 2 ^ 32 := by decide
  obtain ⟨drawn, within, even⟩ := (draw_uniform low high).2 ordered
  exact ⟨disordered, ((draw_uniform 1 0).1 disordered g).1, ordered, fits,
    ⟨_, _, drawn g, within _ _⟩,
    (even fits).2 low high (Int32.le_refl low) ordered ordered (Int32.le_refl high)⟩

end Almanac.Generator
