import Almanac.Draw.Source

set_option autoImplicit false

namespace Almanac

/-- Draws that a source answers one after another, from one state to another. -/
inductive Source.Replays {σ : Type} [Source σ] : σ → List Draw → σ → Prop where
  | nil (s : σ) : Replays s [] s
  | cons {s s' s'' : σ} {d : Draw} {draws : List Draw}
      (head : Source.draw s d.low d.high = .ok (d.value, s')) (tail : Replays s' draws s'') :
      Replays s (d :: draws) s''

namespace Source.Replays

variable {σ : Type} [Source σ] {s s' s'' : σ} {draws more : List Draw}

theorem append (h : Replays s draws s') (h' : Replays s' more s'') :
    Replays s (draws ++ more) s'' := by
  induction h with
  | nil s => exact h'
  | cons head _ ih => exact .cons head (ih h')

theorem snoc {d : Draw} (h : Replays s draws s')
    (last : Source.draw s' d.low d.high = .ok (d.value, s'')) : Replays s (draws ++ [d]) s'' :=
  h.append (.cons last (.nil s''))

end Source.Replays

/-- A source that answers each draw whose bounds are in order with a value between them. -/
class Source.Ranged (σ : Type) [Source σ] : Prop where
  draw_mem : ∀ (s : σ) (low high : Int32), low ≤ high →
    ∃ v s', Source.draw s low high = .ok (v, s') ∧ low ≤ v ∧ v ≤ high

namespace Generator

def skip (g : Generator) (n : Nat) : Generator := { g with taken := g.taken + n }

theorem skip_skip (g : Generator) (m n : Nat) : (g.skip m).skip n = g.skip (m + n) := by
  simp only [skip, Nat.add_assoc]

structure Pick where
  value : Int32
  words : Nat

/-- The value that a draw picks if `w` and `w'` are next, and how many of them it takes. -/
def pick (low high : Int32) (w w' : UInt32) : Pick :=
  let size := rangeSize low high
  let product := w.toNat * size
  if size = 2 ^ 32 then ⟨w.toInt32, 1⟩
  else if 2 ^ 32 - size < product % 2 ^ 32 then
    let carry := (product % 2 ^ 32 + w'.toNat * size / 2 ^ 32) / 2 ^ 32
    ⟨.ofInt (low.toInt + (product / 2 ^ 32 + carry : Nat)), 2⟩
  else ⟨.ofInt (low.toInt + (product / 2 ^ 32 : Nat)), 1⟩

theorem draw_eq_pick (g : Generator) {low high : Int32} (h : low ≤ high) :
    g.draw low high =
      .ok ((pick low high g.next.1 (g.skip 1).next.1).value,
        g.skip (pick low high g.next.1 (g.skip 1).next.1).words) := by
  unfold draw pick offsetBelow
  rw [if_neg (Int32.not_lt.2 h)]
  by_cases full : rangeSize low high = 2 ^ 32
  · simp only [if_pos full]
    rfl
  · simp only [if_neg full]
    split
    · rfl
    · rfl

theorem pick_words (low high : Int32) (w w' : UInt32) :
    (pick low high w w').words = 1 ∨ (pick low high w w').words = 2 := by
  unfold pick
  dsimp only
  split
  · exact .inl rfl
  · split
    · exact .inr rfl
    · exact .inl rfl

/-- Both halves of a sum of two products, the second of which only counts for its high half. -/
theorem high_product (w w' size : Nat) :
    w * size / 2 ^ 32 + (w * size % 2 ^ 32 + w' * size / 2 ^ 32) / 2 ^ 32 =
      (w * 2 ^ 32 + w') * size / 2 ^ 64 := by
  have inner : (w * 2 ^ 32 + w') * size / 2 ^ 32 = w * size + w' * size / 2 ^ 32 := by
    have e : (w * 2 ^ 32 + w') * size = w' * size + 2 ^ 32 * (w * size) := by
      rw [Nat.add_mul, Nat.mul_right_comm w, Nat.mul_comm (2 ^ 32), Nat.add_comm]
    rw [e, Nat.add_mul_div_left _ _ (by decide), Nat.add_comm]
  have split : (w * 2 ^ 32 + w') * size / 2 ^ 64 =
      (w * 2 ^ 32 + w') * size / 2 ^ 32 / 2 ^ 32 := by
    have square : (2 : Nat) ^ 64 = 2 ^ 32 * 2 ^ 32 := by decide
    rw [square, ← Nat.div_div_eq_div_mul]
  rw [split, inner]
  omega

theorem word_product_lt (w : UInt32) {size : Nat} (h : 0 < size) :
    w.toNat * size / 2 ^ 32 < size := by
  apply Nat.div_lt_of_lt_mul
  exact Nat.mul_lt_mul_of_pos_right w.toNat_lt h

def joined (w : UInt32 × UInt32) : Nat := w.1.toNat * 2 ^ 32 + w.2.toNat

theorem joined_lt (w : UInt32 × UInt32) : joined w < 2 ^ 64 := by
  have first := w.1.toNat_lt
  have second := w.2.toNat_lt
  unfold joined
  omega

section Scaled

variable {low high : Int32} (h : low ≤ high)
include h

theorem rangeSize_eq : (rangeSize low high : Int) = high.toInt - low.toInt + 1 := by
  have ordered := Int32.le_iff_toInt_le.1 h
  unfold rangeSize
  omega

theorem scaled_lt (w : UInt32 × UInt32) :
    joined w * rangeSize low high / 2 ^ 64 < rangeSize low high := by
  have size := rangeSize_eq h
  have ordered := Int32.le_iff_toInt_le.1 h
  apply Nat.div_lt_of_lt_mul
  exact Nat.mul_lt_mul_of_pos_right (joined_lt w) (by omega)

/-- Both words count, in that the second would change nothing where it is left out. -/
theorem pick_value (fits : rangeSize low high < 2 ^ 32) (w w' : UInt32) :
    (pick low high w w').value.toInt =
      low.toInt + (joined (w, w') * rangeSize low high / 2 ^ 64 : Nat) := by
  have size := rangeSize_eq h
  have ordered := Int32.le_iff_toInt_le.1 h
  have lower := low.le_toInt
  have upper := high.toInt_lt
  have scaled := scaled_lt h (w, w')
  have product := high_product w.toNat w'.toNat (rangeSize low high)
  have value : (pick low high w w').value =
      .ofInt (low.toInt + (joined (w, w') * rangeSize low high / 2 ^ 64 : Nat)) := by
    unfold pick joined
    dsimp only
    rw [if_neg (by omega), ← product]
    split
    · rfl
    · -- without a second word there is no carry, whatever that word is
      rename_i small
      have positive : 0 < rangeSize low high := by omega
      have bound := word_product_lt w' positive
      have none : (w.toNat * rangeSize low high % 2 ^ 32 +
          w'.toNat * rangeSize low high / 2 ^ 32) / 2 ^ 32 = 0 := by
        apply Nat.div_eq_of_lt
        omega
      rw [none, Nat.add_zero]
  rw [value]
  exact Int32.toInt_ofInt_of_le (by omega) (by omega)

theorem pick_mem (w w' : UInt32) :
    low ≤ (pick low high w w').value ∧ (pick low high w w').value ≤ high := by
  have size := rangeSize_eq h
  have lower := low.le_toInt
  have upper := high.toInt_lt
  rw [Int32.le_iff_toInt_le, Int32.le_iff_toInt_le]
  by_cases full : rangeSize low high = 2 ^ 32
  · have lower' := (pick low high w w').value.le_toInt
    have upper' := (pick low high w w').value.toInt_lt
    omega
  · have scaled := scaled_lt h (w, w')
    rw [pick_value h (by omega)]
    omega

end Scaled

/-- A draw whose bounds are in order gives a value between them and takes one word or two. -/
theorem draw_mem (g : Generator) {low high : Int32} (h : low ≤ high) :
    ∃ v n, g.draw low high = .ok (v, g.skip n) ∧ low ≤ v ∧ v ≤ high ∧ 1 ≤ n ∧ n ≤ 2 := by
  obtain ⟨above, below⟩ := pick_mem h g.next.1 (g.skip 1).next.1
  have words := pick_words low high g.next.1 (g.skip 1).next.1
  exact ⟨_, _, draw_eq_pick g h, above, below, by omega⟩

instance : Source.Ranged Generator where
  draw_mem g low high h := by
    obtain ⟨v, n, drawn, above, below, _⟩ := draw_mem g h
    exact ⟨v, g.skip n, drawn, above, below⟩

end Generator

end Almanac
