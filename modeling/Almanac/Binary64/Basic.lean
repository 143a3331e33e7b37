import Almanac.Basic

set_option autoImplicit false

/-!
# Double precision numbers

The binary64 format as exact arithmetic: every finite number is a whole multiple of the unit
`2 ^ (-1074)`, and every operation is the exact rational result rounded once, to the nearest number
of the format, a tie going to the even significand. `roundQuotient` is that rounding; the
operations differ only in the quotient they hand to it.
-/
namespace Almanac

/-- The exponent of the unit: every finite number is a multiple of `2 ^ (-unitExponent)`. -/
def unitExponent : Nat := 1074

/-- A finite magnitude of `significand * 2 ^ exponent` units, in the one form the format stores. -/
structure Magnitude where
  significand : Nat
  exponent : Nat
  significand_lt : significand < 2 ^ 53
  exponent_le : exponent ≤ 2045
  normal : exponent = 0 ∨ 2 ^ 52 ≤ significand
deriving DecidableEq

namespace Magnitude

def units (a : Magnitude) : Nat := a.significand * 2 ^ a.exponent

def zero : Magnitude := ⟨0, 0, by decide, by decide, .inl rfl⟩

end Magnitude

/-- The whole number nearest to `n / d`; a tie goes to the even one. -/
def nearest (n d : Nat) : Nat :=
  let quotient := n / d
  let remainder := n % d
  if 2 * remainder < d then quotient
  else if d < 2 * remainder then quotient + 1
  else quotient + quotient % 2

theorem nearest_bounds (n d : Nat) : n / d ≤ nearest n d ∧ nearest n d ≤ n / d + 1 := by
  unfold nearest
  dsimp only
  split
  · omega
  · split <;> omega

def shiftOf (n d : Nat) : Nat := Nat.log2 (n / d) - 52

theorem shifted_quotient_lt (n d : Nat) : n / (d * 2 ^ shiftOf n d) < 2 ^ 53 := by
  rw [← Nat.div_div_eq_div_mul, Nat.div_lt_iff_lt_mul (Nat.two_pow_pos _), ← Nat.pow_add]
  refine Nat.lt_of_lt_of_le Nat.lt_log2_self (Nat.pow_le_pow_right (by decide) ?_)
  unfold shiftOf
  omega

theorem le_shifted_quotient (n d : Nat) (h : shiftOf n d ≠ 0) :
    2 ^ 52 ≤ n / (d * 2 ^ shiftOf n d) := by
  have hn : n / d ≠ 0 := by
    intro h0
    apply h
    simp [shiftOf, h0]
  rw [← Nat.div_div_eq_div_mul, Nat.le_div_iff_mul_le (Nat.two_pow_pos _), ← Nat.pow_add]
  have he : 52 + shiftOf n d = Nat.log2 (n / d) := by
    unfold shiftOf at h ⊢
    omega
  rw [he]
  exact Nat.log2_self_le hn

/-- The magnitude nearest to `n / d` units, or nothing where that is beyond the largest one. -/
def Magnitude.ofQuotient? (n d : Nat) : Option Magnitude :=
  let shift := shiftOf n d
  let rounded := nearest n (d * 2 ^ shift)
  if hlt : rounded < 2 ^ 53 then
    if he : shift ≤ 2045 then
      some ⟨rounded, shift, hlt, he, by
        have hb := nearest_bounds n (d * 2 ^ shift)
        have hl := le_shifted_quotient n d
        by_cases h0 : shiftOf n d = 0
        · exact .inl h0
        · exact .inr (Nat.le_trans (hl h0) hb.1)⟩
    else none
  else
    if he : shift + 1 ≤ 2045 then some ⟨2 ^ 52, shift + 1, by decide, he, .inr (Nat.le_refl _)⟩
    else none

/-- A number of the format. All quiet and signalling forms of NaN are one value. -/
inductive Binary64 where
  | finite (negative : Bool) (magnitude : Magnitude)
  | infinite (negative : Bool)
  | nan
deriving DecidableEq

namespace Binary64

def roundQuotient (negative : Bool) (n d : Nat) : Binary64 :=
  match Magnitude.ofQuotient? n d with
  | some a => finite negative a
  | none => infinite negative

def ofNat (n : Nat) : Binary64 := roundQuotient false (n * 2 ^ unitExponent) 1

def ofInt (i : Int) : Binary64 :=
  roundQuotient (decide (i < 0)) (i.natAbs * 2 ^ unitExponent) 1

instance (n : Nat) : OfNat Binary64 n := ⟨ofNat n⟩

def neg : Binary64 → Binary64
  | finite s a => finite (!s) a
  | infinite s => infinite (!s)
  | nan => nan

def signedUnits (negative : Bool) (a : Magnitude) : Int :=
  if negative then -(a.units : Int) else a.units

def add : Binary64 → Binary64 → Binary64
  | nan, _ => nan
  | _, nan => nan
  | infinite s, infinite t => if s = t then infinite s else nan
  | infinite s, finite _ _ => infinite s
  | finite _ _, infinite t => infinite t
  | finite s a, finite t b =>
    let total := signedUnits s a + signedUnits t b
    if total = 0 then finite (s && t) .zero
    else roundQuotient (decide (total < 0)) total.natAbs 1

def sub (x y : Binary64) : Binary64 := add x (neg y)

def isZero : Binary64 → Bool
  | finite _ a => a.significand == 0
  | _ => false

def isInfinite : Binary64 → Bool
  | infinite _ => true
  | _ => false

def mul : Binary64 → Binary64 → Binary64
  | nan, _ => nan
  | _, nan => nan
  | infinite s, infinite t => infinite (s != t)
  | infinite s, finite t b => if b.significand = 0 then nan else infinite (s != t)
  | finite s a, infinite t => if a.significand = 0 then nan else infinite (s != t)
  | finite s a, finite t b => roundQuotient (s != t) (a.units * b.units) (2 ^ unitExponent)

def div : Binary64 → Binary64 → Binary64
  | nan, _ => nan
  | _, nan => nan
  | infinite _, infinite _ => nan
  | infinite s, finite t _ => infinite (s != t)
  | finite s _, infinite t => finite (s != t) .zero
  | finite s a, finite t b =>
    if b.significand = 0 then
      if a.significand = 0 then nan else infinite (s != t)
    else roundQuotient (s != t) (a.units * 2 ^ unitExponent) b.units

instance : Neg Binary64 := ⟨neg⟩
instance : Sub Binary64 := ⟨sub⟩
instance : Mul Binary64 := ⟨mul⟩
instance : Div Binary64 := ⟨div⟩

end Binary64

namespace Magnitude

/-- The stored exponent and fraction as one number: the leading bit of a normal significand carries
into the exponent field. -/
def field (a : Magnitude) : Nat := a.significand + a.exponent * 2 ^ 52

def ofField? (n : Nat) : Option Magnitude :=
  if h : n / 2 ^ 52 ≤ 2046 then
    if h0 : n / 2 ^ 52 = 0 then
      some ⟨n % 2 ^ 52, 0, by omega, by omega, .inl rfl⟩
    else
      some ⟨n % 2 ^ 52 + 2 ^ 52, n / 2 ^ 52 - 1, by omega, by omega, .inr (by omega)⟩
  else none

end Magnitude

namespace Binary64

/-- The stored word; a NaN is stored as the positive quiet one. -/
def toBits : Binary64 → UInt64
  | finite s a => UInt64.ofNat (a.field + if s then 2 ^ 63 else 0)
  | infinite s => UInt64.ofNat (2047 * 2 ^ 52 + if s then 2 ^ 63 else 0)
  | nan => UInt64.ofNat (2047 * 2 ^ 52 + 2 ^ 51)

def ofBits (w : UInt64) : Binary64 :=
  let negative := decide (2 ^ 63 ≤ w.toNat)
  let field := w.toNat % 2 ^ 63
  match Magnitude.ofField? field with
  | some a => finite negative a
  | none => if field % 2 ^ 52 = 0 then infinite negative else nan

end Binary64

end Almanac
