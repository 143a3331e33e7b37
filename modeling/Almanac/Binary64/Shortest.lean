import Almanac.Binary64.Basic

set_option autoImplicit false

namespace Almanac

structure Decimal where
  digits : Nat
  power : Int
deriving DecidableEq

def digitCount (n : Nat) : Nat := (Nat.toDigits 10 n).length

/-- The exponent of the leading digit of `n / d`: `10 ^ e ≤ n / d < 10 ^ (e + 1)`. -/
def leadingExponent (n d : Nat) : Int :=
  if d ≤ n then digitCount (n / d) - 1 else -(digitCount ((d - 1) / n) : Int)

def Decimal.strip : (fuel : Nat) → Decimal → Decimal
  | 0, x => x
  | fuel + 1, x =>
    if x.digits % 10 = 0 then Decimal.strip fuel ⟨x.digits / 10, x.power + 1⟩ else x

namespace Magnitude

def atPowerOfTwo (a : Magnitude) : Bool := a.significand == 2 ^ 52 && a.exponent != 0

/-- A quarter of the distance to the next magnitude above, as a quotient. -/
def quarterStep (a : Magnitude) : Nat × Nat :=
  if unitExponent + 2 ≤ a.exponent then (2 ^ (a.exponent - (unitExponent + 2)), 1)
  else (1, 2 ^ (unitExponent + 2 - a.exponent))

def covers (a : Magnitude) (n d : Nat) : Bool :=
  let middle := 4 * a.significand * d
  let low := middle - (if a.atPowerOfTwo then d else 2 * d)
  let high := middle + 2 * d
  if a.significand % 2 = 0 then low ≤ n && n ≤ high else low < n && n < high

/-- The grid of decimals with the given power of ten, as seen from a magnitude: a point `k` of the
grid lies at `k * grid.1 / grid.2` quarter steps. -/
def grid (a : Magnitude) (power : Int) : Nat × Nat :=
  let step := a.quarterStep
  (step.2 * 10 ^ power.toNat, step.1 * 10 ^ (-power).toNat)

def onGrid (a : Magnitude) (power : Int) : Option Decimal :=
  let (n, d) := a.grid power
  let target := 4 * a.significand * d
  let below := target / n
  let remainder := target % n
  let useBelow := 2 * remainder < n || (2 * remainder = n && below % 2 = 0)
  match a.covers (below * n) d, a.covers ((below + 1) * n) d with
  | true, true => some ⟨if useBelow then below else below + 1, power⟩
  | true, false => some ⟨below, power⟩
  | false, true => some ⟨below + 1, power⟩
  | false, false => none

/-- Searches the grids from `power` on down, each with one digit more, `fuel` of them. -/
def searchGrids (a : Magnitude) : (fuel : Nat) → (power : Int) → Decimal
  | 0, power => ⟨4 * a.significand * (a.grid power).2 / (a.grid power).1, power⟩
  | fuel + 1, power =>
    match a.onGrid power with
    | some x => x
    | none => a.searchGrids fuel (power - 1)

/-- Of the decimals with the fewest digits that round to the magnitude, the nearest to it; an exact
tie goes to the even last digit. -/
def shortest (a : Magnitude) : Decimal :=
  if a.significand = 0 then ⟨0, 0⟩
  else
    let step := a.quarterStep
    let top := leadingExponent (4 * a.significand * step.1) step.2
    (a.searchGrids 17 top).strip 17

end Magnitude

/-- Where positional notation begins and ends, and the exponent's mark and plus sign. -/
structure Layout where
  positionalFrom : Int
  positionalBelow : Int
  mark : Char
  plus : Bool

namespace Layout

def positional (digits : List Char) (point : Int) : List Char :=
  if digits.length ≤ point then
    digits ++ List.replicate (point.toNat - digits.length) '0' ++ ['.', '0']
  else if 0 < point then digits.take point.toNat ++ '.' :: digits.drop point.toNat
  else '0' :: '.' :: List.replicate (-point).toNat '0' ++ digits

def scientific (layout : Layout) (digits : List Char) (exponent : Int) : List Char :=
  let fraction := digits.drop 1
  let sign := if exponent < 0 then ['-'] else if layout.plus then ['+'] else []
  digits.take 1 ++ (if fraction.isEmpty then [] else '.' :: fraction) ++ [layout.mark] ++ sign ++
    Nat.toDigits 10 exponent.natAbs

def decimal (layout : Layout) (x : Decimal) : List Char :=
  let digits := Nat.toDigits 10 x.digits
  let exponent := digits.length - 1 + x.power
  if layout.positionalFrom ≤ exponent ∧ exponent < layout.positionalBelow then
    positional digits (exponent + 1)
  else layout.scientific digits exponent

def binary64? (layout : Layout) : Binary64 → Option String
  | .finite negative a =>
    some (String.ofList ((if negative then ['-'] else []) ++ layout.decimal a.shortest))
  | _ => none

end Layout

end Almanac
