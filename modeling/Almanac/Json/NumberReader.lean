import Almanac.Json.Cursor

set_option autoImplicit false

/-!
# Reading numbers

A number without fraction and exponent is an integer as long as it fits 64 bits, signed if it is
negative. Every other number, and negative zero, becomes a double precision number: its digits are
collected in 64 bits, further ones being dropped, converted, and then multiplied or divided by a
power of ten. Each of these steps rounds, so the result need not be the nearest to the text.
-/
namespace Almanac.Json

open Ascii

inductive Numeral where
  | integer (value : Int)
  | number (value : Binary64)
deriving DecidableEq

def Numeral.found : Numeral → Found
  | integer n => .integer n
  | number x => .number x

def significandLimit : Nat := 2 ^ 64 - 1

def exponentLimit : Nat := 2 ^ 31 - 1

def powerLimit : Nat := 308

def powerOfTen (k : Nat) : Binary64 := .ofNat (10 ^ k)

/-- `x * 10 ^ exponent` by one rounded operation, or by several where the power is too small for
the format; nothing if it is too large. -/
def scaleWithin : (divisions : Nat) → Binary64 → Int → Option Binary64
  | divisions, x, exponent =>
    if exponent.natAbs ≤ powerLimit then
      if 0 ≤ exponent then
        let y := x * powerOfTen exponent.natAbs
        if y.isInfinite then none else some y
      else some (x / powerOfTen exponent.natAbs)
    else if x.isZero then some x
    else if 0 ≤ exponent then none
    else match divisions with
      | 0 => some 0
      | divisions + 1 =>
        scaleWithin divisions (x / powerOfTen powerLimit) (exponent + powerLimit)

def scale (x : Binary64) (exponent : Int) : Option Binary64 :=
  scaleWithin (exponent.natAbs / powerLimit) x exponent

def signed (negative : Bool) (x : Binary64) : Binary64 := if negative then -x else x

/-- Collects digits into a significand while it fits: the significand, how many digits were added,
and the cursor after them. -/
def collectDigits : List UInt8 → Position → (significand count : Nat) → Nat × Nat × Cursor
  | [], p, s, k => (s, k, ⟨[], p⟩)
  | b :: rest, p, s, k =>
    match digit? b with
    | none => (s, k, ⟨b :: rest, p⟩)
    | some d =>
      if 10 * s + d ≤ significandLimit then collectDigits rest (p.after b) (10 * s + d) (k + 1)
      else (s, k, ⟨b :: rest, p⟩)

def passDigits : List UInt8 → Position → (count : Nat) → Nat × Cursor
  | [], p, k => (k, ⟨[], p⟩)
  | b :: rest, p, k =>
    match digit? b with
    | none => (k, ⟨b :: rest, p⟩)
    | some _ => passDigits rest (p.after b) (k + 1)

/-- Collects the digits of an exponent; nothing, and the cursor after the digit that is one too
many, if it does not fit. -/
def collectExponent : List UInt8 → Position → (exponent : Nat) → Option Nat × Cursor
  | [], p, e => (some e, ⟨[], p⟩)
  | b :: rest, p, e =>
    match digit? b with
    | none => (some e, ⟨b :: rest, p⟩)
    | some d =>
      if 10 * e + d ≤ exponentLimit then collectExponent rest (p.after b) (10 * e + d)
      else (none, ⟨rest, p.after b⟩)

namespace Cursor

def atDigit (c : Cursor) : Bool :=
  match c.rest with
  | [] => false
  | b :: _ => (digit? b).isSome

def atPoint (c : Cursor) : Bool := c.rest.head? == some point

def atMark (c : Cursor) : Bool := c.rest.head? == some 0x65 || c.rest.head? == some 0x45

def next (c : Cursor) : Cursor :=
  match c.rest with
  | [] => c
  | b :: rest => ⟨rest, c.position.after b⟩

end Cursor

def scaled (negative : Bool) (significand : Nat) (exponent : Int) : Reader Numeral := fun c =>
  match scale (.ofNat significand) exponent with
  | some x => .ok (.number (signed negative x), c)
  | none => .error (.malformed .numberOutOfRange c.position)

def exponentPart (negative : Bool) (significand : Nat) (start : Int) : Reader Numeral := fun c =>
  let c := c.next
  let down := c.rest.head? == some minus
  let c := if down || c.rest.head? == some plus then c.next else c
  match c.rest with
  | [] => .error (.unfinished .value c.position)
  | b :: rest =>
    match digit? b with
    | none => .error (.malformed .invalidNumber c.ahead)
    | some d =>
      match collectExponent rest c.ahead d with
      | (some e, c) => scaled negative significand (if down then start - e else start + e) c
      | (none, c) =>
        if significand ≠ 0 ∧ !down then .error (.malformed .numberOutOfRange c.position)
        else .ok (.number (signed negative 0), (passDigits c.rest c.position 0).2)

def afterDigits (negative : Bool) (significand : Nat) (exponent : Int) : Reader Numeral := fun c =>
  if c.atMark then exponentPart negative significand exponent c
  else scaled negative significand exponent c

def fractionPart (negative : Bool) (significand : Nat) (start : Int) : Reader Numeral := fun c =>
  let c := c.next
  let (significand, count, c) := collectDigits c.rest c.position significand 0
  let exponent := start - count
  if c.atDigit then
    afterDigits negative significand exponent (passDigits c.rest c.position 0).2
  else if count = 0 then
    match c.rest with
    | [] => .error (.unfinished .value c.position)
    | _ => .error (.malformed .invalidNumber c.ahead)
  else afterDigits negative significand exponent c

/-- An integer, unless it is negative zero or below the least one of 64 bits. -/
def wholeNumber (negative : Bool) (significand : Nat) : Numeral :=
  if negative then
    if significand = 0 ∨ 2 ^ 63 < significand then .number (-.ofNat significand)
    else .integer (-significand)
  else .integer significand

def afterInteger (negative : Bool) (significand dropped : Nat) : Reader Numeral := fun c =>
  if c.atPoint then fractionPart negative significand dropped c
  else if c.atMark then exponentPart negative significand dropped c
  else if dropped = 0 then .ok (wholeNumber negative significand, c)
  else scaled negative significand dropped c

def numeral (negative : Bool) : Reader Numeral := fun c =>
  match c.rest with
  | [] => .error (.unfinished .value c.position)
  | b :: rest =>
    match digit? b with
    | none => .error (.malformed .invalidNumber c.ahead)
    | some 0 =>
      if c.next.atDigit then .error (.malformed .invalidNumber c.next.ahead)
      else afterInteger negative 0 0 c.next
    | some d =>
      let (significand, _, c) := collectDigits rest c.ahead d 0
      let (dropped, c) := passDigits c.rest c.position 0
      afterInteger negative significand dropped c

end Almanac.Json
