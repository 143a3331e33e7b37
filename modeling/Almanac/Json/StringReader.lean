import Almanac.Basic
import Almanac.Json.Cursor

set_option autoImplicit false

namespace Almanac.Json

open Ascii

inductive StringState where
  | plain
  | escape
  /-- After `\u` and some digits, latest first; `high` is the first half of a pair. -/
  | digits (high : Option Nat) (read : List UInt8)
  | pair (high : Nat)
  | pairEscape (high : Nat)

def hexUnit? (a b c d : UInt8) : Option Nat := do
  let a ← hexDigit? a
  let b ← hexDigit? b
  let c ← hexDigit? c
  let d ← hexDigit? d
  pure (((a * 16 + b) * 16 + c) * 16 + d)

def isHighSurrogate (n : Nat) : Bool := 0xD800 ≤ n && n ≤ 0xDBFF

def isLowSurrogate (n : Nat) : Bool := 0xDC00 ≤ n && n ≤ 0xDFFF

def shortEscape? (b : UInt8) : Option UInt8 :=
  match b with
  | 0x22 => some 0x22
  | 0x5C => some 0x5C
  | 0x2F => some 0x2F
  | 0x62 => some 0x08
  | 0x66 => some 0x0C
  | 0x6E => some 0x0A
  | 0x72 => some 0x0D
  | 0x74 => some 0x09
  | _ => none

def unitStep (high : Option Nat) (n : Nat) : Except Malformed (StringState × List UInt8) :=
  match high with
  | none =>
    if isLowSurrogate n then .error .loneSurrogate
    else if isHighSurrogate n then .ok (.pair n, [])
    else .ok (.plain, String.utf8EncodeChar (Char.ofNat n))
  | some h =>
    if isLowSurrogate n then
      .ok (.plain,
        String.utf8EncodeChar (Char.ofNat ((h - 0xD800) * 0x400 + (n - 0xDC00) + 0x10000)))
    else .error .loneSurrogate

def StringState.step (state : StringState) (b : UInt8) :
    Except Malformed (StringState × List UInt8) :=
  match state with
  | .plain =>
    if b = backslash then .ok (.escape, [])
    else if b.toNat < 0x20 then .error .controlCharacter
    else .ok (.plain, [b])
  | .escape =>
    if b = 0x75 then .ok (.digits none [], [])
    else match shortEscape? b with
      | some e => .ok (.plain, [e])
      | none => .error .invalidEscape
  | .digits high [y, x, w] =>
    match hexUnit? w x y b with
    | some n => unitStep high n
    | none => .error .invalidEscape
  | .digits high read => .ok (.digits high (b :: read), [])
  | .pair high => if b = backslash then .ok (.pairEscape high, []) else .error .unpairedSurrogate
  | .pairEscape high =>
    if b = 0x75 then .ok (.digits (some high) [], []) else .error .unpairedSurrogate

def StringState.closes (state : StringState) (b : UInt8) : Bool :=
  match state with
  | .plain => b == quote
  | _ => false

/-- The bytes of a string up to its closing quote, after the reversed ones already `read`. -/
def stringBytesFrom : List UInt8 → Position → StringState → (read : List UInt8) →
    Except Fault (List UInt8 × Cursor)
  | [], p, _, _ => .error (.unfinished .string p)
  | b :: rest, p, state, read =>
    if state.closes b then .ok (read.reverse, ⟨rest, p.after b⟩)
    else match state.step b with
      | .ok (next, bytes) => stringBytesFrom rest (p.after b) next (bytes.reverse ++ read)
      | .error cause => .error (.malformed cause (p.after b))

/-- A string after its opening quote. Where the bytes are not UTF-8, the fault lies as many bytes
before the end of the string as there are from the first faulty one on. -/
def stringBody : Reader String := fun c =>
  match stringBytesFrom c.rest c.position .plain [] with
  | .error fault => .error fault
  | .ok (bytes, c) =>
    match Utf8.decodePrefix bytes with
    | (chars, []) => .ok (String.ofList chars, c)
    | (_, faulty) =>
      .error (.malformed .invalidEncoding
        ⟨c.position.line, c.position.column - faulty.length⟩)

end Almanac.Json
