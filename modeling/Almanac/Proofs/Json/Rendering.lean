import Almanac.Json.Cursor
import Mathlib.Data.List.Forall2

set_option autoImplicit false

/-!
# What is written as JSON

The values of the grammar and the bytes that render them: with blanks between any two tokens, the
members of an object in any order, and each character of a string either as it is or escaped in any
of the ways that there are. A number keeps the form in which it is written, so that `1` and `1.0`
are two values.
-/
namespace Almanac.Json

open Ascii

structure Digits where
  first : Fin 10
  rest : List (Fin 10)

def digitByte (d : Fin 10) : UInt8 := .ofNat (0x30 + d.val)

namespace Digits

def bytes (ds : Digits) : List UInt8 := digitByte ds.first :: ds.rest.map digitByte

def value (ds : Digits) : Nat := ds.rest.foldl (fun n d => 10 * n + d.val) ds.first.val

end Digits

structure Exponent where
  mark : UInt8
  isMark : mark = 0x65 ∨ mark = 0x45
  sign : Option UInt8
  isSign : ∀ b ∈ sign, b = plus ∨ b = minus
  digits : Digits

def Exponent.bytes (e : Exponent) : List UInt8 := e.mark :: e.sign.toList ++ e.digits.bytes

structure Literal where
  negative : Bool
  whole : Digits
  noLeadingZero : whole.first = 0 → whole.rest = []
  fraction : Option Digits
  exponent : Option Exponent

namespace Literal

def tail (n : Literal) : List UInt8 :=
  (n.fraction.elim [] fun ds => point :: ds.bytes) ++ n.exponent.elim [] Exponent.bytes

def bytes (n : Literal) : List UInt8 :=
  (if n.negative then [minus] else []) ++ n.whole.bytes ++ n.tail

/-- The value of an integer. Negative zero, and what has a fraction or an exponent, is none. -/
def integer? (n : Literal) : Option Int :=
  match n.fraction, n.exponent with
  | none, none =>
    if n.negative then
      if n.whole.value = 0 then none else some (-n.whole.value)
    else some n.whole.value
  | _, _ => none

end Literal

/-- A value, its objects with their members in some order. -/
inductive Tree where
  | null
  | bool (value : Bool)
  | number (literal : Literal)
  | string (value : String)
  | array (elements : List Tree)
  | object (members : List (String × Tree))

def shortEscapes : List (UInt8 × UInt8) :=
  [(quote, quote), (backslash, backslash), (slash, slash), (0x08, 0x62), (0x0C, 0x66),
    (lineFeed, 0x6E), (carriageReturn, 0x72), (tab, 0x74)]

inductive HexUnit : List UInt8 → Nat → Prop where
  | mk {a b c d : UInt8} {w x y z : Nat} (ha : hexDigit? a = some w) (hb : hexDigit? b = some x)
      (hc : hexDigit? c = some y) (hd : hexDigit? d = some z) :
      HexUnit [a, b, c, d] (w * 0x1000 + x * 0x100 + y * 0x10 + z)

inductive CharRendered (c : Char) : List UInt8 → Prop where
  | plain (printable : 0x20 ≤ c.toNat) (noQuote : c.toNat ≠ quote.toNat)
      (noBackslash : c.toNat ≠ backslash.toNat) : CharRendered c (String.utf8EncodeChar c)
  | short {value b : UInt8} (escape : (value, b) ∈ shortEscapes) (h : c.toNat = value.toNat) :
      CharRendered c [backslash, b]
  | unit {digits : List UInt8} (h : HexUnit digits c.toNat) :
      CharRendered c (backslash :: 0x75 :: digits)
  | pair {first second : List UInt8} {high low : Nat} (hfirst : HexUnit first high)
      (hsecond : HexUnit second low) (isHigh : 0xD800 ≤ high ∧ high ≤ 0xDBFF)
      (isLow : 0xDC00 ≤ low ∧ low ≤ 0xDFFF)
      (h : c.toNat = (high - 0xD800) * 0x400 + (low - 0xDC00) + 0x10000) :
      CharRendered c (backslash :: 0x75 :: first ++ backslash :: 0x75 :: second)

def StringRendered (s : String) (bytes : List UInt8) : Prop :=
  ∃ pieces, List.Forall₂ CharRendered s.toList pieces ∧ bytes = quote :: pieces.flatten ++ [quote]

def Blank (bytes : List UInt8) : Prop := ∀ b ∈ bytes, isSpace b = true

/-- A value, or what stands between the brackets of one: elements and members, with the blanks
around them, and lists of them. -/
inductive Part where
  | value (v : Tree)
  | element (v : Tree)
  | elements (vs : List Tree)
  | member (name : String) (v : Tree)
  | members (ms : List (String × Tree))

inductive Renders : Part → List UInt8 → Prop where
  | nullWord : Renders (.value .null) [0x6E, 0x75, 0x6C, 0x6C]
  | trueWord : Renders (.value (.bool true)) [0x74, 0x72, 0x75, 0x65]
  | falseWord : Renders (.value (.bool false)) [0x66, 0x61, 0x6C, 0x73, 0x65]
  | number (n : Literal) : Renders (.value (.number n)) n.bytes
  | string {s : String} {bytes : List UInt8} (h : StringRendered s bytes) :
      Renders (.value (.string s)) bytes
  | emptyArray {blank : List UInt8} (h : Blank blank) :
      Renders (.value (.array [])) (openBracket :: blank ++ [closeBracket])
  | array {vs : List Tree} {bytes : List UInt8} (h : Renders (.elements vs) bytes) :
      Renders (.value (.array vs)) (openBracket :: bytes ++ [closeBracket])
  | emptyObject {blank : List UInt8} (h : Blank blank) :
      Renders (.value (.object [])) (openBrace :: blank ++ [closeBrace])
  | object {ms ms' : List (String × Tree)} {bytes : List UInt8} (order : ms.Perm ms')
      (h : Renders (.members ms') bytes) :
      Renders (.value (.object ms)) (openBrace :: bytes ++ [closeBrace])
  | element {v : Tree} {pre bytes post : List UInt8} (before : Blank pre)
      (h : Renders (.value v) bytes) (after : Blank post) :
      Renders (.element v) (pre ++ bytes ++ post)
  | lastElement {v : Tree} {bytes : List UInt8} (h : Renders (.element v) bytes) :
      Renders (.elements [v]) bytes
  | elements {v : Tree} {vs : List Tree} {bytes rest : List UInt8}
      (head : Renders (.element v) bytes) (tail : Renders (.elements vs) rest) :
      Renders (.elements (v :: vs)) (bytes ++ comma :: rest)
  | member {name : String} {v : Tree} {pre key post bytes : List UInt8} (before : Blank pre)
      (hkey : StringRendered name key) (after : Blank post) (h : Renders (.element v) bytes) :
      Renders (.member name v) (pre ++ key ++ post ++ colon :: bytes)
  | lastMember {name : String} {v : Tree} {bytes : List UInt8}
      (h : Renders (.member name v) bytes) : Renders (.members [(name, v)]) bytes
  | members {name : String} {v : Tree} {ms : List (String × Tree)} {bytes rest : List UInt8}
      (head : Renders (.member name v) bytes) (tail : Renders (.members ms) rest) :
      Renders (.members ((name, v) :: ms)) (bytes ++ comma :: rest)

def Tree.Starts : Tree → UInt8 → Prop
  | .null, b => b = 0x6E
  | .bool _, b => b = 0x74 ∨ b = 0x66
  | .number _, b => b = minus ∨ ∃ d, b = digitByte d
  | .string _, b => b = quote
  | .array _, b => b = openBracket
  | .object _, b => b = openBrace

theorem Renders.starts {v : Tree} {bytes : List UInt8} (h : Renders (.value v) bytes) :
    ∃ b rest, bytes = b :: rest ∧ v.Starts b := by
  cases h with
  | nullWord => exact ⟨_, _, rfl, rfl⟩
  | trueWord => exact ⟨_, _, rfl, .inl rfl⟩
  | falseWord => exact ⟨_, _, rfl, .inr rfl⟩
  | number n =>
    unfold Literal.bytes
    cases n.negative with
    | true => exact ⟨minus, _, rfl, .inl rfl⟩
    | false => exact ⟨digitByte n.whole.first, _, rfl, .inr ⟨n.whole.first, rfl⟩⟩
  | string h =>
    obtain ⟨pieces, _, rfl⟩ := h
    exact ⟨quote, _, rfl, rfl⟩
  | emptyArray _ => exact ⟨openBracket, _, rfl, rfl⟩
  | array _ => exact ⟨openBracket, _, rfl, rfl⟩
  | emptyObject _ => exact ⟨openBrace, _, rfl, rfl⟩
  | object _ _ => exact ⟨openBrace, _, rfl, rfl⟩

/-- What a value starts with is neither a blank nor the end of a list. -/
theorem Tree.Starts.token {v : Tree} {b : UInt8} (h : v.Starts b) :
    isSpace b = false ∧ b ≠ closeBracket := by
  cases v with
  | null =>
    cases h
    decide
  | bool _ => rcases h with rfl | rfl <;> decide
  | number _ =>
    have digit : ∀ d : Fin 10, isSpace (digitByte d) = false ∧ digitByte d ≠ closeBracket := by
      decide
    rcases h with rfl | ⟨d, rfl⟩
    · decide
    · exact digit d
  | string _ =>
    cases h
    decide
  | array _ =>
    cases h
    decide
  | object _ =>
    cases h
    decide

/-- Whether a text is a rendering of a value; there may be blanks around it. -/
def Tree.IsWrittenAs (v : Tree) (bytes : List UInt8) : Prop := Renders (.element v) bytes

end Almanac.Json
