set_option autoImplicit false

namespace Almanac

-- Powers and the zero at which sums start are core's in every module: an algebra library would put
-- its own in their place, and a lemma would no longer name the operation of the definition. The
-- exponent of a literal has no type yet where the power is chosen, so that a default decides there.
attribute [default_instance (high + 1)] instPowNat

attribute [scoped instance (high)] instPowNat Zero.ofOfNat0

/-- The characters with the Unicode property `White_Space`. -/
def isBlank (c : Char) : Bool :=
  (9 ≤ c.toNat && c.toNat ≤ 13) || c.toNat == 0x20 || c.toNat == 0x85 || c.toNat == 0xA0
    || c.toNat == 0x1680 || (0x2000 ≤ c.toNat && c.toNat ≤ 0x200A) || c.toNat == 0x2028
    || c.toNat == 0x2029 || c.toNat == 0x202F || c.toNat == 0x205F || c.toNat == 0x3000

namespace Ascii

@[match_pattern] abbrev tab : UInt8 := 0x09
@[match_pattern] abbrev lineFeed : UInt8 := 0x0A
@[match_pattern] abbrev carriageReturn : UInt8 := 0x0D
@[match_pattern] abbrev space : UInt8 := 0x20
@[match_pattern] abbrev quote : UInt8 := 0x22
@[match_pattern] abbrev plus : UInt8 := 0x2B
@[match_pattern] abbrev comma : UInt8 := 0x2C
@[match_pattern] abbrev minus : UInt8 := 0x2D
@[match_pattern] abbrev point : UInt8 := 0x2E
@[match_pattern] abbrev slash : UInt8 := 0x2F
@[match_pattern] abbrev colon : UInt8 := 0x3A
@[match_pattern] abbrev openBracket : UInt8 := 0x5B
@[match_pattern] abbrev backslash : UInt8 := 0x5C
@[match_pattern] abbrev closeBracket : UInt8 := 0x5D
@[match_pattern] abbrev openBrace : UInt8 := 0x7B
@[match_pattern] abbrev closeBrace : UInt8 := 0x7D

def digit? (b : UInt8) : Option Nat :=
  if 0x30 ≤ b.toNat ∧ b.toNat ≤ 0x39 then some (b.toNat - 0x30) else none

def hexDigit? (b : UInt8) : Option Nat :=
  let n := b.toNat
  if 0x30 ≤ n ∧ n ≤ 0x39 then some (n - 0x30)
  else if 0x41 ≤ n ∧ n ≤ 0x46 then some (n - 0x41 + 10)
  else if 0x61 ≤ n ∧ n ≤ 0x66 then some (n - 0x61 + 10)
  else none

end Ascii

inductive NumeralError where
  | empty
  | invalidDigit
  | tooLarge
  | tooSmall
deriving DecidableEq

def NumeralError.message : NumeralError → String
  | empty => "cannot parse integer from empty string"
  | invalidDigit => "invalid digit found in string"
  | tooLarge => "number too large to fit in target type"
  | tooSmall => "number too small to fit in target type"

def digitValue? (c : Char) : Option Nat :=
  if '0' ≤ c ∧ c ≤ '9' then some (c.toNat - '0'.toNat) else none

def readDigits (limit : Nat) (beyond : NumeralError) (value : Nat) :
    List Char → Except NumeralError Nat
  | [] => .ok value
  | c :: rest =>
    match digitValue? c with
    | none => .error .invalidDigit
    | some d =>
      if 10 * value + d ≤ limit then readDigits limit beyond (10 * value + d) rest
      else .error beyond

def readSomeDigits (limit : Nat) (beyond : NumeralError) : List Char → Except NumeralError Nat
  | [] => .error .invalidDigit
  | cs => readDigits limit beyond 0 cs

def readNatural (limit : Nat) (s : String) : Except NumeralError Nat :=
  match s.toList with
  | [] => .error .empty
  | '+' :: cs => readSomeDigits limit .tooLarge cs
  | cs => readSomeDigits limit .tooLarge cs

/-- A numeral between `-(limit + 1)` and `limit`, which may have a sign. -/
def readInteger (limit : Nat) (s : String) : Except NumeralError Int :=
  match s.toList with
  | [] => .error .empty
  | '+' :: cs => (readSomeDigits limit .tooLarge cs).map Int.ofNat
  | '-' :: cs => (readSomeDigits (limit + 1) .tooSmall cs).map fun n => -(n : Int)
  | cs => (readSomeDigits limit .tooLarge cs).map Int.ofNat

namespace Utf8

def tail? (b : UInt8) : Option Nat :=
  if 0x80 ≤ b.toNat ∧ b.toNat ≤ 0xBF then some (b.toNat - 0x80) else none

def scalar? (least n : Nat) : Option Char :=
  if least ≤ n ∧ n.isValidChar then some (Char.ofNat n) else none

def two? (a b : UInt8) : Option Char := do
  if 0xC0 ≤ a.toNat ∧ a.toNat ≤ 0xDF then
    let y ← tail? b
    scalar? 0x80 ((a.toNat - 0xC0) * 64 + y)
  else none

def three? (a b c : UInt8) : Option Char := do
  if 0xE0 ≤ a.toNat ∧ a.toNat ≤ 0xEF then
    let y ← tail? b
    let z ← tail? c
    scalar? 0x800 (((a.toNat - 0xE0) * 64 + y) * 64 + z)
  else none

def four? (a b c d : UInt8) : Option Char := do
  if 0xF0 ≤ a.toNat ∧ a.toNat ≤ 0xF7 then
    let x ← tail? b
    let y ← tail? c
    let z ← tail? d
    scalar? 0x10000 ((((a.toNat - 0xF0) * 64 + x) * 64 + y) * 64 + z)
  else none

/-- Reads characters in front of the reversed `read`, up to the first byte that starts none. -/
def decodeFrom (read : List Char) : List UInt8 → List Char × List UInt8
  | [] => (read.reverse, [])
  | a :: r₁ =>
    if a.toNat < 0x80 then decodeFrom (Char.ofNat a.toNat :: read) r₁
    else match r₁ with
    | [] => (read.reverse, [a])
    | b :: r₂ =>
      match two? a b with
      | some ch => decodeFrom (ch :: read) r₂
      | none => match r₂ with
        | [] => (read.reverse, [a, b])
        | c :: r₃ =>
          match three? a b c with
          | some ch => decodeFrom (ch :: read) r₃
          | none => match r₃ with
            | [] => (read.reverse, [a, b, c])
            | d :: r₄ =>
              match four? a b c d with
              | some ch => decodeFrom (ch :: read) r₄
              | none => (read.reverse, a :: b :: c :: d :: r₄)

/-- The characters of the longest well-formed prefix, and the bytes after it. -/
def decodePrefix (bytes : List UInt8) : List Char × List UInt8 := decodeFrom [] bytes

def encode (s : String) : List UInt8 := s.toList.flatMap String.utf8EncodeChar

end Utf8

end Almanac
