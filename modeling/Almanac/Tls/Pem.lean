import Almanac.Basic
import Almanac.Text.Quoted

set_option autoImplicit false

/-!
# PEM files

A PEM file has sections, each between a line that begins it and one that ends it, both with its
label. All else is commentary. A section that begins within another one takes its place and keeps
the lines read so far. Only sections of the known labels are decoded; a faulty one gives a fault in
its place, and reading goes on behind it.
-/
namespace Almanac.Base64

inductive Fault where
  | invalidCharacter (byte : UInt8)
  | earlyPadding
  | invalidEnd
deriving DecidableEq

def Fault.text : Fault → String
  | invalidCharacter byte => "InvalidCharacter(" ++ toString byte.toNat ++ ")"
  | earlyPadding => "PrematurePadding"
  | invalidEnd => "InvalidTrailingPadding"

inductive Symbol where
  | value (n : Nat)
  | padding
  | blank
  | invalid
deriving DecidableEq

def Symbol.ofByte (b : UInt8) : Symbol :=
  let n := b.toNat
  if 0x41 ≤ n ∧ n ≤ 0x5A then value (n - 0x41)
  else if 0x61 ≤ n ∧ n ≤ 0x7A then value (n - 0x61 + 26)
  else if 0x30 ≤ n ∧ n ≤ 0x39 then value (n - 0x30 + 52)
  else if n = 0x2B then value 62
  else if n = 0x2F then value 63
  else if n = 0x3D then padding
  else if (0x09 ≤ n ∧ n ≤ 0x0D) ∨ n = 0x20 then blank
  else invalid

def bytesOf : List Nat → List UInt8
  | a :: b :: c :: d :: rest =>
    UInt8.ofNat (a * 4 + b / 16) :: UInt8.ofNat (b % 16 * 16 + c / 4) ::
      UInt8.ofNat (c % 4 * 64 + d) :: bytesOf rest
  | [a, b, c] => [UInt8.ofNat (a * 4 + b / 16), UInt8.ofNat (b % 16 * 16 + c / 4)]
  | [a, b] => [UInt8.ofNat (a * 4 + b / 16)]
  | _ => []

def values (symbols : List (Option Nat)) : Except Fault (List Nat) :=
  match symbols.mapM id with
  | some ns => .ok ns
  | none => .error .earlyPadding

def lastValues : List (Option Nat) → Except Fault (List Nat)
  | [] => .ok []
  | [some a, some b] | [some a, some b, none, none] => .ok [a, b]
  | [some a, some b, some c] | [some a, some b, some c, none] => .ok [a, b, c]
  | [some a, some b, some c, some d] => .ok [a, b, c, d]
  | _ => .error .invalidEnd

def lastBytes (block : List (Option Nat)) : Except Fault (List UInt8) :=
  if block.length ≤ 4 then return bytesOf (← lastValues block)
  else do
    let first ← values (block.take 4)
    let second ← lastValues (block.drop 4)
    pure (bytesOf (first ++ second))

/-- The bytes decoded from full blocks and the symbols of the block after them, both in reverse;
padding is `none`. A block has two groups, so that misplaced padding is noticed when it is over. -/
structure Progress where
  bytes : List UInt8
  block : List (Option Nat)

namespace Progress

def start : Progress := ⟨[], []⟩

def push (p : Progress) (symbol : Option Nat) : Except Fault Progress :=
  if p.block.length < 8 then .ok { p with block := symbol :: p.block }
  else do
    let ns ← values p.block.reverse
    pure ⟨(bytesOf ns).reverse ++ p.bytes, [symbol]⟩

def step (p : Progress) (b : UInt8) : Except Fault Progress :=
  match Symbol.ofByte b with
  | .value n => p.push (some n)
  | .padding => p.push none
  | .blank => .ok p
  | .invalid => .error (.invalidCharacter b)

end Progress

def decode (text : List UInt8) : Except Fault (List UInt8) := do
  let p ← text.foldlM Progress.step .start
  let last ← lastBytes p.block.reverse
  pure (p.bytes.reverse ++ last)

end Almanac.Base64

namespace Almanac.Pem

abbrev Line : Type := List UInt8

inductive Fault where
  | missingEnd (label : List UInt8)
  | illegalStart (line : Line)
  | base64 (cause : Base64.Fault)
deriving DecidableEq

def textOf (bytes : List UInt8) : String :=
  match Utf8.decodePrefix bytes with
  | (cs, []) => String.ofList cs
  | (cs, _) => String.ofList (cs ++ ['\uFFFD'])

def Fault.text : Fault → String
  | missingEnd label => "section end " ++ quoted (textOf label) ++ " missing"
  | illegalStart line => "illegal section start: " ++ quoted (textOf line)
  | base64 cause => cause.text

structure Section where
  label : String
  content : List UInt8
deriving DecidableEq

/-- Cuts after each line feed and each carriage return; `line` is the reverse of what stands before
the bytes in their line. -/
def linesFrom (line : List UInt8) : List UInt8 → List Line
  | [] => if line.isEmpty then [] else [line.reverse]
  | b :: rest =>
    if b = 0x0A ∨ b = 0x0D then (b :: line).reverse :: linesFrom [] rest
    else linesFrom (b :: line) rest

def lines (bytes : List UInt8) : List Line := linesFrom [] bytes

def beginning : List UInt8 := Utf8.encode "-----BEGIN "

def ending : List UInt8 := Utf8.encode "-----END "

def dash : UInt8 := 0x2D

def dashes : List UInt8 := List.replicate 5 dash

def closing (line : Line) : List UInt8 :=
  let marks := line.reverse.takeWhile fun b => [dash, 0x0A, 0x0D, 0x20].contains b
  marks.reverse.dropWhile (· != dash)

def label (line : Line) : Except Fault (List UInt8) :=
  let closing := closing line
  if closing.count dash = 5 then
    .ok ((line.take (line.length - closing.length)).drop beginning.length)
  else .error (.illegalStart line)

/-- Whether a line ends the section of a label; it may go on after that. -/
def ends (label : List UInt8) (line : Line) : Bool := (ending ++ label ++ dashes).isPrefixOf line

def knownLabels : List String :=
  ["CERTIFICATE", "PUBLIC KEY", "RSA PRIVATE KEY", "PRIVATE KEY", "EC PRIVATE KEY", "X509 CRL",
    "CERTIFICATE REQUEST", "ECHCONFIG"]

def close? (label : List UInt8) (content : List UInt8) : Option (Except Fault Section) :=
  match knownLabels.find? fun known => Utf8.encode known == label with
  | none => none
  | some known => some (((Base64.decode content).mapError .base64).map (Section.mk known))

/-- Reads the sections of some lines. Before them stand the `content` lines, in reverse, of a
section with the label `current`, if there is one. -/
def sectionsFrom (current : Option (List UInt8)) (content : List Line) :
    List Line → List (Except Fault Section)
  | [] => current.toList.map fun label => .error (.missingEnd label)
  | line :: rest =>
    if beginning.isPrefixOf line then
      match label line with
      | .ok label => sectionsFrom (some label) content rest
      | .error fault => .error fault :: sectionsFrom none [] rest
    else match current with
    | none => sectionsFrom none content rest
    | some label =>
      if ends label line then
        (close? label content.reverse.flatten).toList ++ sectionsFrom none [] rest
      else sectionsFrom current (line :: content) rest

def sections (bytes : List UInt8) : List (Except Fault Section) :=
  sectionsFrom none [] (lines bytes)

end Almanac.Pem
