import Almanac.Json.StringReader

set_option autoImplicit false

/-!
# Passing over a value

A value that nobody reads is only checked to be well formed: by a machine that takes one byte at a
time and keeps the brackets it is inside of on a stack, so that depth costs no recursion. Strings
are not decoded and numbers not converted, hence neither can be out of range.
-/
namespace Almanac.Json

open Ascii

inductive Bracket where
  | list
  | object
deriving DecidableEq

def Bracket.unfinished : Bracket → Unfinished
  | list => .list
  | object => .object

inductive NumberStage where
  | minus
  | zero
  | digits
  | point
  | fraction
  | mark
  | sign
  | exponent
deriving DecidableEq

namespace NumberStage

def complete : NumberStage → Bool
  | zero | digits | fraction | exponent => true
  | minus | point | mark | sign => false

def next? (stage : NumberStage) (b : UInt8) : Option NumberStage :=
  let isDigit := (digit? b).isSome
  let isMark := b == 0x65 || b == 0x45
  match stage with
  | minus => if b = 0x30 then some zero else if isDigit then some digits else none
  | zero => if b = Ascii.point then some point else if isMark then some mark else none
  | digits =>
    if isDigit then some digits
    else if b = Ascii.point then some point else if isMark then some mark else none
  | point => if isDigit then some fraction else none
  | fraction => if isDigit then some fraction else if isMark then some mark else none
  | mark =>
    if b = Ascii.plus ∨ b = Ascii.minus then some sign
    else if isDigit then some exponent else none
  | sign => if isDigit then some exponent else none
  | exponent => if isDigit then some exponent else none

end NumberStage

inductive TextStage where
  | plain
  | escape
  /-- After `\u` and some digits, latest first. -/
  | digits (read : List UInt8)
deriving DecidableEq

/-- What the machine is in the middle of. -/
inductive SkipState where
  | value
  | firstElement
  | firstKey
  | key
  | colon
  | after
  | literal (tail : List UInt8)
  | number (stage : NumberStage)
  | text (isKey : Bool) (stage : TextStage)
deriving DecidableEq

namespace SkipState

def start (stack : List Bracket) (b : UInt8) : Except Malformed (SkipState × List Bracket) :=
  if b = quote then .ok (.text false .plain, stack)
  else if b = openBracket then .ok (.firstElement, .list :: stack)
  else if b = openBrace then .ok (.firstKey, .object :: stack)
  else if b = 0x6E then .ok (.literal nullTail, stack)
  else if b = 0x74 then .ok (.literal trueTail, stack)
  else if b = 0x66 then .ok (.literal falseTail, stack)
  else if b = minus then .ok (.number .minus, stack)
  else match NumberStage.minus.next? b with
    | some stage => .ok (.number stage, stack)
    | none => .error .expectedValue

def follow (stack : List Bracket) (b : UInt8) : Except Malformed (SkipState × List Bracket) :=
  match stack with
  | [] => .ok (.after, [])
  | .list :: outer =>
    if isSpace b then .ok (.after, stack)
    else if b = comma then .ok (.value, stack)
    else if b = closeBracket then .ok (.after, outer)
    else .error .expectedElementEnd
  | .object :: outer =>
    if isSpace b then .ok (.after, stack)
    else if b = comma then .ok (.key, stack)
    else if b = closeBrace then .ok (.after, outer)
    else .error .expectedMemberEnd

def keyStart (stack : List Bracket) (b : UInt8) : Except Malformed (SkipState × List Bracket) :=
  if b = quote then .ok (.text true .plain, stack) else .error .keyNotString

def textStep (isKey : Bool) (stage : TextStage) (b : UInt8) : Except Malformed SkipState :=
  match stage with
  | .plain =>
    if b = quote then .ok (if isKey then .colon else .after)
    else if b = backslash then .ok (.text isKey .escape)
    else if b.toNat < 0x20 then .error .controlCharacter
    else .ok (.text isKey .plain)
  | .escape =>
    if b = 0x75 then .ok (.text isKey (.digits []))
    else if (shortEscape? b).isSome then .ok (.text isKey .plain)
    else .error .invalidEscape
  | .digits [y, x, w] =>
    if (hexUnit? w x y b).isSome then .ok (.text isKey .plain) else .error .invalidEscape
  | .digits read => .ok (.text isKey (.digits (b :: read)))

def step (state : SkipState) (stack : List Bracket) (b : UInt8) :
    Except Malformed (SkipState × List Bracket) :=
  match state with
  | value => if isSpace b then .ok (value, stack) else start stack b
  | firstElement =>
    if isSpace b then .ok (firstElement, stack)
    else if b = closeBracket then .ok (after, stack.tail)
    else start stack b
  | firstKey =>
    if isSpace b then .ok (firstKey, stack)
    else if b = closeBrace then .ok (after, stack.tail)
    else keyStart stack b
  | key => if isSpace b then .ok (key, stack) else keyStart stack b
  | colon =>
    if isSpace b then .ok (colon, stack)
    else if b = Ascii.colon then .ok (value, stack)
    else .error .expectedColon
  | after => follow stack b
  | literal [] => follow stack b
  | literal (expected :: tail) =>
    if b = expected then .ok (if tail.isEmpty then after else literal tail, stack)
    else .error .expectedLiteral
  | number stage =>
    match stage.next? b with
    | some next => .ok (number next, stack)
    | none =>
      if stage = .zero ∧ (digit? b).isSome then .error .invalidNumber
      else if stage.complete then follow stack b
      else .error .invalidNumber
  | text isKey stage => (textStep isKey stage b).map (·, stack)

def endsBefore (state : SkipState) (b : UInt8) : Bool :=
  match state with
  | after => true
  | number stage =>
    stage.complete && (stage.next? b).isNone && !(stage == .zero && (digit? b).isSome)
  | _ => false

/-- What a text that ends here leaves unfinished; nothing if the value is complete. -/
def atEnd (state : SkipState) (stack : List Bracket) : Option Cause :=
  let inBrackets : Option Cause := stack.head?.map (.unfinished ·.unfinished)
  match state with
  | value => some (.unfinished .value)
  | firstElement => some (.unfinished .list)
  | firstKey | key | colon => some (.unfinished .object)
  | after => inBrackets
  | literal _ => some (.unfinished .value)
  | number stage => if stage.complete then inBrackets else some (.malformed .invalidNumber)
  | text _ _ => some (.unfinished .string)

end SkipState

/-- Runs the machine over a text. A fault is reported after the byte that shows it, except that a
control character in a string is reported before it. -/
def skipFrom : List UInt8 → Position → SkipState → List Bracket → Except Fault Cursor
  | [], p, state, stack =>
    match state.atEnd stack with
    | none => .ok ⟨[], p⟩
    | some cause => .error ⟨[], cause, p⟩
  | b :: rest, p, state, stack =>
    if stack.isEmpty && state.endsBefore b then .ok ⟨b :: rest, p⟩
    else match state.step stack b with
      | .ok (next, stack) => skipFrom rest (p.after b) next stack
      | .error .controlCharacter => .error (.malformed .controlCharacter p)
      | .error cause => .error (.malformed cause (p.after b))

def skipValue (c : Cursor) : Except Fault Cursor := skipFrom c.rest c.position .value []

end Almanac.Json
