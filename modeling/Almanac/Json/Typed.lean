import Almanac.Json.NumberReader
import Almanac.Json.StringReader

set_option autoImplicit false

namespace Almanac.Json

open Ascii

/-- A value of another type is a mismatch: scalars are read to the end to be reported, lists and
objects are only named. -/
def otherThan (expected : String) (c : Cursor) : Fault :=
  let wrong (found : Found) (p : Position) : Fault := .mismatch (.wrongType found expected) p
  let literal (tail : List UInt8) (found : Found) : Fault :=
    match c.next.literal tail with
    | .ok c => wrong found c.position
    | .error fault => fault
  let number (negative : Bool) (c : Cursor) : Fault :=
    match numeral negative c with
    | .ok (n, c) => wrong n.found c.position
    | .error fault => fault
  match c.rest with
  | [] => .unfinished .value c.position
  | b :: _ =>
    if b = 0x6E then literal nullTail .null
    else if b = 0x74 then literal trueTail (.boolean true)
    else if b = 0x66 then literal falseTail (.boolean false)
    else if b = minus then number true c.next
    else if (digit? b).isSome then number false c
    else if b = quote then
      match stringBody c.next with
      | .ok (s, c) => wrong (.string s) c.position
      | .error fault => fault
    else if b = openBracket then wrong .list c.position
    else if b = openBrace then wrong .object c.position
    else .malformed .expectedValue c.ahead

namespace Reader

def parsed {α : Type} (expected : String) (parse : String → Except String α) : Reader α := fun c =>
  let c := c.skipBlanks
  if c.rest.head? = some quote then do
    let (s, c) ← stringBody c.next
    match parse s with
    | .ok a => .ok (a, c)
    | .error reason => .error (.mismatch (.rejected reason) c.position)
  else .error (otherThan expected c)

def string : Reader String := parsed "a string" .ok

def numeric {α : Type} (expected : String) (convert : Numeral → Except Mismatch α) : Reader α :=
  fun c =>
    let c := c.skipBlanks
    let finish : Numeral × Cursor → Except Fault (α × Cursor)
      | (n, c) =>
        match convert n with
        | .ok a => .ok (a, c)
        | .error cause => .error (.mismatch cause c.position)
    if c.rest.head? = some minus then numeral true c.next >>= finish
    else if c.atDigit then numeral false c >>= finish
    else .error (otherThan expected c)

def int32 : Reader Int32 :=
  let expected := "i32"
  numeric expected fun
    | .integer n =>
      if -2 ^ 31 ≤ n ∧ n < 2 ^ 31 then .ok (Int32.ofInt n)
      else .error (.wrongValue (.integer n) expected)
    | .number x => .error (.wrongType (.number x) expected)

def binary64 : Reader Binary64 :=
  numeric "f64" fun
    | .integer n => .ok (.ofInt n)
    | .number x => .ok x

def optional {α : Type} (r : Reader α) : Reader (Option α) := fun c =>
  let c := c.skipBlanks
  if c.rest.head? = some 0x6E then do
    let c ← c.next.literal nullTail
    pure (none, c)
  else do
    let (a, c) ← r c
    pure (some a, c)

def within {α : Type} (step : Step) (r : Reader α) : Reader α := fun c =>
  (r c).mapError (·.inside step)

end Reader

/-- What comes before the next element of a list: nothing if the list closes, else the cursor
before the element. -/
def nextElement (first : Bool) (c : Cursor) : Except Fault (Option Cursor) :=
  let c := c.skipBlanks
  match c.rest with
  | [] => .error (.unfinished .list c.position)
  | b :: _ =>
    if b = closeBracket then .ok none
    else if first then .ok (some c)
    else if b = comma then
      let c := c.next.skipBlanks
      match c.rest with
      | [] => .error (.unfinished .value c.position)
      | b :: _ =>
        if b = closeBracket then .error (.malformed .trailingComma c.ahead) else .ok (some c)
    else .error (.malformed .expectedElementEnd c.ahead)

def endList (c : Cursor) : Except Fault Cursor :=
  let c := c.skipBlanks
  match c.rest with
  | [] => .error (.unfinished .list c.position)
  | b :: _ =>
    if b = closeBracket then .ok c.next
    else if b = comma then
      let c := c.next.skipBlanks
      if c.rest.head? = some closeBracket then .error (.malformed .trailingComma c.ahead)
      else .error (.malformed .trailingCharacters c.ahead)
    else .error (.malformed .trailingCharacters c.ahead)

namespace Reader

/-- The elements of a list from the one with the given index on, in front of the reversed `read`.
There are fewer of them than bytes, which is what `fuel` counts. -/
def elements {α : Type} (r : Reader α) : (fuel index : Nat) → (read : List α) → Reader (List α)
  | 0, _, _, c => .error (.unfinished .list c.position)
  | fuel + 1, index, read, c => do
    match ← nextElement (index == 0) c with
    | none => .ok (read.reverse, c)
    | some c => do
      let (a, c) ← within (.element index) r c
      elements r fuel (index + 1) (a :: read) c

def list {α : Type} (r : Reader α) : Reader (List α) := fun c =>
  let c := c.skipBlanks
  if c.rest.head? = some openBracket then do
    let (as, c) ← elements r c.rest.length 0 [] c.next
    let c ← endList c
    pure (as, c)
  else .error (otherThan "a sequence" c)

def all {α : Type} (r : Reader α) (bytes : List UInt8) : Except Fault α := do
  let (a, c) ← r (.ofBytes bytes)
  let c := c.skipBlanks
  if c.rest.isEmpty then pure a else .error (.malformed .trailingCharacters c.ahead)

end Reader

end Almanac.Json
