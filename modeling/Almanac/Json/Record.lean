import Almanac.Json.Skip
import Almanac.Json.Typed

set_option autoImplicit false

namespace Almanac.Json

open Ascii

structure Field (σ : Type) where
  name : String
  isSet : σ → Bool
  read : σ → Reader σ

def Field.of {σ α : Type} (name : String) (get : σ → Option α) (set : α → σ → σ) (r : Reader α) :
    Field σ where
  name
  isSet draft := (get draft).isSome
  read draft c := do
    let (a, c) ← r c
    pure (set a draft, c)

/-- How a record is read: from an object, with its fields by name in any order, or from a list, with
its fields by position. What becomes of missing fields is decided when the object or list ends. -/
structure Record (σ α : Type) where
  title : String
  fields : List (Field σ)
  empty : σ
  ofMembers : σ → Except Mismatch α
  ofElements : σ → (count : Nat) → Except Mismatch α

/-- What comes before the next key of an object: nothing if the object closes, else the cursor
after the key's opening quote. -/
def nextKey (first : Bool) (c : Cursor) : Except Fault (Option Cursor) :=
  let c := c.skipBlanks
  let key (c : Cursor) : Except Fault (Option Cursor) :=
    match c.rest with
    | [] => .error (.unfinished .value c.position)
    | b :: _ =>
      if b = quote then .ok (some c.next)
      else if b = closeBrace then .error (.malformed .trailingComma c.ahead)
      else .error (.malformed .keyNotString c.ahead)
  match c.rest with
  | [] => .error (.unfinished .object c.position)
  | b :: _ =>
    if b = closeBrace then .ok none
    else if first then key c
    else if b = comma then key c.next.skipBlanks
    else .error (.malformed .expectedMemberEnd c.ahead)

def colonAfterKey (c : Cursor) : Except Fault Cursor :=
  let c := c.skipBlanks
  match c.rest with
  | [] => .error (.unfinished .object c.position)
  | b :: _ => if b = colon then .ok c.next else .error (.malformed .expectedColon c.ahead)

namespace Record

variable {σ α : Type}

/-- The member after the key `key`: a field is read into the draft unless it is there already, any
other member is passed over. -/
def member (record : Record σ α) (key : String) (draft : σ) : Reader σ := fun c =>
  match record.fields.find? (·.name == key) with
  | some field =>
    if field.isSet draft then
      .error (.mismatch (.duplicateField key) (c.pastClosing closeBrace))
    else do
      let c ← colonAfterKey c
      Reader.within (.member key) (field.read draft) c
  | none => do
    let c ← colonAfterKey c
    Reader.within (.member key) (fun c => do pure (draft, ← skipValue c)) c

/-- The members of an object up to its closing brace. There are fewer of them than bytes, which is
what `fuel` counts. -/
def members (record : Record σ α) : (fuel : Nat) → (first : Bool) → σ → Reader σ
  | 0, _, _, c => .error (.unfinished .object c.position)
  | fuel + 1, first, draft, c => do
    match ← nextKey first c with
    | none => .ok (draft, c.skipBlanks)
    | some c => do
      let (key, c) ← stringBody c
      let (draft, c) ← record.member key draft c
      record.members fuel false draft c

def elements (fields : List (Field σ)) (index : Nat) (draft : σ) : Reader (σ × Nat) := fun c =>
  match fields with
  | [] => .ok ((draft, index), c)
  | field :: rest => do
    match ← nextElement (index == 0) c with
    | none => .ok ((draft, index), c)
    | some c => do
      let (draft, c) ← Reader.within (.element index) (field.read draft) c
      elements rest (index + 1) draft c

def read (record : Record σ α) : Reader α := fun c =>
  let c := c.skipBlanks
  if c.rest.head? = some openBrace then do
    let (draft, c) ← record.members c.rest.length true record.empty c.next
    let c := c.next
    match record.ofMembers draft with
    | .ok a => .ok (a, c)
    | .error cause => .error (.mismatch cause c.position)
  else if c.rest.head? = some openBracket then do
    let ((draft, count), c) ← elements record.fields 0 record.empty c.next
    match record.ofElements draft count with
    | .ok a => do
      let c ← endList c
      pure (a, c)
    | .error cause => .error (.mismatch cause (c.pastClosing closeBracket))
  else .error (otherThan ("struct " ++ record.title) c)

end Record

end Almanac.Json
