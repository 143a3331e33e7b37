import Almanac.Basic
import Almanac.Json.Value
import Almanac.Text.Quoted

set_option autoImplicit false

namespace Almanac.Json

/-- A place in a text: the line, from 1, and the bytes before it in that line. -/
structure Position where
  line : Nat
  column : Nat
deriving DecidableEq

namespace Position

def start : Position := ⟨1, 0⟩

def after (p : Position) (b : UInt8) : Position :=
  if b = 0x0A then ⟨p.line + 1, 0⟩ else ⟨p.line, p.column + 1⟩

end Position

inductive Malformed where
  | expectedValue
  | expectedLiteral
  | expectedColon
  | expectedMemberEnd
  | expectedElementEnd
  | keyNotString
  | trailingComma
  | trailingCharacters
  | invalidNumber
  | numberOutOfRange
  | invalidEscape
  | unpairedSurrogate
  | loneSurrogate
  | invalidEncoding
  | controlCharacter
deriving DecidableEq

def Malformed.message : Malformed → String
  | expectedValue => "expected value"
  | expectedLiteral => "expected ident"
  | expectedColon => "expected `:`"
  | expectedMemberEnd => "expected `,` or `\x7d`"
  | expectedElementEnd => "expected `,` or `]`"
  | keyNotString => "key must be a string"
  | trailingComma => "trailing comma"
  | trailingCharacters => "trailing characters"
  | invalidNumber => "invalid number"
  | numberOutOfRange => "number out of range"
  | invalidEscape => "invalid escape"
  | unpairedSurrogate => "unexpected end of hex escape"
  | loneSurrogate => "lone leading surrogate in hex escape"
  | invalidEncoding => "invalid unicode code point"
  | controlCharacter => "control character (\\u0000-\\u001F) found while parsing a string"

inductive Unfinished where
  | value
  | list
  | object
  | string
deriving DecidableEq

def Unfinished.message : Unfinished → String
  | value => "EOF while parsing a value"
  | list => "EOF while parsing a list"
  | object => "EOF while parsing an object"
  | string => "EOF while parsing a string"

inductive Found where
  | null
  | boolean (value : Bool)
  | integer (value : Int)
  | number (value : Binary64)
  | string (value : String)
  | list
  | object
deriving DecidableEq

def Found.text : Found → String
  | null => "null"
  | boolean b => "boolean `" ++ boolText b ++ "`"
  | integer n => "integer `" ++ toString n ++ "`"
  | number x => "floating point `" ++ numberText x ++ "`"
  | string s => "string " ++ quoted s
  | list => "sequence"
  | object => "map"

inductive Mismatch where
  | wrongType (found : Found) (expected : String)
  | wrongValue (found : Found) (expected : String)
  | missingField (name : String)
  | duplicateField (name : String)
  | wrongLength (length : Nat) (expected : String)
  | rejected (reason : String)
deriving DecidableEq

def Mismatch.message : Mismatch → String
  | wrongType found expected => "invalid type: " ++ found.text ++ ", expected " ++ expected
  | wrongValue found expected => "invalid value: " ++ found.text ++ ", expected " ++ expected
  | missingField name => "missing field `" ++ name ++ "`"
  | duplicateField name => "duplicate field `" ++ name ++ "`"
  | wrongLength length expected =>
    "invalid length " ++ toString length ++ ", expected " ++ expected
  | rejected reason => reason

inductive Cause where
  | malformed (cause : Malformed)
  | unfinished (cause : Unfinished)
  | mismatch (cause : Mismatch)
deriving DecidableEq

def Cause.message : Cause → String
  | malformed c => c.message
  | unfinished c => c.message
  | mismatch c => c.message

inductive Step where
  | member (key : String)
  | element (index : Nat)
deriving DecidableEq

structure Fault where
  path : List Step
  cause : Cause
  position : Position
deriving DecidableEq

namespace Fault

def malformed (cause : Malformed) (p : Position) : Fault := ⟨[], .malformed cause, p⟩

def unfinished (cause : Unfinished) (p : Position) : Fault := ⟨[], .unfinished cause, p⟩

def mismatch (cause : Mismatch) (p : Position) : Fault := ⟨[], .mismatch cause, p⟩

/-- The fault as seen from the value that has the faulty part. -/
def inside (step : Step) (f : Fault) : Fault := { f with path := step :: f.path }

def message (f : Fault) : String :=
  f.cause.message ++ " at line " ++ toString f.position.line ++ " column " ++
    toString f.position.column

/-- The steps of a path one after another; a key has a dot before it unless it comes first. -/
def pathText : List Step → String
  | [] => ""
  | .member key :: rest => key ++ laterText rest
  | .element index :: rest => "[" ++ toString index ++ "]" ++ laterText rest
where
  laterText : List Step → String
    | [] => ""
    | .member key :: rest => "." ++ key ++ laterText rest
    | .element index :: rest => "[" ++ toString index ++ "]" ++ laterText rest

def located (f : Fault) : String :=
  match f.path with
  | [] => f.message
  | path => pathText path ++ ": " ++ f.message

end Fault

open Ascii

structure Cursor where
  rest : List UInt8
  position : Position

abbrev Reader (α : Type) : Type := Cursor → Except Fault (α × Cursor)

def isSpace (b : UInt8) : Bool :=
  b == space || b == lineFeed || b == tab || b == carriageReturn

namespace Cursor

def ofBytes (bytes : List UInt8) : Cursor := ⟨bytes, .start⟩

/-- The position that counts the next byte as well. -/
def ahead (c : Cursor) : Position :=
  match c.rest with
  | [] => c.position
  | b :: _ => c.position.after b

def skipBlanksFrom : List UInt8 → Position → Cursor
  | [], p => ⟨[], p⟩
  | b :: rest, p => if isSpace b then skipBlanksFrom rest (p.after b) else ⟨b :: rest, p⟩

def skipBlanks (c : Cursor) : Cursor := skipBlanksFrom c.rest c.position

def pastClosing (c : Cursor) (closing : UInt8) : Position :=
  match c.skipBlanks with
  | ⟨b :: _, p⟩ => if b = closing then p.after b else p
  | ⟨[], p⟩ => p

def literal : List UInt8 → Cursor → Except Fault Cursor
  | [], c => .ok c
  | expected :: word, c =>
    match c.rest with
    | [] => .error (.unfinished .value c.position)
    | b :: rest =>
      if b = expected then literal word ⟨rest, c.position.after b⟩
      else .error (.malformed .expectedLiteral c.ahead)

end Cursor

def nullTail : List UInt8 := [0x75, 0x6C, 0x6C]

def trueTail : List UInt8 := [0x72, 0x75, 0x65]

def falseTail : List UInt8 := [0x61, 0x6C, 0x73, 0x65]

end Almanac.Json
