import Almanac.Binary64.Shortest

set_option autoImplicit false

namespace Almanac

inductive Json where
  | null
  | bool (value : Bool)
  | integer (value : Int)
  | number (value : Binary64)
  | string (value : String)
  | array (items : List Json)
  | object (members : List (String × Json))

namespace Json

/-- Numbers are positional from `1e-5` up to `1e16` and have an exponent with its sign beyond. -/
def layout : Layout := ⟨-5, 16, 'e', true⟩

/-- A number as JSON writes it: what is not finite has no JSON form and becomes `null`. -/
def numberText (x : Binary64) : String := (layout.binary64? x).getD "null"

def hexPair (n : Nat) : List Char := [Nat.digitChar (n / 16), Nat.digitChar (n % 16)]

def escapeChar (c : Char) : List Char :=
  if c = '"' ∨ c = '\\' then ['\\', c]
  else if c = '\n' then ['\\', 'n']
  else if c = '\r' then ['\\', 'r']
  else if c = '\t' then ['\\', 't']
  else if c.toNat = 8 then ['\\', 'b']
  else if c.toNat = 12 then ['\\', 'f']
  else if c.toNat < 0x20 then ['\\', 'u', '0', '0'] ++ hexPair c.toNat
  else [c]

def stringText (s : String) : String :=
  String.ofList ('"' :: s.toList.flatMap escapeChar ++ ['"'])

def boolText : Bool → String
  | true => "true"
  | false => "false"

mutual

def text : Json → String
  | null => "null"
  | bool b => boolText b
  | integer n => toString n
  | number x => numberText x
  | string s => stringText s
  | array items => "[" ++ ",".intercalate (texts items) ++ "]"
  | object members => "\x7b" ++ ",".intercalate (memberTexts members) ++ "\x7d"

def texts : List Json → List String
  | [] => []
  | v :: rest => v.text :: texts rest

def memberTexts : List (String × Json) → List String
  | [] => []
  | (key, v) :: rest => (stringText key ++ ":" ++ v.text) :: memberTexts rest

end

def ofOption : Option String → Json
  | none => null
  | some s => string s

end Json

end Almanac
