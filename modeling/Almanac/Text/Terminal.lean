set_option autoImplicit false

/-!
# Texts for terminals

A text for a terminal consists of spans, some of which are emphasised. Control sequences switch the
emphasis on and off, and texts from outside may hold such sequences too. Where no terminal reads the
text, `plain` and `streamed` leave out all control sequences, and of the control characters all but
tabs, line ends and form feeds.
-/
namespace Almanac.Terminal

/-- What the characters read so far leave open. `string` is anything that lasts until its
terminator: the data of a device control string, or a string without a meaning. -/
inductive Stage where
  | ground
  | escape
  | escapeMiddle
  | control
  | deviceStart
  | deviceParameters
  | deviceMiddle
  | string
  | systemCommand
deriving DecidableEq

def isKeptControl (c : Char) : Bool := ['\t', '\n', '\x0C', '\r'].contains c

/-- Whether a character ends a string: one byte of its encoding is the terminator. -/
def endsString (c : Char) : Bool := (String.utf8EncodeChar c).contains 0x9C

namespace Stage

def afterEscape (c : Char) : Stage :=
  if c.toNat < 0x20 ∨ 0x7F ≤ c.toNat then escape
  else if c.toNat < 0x30 then escapeMiddle
  else if c = '[' then control
  else if c = ']' then systemCommand
  else if c = 'P' then deviceStart
  else if ['X', '^', '_'].contains c then string
  else ground

def afterDevice (stage parameter digit : Stage) (c : Char) : Stage :=
  if c.toNat < 0x20 ∨ 0x7F ≤ c.toNat then stage
  else if c.toNat < 0x30 then deviceMiddle
  else if c.toNat < 0x3C then digit
  else if c.toNat < 0x40 then parameter
  else string

def next (stage : Stage) (c : Char) : Stage :=
  if c = '\x18' ∨ c = '\x1A' then ground
  else if c = '\x1B' then escape
  else match stage with
  | ground => ground
  | escape => afterEscape c
  | escapeMiddle => if 0x30 ≤ c.toNat ∧ c.toNat ≤ 0x7E then ground else escapeMiddle
  | control => if 0x40 ≤ c.toNat ∧ c.toNat ≤ 0x7E then ground else control
  | deviceStart => afterDevice deviceStart deviceParameters deviceParameters c
  | deviceParameters => afterDevice deviceParameters string deviceParameters c
  | deviceMiddle => afterDevice deviceMiddle string string c
  | string => if endsString c then ground else string
  | systemCommand => if c = '\x07' then ground else systemCommand

def keeps (stage : Stage) (c : Char) : Bool :=
  match stage with
  | ground => isKeptControl c || (0x20 ≤ c.toNat && c.toNat != 0x7F)
  | escape | escapeMiddle | control => isKeptControl c
  | _ => false

end Stage

/-- What a control character does that is kept within a sequence: the sequence is given up, or it
is interrupted until a character comes that is not kept outside of sequences. -/
inductive Interruption where
  | gives
  | suspends
deriving DecidableEq

structure Progress where
  stage : Stage
  interrupted : Bool
deriving DecidableEq

namespace Progress

def start : Progress := ⟨.ground, false⟩

/-- Whether the next character is kept, and the progress after it. A character beyond ASCII that is
kept gives up an interrupted sequence. -/
def step (interruption : Interruption) (p : Progress) (c : Char) : Bool × Progress :=
  if p.interrupted ∧ Stage.ground.keeps c then
    (true, if c.toNat < 0x80 then p else start)
  else if p.stage.keeps c then
    match interruption with
    | .gives => (true, start)
    | .suspends => (true, ⟨p.stage, true⟩)
  else (false, ⟨p.stage.next c, false⟩)

def filter (interruption : Interruption) (p : Progress) : List Char → List Char × Progress
  | [] => ([], p)
  | c :: rest =>
    let (isKept, p) := p.step interruption c
    let (kept, p) := filter interruption p rest
    (if isKept then c :: kept else kept, p)

end Progress

/-- A part of a text. Emphasis begins and ends with a control sequence, which gives up an open one
before it. -/
inductive Span where
  | running (text : String)
  | emphasised (text : String)
deriving DecidableEq

abbrev Text : Type := List Span

namespace Text

def filter (interruption : Interruption) (p : Progress) : Text → List Char
  | [] => []
  | .running s :: rest =>
    let (kept, p) := p.filter interruption s.toList
    kept ++ filter interruption p rest
  | .emphasised s :: rest =>
    (Progress.start.filter interruption s.toList).1 ++ filter interruption .start rest

def plain (text : Text) : String := String.ofList (filter .gives .start text)

def streamed (text : Text) : String := String.ofList (filter .suspends .start text)

end Text

end Almanac.Terminal
