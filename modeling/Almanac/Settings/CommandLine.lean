import Almanac.Settings.Basic
import Almanac.Text.Terminal

set_option autoImplicit false

/-!
# Reading the command line

Arguments are read from the left. The value of an option may be attached to it or be the next
argument; in the second case the option is pending, and it is settled, value and all, when the next
option comes or the arguments end. An argument that nothing expects is refused at once. Settings
that no option gave are then taken from the environment, and after that from the defaults.
-/
namespace Almanac

abbrev Environment : Type := String → Option String

namespace Help

def serviceName : String := "forecast_service"

def version : String := serviceName ++ " 0.1.0\n"

def fileName? (path : String) : Option String :=
  let parts := (path.splitOn "/").filter fun part => part != "" && part != "."
  parts.getLast?.filter (· != "..")

def usageName (arguments : List String) : String :=
  (arguments.head?.bind fileName?).getD serviceName

def indentation : List Char := List.replicate 10 ' '

def indented (s : String) : String :=
  String.ofList (s.toList.flatMap fun c => if c = '\n' then c :: indentation else [c])

def notes (environment : Environment) (setting : Setting) : String :=
  let d := setting.description
  let value := (environment d.variableName).getD ""
  let variableNote := "[env: " ++ d.variableName ++ "=" ++ value ++ "]"
  let defaultNote := d.default?.map fun default => "[default: " ++ default ++ "]"
  " ".intercalate (d.purpose.toList ++ [variableNote] ++ defaultNote.toList)

def entry (short : Char) (long placeholder notes : String) : Terminal.Text :=
  [.running "  ", .emphasised ("-" ++ String.singleton short), .running ", ",
    .emphasised ("--" ++ long),
    .running (placeholder ++ "\n" ++ String.ofList indentation ++ indented notes ++ "\n")]

def settingEntry (environment : Environment) (setting : Setting) : Terminal.Text :=
  let d := setting.description
  entry d.short d.long (" <" ++ d.placeholder ++ ">") (notes environment setting)

def text (environment : Environment) (arguments : List String) : Terminal.Text :=
  [.emphasised "Usage:", .running " ", .emphasised (usageName arguments),
      .running " [OPTIONS]\n\n", .emphasised "Options:", .running "\n"] ++
    Setting.all.flatMap (settingEntry environment) ++
    entry 'h' "help" "" "Print help" ++ entry 'V' "version" "" "Print version"

end Help

inductive Notice where
  | help
  | version
deriving DecidableEq

def Notice.long : Notice → String
  | help => "help"
  | version => "version"

def Notice.ofLong? (name : String) : Option Notice :=
  [help, version].find? (·.long == name)

def Notice.ofShort? (flag : Char) : Option Notice :=
  if flag = 'h' then some help else if flag = 'V' then some version else none

inductive UsageError where
  | invalidValue (setting : Setting) (value : String) (cause : ValueError)
  | missingValue (setting : Setting)
  | repeated (setting : Setting)
  | unexpectedValue (notice : Notice) (value : String)
  | unexpectedArgument (argument : String)
deriving DecidableEq

namespace UsageError

def reason : UsageError → Terminal.Text
  | invalidValue setting value cause =>
    [.running "invalid value '", .emphasised value, .running "' for '", .emphasised setting.title,
      .running ("': " ++ cause.message)]
  | missingValue setting =>
    [.running "a value is required for '", .emphasised setting.title,
      .running "' but none was supplied"]
  | repeated setting =>
    [.running "the argument '", .emphasised setting.title,
      .running "' cannot be used multiple times"]
  | unexpectedValue notice value =>
    [.running "unexpected value '", .emphasised value, .running "' for '",
      .emphasised ("--" ++ notice.long), .running "' found; no more were expected"]
  | unexpectedArgument argument =>
    [.running "unexpected argument '", .emphasised argument, .running "' found"]

def text (e : UsageError) : Terminal.Text :=
  .emphasised "error:" :: .running " " :: e.reason

def message (e : UsageError) : String := e.text.plain

end UsageError

inductive Stop where
  | notice (notice : Notice)
  | misuse (error : UsageError)
deriving DecidableEq

inductive Argument where
  | terminator
  | long (name : String) (value : Option String)
  | short (flag : Char) (rest : List Char)
  | plain (text : String)
deriving DecidableEq

/-- Whatever starts with a hyphen and goes on is an option. A long one ends at the first equals
sign, a short one with its first character. -/
def Argument.ofString (s : String) : Argument :=
  match s.toList with
  | ['-', '-'] => terminator
  | '-' :: '-' :: cs =>
    let (name, rest) := cs.span (· != '=')
    long (String.ofList name) (rest.tail?.map String.ofList)
  | '-' :: flag :: rest => short flag rest
  | _ => plain s

def attached? : List Char → Option String
  | [] => none
  | '=' :: rest => some (String.ofList rest)
  | rest => some (String.ofList rest)

/-- The arguments read so far: the settled ones, an option that waits for its value or has it but is
not settled, and whether a terminator came. -/
structure Scan where
  draft : Settings.Draft
  pending : Option (Setting × Option String)
  ended : Bool
deriving DecidableEq

namespace Scan

def start : Scan := ⟨.empty, none, false⟩

def give (draft : Settings.Draft) (setting : Setting) (value : String) :
    Except Stop Settings.Draft :=
  if draft.isGiven setting then .error (.misuse (.repeated setting))
  else (draft.put setting value).mapError fun cause =>
    .misuse (.invalidValue setting value cause)

def settle (scan : Scan) : Except Stop Settings.Draft :=
  match scan.pending with
  | none => .ok scan.draft
  | some (setting, none) => .error (.misuse (.missingValue setting))
  | some (setting, some value) => give scan.draft setting value

def option (scan : Scan) (setting : Setting) (value : Option String) : Except Stop Scan := do
  let draft ← scan.settle
  match value with
  | some value => do
    let draft ← give draft setting value
    pure ⟨draft, none, false⟩
  | none => pure ⟨draft, some (setting, none), false⟩

def notice {α : Type} (scan : Scan) (notice : Notice) : Except Stop α := do
  let _ ← scan.settle
  .error (.notice notice)

def unexpected {α : Type} (argument : String) : Except Stop α :=
  .error (.misuse (.unexpectedArgument argument))

def step (scan : Scan) (argument : String) : Except Stop Scan :=
  if scan.ended then unexpected argument
  else match Argument.ofString argument with
  | .terminator => .ok { scan with ended := true }
  | .long name value =>
    match Setting.ofLong? name, Notice.ofLong? name, value with
    | some setting, _, _ => scan.option setting value
    | none, some notice, none => scan.notice notice
    | none, some notice, some value => .error (.misuse (.unexpectedValue notice value))
    | none, none, _ => unexpected ("--" ++ name)
  | .short flag rest =>
    match Setting.ofShort? flag, Notice.ofShort? flag with
    | some setting, _ => scan.option setting (attached? rest)
    | none, some notice => scan.notice notice
    | none, none => unexpected ("-" ++ String.singleton flag)
  | .plain text =>
    match scan.pending with
    | some (setting, none) => .ok { scan with pending := some (setting, some text) }
    | _ => unexpected text

def complete (environment : Environment) (draft : Settings.Draft) (setting : Setting) :
    Except Stop Settings.Draft :=
  if draft.isGiven setting then .ok draft
  else match environment setting.description.variableName with
  | none => .ok draft
  | some value => give draft setting value

end Scan

/-- The settings that a command line and an environment give; the first argument is the name of the
program. -/
def Settings.read (environment : Environment) (arguments : List String) : Except Stop Settings := do
  let scan ← arguments.tail.foldlM Scan.step .start
  let draft ← scan.settle
  let draft ← Setting.all.foldlM (Scan.complete environment) draft
  pure draft.finish

end Almanac
