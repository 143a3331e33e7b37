set_option autoImplicit false

namespace Almanac.Http

structure Header where
  name : String
  value : String
deriving DecidableEq

structure Request where
  method : String
  target : String
  headers : List Header
  body : List UInt8
deriving DecidableEq

def Request.header? (request : Request) (name : String) : Option String :=
  (request.headers.find? (·.name.toLower == name)).map (·.value)

/-- The headers of a response are in the order of their names. -/
structure Response where
  status : Nat
  headers : List Header
  body : String
deriving DecidableEq

namespace Response

def plainText (status : Nat) (body : String) : Response :=
  ⟨status, [⟨"content-type", "text/plain; charset=utf-8"⟩], body⟩

def json (status : Nat) (body : String) : Response :=
  ⟨status, [⟨"content-type", "application/json"⟩], body⟩

def notFound : Response := ⟨404, [], ""⟩

def methodNotAllowed (allowed : List String) : Response :=
  ⟨405, [⟨"allow", ",".intercalate allowed⟩, ⟨"content-length", "0"⟩], ""⟩

def withLength (response : Response) : Response :=
  { response with
    headers := ⟨"content-length", toString response.body.utf8ByteSize⟩ :: response.headers }

def withoutBody (response : Response) : Response := { response with body := "" }

end Response

namespace Target

def withoutQuery (cs : List Char) : List Char := cs.takeWhile fun c => c != '?' && c != '#'

def afterScheme? : List Char → Option (List Char)
  | ':' :: '/' :: '/' :: rest => some rest
  | _ :: rest => afterScheme? rest
  | [] => none

/-- The path of a target: the root if an absolute address has none, and empty if the target is
neither a path nor an absolute address. -/
def path (cs : List Char) : List Char :=
  match cs with
  | '/' :: _ => withoutQuery cs
  | _ =>
    match afterScheme? cs with
    | none => []
    | some rest =>
      match rest.dropWhile fun c => c != '/' && c != '?' && c != '#' with
      | '/' :: tail => withoutQuery ('/' :: tail)
      | _ => ['/']

end Target

def Request.path (request : Request) : String := String.ofList (Target.path request.target.toList)

def Request.hasPath (request : Request) : Bool := !request.path.isEmpty

def isTokenChar (c : Char) : Bool := c.isAlphanum || "!#$%&'*+-.^_`|~".contains c

def isQuotedChar (c : Char) : Bool := 0x20 ≤ c.toNat && c.toNat ≤ 0x7E

structure MediaType where
  main : List Char
  subtype : List Char
deriving DecidableEq

namespace MediaType

inductive Stage where
  | before
  | name
  | equals
  | value
  | opened
  | quoted
  | closed
deriving DecidableEq

/-- The stage after one more character, if it may stand there. A quote right after the opening one
does not close it. -/
def Stage.next? : Stage → Char → Option Stage
  | before, c => if c = ' ' then some before else if isTokenChar c then some name else none
  | name, c => if c = '=' then some equals else if isTokenChar c then some name else none
  | equals, c => if c = '"' then some opened else if isTokenChar c then some value else none
  | value, c => if c = ';' then some before else if isTokenChar c then some value else none
  | opened, c => if isQuotedChar c then some quoted else none
  | quoted, c => if c = '"' then some closed else if isQuotedChar c then some quoted else none
  | closed, c => if c = ';' then some before else if c = ' ' then some closed else none

def Stage.isFinal : Stage → Bool
  | before | equals | value | closed => true
  | name | opened | quoted => false

def areParameters (cs : List Char) : Bool :=
  match cs.foldlM Stage.next? .before with
  | some stage => stage.isFinal
  | none => false

def ofString? (s : String) : Option MediaType :=
  match s.toList.span isTokenChar with
  | (main, '/' :: rest) =>
    if main.isEmpty then none
    else match rest.span isTokenChar with
    | (subtype, []) => some ⟨main, subtype⟩
    | (subtype, ';' :: parameters) =>
      if !subtype.isEmpty && areParameters parameters then some ⟨main, subtype⟩ else none
    | _ => none
  | _ => none

/-- A name before its last plus and after it; a plus in front does not count. -/
def splitSuffix (subtype : List Char) : List Char × Option (List Char) :=
  match subtype with
  | [] => ([], none)
  | c :: rest =>
    let (suffix, base) := rest.reverse.span (· != '+')
    match base with
    | [] => (subtype, none)
    | _ :: base => (c :: base.reverse, some suffix.reverse)

def isNamed (cs : List Char) (name : String) : Bool := cs.map Char.toLower == name.toList

def isJson (m : MediaType) : Bool :=
  let (base, suffix) := splitSuffix m.subtype
  isNamed m.main "application" && (isNamed base "json" || suffix.any (isNamed · "json"))

end MediaType

end Almanac.Http
