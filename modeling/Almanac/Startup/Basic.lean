import Almanac.Settings.CommandLine
import Almanac.Tls.Identity

set_option autoImplicit false

namespace Almanac

inductive Refusal where
  | notFound
  | permissionDenied
  | notADirectory
  | isADirectory
  | nameTooLong
deriving DecidableEq

namespace Refusal

def code : Refusal → Nat
  | notFound => 2
  | permissionDenied => 13
  | notADirectory => 20
  | isADirectory => 21
  | nameTooLong => 36

def kind : Refusal → String
  | notFound => "NotFound"
  | permissionDenied => "PermissionDenied"
  | notADirectory => "NotADirectory"
  | isADirectory => "IsADirectory"
  | nameTooLong => "InvalidFilename"

def text : Refusal → String
  | notFound => "No such file or directory"
  | permissionDenied => "Permission denied"
  | notADirectory => "Not a directory"
  | isADirectory => "Is a directory"
  | nameTooLong => "File name too long"

def ofCode? (code : Nat) : Option Refusal :=
  [notFound, permissionDenied, notADirectory, isADirectory, nameTooLong].find? (·.code == code)

def message (r : Refusal) : String := r.text ++ " (os error " ++ toString r.code ++ ")"

def diagnosis (r : Refusal) : String :=
  "Os \x7b code: " ++ toString r.code ++ ", kind: " ++ r.kind ++ ", message: " ++ quoted r.text ++
    " \x7d"

end Refusal

def Tls.IdentityFault.message : Tls.IdentityFault → String
  | certificateFile cause => cause.text
  | notOneKey => "private key format not supported"
  | unknownKey => "unknown or invalid key format"
  | unusableKey => "unexpected error: failed to parse private key as RSA, ECDSA, or EdDSA"
  | noCertificate => "peer sent no certificates"
  | certificate cause => "invalid peer certificate: " ++ cause.text
  | mismatch => "keys may not be consistent: KeyMismatch"

def Tls.IdentityFault.parts : Tls.IdentityFault → String × String
  | certificateFile cause => ("InvalidData", quoted cause.text)
  | notOneKey => ("Other", quoted notOneKey.message)
  | unknownKey => ("Other", quoted unknownKey.message)
  | unusableKey =>
    ("Other", "General(" ++ quoted "failed to parse private key as RSA, ECDSA, or EdDSA" ++ ")")
  | noCertificate => ("Other", "NoCertificatesPresented")
  | certificate cause => ("Other", "InvalidCertificate(" ++ cause.text ++ ")")
  | mismatch => ("Other", "InconsistentKeys(KeyMismatch)")

inductive IoFailure where
  | refused (refusal : Refusal)
  | unreadable (path : String) (refusal : Refusal)
  | identity (cause : Tls.IdentityFault)
  | other (message : String)
deriving DecidableEq

namespace IoFailure

/-- A failure that the system does not know, of a kind and with the diagnosis of its cause. -/
def custom (kind cause : String) : String :=
  "Custom \x7b kind: " ++ kind ++ ", error: " ++ cause ++ " \x7d"

def message : IoFailure → String
  | refused refusal => refusal.message
  | unreadable path refusal => "failed to read from file `" ++ path ++ "`: " ++ refusal.message
  | identity cause => cause.message
  | other message => message

def diagnosis : IoFailure → String
  | refused refusal => refusal.diagnosis
  | unreadable path refusal =>
    custom refusal.kind ("Error \x7b kind: Read, source: " ++ refusal.diagnosis ++ ", path: " ++
      quoted path ++ " \x7d")
  | identity cause => custom cause.parts.1 cause.parts.2
  | other message => custom "Other" (quoted message)

end IoFailure

inductive ServeError where
  | config (cause : ConfigError)
  | tls (cause : IoFailure)
  | io (cause : IoFailure)
deriving DecidableEq

namespace ServeError

def message : ServeError → String
  | config cause => "invalid configuration: " ++ cause.message
  | tls cause => "failed to load tls configuration: " ++ cause.message
  | io cause => "server stopped: " ++ cause.message

def diagnosis : ServeError → String
  | config cause => "Config(" ++ cause.diagnosis ++ ")"
  | tls cause => "Tls(" ++ cause.diagnosis ++ ")"
  | io cause => "Io(" ++ cause.diagnosis ++ ")"

def source? : ServeError → Option String
  | config cause => some cause.message
  | tls _ => none
  | io cause => some cause.message

end ServeError

/-- The directories that places are named from: that of the start, the root, and those above the
start, of which nothing is known. -/
inductive Origin where
  | start
  | root
  | above
deriving DecidableEq

/-- A place in a file tree: the names that lead to it, the last one in front. -/
structure Place where
  origin : Origin
  names : List String
deriving DecidableEq

namespace Place

def parent : Place → Place
  | ⟨.start, []⟩ => ⟨.above, []⟩
  | ⟨origin, names⟩ => ⟨origin, names.tail⟩

def child (p : Place) (name : String) : Place := { p with names := name :: p.names }

def path (p : Place) : String := "/".intercalate p.names.reverse

end Place

inductive FileNode where
  | file (contents : List UInt8)
  | directory

/-- The files of the directory in which a process starts. A name with slashes stands for a file
further down. -/
structure FileTree where
  files : List (String × List UInt8)

namespace FileTree

def standard : List (String × FileNode) :=
  ("dev/null", .file []) ::
    ["bin", "boot", "dev", "etc", "home", "lib", "media", "mnt", "opt", "proc", "run", "sbin",
      "srv", "sys", "tmp", "usr", "var"].map (·, .directory)

def entries (tree : FileTree) : Origin → List (String × FileNode)
  | .start => tree.files.map fun (name, contents) => (name, .file contents)
  | .root => standard
  | .above => []

def node? (tree : FileTree) (p : Place) : Option FileNode :=
  let entries := tree.entries p.origin
  if p.names.isEmpty then some .directory
  else match entries.lookup p.path with
  | some node => some node
  | none =>
    if entries.any fun (name, _) => (p.path ++ "/").isPrefixOf name then some .directory else none

def nameLimit : Nat := 255

def pathLimit : Nat := 4096

/-- Follows one more name of a path. An empty one stays, but asks for a directory. -/
def follow (tree : FileTree) (p : Place) (name : String) : Except Refusal Place :=
  match tree.node? p with
  | some .directory =>
    if name = "" ∨ name = "." then .ok p
    else if name = ".." then .ok p.parent
    else if nameLimit < name.utf8ByteSize then .error .nameTooLong
    else if (tree.node? (p.child name)).isSome then .ok (p.child name)
    else .error .notFound
  | _ => .error .notADirectory

def read (tree : FileTree) (path : String) : Except Refusal (List UInt8) :=
  if path = "" then .error .notFound
  else if pathLimit ≤ path.utf8ByteSize then .error .nameTooLong
  else do
    let origin := if "/".isPrefixOf path then Origin.root else Origin.start
    let place ← (path.splitOn "/").foldlM tree.follow ⟨origin, []⟩
    match tree.node? place with
    | some (.file contents) => pure contents
    | _ => .error .isADirectory

end FileTree

structure Host where
  readFile : String → Except Refusal (List UInt8)
  bind : SocketAddress → Except Refusal Unit

/-- A host that, as hosts do for processes without privileges, keeps the ports from 1 to 1023 to
itself. -/
def Host.unprivileged (readFile : String → Except Refusal (List UInt8)) : Host where
  readFile := readFile
  bind address :=
    if 1 ≤ address.port ∧ address.port < 1024 then .error .permissionDenied else .ok ()

def Host.ofTree (tree : FileTree) : Host := .unprivileged tree.read

inductive StartStep where
  | makeGenerator (seed : Option UInt64)
  | loadTls (files : TlsFiles)
  | bind (address : SocketAddress)
deriving DecidableEq

structure Start where
  steps : List StartStep
  result : Except ServeError Unit

namespace Start

/-- The failure to use the files for encryption, if there is one. The file with the certificate is
read before that with the key, and both are read before they are looked into. -/
def checkTls (host : Host) (files : TlsFiles) : Except IoFailure Unit := do
  let cert ← (host.readFile files.cert).mapError (.unreadable files.cert)
  let key ← (host.readFile files.key).mapError (.unreadable files.key)
  (Tls.checkIdentity cert key).mapError .identity

def bind (host : Host) (address : SocketAddress) (steps : List StartStep) : Start :=
  ⟨steps ++ [.bind address], (host.bind address).mapError fun refusal => .io (.refused refusal)⟩

def run (host : Host) (settings : Settings) : Start :=
  match settings.tlsFiles with
  | .error cause => ⟨[], .error (.config cause)⟩
  | .ok none => bind host settings.socketAddress [.makeGenerator settings.seed]
  | .ok (some files) =>
    let steps := [.makeGenerator settings.seed, .loadTls files]
    match checkTls host files with
    | .error cause => ⟨steps, .error (.tls cause)⟩
    | .ok () => bind host settings.socketAddress steps

end Start

inductive Launch where
  | serving
  | ended (code : UInt32) (output errors : String)
deriving DecidableEq

namespace Launch

def notice (environment : Environment) (arguments : List String) : Notice → Terminal.Text
  | .help => Help.text environment arguments
  | .version => [.running Help.version]

def run (host : Host) (environment : Environment) (arguments : List String) : Launch :=
  match Settings.read environment arguments with
  | .error (.notice n) => ended 0 (notice environment arguments n).streamed ""
  | .error (.misuse error) => ended 2 "" (error.text.streamed ++ "\n")
  | .ok settings =>
    match (Start.run host settings).result with
    | .ok () => serving
    | .error error => ended 1 "" ("Error: " ++ error.diagnosis ++ "\n")

end Launch

end Almanac
