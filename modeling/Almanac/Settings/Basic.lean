import Almanac.Basic
import Almanac.Network.Address
import Almanac.Text.Quoted

set_option autoImplicit false

namespace Almanac

structure Settings where
  address : IpAddress
  port : UInt16
  keyFile : Option String
  certFile : Option String
  seed : Option UInt64
  limit : Option UInt32
deriving DecidableEq

structure TlsFiles where
  key : String
  cert : String
deriving DecidableEq

inductive TlsFile where
  | key
  | cert
deriving DecidableEq

def TlsFile.text : TlsFile → String
  | key => "key file"
  | cert => "cert file"

inductive ConfigError where
  | incompleteTls (missing : TlsFile)
deriving DecidableEq

namespace ConfigError

def message : ConfigError → String
  | incompleteTls missing =>
    "tls needs both a key file and a cert file, " ++ missing.text ++ " is missing"

def diagnosis : ConfigError → String
  | incompleteTls missing =>
    "IncompleteTls \x7b missing: " ++ quoted missing.text ++ " \x7d"

end ConfigError

namespace Settings

def socketAddress (s : Settings) : SocketAddress := ⟨s.address, s.port⟩

def tlsFiles (s : Settings) : Except ConfigError (Option TlsFiles) :=
  match s.keyFile, s.certFile with
  | some key, some cert => .ok (some ⟨key, cert⟩)
  | some _, none => .error (.incompleteTls .cert)
  | none, some _ => .error (.incompleteTls .key)
  | none, none => .ok none

end Settings

inductive Setting where
  | address
  | port
  | keyFile
  | certFile
  | seed
  | limit
deriving DecidableEq

namespace Setting

/-- All settings in the order in which they are listed and completed. -/
def all : List Setting := [address, port, keyFile, certFile, seed, limit]

structure Description where
  long : String
  short : Char
  placeholder : String
  variableName : String
  default? : Option String
  purpose : Option String

def description : Setting → Description
  | address => ⟨"address", 'a', "ADDRESS", "FORECAST_ADDRESS", some "0.0.0.0", none⟩
  | port => ⟨"port", 'p', "PORT", "FORECAST_PORT", some "3000", none⟩
  | keyFile => ⟨"key-file-path", 'k', "KEY_FILE_PATH", "KEY_FILE_PATH", none, none⟩
  | certFile => ⟨"cert-file-path", 'c', "CERT_FILE_PATH", "CERT_FILE_PATH", none, none⟩
  | seed => ⟨"seed", 's', "SEED", "FORECAST_SEED", none,
      some "Fixed seed for the temperature generator, os entropy when unset"⟩
  | limit => ⟨"max-days", 'm', "MAX_DAYS", "FORECAST_MAX_DAYS", none,
      some ("Reject requests asking for more days than this. Without a limit a single request " ++
        "can ask for forecasts up to the end of the calendar")⟩

def title (s : Setting) : String :=
  "--" ++ s.description.long ++ " <" ++ s.description.placeholder ++ ">"

def ofLong? (name : String) : Option Setting := all.find? (·.description.long == name)

def ofShort? (flag : Char) : Option Setting := all.find? (·.description.short == flag)

end Setting

inductive ValueError where
  | noAddress
  | numeral (cause : NumeralError)
  | outOfRange (value : Int) (limit : Nat)
deriving DecidableEq

def ValueError.message : ValueError → String
  | noAddress => "invalid IP address syntax"
  | numeral cause => cause.message
  | outOfRange value limit => toString value ++ " is not in 0..=" ++ toString limit

structure Settings.Draft where
  address : Option IpAddress
  port : Option UInt16
  keyFile : Option String
  certFile : Option String
  seed : Option UInt64
  limit : Option UInt32
deriving DecidableEq

namespace Settings.Draft

def empty : Draft := ⟨none, none, none, none, none, none⟩

def isGiven (draft : Draft) : Setting → Bool
  | .address => draft.address.isSome
  | .port => draft.port.isSome
  | .keyFile => draft.keyFile.isSome
  | .certFile => draft.certFile.isSome
  | .seed => draft.seed.isSome
  | .limit => draft.limit.isSome

/-- An integer of 64 bits that lies between zero and `limit`. -/
def bounded (limit : Nat) (value : String) : Except ValueError Nat := do
  let n ← (readInteger (2 ^ 63 - 1) value).mapError .numeral
  if 0 ≤ n ∧ n ≤ limit then pure n.toNat else .error (.outOfRange n limit)

def put (draft : Draft) (setting : Setting) (value : String) : Except ValueError Draft :=
  match setting with
  | .address =>
    match IpAddress.ofString? value with
    | some a => .ok { draft with address := some a }
    | none => .error .noAddress
  | .port => do
    let n ← bounded (2 ^ 16 - 1) value
    pure { draft with port := some (UInt16.ofNat n) }
  | .keyFile => .ok { draft with keyFile := some value }
  | .certFile => .ok { draft with certFile := some value }
  | .seed => do
    let n ← (readNatural (2 ^ 64 - 1) value).mapError .numeral
    pure { draft with seed := some (UInt64.ofNat n) }
  | .limit => do
    let n ← bounded (2 ^ 32 - 1) value
    pure { draft with limit := some (UInt32.ofNat n) }

def finish (draft : Draft) : Settings where
  address := draft.address.getD .unspecified
  port := draft.port.getD 3000
  keyFile := draft.keyFile
  certFile := draft.certFile
  seed := draft.seed
  limit := draft.limit

end Settings.Draft

end Almanac
