import Almanac.Tls.Der

set_option autoImplicit false

namespace Almanac.Tls

open Der

inductive CertificateFault where
  | badEncoding
  | unsupportedVersion
  | algorithmMismatch
  | repeatedExtension
  | unsupportedExtension
deriving DecidableEq

/-- The name of a fault; those other than of encoding are wrapped up as foreign. -/
def CertificateFault.text : CertificateFault → String
  | badEncoding => "BadEncoding"
  | unsupportedVersion => "Other(OtherError(UnsupportedCertVersion))"
  | algorithmMismatch => "Other(OtherError(SignatureAlgorithmMismatch))"
  | repeatedExtension => "Other(OtherError(ExtensionValueInvalid))"
  | unsupportedExtension => "Other(OtherError(UnsupportedCriticalExtension))"

namespace Certificate

def found {α : Type} : Option α → Except CertificateFault α
  | some a => .ok a
  | none => .error .badEncoding

def passVersion (bytes : Bytes) : Except CertificateFault Bytes :=
  match tagged? (Tag.context 0) bytes with
  | none => .error .unsupportedVersion
  | some (contents, rest) => do
    let (n, after) ← found (takeNatural? contents)
    if 0xFF < n then .error .badEncoding
    else if n = 2 ∧ after = [] then .ok rest
    else .error .unsupportedVersion

def pass (tag : UInt8) (bytes : Bytes) : Except CertificateFault Bytes := do
  let (_, rest) ← found (tagged? tag bytes)
  pure rest

def critical (bytes : Bytes) : Except CertificateFault (Bool × Bytes) := do
  match ← found (optional? Tag.boolean bytes) with
  | (none, rest) => pure (false, rest)
  | (some [0xFF], rest) => pure (true, rest)
  | (some [0x00], rest) => pure (false, rest)
  | _ => .error .badEncoding

/-- The number of an extension that is understood: the use of the key, alternative names, basic
constraints, name constraints, revocation lists, extended use of the key. -/
def understood? : Bytes → Option UInt8
  | [0x55, 0x1D, n] => if [15, 17, 19, 30, 31, 37].contains n then some n else none
  | _ => none

/-- Reads an extension after those with the numbers `seen`. Of one that is understood the value is a
sequence, but for the use of the key. -/
def readExtension (seen : List UInt8) (bytes : Bytes) : Except CertificateFault (List UInt8) := do
  let (name, rest) ← found (tagged? Tag.identifier bytes)
  let (isCritical, rest) ← critical rest
  let (value, rest) ← found (tagged? Tag.octetString rest)
  let seen ← match understood? name with
    | none => if isCritical then .error .unsupportedExtension else .ok seen
    | some n =>
      if seen.contains n then .error .repeatedExtension
      else if n = 15 then .ok (n :: seen)
      else (found (only? Tag.sequence value)).map fun _ => n :: seen
  if rest = [] then pure seen else .error .badEncoding

def readExtensions (seen : List UInt8) (bytes : Bytes) : Except CertificateFault Unit :=
  if bytes = [] then .ok ()
  else match _ : tagged? Tag.sequence bytes with
  | none => .error .badEncoding
  | some (contents, rest) => do
    let seen ← readExtension seen contents
    readExtensions seen rest
termination_by bytes.length
decreasing_by exact length_lt_of_tagged? ‹_›

def readTail (bytes : Bytes) : Except CertificateFault Unit :=
  if bytes = [] then .ok ()
  else do
    let contents ← found (only? (Tag.context 3) bytes)
    let extensions ← found (only? Tag.sequence contents)
    readExtensions [] extensions

def sizeLimit : Nat := 0xFFFF

def publicKey (certificate : Bytes) : Except CertificateFault Bytes := do
  let contents ← found (only? Tag.sequence certificate)
  let (body, rest) ← found (tagged? Tag.sequence contents)
  let (algorithm, rest) ← found (tagged? Tag.sequence rest)
  let _ ← found (only? Tag.bitString rest >>= filled?)
  if sizeLimit ≤ contents.length then .error .badEncoding
  let rest ← passVersion body
  let rest ← pass Tag.integer rest
  let (claimed, rest) ← found (tagged? Tag.sequence rest)
  if claimed ≠ algorithm then .error .algorithmMismatch
  let rest ← pass Tag.sequence rest
  let rest ← pass Tag.sequence rest
  let rest ← pass Tag.sequence rest
  let (key, rest) ← found (tagged? Tag.sequence rest)
  readTail rest
  pure key

end Certificate

end Almanac.Tls
