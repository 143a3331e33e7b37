import Almanac.Tls.Certificate
import Almanac.Tls.Curves
import Almanac.Tls.Pem

set_option autoImplicit false

/-!
# Identities

A server shows who it is by certificates and a private key. The file with the certificates has to be
free of faults; the file with the key has to hold exactly one key, but faulty sections in it do not
count. The key has to be that of the first certificate; further certificates are not examined.
-/
namespace Almanac.Tls

open Der

inductive KeyForm where
  | general
  | rsa
  | elliptic
deriving DecidableEq

/-- The form that the first elements show; the length of the whole is not looked at. -/
def KeyForm.of? : Bytes → Option KeyForm
  | 0x30 :: n :: rest =>
    let skipped := if n < 0x80 then 0 else n.toNat - 0x80
    match rest.drop skipped with
    | 0x02 :: 0x01 :: _ :: 0x30 :: _ => some general
    | 0x02 :: 0x01 :: 0x00 :: _ => some rsa
    | 0x02 :: 0x01 :: 0x01 :: _ => some elliptic
    | _ => none
  | _ => none

def keyInfo (algorithm key : Bytes) : Bytes :=
  encode Tag.sequence algorithm ++ encode Tag.bitString (0 :: key)

namespace Algorithm

def elliptic : Bytes := [0x2A, 0x86, 0x48, 0xCE, 0x3D, 0x02, 0x01]

def rsa : Bytes := [0x2A, 0x86, 0x48, 0x86, 0xF7, 0x0D, 0x01, 0x01, 0x01]

def ed25519 : Bytes := [0x2B, 0x65, 0x70]

end Algorithm

namespace Curve

def holds (c : Curve) (p : Nat × Nat) (contents : Bytes) : Bool :=
  match only? Tag.bitString contents >>= filled? with
  | some bytes => bytes == c.pointBytes p || bytes == c.shortPointBytes p
  | none => false

/-- The public key of an elliptic key on this curve, and what follows the key. The curve and the
public key may be missing from it but have to be right. -/
def publicKey? (c : Curve) (bytes : Bytes) : Option (Bytes × Bytes) := do
  let (contents, after) ← tagged? Tag.sequence bytes
  let (version, rest) ← takeNatural? contents
  let (secret, rest) ← tagged? Tag.octetString rest
  let (curve, rest) ← optional? (Tag.context 0) rest
  let (point, rest) ← optional? (Tag.context 1) rest
  let n := bigEndian secret
  let name := encode Tag.identifier c.identifier
  if version = 1 ∧ rest = [] ∧ curve.all (· == name) ∧ 0 < n ∧ n < c.order then do
    let p ← c.publicPoint n
    if point.all (c.holds p) then
      some (keyInfo (encode Tag.identifier Algorithm.elliptic ++ name) (c.pointBytes p), after)
    else none
  else none

end Curve

structure RsaKey where
  modulus : Nat
  exponent : Nat
  secret : Nat
  prime₁ : Nat
  prime₂ : Nat
  secret₁ : Nat
  secret₂ : Nat
  inverse : Nat

namespace RsaKey

/-- Whether the parts agree, with a modulus of 2048 to 8192 bits. That the primes are prime is not
examined. -/
def isSound (k : RsaKey) : Bool :=
  let bits := k.modulus.log2 + 1
  2048 ≤ bits && bits ≤ 8192 && k.modulus == k.prime₁ * k.prime₂ && 1 < k.exponent &&
    k.exponent % 2 == 1 && k.secret < k.modulus &&
    k.exponent * k.secret % (k.prime₁ - 1) == 1 && k.exponent * k.secret % (k.prime₂ - 1) == 1 &&
    k.secret₁ == k.secret % (k.prime₁ - 1) && k.secret₂ == k.secret % (k.prime₂ - 1) &&
    k.inverse * k.prime₂ % k.prime₁ == 1

def integers? : Nat → Bytes → Option (List Nat)
  | _, [] => some []
  | 0, _ => none
  | count + 1, bytes => do
    let (n, rest) ← takeNatural? bytes
    let ns ← integers? count rest
    some (n :: ns)

def read? (bytes : Bytes) : Option RsaKey := do
  let contents ← only? Tag.sequence bytes
  match ← integers? 9 contents with
  | [0, n, e, d, p, q, dp, dq, i] => some ⟨n, e, d, p, q, dp, dq, i⟩
  | _ => none

def publicKey? (bytes : Bytes) : Option Bytes := do
  let k ← read? bytes
  let algorithm := encode Tag.identifier Algorithm.rsa ++ encode Tag.null []
  let key := encode Tag.sequence (encodeNatural k.modulus ++ encodeNatural k.exponent)
  if k.isSound then some (keyInfo algorithm key) else none

end RsaKey

def ed25519PublicKey? (bytes : Bytes) (attached : Option Bytes) : Option Bytes := do
  let secret ← only? Tag.octetString bytes
  let key := Ed25519.publicKey secret
  if secret.length = 32 ∧ attached.all (· == 0 :: key) then
    some (keyInfo (encode Tag.identifier Algorithm.ed25519) key)
  else none

def generalPublicKey? (bytes : Bytes) : Option Bytes := do
  let (contents, _) ← tagged? Tag.sequence bytes
  let (version, rest) ← takeNatural? contents
  let (algorithm, rest) ← tagged? Tag.sequence rest
  let (key, rest) ← tagged? Tag.octetString rest
  let (_, rest) ← optional? (Tag.context 0) rest
  let (attached, _) ← if version = 1 then optional? 0x81 rest else some (none, rest)
  let (name, parameters) ← tagged? Tag.identifier algorithm
  if 1 < version then none
  else if name = Algorithm.elliptic then do
    let curve ← Curve.all.find? fun c => parameters == encode Tag.identifier c.identifier
    match ← curve.publicKey? key with
    | (info, []) => some info
    | _ => none
  else if name = Algorithm.rsa ∧ parameters = encode Tag.null [] then RsaKey.publicKey? key
  else if name = Algorithm.ed25519 ∧ parameters = [] then ed25519PublicKey? key attached
  else none

def KeyForm.publicKey? (form : KeyForm) (bytes : Bytes) : Option Bytes :=
  match form with
  | general => generalPublicKey? bytes
  | rsa => RsaKey.publicKey? bytes
  | elliptic => Curve.all.findSome? fun c => (c.publicKey? bytes).map (·.1)

inductive IdentityFault where
  | certificateFile (cause : Pem.Fault)
  | notOneKey
  | unknownKey
  | unusableKey
  | noCertificate
  | certificate (cause : CertificateFault)
  | mismatch
deriving DecidableEq

def isPrivateKey (s : Pem.Section) : Bool :=
  ["PRIVATE KEY", "RSA PRIVATE KEY", "EC PRIVATE KEY"].contains s.label

def isCertificate (s : Pem.Section) : Bool := s.label == "CERTIFICATE"

def certificates (file : List UInt8) : Except IdentityFault (List Der.Bytes) :=
  match (Pem.sections file).mapM id with
  | .error fault => .error (.certificateFile fault)
  | .ok sections => .ok ((sections.filter isCertificate).map (·.content))

def privateKey (file : List UInt8) : Except IdentityFault Der.Bytes :=
  match ((Pem.sections file).filterMap (·.toOption)).filter isPrivateKey with
  | [key] => .ok key.content
  | _ => .error .notOneKey

def checkIdentity (certificateFile keyFile : List UInt8) : Except IdentityFault Unit := do
  let certificates ← certificates certificateFile
  let key ← privateKey keyFile
  match KeyForm.of? key with
  | none => .error .unknownKey
  | some form =>
    match form.publicKey? key, certificates with
    | none, _ => .error .unusableKey
    | some _, [] => .error .noCertificate
    | some own, first :: _ => do
      let certified ← (Certificate.publicKey first).mapError .certificate
      if certified = own then pure () else .error .mismatch

end Almanac.Tls
