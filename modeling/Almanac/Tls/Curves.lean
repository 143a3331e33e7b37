import Almanac.Tls.Der

set_option autoImplicit false

namespace Almanac

namespace Sha512

def primes : List Nat :=
  (List.range 410).filter fun n => 2 ≤ n && (List.range n).all fun d => d < 2 || n % d != 0

/-- The largest number of at most 68 bits whose power is at most `n`. -/
def root (degree n : Nat) : Nat :=
  (List.range 68).foldr
    (fun i r => let candidate := r + 2 ^ i; if candidate ^ degree ≤ n then candidate else r) 0

def rootPlaces (degree n : Nat) : UInt64 := UInt64.ofNat (root degree (n * 2 ^ (64 * degree)))

def roundConstants : List UInt64 := primes.map (rootPlaces 3)

structure Words where
  a : UInt64
  b : UInt64
  c : UInt64
  d : UInt64
  e : UInt64
  f : UInt64
  g : UInt64
  h : UInt64

def Words.toList (w : Words) : List UInt64 := [w.a, w.b, w.c, w.d, w.e, w.f, w.g, w.h]

def Words.add (v w : Words) : Words :=
  ⟨v.a + w.a, v.b + w.b, v.c + w.c, v.d + w.d, v.e + w.e, v.f + w.f, v.g + w.g, v.h + w.h⟩

def initial : Words :=
  let place (i : Nat) := rootPlaces 2 (primes.getD i 0)
  ⟨place 0, place 1, place 2, place 3, place 4, place 5, place 6, place 7⟩

def rotate (x : UInt64) (n : UInt64) : UInt64 := x >>> n ||| x <<< (64 - n)

def round (w : Words) (input : UInt64) : Words :=
  let turned := rotate w.e 14 ^^^ rotate w.e 18 ^^^ rotate w.e 41
  let chosen := w.e &&& w.f ^^^ ~~~w.e &&& w.g
  let first := w.h + turned + chosen + input
  let turned := rotate w.a 28 ^^^ rotate w.a 34 ^^^ rotate w.a 39
  let majority := w.a &&& w.b ^^^ w.a &&& w.c ^^^ w.b &&& w.c
  ⟨first + (turned + majority), w.a, w.b, w.c, w.d + first, w.e, w.f, w.g⟩

def expanded (window : List UInt64) : UInt64 :=
  let w (i : Nat) := window.getD i 0
  let low := rotate (w 1) 1 ^^^ rotate (w 1) 8 ^^^ w 1 >>> 7
  let high := rotate (w 14) 19 ^^^ rotate (w 14) 61 ^^^ w 14 >>> 6
  w 0 + low + w 9 + high

def mix (w : Words) (block : List UInt64) : Words :=
  let step (state : Words × List UInt64) (constant : UInt64) : Words × List UInt64 :=
    let (w, window) := state
    (round w (constant + window.headD 0), window.tail ++ [expanded window])
  w.add (roundConstants.foldl step (w, block)).1

/-- The message with a mark after it, zeros, and its length in bits in the last sixteen bytes. -/
def padded (message : List UInt8) : List UInt8 :=
  let zeros := (239 - message.length % 128) % 128
  let length := (List.range 16).reverse.map fun i => UInt8.ofNat ((8 * message.length) >>> (8 * i))
  message ++ 0x80 :: List.replicate zeros 0 ++ length

def word (bytes : List UInt8) : UInt64 := bytes.foldl (fun w b => w <<< 8 ||| b.toUInt64) 0

def wordBytes (w : UInt64) : List UInt8 :=
  (List.range 8).reverse.map fun i => (w >>> UInt64.ofNat (8 * i)).toUInt8

def pieces {α : Type} (size count : Nat) (items : List α) : List (List α) :=
  (List.range count).map fun i => (items.drop (size * i)).take size

def digest (message : List UInt8) : List UInt8 :=
  let text := padded message
  let words := (pieces 8 (text.length / 8) text).map word
  let blocks := pieces 16 (words.length / 16) words
  (blocks.foldl mix initial).toList.flatMap wordBytes

end Sha512

/-- The sum of `n` summands `a`: over the bits of `n` from the highest, what is there is doubled,
and at each bit that is set `a` is added. -/
def multiple {α : Type} (add : α → α → α) (zero : α) (n : Nat) (a : α) : α :=
  (List.range (n.log2 + 1)).foldr
    (fun i sum => let sum := add sum sum; if n.testBit i then add sum a else sum) zero

namespace Modular

variable (m : Nat)

def mul (a b : Nat) : Nat := a * b % m

def sub (a b : Nat) : Nat := (a + m - b) % m

def power (a n : Nat) : Nat := multiple (mul m) 1 n a

def inverse (a : Nat) : Nat := power m a (m - 2)

end Modular

namespace Tls

structure Curve where
  prime : Nat
  order : Nat
  base : Nat × Nat
  size : Nat
  identifier : Der.Bytes

namespace Curve

/-- A point of a curve; `none` is the one at infinity. -/
abbrev Point : Type := Option (Nat × Nat)

/-- The third point on the line of a slope through two points, mirrored. -/
def reflect (c : Curve) (slope : Nat) (p q : Nat × Nat) : Nat × Nat :=
  let x := Modular.sub c.prime (Modular.sub c.prime (slope * slope % c.prime) p.1) q.1
  (x, Modular.sub c.prime (slope * Modular.sub c.prime p.1 x % c.prime) p.2)

def quotient (c : Curve) (a b : Nat) : Nat := a * Modular.inverse c.prime b % c.prime

def add (c : Curve) : Point → Point → Point
  | none, q => q
  | p, none => p
  | some p, some q =>
    if p.1 ≠ q.1 then
      let rise := Modular.sub c.prime q.2 p.2
      some (c.reflect (c.quotient rise (Modular.sub c.prime q.1 p.1)) p q)
    else if (p.2 + q.2) % c.prime = 0 then none
    else
      let rise := Modular.sub c.prime (3 * p.1 * p.1 % c.prime) 3
      some (c.reflect (c.quotient rise (2 * p.2)) p q)

def publicPoint (c : Curve) (secret : Nat) : Point := multiple c.add none secret (some c.base)

def pointBytes (c : Curve) (p : Nat × Nat) : Der.Bytes :=
  0x04 :: Der.ofNat c.size p.1 ++ Der.ofNat c.size p.2

def shortPointBytes (c : Curve) (p : Nat × Nat) : Der.Bytes :=
  (if p.2 % 2 = 0 then 0x02 else 0x03) :: Der.ofNat c.size p.1

def p256 : Curve where
  prime := 2 ^ 256 - 2 ^ 224 + 2 ^ 192 + 2 ^ 96 - 1
  order := 0xFFFFFFFF00000000FFFFFFFFFFFFFFFFBCE6FAADA7179E84F3B9CAC2FC632551
  base := (0x6B17D1F2E12C4247F8BCE6E563A440F277037D812DEB33A0F4A13945D898C296,
    0x4FE342E2FE1A7F9B8EE7EB4A7C0F9E162BCE33576B315ECECBB6406837BF51F5)
  size := 32
  identifier := [0x2A, 0x86, 0x48, 0xCE, 0x3D, 0x03, 0x01, 0x07]

def p384 : Curve where
  prime := 2 ^ 384 - 2 ^ 128 - 2 ^ 96 + 2 ^ 32 - 1
  order := 2 ^ 384 - 0x389CB27E0BC8D220A7E5F24DB74F58851313E695333AD68D
  base := (
    0xAA87CA22BE8B05378EB1C71EF320AD746E1D3B628BA79B98 * 2 ^ 192 +
      0x59F741E082542A385502F25DBF55296C3A545E3872760AB7,
    0x3617DE4A96262C6F5D9E98BF9292DC29F8F41DBD289A147C * 2 ^ 192 +
      0xE9DA3113B5F0B8C00A60B1CE1D7E819D7A431D7C90EA0E5F)
  size := 48
  identifier := [0x2B, 0x81, 0x04, 0x00, 0x22]

def p521 : Curve where
  prime := 2 ^ 521 - 1
  order := 2 ^ 521 - 2 ^ 261 +
    0x1A51868783BF2F966B7FCC0148F709A5D03BB5C9B8899C47AEBB6FB71E91386409
  base := (
    0xC6858E06B70404E9CD9E3ECB662395B4429C648139053FB521F828AF606B4D3D * 2 ^ 264 +
      0xBAA14B5E77EFE75928FE1DC127A2FFA8DE3348B3C1856A429BF97E7E31C2E5BD66,
    0x11839296A789A3BC0045C8A5FB42C7D1BD998F54449579B446817AFBD17273E66 * 2 ^ 264 +
      0x2C97EE72995EF42640C550B9013FAD0761353C7086A272C24088BE94769FD16650)
  size := 66
  identifier := [0x2B, 0x81, 0x04, 0x00, 0x23]

def all : List Curve := [p256, p384, p521]

end Curve

end Tls

namespace Ed25519

def prime : Nat := 2 ^ 255 - 19

def quotient (a b : Nat) : Nat := Modular.mul prime a (Modular.inverse prime b)

def d : Nat := quotient (prime - 121665) 121666

abbrev Point : Type := Nat × Nat

def add (p q : Point) : Point :=
  let across := Modular.mul prime (p.1 * q.2) (q.1 * p.2)
  let t := Modular.mul prime d across
  (quotient (p.1 * q.2 + q.1 * p.2) (1 + t),
    quotient (p.2 * q.2 + p.1 * q.1) (Modular.sub prime 1 t))

def base : Point :=
  (0x216936D3CD6E53FEC0A4E231FDD6DC5C692CC7609525A7B2C9562D608F25D51A, quotient 4 5)

def littleEndian (bytes : List UInt8) : Nat := bytes.foldr (fun b n => 256 * n + b.toNat) 0

/-- The multiplier of a secret: a multiple of eight between `2 ^ 254` and `2 ^ 255`. -/
def multiplier (secret : List UInt8) : Nat :=
  let n := littleEndian ((Sha512.digest secret).take 32)
  2 ^ 254 + n % 2 ^ 254 / 8 * 8

def encode (p : Point) : List UInt8 :=
  let n := p.2 + 2 ^ 255 * (p.1 % 2)
  (List.range 32).map fun i => UInt8.ofNat (n >>> (8 * i))

def publicKey (secret : List UInt8) : List UInt8 :=
  encode (multiple add (0, 1) (multiplier secret) base)

end Ed25519

end Almanac
