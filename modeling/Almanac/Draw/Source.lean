import Almanac.Basic

set_option autoImplicit false

namespace Almanac

inductive DrawError where
  | emptyRange
  | exhausted
deriving DecidableEq

def DrawError.message : DrawError → String
  | emptyRange => "cannot sample empty range"
  | exhausted => "script ran out of draws"

/-- A state machine that answers requests for an integer between two bounds, each with a value and
the state after it; a draw that fails leaves the state as it was. -/
class Source (σ : Type) where
  draw : σ → (low high : Int32) → Except DrawError (Int32 × σ)

structure Draw where
  low : Int32
  high : Int32
  value : Int32
deriving DecidableEq

structure Script where
  values : List Int32
deriving DecidableEq

def Script.draw (script : Script) : Except DrawError (Int32 × Script) :=
  match script.values with
  | [] => .error .exhausted
  | v :: rest => .ok (v, ⟨rest⟩)

instance : Source Script := ⟨fun script _ _ => script.draw⟩

/-- Draws between the same bounds, `times` of them, in front of the reversed `drawn`: their values,
or the error that stopped them, and the source afterwards. -/
def Source.drawMany {σ : Type} [Source σ] (low high : Int32) :
    (times : Nat) → (drawn : List Int32) → σ → Except DrawError (List Int32) × σ
  | 0, drawn, source => (.ok drawn.reverse, source)
  | times + 1, drawn, source =>
    match Source.draw source low high with
    | .ok (v, source) => drawMany low high times (v :: drawn) source
    | .error e => (.error e, source)

abbrev Key : Type := Vector UInt32 8

namespace Keystream

abbrev Block : Type := Vector UInt32 16

def turn (x : UInt32) (bits : UInt32) : UInt32 := (x <<< bits) ||| (x >>> (32 - bits))

def mixStep (s : Block) (a b c : Fin 16) (bits : UInt32) : Block :=
  let sum := s[a] + s[b]
  (s.set a sum a.isLt).set c (turn (s[c] ^^^ sum) bits) c.isLt

def quarterRound (s : Block) (a b c d : Fin 16) : Block :=
  let s := mixStep s a b d 16
  let s := mixStep s c d b 12
  let s := mixStep s a b d 8
  mixStep s c d b 7

def doubleRound (s : Block) : Block :=
  let s := quarterRound s 0 4 8 12
  let s := quarterRound s 1 5 9 13
  let s := quarterRound s 2 6 10 14
  let s := quarterRound s 3 7 11 15
  let s := quarterRound s 0 5 10 15
  let s := quarterRound s 1 6 11 12
  let s := quarterRound s 2 7 8 13
  quarterRound s 3 4 9 14

def initial (key : Key) (number : Nat) : Block :=
  #v[0x61707865, 0x3320646e, 0x79622d32, 0x6b206574,
    key[0], key[1], key[2], key[3], key[4], key[5], key[6], key[7],
    UInt32.ofNat number, UInt32.ofNat (number / 2 ^ 32), 0, 0]

/-- A block of ChaCha with twelve rounds: the mixed state added to the state it came from. -/
def block (key : Key) (number : Nat) : Block :=
  let start := initial key number
  let mixed := Nat.repeat doubleRound 6 start
  Vector.zipWith (· + ·) mixed start

def word (key : Key) (index : Nat) : UInt32 :=
  (block key (index / 16)).get ⟨index % 16, Nat.mod_lt _ (by decide)⟩

end Keystream

structure Generator where
  key : Key
  taken : Nat
deriving DecidableEq

namespace Generator

/-- What the seeding generator makes of its state: its high bits, turned by the highest five. -/
def seedWord (state : UInt64) : UInt32 :=
  let x := (((state >>> 18) ^^^ state) >>> 27).toUInt32
  let bits := (state >>> 59).toUInt32
  (x >>> bits) ||| (x <<< ((32 - bits) % 32))

def nextSeedState (state : UInt64) : UInt64 :=
  state * 6364136223846793005 + 11634580027462260723

def seedState (seed : UInt64) (steps : Nat) : UInt64 := Nat.repeat nextSeedState steps seed

def keyOfSeed (seed : UInt64) : Key := Vector.ofFn fun i => seedWord (seedState seed (i + 1))

def ofSeed (seed : UInt64) : Generator := ⟨keyOfSeed seed, 0⟩

def next (g : Generator) : UInt32 × Generator :=
  (Keystream.word g.key g.taken, { g with taken := g.taken + 1 })

def rangeSize (low high : Int32) : Nat := (high.toInt - low.toInt + 1).toNat

/-- An offset below `size`, which is less than `2 ^ 32`, and the generator after it. The low half of
the product tells how far it is from the next offset; only if a second word could carry it there is
that word taken. -/
def offsetBelow (size : Nat) (g : Generator) : Nat × Generator :=
  let (w, g) := g.next
  let product := w.toNat * size
  let offset := product / 2 ^ 32
  let low := product % 2 ^ 32
  if 2 ^ 32 - size < low then
    let (w, g) := g.next
    let carry := (low + w.toNat * size / 2 ^ 32) / 2 ^ 32
    (offset + carry, g)
  else (offset, g)

/-- A value between two bounds. The range of all values takes a word as it is. -/
def draw (g : Generator) (low high : Int32) : Except DrawError (Int32 × Generator) :=
  if high < low then .error .emptyRange
  else if rangeSize low high = 2 ^ 32 then
    let (w, g) := g.next
    .ok (w.toInt32, g)
  else
    let (offset, g) := offsetBelow (rangeSize low high) g
    .ok (Int32.ofInt (low.toInt + offset), g)

instance : Source Generator := ⟨draw⟩

end Generator

end Almanac
