set_option autoImplicit false

namespace Almanac

structure IPv4Address where
  a : UInt8
  b : UInt8
  c : UInt8
  d : UInt8
deriving DecidableEq

namespace IPv4Address

def octets (x : IPv4Address) : List UInt8 := [x.a, x.b, x.c, x.d]

def text (x : IPv4Address) : String := ".".intercalate (x.octets.map fun n => toString n.toNat)

def groups (x : IPv4Address) : List UInt16 :=
  [x.a.toUInt16 * 256 + x.b.toUInt16, x.c.toUInt16 * 256 + x.d.toUInt16]

def ofGroups (high low : UInt16) : IPv4Address :=
  ⟨(high / 256).toUInt8, high.toUInt8, (low / 256).toUInt8, low.toUInt8⟩

end IPv4Address

structure IPv6Address where
  groups : List UInt16
  length_groups : groups.length = 8
deriving DecidableEq

namespace IPv6Address

def groupText (g : UInt16) : String := String.ofList (Nat.toDigits 16 g.toNat)

def groupsText (gs : List UInt16) : String := ":".intercalate (gs.map groupText)

def leadingZeros (gs : List UInt16) : Nat := (gs.takeWhile (· == 0)).length

/-- The start and the length of the first of the longest runs of zeros; `index` is the place of the
first group. -/
def longestZeros (index : Nat) : List UInt16 → Nat × Nat
  | [] => (index, 0)
  | g :: rest =>
    let here := leadingZeros (g :: rest)
    let later := longestZeros (index + 1) rest
    if here < later.2 then later else (index, here)

/-- The address of version 4 that stands in the last two groups after five zeros and all ones. -/
def mapped? (x : IPv6Address) : Option IPv4Address :=
  match x.groups with
  | [0, 0, 0, 0, 0, 0xffff, high, low] => some (.ofGroups high low)
  | _ => none

def text (x : IPv6Address) : String :=
  match x.mapped? with
  | some v4 => "::ffff:" ++ v4.text
  | none =>
    let (start, length) := longestZeros 0 x.groups
    if 1 < length then
      groupsText (x.groups.take start) ++ "::" ++ groupsText (x.groups.drop (start + length))
    else groupsText x.groups

end IPv6Address

inductive IpAddress where
  | v4 (address : IPv4Address)
  | v6 (address : IPv6Address)
deriving DecidableEq

namespace IpAddress

def unspecified : IpAddress := v4 ⟨0, 0, 0, 0⟩

def text : IpAddress → String
  | v4 x => x.text
  | v6 x => x.text

end IpAddress

structure SocketAddress where
  address : IpAddress
  port : UInt16
deriving DecidableEq

/-- The port follows a colon; an address of version 6 stands in brackets before it. -/
def SocketAddress.text (s : SocketAddress) : String :=
  let host := match s.address with
    | .v4 x => x.text
    | .v6 x => "[" ++ x.text ++ "]"
  host ++ ":" ++ toString s.port.toNat

def digitInBase? (base : Nat) (c : Char) : Option Nat :=
  let n := c.toNat
  let value := if c.isDigit then some (n - 0x30)
    else if 0x41 ≤ n ∧ n ≤ 0x46 then some (n - 0x41 + 10)
    else if 0x61 ≤ n ∧ n ≤ 0x66 then some (n - 0x61 + 10)
    else none
  value.filter (· < base)

namespace AddressReader

def number? (base width : Nat) (cs : List Char) : Option (Nat × List Char) :=
  let (digits, rest) := cs.span fun c => (digitInBase? base c).isSome
  if digits.isEmpty || width < digits.length then none
  else some (digits.foldl (fun n c => base * n + (digitInBase? base c).getD 0) 0, rest)

def octet? (cs : List Char) : Option (UInt8 × List Char) := do
  let (n, rest) ← number? 10 3 cs
  let isPlain := cs.head? != some '0' || cs.length == rest.length + 1
  if n < 256 && isPlain then some (UInt8.ofNat n, rest) else none

def group? (cs : List Char) : Option (UInt16 × List Char) := do
  let (n, rest) ← number? 16 4 cs
  some (UInt16.ofNat n, rest)

def after? (c : Char) : List Char → Option (List Char)
  | [] => none
  | x :: rest => if x = c then some rest else none

def v4? (cs : List Char) : Option (IPv4Address × List Char) := do
  let (a, cs) ← octet? cs
  let (b, cs) ← after? '.' cs >>= octet?
  let (c, cs) ← after? '.' cs >>= octet?
  let (d, cs) ← after? '.' cs >>= octet?
  some (⟨a, b, c, d⟩, cs)

structure Groups where
  groups : List UInt16
  endsInV4 : Bool
  rest : List Char

def groups (room : Nat) (first : Bool) (cs : List Char) : Groups :=
  match room with
  | 0 => ⟨[], false, cs⟩
  | room + 1 =>
    let start := if first then some cs else after? ':' cs
    match (if 0 < room then start.bind v4? else none) with
    | some (v4, rest) => ⟨v4.groups, true, rest⟩
    | none =>
      match start.bind group? with
      | none => ⟨[], false, cs⟩
      | some (g, rest) =>
        let later := groups room false rest
        { later with groups := g :: later.groups }

def v6? (cs : List Char) : Option (List UInt16 × List Char) :=
  let head := groups 8 true cs
  if head.groups.length = 8 then some (head.groups, head.rest)
  else if head.endsInV4 then none
  else do
    let rest ← after? ':' head.rest >>= after? ':'
    let tail := groups (7 - head.groups.length) true rest
    let zeros := List.replicate (8 - head.groups.length - tail.groups.length) 0
    some (head.groups ++ zeros ++ tail.groups, tail.rest)

end AddressReader

open AddressReader in
def IpAddress.ofString? (s : String) : Option IpAddress :=
  match v4? s.toList with
  | some (x, rest) => if rest.isEmpty then some (v4 x) else none
  | none =>
    match v6? s.toList with
    | some (gs, []) => if h : gs.length = 8 then some (v6 ⟨gs, h⟩) else none
    | _ => none

end Almanac
