import Almanac.Basic

set_option autoImplicit false

namespace Almanac.Der

abbrev Bytes : Type := List UInt8

namespace Tag

def boolean : UInt8 := 0x01
def integer : UInt8 := 0x02
def bitString : UInt8 := 0x03
def octetString : UInt8 := 0x04
def null : UInt8 := 0x05
def identifier : UInt8 := 0x06
def sequence : UInt8 := 0x30

def context (n : UInt8) : UInt8 := 0xA0 + n

end Tag

def bigEndian (bytes : Bytes) : Nat := bytes.foldl (fun n b => 256 * n + b.toNat) 0

def ofNat (size n : Nat) : Bytes :=
  (List.range size).reverse.map fun i => UInt8.ofNat (n >>> (8 * i))

/-- A length in `size` bytes that needs more than `least` to be written this long. -/
def longLength? (size least : Nat) (bytes : Bytes) : Option (Nat × Bytes) :=
  let n := bigEndian (bytes.take size)
  if size ≤ bytes.length ∧ least ≤ n then some (n, bytes.drop size) else none

def length? : Bytes → Option (Nat × Bytes)
  | [] => none
  | b :: rest =>
    if b < 0x80 then some (b.toNat, rest)
    else if b = 0x81 then longLength? 1 (2 ^ 7) rest
    else if b = 0x82 then longLength? 2 (2 ^ 8) rest
    else if b = 0x83 then longLength? 3 (2 ^ 16) rest
    else if b = 0x84 then longLength? 4 (2 ^ 24) rest
    else none

def element? : Bytes → Option (UInt8 × Bytes × Bytes)
  | [] => none
  | tag :: rest => do
    let (n, rest) ← length? rest
    if tag &&& 0x1F != 0x1F ∧ n ≤ rest.length then some (tag, rest.take n, rest.drop n) else none

def tagged? (tag : UInt8) (bytes : Bytes) : Option (Bytes × Bytes) := do
  let (found, contents, rest) ← element? bytes
  if found = tag then some (contents, rest) else none

/-- The contents of an element of the given tag that is all there is. -/
def only? (tag : UInt8) (bytes : Bytes) : Option Bytes :=
  match tagged? tag bytes with
  | some (contents, []) => some contents
  | _ => none

/-- The contents of the first element if it has the given tag, and what follows it. -/
def optional? (tag : UInt8) (bytes : Bytes) : Option (Option Bytes × Bytes) :=
  if bytes.head? = some tag then do
    let (contents, rest) ← tagged? tag bytes
    some (some contents, rest)
  else some (none, bytes)

theorem length_le_of_length? {bytes rest : Bytes} {n : Nat} (h : length? bytes = some (n, rest)) :
    rest.length ≤ bytes.length := by
  cases bytes with
  | nil => simp [length?] at h
  | cons b tail =>
    simp only [length?, longLength?] at h
    repeat' split at h
    all_goals
      first
      | contradiction
      | (simp only [Option.some.injEq, Prod.mk.injEq] at h
         obtain ⟨-, rfl⟩ := h
         simp only [List.length_drop, List.length_cons]
         omega)

theorem length_lt_of_tagged? {tag : UInt8} {bytes contents rest : Bytes}
    (h : tagged? tag bytes = some (contents, rest)) : rest.length < bytes.length := by
  cases bytes with
  | nil => simp [tagged?, element?] at h
  | cons b tail =>
    cases hl : length? tail with
    | none => simp [tagged?, element?, hl] at h
    | some found =>
      have hle := length_le_of_length? hl
      simp only [tagged?, element?, hl, Option.bind_eq_bind, Option.bind_some] at h
      split at h
      · simp only [Option.bind_some] at h
        split at h
        · simp only [Option.some.injEq, Prod.mk.injEq] at h
          obtain ⟨-, rfl⟩ := h
          simp only [List.length_drop, List.length_cons]
          omega
        · contradiction
      · contradiction

def natural? : Bytes → Option Nat
  | [] => none
  | [b] => if b < 0x80 then some b.toNat else none
  | a :: b :: rest =>
    if a < 0x80 ∧ (a ≠ 0 ∨ 0x80 ≤ b) then some (bigEndian (a :: b :: rest)) else none

def filled? : Bytes → Option Bytes
  | 0 :: rest => some rest
  | _ => none

def takeNatural? (bytes : Bytes) : Option (Nat × Bytes) := do
  let (contents, rest) ← tagged? Tag.integer bytes
  let n ← natural? contents
  some (n, rest)

def shortest (n : Nat) : Bytes := ofNat (n.log2 / 8 + 1) n

def lengthBytes (n : Nat) : Bytes :=
  if n < 0x80 then [UInt8.ofNat n]
  else let digits := shortest n
    (0x80 + UInt8.ofNat digits.length) :: digits

def encode (tag : UInt8) (contents : Bytes) : Bytes :=
  tag :: lengthBytes contents.length ++ contents

def encodeNatural (n : Nat) : Bytes :=
  let digits := shortest n
  encode Tag.integer (if digits.head? |>.any (0x80 ≤ ·) then 0 :: digits else digits)

end Almanac.Der
