import Almanac.Basic

set_option autoImplicit false

namespace Almanac.Utf8

theorem toNat_ofNat_lt {n : Nat} (h : n < 256) : (UInt8.ofNat n).toNat = n := by
  rw [UInt8.toNat_ofNat', Nat.mod_eq_of_lt (by omega)]

theorem tail?_ofNat {n : Nat} (h : n < 64) : tail? (UInt8.ofNat (n + 128)) = some n := by
  unfold tail?
  rw [toNat_ofNat_lt (by omega), if_pos (by omega)]
  exact congrArg some (by omega)

theorem scalar?_toNat {least : Nat} {c : Char} (h : least ≤ c.toNat) :
    scalar? least c.toNat = some c := by
  unfold scalar?
  rw [if_pos ⟨h, c.valid⟩, Char.ofNat_toNat]

theorem two?_eq_none {a b : UInt8} (h : 0xE0 ≤ a.toNat) : two? a b = none := by
  unfold two?
  rw [if_neg (by omega)]

theorem three?_eq_none {a b c : UInt8} (h : 0xF0 ≤ a.toNat) : three? a b c = none := by
  unfold three?
  rw [if_neg (by omega)]

theorem two?_encode {c : Char} (h : 0x7F < c.toNat) (h' : c.toNat ≤ 0x7FF) :
    two? (UInt8.ofNat (c.toNat / 64 % 32 + 192)) (UInt8.ofNat (c.toNat % 64 + 128)) = some c := by
  unfold two?
  rw [toNat_ofNat_lt (by omega), if_pos (by omega), tail?_ofNat (by omega)]
  have e : (c.toNat / 64 % 32 + 192 - 0xC0) * 64 + c.toNat % 64 = c.toNat := by omega
  simp only [Option.bind_eq_bind, Option.bind_some, e]
  exact scalar?_toNat (by omega)

theorem three?_encode {c : Char} (h : 0x7FF < c.toNat) (h' : c.toNat ≤ 0xFFFF) :
    three? (UInt8.ofNat (c.toNat / 4096 % 16 + 224)) (UInt8.ofNat (c.toNat / 64 % 64 + 128))
      (UInt8.ofNat (c.toNat % 64 + 128)) = some c := by
  unfold three?
  rw [toNat_ofNat_lt (by omega), if_pos (by omega), tail?_ofNat (by omega), tail?_ofNat (by omega)]
  have e : ((c.toNat / 4096 % 16 + 224 - 0xE0) * 64 + c.toNat / 64 % 64) * 64 + c.toNat % 64 =
      c.toNat := by omega
  simp only [Option.bind_eq_bind, Option.bind_some, e]
  exact scalar?_toNat (by omega)

theorem toNat_lt (c : Char) : c.toNat < 0x110000 := by
  have h := c.valid
  simp only [UInt32.isValidChar, Nat.isValidChar] at h
  change c.val.toNat < 0x110000
  omega

theorem four?_encode {c : Char} (h : 0xFFFF < c.toNat) :
    four? (UInt8.ofNat (c.toNat / 262144 % 8 + 240)) (UInt8.ofNat (c.toNat / 4096 % 64 + 128))
      (UInt8.ofNat (c.toNat / 64 % 64 + 128)) (UInt8.ofNat (c.toNat % 64 + 128)) = some c := by
  have hc := toNat_lt c
  unfold four?
  rw [toNat_ofNat_lt (by omega), if_pos (by omega), tail?_ofNat (by omega), tail?_ofNat (by omega),
    tail?_ofNat (by omega)]
  have e : (((c.toNat / 262144 % 8 + 240 - 0xF0) * 64 + c.toNat / 4096 % 64) * 64 +
      c.toNat / 64 % 64) * 64 + c.toNat % 64 = c.toNat := by omega
  simp only [Option.bind_eq_bind, Option.bind_some, e]
  exact scalar?_toNat (by omega)

theorem decodeFrom_one {a : UInt8} (h : a.toNat < 0x80) (read : List Char) (rest : List UInt8) :
    decodeFrom read (a :: rest) = decodeFrom (Char.ofNat a.toNat :: read) rest := by
  rw [decodeFrom.eq_def]
  exact if_pos h

theorem decodeFrom_two {a b : UInt8} {c : Char} (ha : 0x80 ≤ a.toNat) (h : two? a b = some c)
    (read : List Char) (rest : List UInt8) :
    decodeFrom read (a :: b :: rest) = decodeFrom (c :: read) rest := by
  rw [decodeFrom.eq_def]
  simp only [if_neg (Nat.not_lt.2 ha), h]

theorem decodeFrom_three {a b c : UInt8} {x : Char} (ha : 0xE0 ≤ a.toNat)
    (h : three? a b c = some x) (read : List Char) (rest : List UInt8) :
    decodeFrom read (a :: b :: c :: rest) = decodeFrom (x :: read) rest := by
  rw [decodeFrom.eq_def]
  simp only [if_neg (show ¬ a.toNat < 0x80 by omega), two?_eq_none ha, h]

theorem decodeFrom_four {a b c d : UInt8} {x : Char} (ha : 0xF0 ≤ a.toNat)
    (h : four? a b c d = some x) (read : List Char) (rest : List UInt8) :
    decodeFrom read (a :: b :: c :: d :: rest) = decodeFrom (x :: read) rest := by
  rw [decodeFrom.eq_def]
  simp only [if_neg (show ¬ a.toNat < 0x80 by omega),
    two?_eq_none (show 0xE0 ≤ a.toNat by omega), three?_eq_none ha, h]

theorem utf8EncodeChar_eq (c : Char) : String.utf8EncodeChar c =
    if c.toNat ≤ 127 then [UInt8.ofNat c.toNat]
    else if c.toNat ≤ 2047 then
      [UInt8.ofNat (c.toNat / 64 % 32 + 192), UInt8.ofNat (c.toNat % 64 + 128)]
    else if c.toNat ≤ 65535 then
      [UInt8.ofNat (c.toNat / 4096 % 16 + 224), UInt8.ofNat (c.toNat / 64 % 64 + 128),
        UInt8.ofNat (c.toNat % 64 + 128)]
    else
      [UInt8.ofNat (c.toNat / 262144 % 8 + 240), UInt8.ofNat (c.toNat / 4096 % 64 + 128),
        UInt8.ofNat (c.toNat / 64 % 64 + 128), UInt8.ofNat (c.toNat % 64 + 128)] := rfl

theorem toNat_of_mem_utf8EncodeChar {c : Char} {b : UInt8} (h : b ∈ String.utf8EncodeChar c) :
    b.toNat = c.toNat ∨ 0x80 ≤ b.toNat := by
  rw [utf8EncodeChar_eq] at h
  split at h
  · left
    rw [List.mem_singleton.1 h, toNat_ofNat_lt (by omega)]
  · right
    split at h
    · simp only [List.mem_cons, List.not_mem_nil, or_false] at h
      rcases h with rfl | rfl <;> rw [toNat_ofNat_lt (by omega)] <;> omega
    split at h
    · simp only [List.mem_cons, List.not_mem_nil, or_false] at h
      rcases h with rfl | rfl | rfl <;> rw [toNat_ofNat_lt (by omega)] <;> omega
    · simp only [List.mem_cons, List.not_mem_nil, or_false] at h
      rcases h with rfl | rfl | rfl | rfl <;> rw [toNat_ofNat_lt (by omega)] <;> omega

/-- The bytes of a character are read as that character, whatever follows. -/
theorem decodeFrom_utf8EncodeChar (c : Char) (read : List Char) (rest : List UInt8) :
    decodeFrom read (String.utf8EncodeChar c ++ rest) = decodeFrom (c :: read) rest := by
  have hc := toNat_lt c
  rw [utf8EncodeChar_eq]
  split
  · rename_i h
    have hn : (UInt8.ofNat c.toNat).toNat = c.toNat := toNat_ofNat_lt (by omega)
    rw [List.singleton_append, decodeFrom_one (by omega), hn, Char.ofNat_toNat]
  split
  · rename_i h₁ h₂
    exact decodeFrom_two (by rw [toNat_ofNat_lt (by omega)]; omega)
      (two?_encode (by omega) h₂) read rest
  split
  · rename_i h₁ h₂ h₃
    exact decodeFrom_three (by rw [toNat_ofNat_lt (by omega)]; omega)
      (three?_encode (by omega) h₃) read rest
  · rename_i h₁ h₂ h₃
    exact decodeFrom_four (by rw [toNat_ofNat_lt (by omega)]; omega)
      (four?_encode (by omega)) read rest

theorem decodeFrom_flatMap (cs read : List Char) :
    decodeFrom read (cs.flatMap String.utf8EncodeChar) = (read.reverse ++ cs, []) := by
  induction cs generalizing read with
  | nil => simp [decodeFrom]
  | cons c cs ih => rw [List.flatMap_cons, decodeFrom_utf8EncodeChar, ih]; simp

theorem decodePrefix_encode (s : String) : decodePrefix (encode s) = (s.toList, []) :=
  decodeFrom_flatMap s.toList []

end Almanac.Utf8
