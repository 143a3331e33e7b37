import Almanac.Json.Value
import Almanac.Proofs.Json.Strings

set_option autoImplicit false

namespace Almanac

open Ascii

namespace Utf8

theorem encode_append (s t : String) : encode (s ++ t) = encode s ++ encode t := by
  simp [encode]

theorem encode_ofList (cs : List Char) :
    encode (String.ofList cs) = cs.flatMap String.utf8EncodeChar := by
  simp [encode]

end Utf8

namespace Json

def bytes (v : Json) : List UInt8 := Utf8.encode v.text

/-- Pieces with commas between them, and before the first one unless it comes first. -/
def separated : (first : Bool) → List (List UInt8) → List UInt8
  | _, [] => []
  | first, piece :: pieces => (if first then [] else [comma]) ++ piece ++ separated false pieces

theorem encode_intercalate (texts : List String) :
    Utf8.encode (",".intercalate texts) = separated true (texts.map Utf8.encode) := by
  have commas : ∀ (text : List Char) (texts : List (List Char)),
      ([','].intercalate (text :: texts)).flatMap String.utf8EncodeChar =
        text.flatMap String.utf8EncodeChar ++
          separated false (texts.map (·.flatMap String.utf8EncodeChar)) := by
    intro text texts
    induction texts generalizing text with
    | nil => simp [List.intercalate, separated]
    | cons next texts ih =>
      have mark : String.utf8EncodeChar ',' = [comma] := by decide
      rw [List.intercalate_cons_cons]
      simp [ih, separated, mark]
  cases texts with
  | nil => rfl
  | cons text texts =>
    have each : (texts.map String.toList).map (·.flatMap String.utf8EncodeChar) =
        texts.map Utf8.encode := by
      rw [List.map_map]
      rfl
    have marks : ",".toList = [','] := by decide
    rw [Utf8.encode, String.toList_intercalate, List.map_cons, marks, commas, each]
    rfl

theorem bytes_array (vs : List Json) :
    (array vs).bytes = openBracket :: (separated true (vs.map bytes) ++ [closeBracket]) := by
  have each : (texts vs).map Utf8.encode = vs.map bytes := by
    induction vs with
    | nil => rfl
    | cons v vs ih =>
      rw [texts, List.map_cons, List.map_cons, ih]
      rfl
  rw [bytes, text, Utf8.encode_append, Utf8.encode_append, encode_intercalate, each]
  rfl

def memberBytes (m : String × Json) : List UInt8 := (string m.1).bytes ++ colon :: m.2.bytes

theorem bytes_object (ms : List (String × Json)) :
    (object ms).bytes = openBrace :: (separated true (ms.map memberBytes) ++ [closeBrace]) := by
  have each : (memberTexts ms).map Utf8.encode = ms.map memberBytes := by
    induction ms with
    | nil => rfl
    | cons m ms ih =>
      have head : Utf8.encode (stringText m.1 ++ ":" ++ m.2.text) = memberBytes m := by
        rw [Utf8.encode_append, Utf8.encode_append, memberBytes, bytes, bytes, text,
          List.append_assoc]
        rfl
      rw [memberTexts, List.map_cons, List.map_cons, ih, head]
  rw [bytes, text, Utf8.encode_append, Utf8.encode_append, encode_intercalate, each]
  rfl

theorem hexPair_unit {n : Nat} (h : n < 0x20) :
    HexUnit ((['0', '0'] ++ hexPair n).flatMap String.utf8EncodeChar) n := by
  have digits : ∀ n < 0x20, (hexPair n).flatMap String.utf8EncodeChar =
      [.ofNat (Nat.digitChar (n / 16)).toNat, .ofNat (Nat.digitChar (n % 16)).toNat] ∧
        hexDigit? (.ofNat (Nat.digitChar (n / 16)).toNat) = some (n / 16) ∧
        hexDigit? (.ofNat (Nat.digitChar (n % 16)).toNat) = some (n % 16) := by
    decide
  obtain ⟨pair, high, low⟩ := digits n h
  have zero : hexDigit? 0x30 = some 0 := by decide
  have unit := HexUnit.mk zero zero high low
  have value : 0 * 0x1000 + 0 * 0x100 + n / 16 * 0x10 + n % 16 = n := by omega
  rw [value] at unit
  rw [List.flatMap_append, pair]
  exact unit

theorem char_rendered (c : Char) :
    CharRendered c ((escapeChar c).flatMap String.utf8EncodeChar) := by
  -- in the order in which `escapeChar` looks: what is left at the end stands for itself
  unfold escapeChar
  split
  · rename_i escaped
    rcases escaped with rfl | rfl
    · exact .short (show (quote, quote) ∈ shortEscapes by decide) (by decide)
    · exact .short (show (backslash, backslash) ∈ shortEscapes by decide) (by decide)
  rename_i notSyntax
  split
  · rename_i newline
    subst newline
    exact .short (show (lineFeed, 0x6E) ∈ shortEscapes by decide) (by decide)
  split
  · rename_i newline
    subst newline
    exact .short (show (carriageReturn, 0x72) ∈ shortEscapes by decide) (by decide)
  split
  · rename_i newline
    subst newline
    exact .short (show (tab, 0x74) ∈ shortEscapes by decide) (by decide)
  split
  · rename_i backspace
    exact .short (show (0x08, 0x62) ∈ shortEscapes by decide) backspace
  split
  · rename_i formFeed
    exact .short (show (0x0C, 0x66) ∈ shortEscapes by decide) formFeed
  split
  · rename_i control
    exact .unit (hexPair_unit control)
  · rename_i printable
    have code {d : Char} {b : UInt8} (value : d.toNat = b.toNat) (different : c ≠ d) :
        c.toNat ≠ b.toNat := by
      intro same
      exact different (Char.toNat_inj.1 (same.trans value.symm))
    rw [List.flatMap_singleton]
    exact .plain (Nat.not_lt.1 printable)
      (code (d := '"') (by decide) (fun h => notSyntax (.inl h)))
      (code (d := '\\') (by decide) (fun h => notSyntax (.inr h)))

theorem string_rendered (s : String) : StringRendered s (string s).bytes := by
  refine ⟨s.toList.map fun c => (escapeChar c).flatMap String.utf8EncodeChar, ?_, ?_⟩
  · rw [List.forall₂_map_right_iff, List.forall₂_same]
    exact fun c _ => char_rendered c
  · have mark : String.utf8EncodeChar '"' = [quote] := by decide
    rw [bytes, text, stringText, Utf8.encode_ofList]
    rw [List.flatMap_append, List.flatMap_cons, List.flatMap_assoc, mark, List.flatMap_singleton,
      mark, List.flatMap_def]
    rfl

end Json

end Almanac
