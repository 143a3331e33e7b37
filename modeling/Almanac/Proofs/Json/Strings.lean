import Almanac.Json.StringReader
import Almanac.Proofs.Json.Rendering
import Almanac.Proofs.Text.Utf8

set_option autoImplicit false

namespace Almanac.Json

open Ascii

theorem shortEscape?_of_mem {value b : UInt8} (h : (value, b) ∈ shortEscapes) :
    shortEscape? b = some value ∧ b ≠ 0x75 ∧ value.toNat < 0x80 := by
  simp only [shortEscapes, List.mem_cons, Prod.mk.injEq, List.not_mem_nil, or_false] at h
  rcases h with ⟨rfl, rfl⟩ | ⟨rfl, rfl⟩ | ⟨rfl, rfl⟩ | ⟨rfl, rfl⟩ | ⟨rfl, rfl⟩ | ⟨rfl, rfl⟩ |
    ⟨rfl, rfl⟩ | ⟨rfl, rfl⟩ <;> decide

theorem HexUnit.digits {bytes : List UInt8} {n : Nat} (h : HexUnit bytes n) :
    ∃ a b c d, bytes = [a, b, c, d] ∧ hexUnit? a b c d = some n := by
  cases h with
  | @mk a b c d w x y z ha hb hc hd =>
    refine ⟨a, b, c, d, rfl, ?_⟩
    simp only [hexUnit?, ha, hb, hc, hd, Option.bind_eq_bind, Option.bind_some, Option.pure_def]
    exact congrArg some (by omega)

/-- What a plain character is written with neither ends the string nor starts an escape. -/
theorem plain_byte {c : Char} (printable : 0x20 ≤ c.toNat) (noQuote : c.toNat ≠ quote.toNat)
    (noBackslash : c.toNat ≠ backslash.toNat) {b : UInt8} (h : b ∈ String.utf8EncodeChar c) :
    b ≠ quote ∧ b ≠ backslash ∧ ¬ b.toNat < 0x20 := by
  have small : quote.toNat < 0x80 ∧ backslash.toNat < 0x80 := by decide
  have bounds := Utf8.toNat_of_mem_utf8EncodeChar h
  refine ⟨?_, ?_, ?_⟩
  · rintro rfl
    omega
  · rintro rfl
    omega
  · omega

theorem utf8EncodeChar_of_ascii {c : Char} {b : UInt8} (h : c.toNat = b.toNat)
    (ascii : b.toNat < 0x80) : String.utf8EncodeChar c = [b] := by
  rw [Utf8.utf8EncodeChar_eq, if_pos (by omega), h, UInt8.ofNat_toNat]

/-- Some bytes take a reader of a string from one state to another and add `added`. -/
def Passes (bytes : List UInt8) (state state' : StringState) (added : List UInt8) : Prop :=
  ∀ rest p read, ∃ p', stringBytesFrom (bytes ++ rest) p state read =
    stringBytesFrom rest p' state' (added.reverse ++ read)

namespace Passes

variable {state next state' : StringState} {bytes bytes' added added' : List UInt8} {b : UInt8}

theorem nil : Passes [] state state [] := by
  intro rest p read
  exact ⟨p, rfl⟩

theorem append (h : Passes bytes state next added) (h' : Passes bytes' next state' added') :
    Passes (bytes ++ bytes') state state' (added ++ added') := by
  intro rest p read
  obtain ⟨p₁, h₁⟩ := h (bytes' ++ rest) p read
  obtain ⟨p₂, h₂⟩ := h' rest p₁ (added.reverse ++ read)
  refine ⟨p₂, ?_⟩
  rw [List.append_assoc, h₁, h₂, List.reverse_append, List.append_assoc]

theorem byte (inside : state.closes b = false) (h : state.step b = .ok (state', added)) :
    Passes [b] state state' added := by
  intro rest p read
  refine ⟨p.after b, ?_⟩
  rw [List.singleton_append, stringBytesFrom, inside, h]
  rfl

theorem escapeMark : Passes [backslash] .plain .escape [] := byte rfl rfl

theorem escapedUnit : Passes [backslash, 0x75] .plain (.digits none []) [] := by
  have mark : Passes [0x75] .escape (.digits none []) [] := byte rfl rfl
  exact escapeMark.append mark

theorem secondUnit (high : Nat) :
    Passes [backslash, 0x75] (.pair high) (.digits (some high) []) [] := by
  have start : Passes [backslash] (.pair high) (.pairEscape high) [] := byte rfl rfl
  have mark : Passes [0x75] (.pairEscape high) (.digits (some high) []) [] := byte rfl rfl
  exact start.append mark

theorem unit {high : Option Nat} {n : Nat} (h : HexUnit bytes n)
    (step : unitStep high n = .ok (state', added)) :
    Passes bytes (.digits high []) state' added := by
  obtain ⟨a, b, c, d, rfl, value⟩ := h.digits
  have first : Passes [a] (.digits high []) (.digits high [a]) [] := byte rfl rfl
  have second : Passes [b] (.digits high [a]) (.digits high [b, a]) [] := byte rfl rfl
  have third : Passes [c] (.digits high [b, a]) (.digits high [c, b, a]) [] := byte rfl rfl
  have last : Passes [d] (.digits high [c, b, a]) state' added := by
    apply byte rfl
    simp only [StringState.step, value]
    exact step
  exact first.append (second.append (third.append last))

theorem plain (h : ∀ b ∈ bytes, b ≠ quote ∧ b ≠ backslash ∧ ¬ b.toNat < 0x20) :
    Passes bytes .plain .plain bytes := by
  induction bytes with
  | nil => exact nil
  | cons b bytes ih =>
    obtain ⟨noQuote, noBackslash, printable⟩ := h b List.mem_cons_self
    have head : Passes [b] .plain .plain [b] := by
      apply byte
      · exact beq_false_of_ne noQuote
      · simp only [StringState.step, if_neg noBackslash, if_neg printable]
    exact head.append (ih fun b' mem => h b' (List.mem_cons_of_mem b mem))

theorem char {c : Char} (h : CharRendered c bytes) :
    Passes bytes .plain .plain (String.utf8EncodeChar c) := by
  cases h with
  | plain printable noQuote noBackslash =>
    exact plain fun b mem => plain_byte printable noQuote noBackslash mem
  | @short value b escape h =>
    obtain ⟨read, notUnit, ascii⟩ := shortEscape?_of_mem escape
    rw [utf8EncodeChar_of_ascii h ascii]
    have code : Passes [b] .escape .plain [value] := by
      apply byte rfl
      simp only [StringState.step, if_neg notUnit, read]
    exact escapeMark.append code
  | @unit digits h =>
    have valid : c.toNat < 0xD800 ∨ 0xDFFF < c.toNat := by
      obtain below | ⟨above, _⟩ := c.valid
      · exact .inl below
      · exact .inr above
    have notLow : isLowSurrogate c.toNat = false := by
      simp only [isLowSurrogate, Bool.and_eq_false_iff, decide_eq_false_iff_not]
      omega
    have notHigh : isHighSurrogate c.toNat = false := by
      simp only [isHighSurrogate, Bool.and_eq_false_iff, decide_eq_false_iff_not]
      omega
    have digits : Passes digits (.digits none []) .plain (String.utf8EncodeChar c) := by
      apply unit h
      simp only [unitStep, notLow, notHigh, Char.ofNat_toNat]
      rfl
    exact escapedUnit.append digits
  | @pair first second high low hfirst hsecond isHigh isLow h =>
    have lowSurrogate : isLowSurrogate low = true := by
      simp only [isLowSurrogate, Bool.and_eq_true, decide_eq_true_eq]
      exact isLow
    have highSurrogate : isHighSurrogate high = true := by
      simp only [isHighSurrogate, Bool.and_eq_true, decide_eq_true_eq]
      exact isHigh
    have notLow : isLowSurrogate high = false := by
      simp only [isLowSurrogate, Bool.and_eq_false_iff, decide_eq_false_iff_not]
      omega
    have half : Passes first (.digits none []) (.pair high) [] := by
      apply unit hfirst
      simp only [unitStep, notLow, highSurrogate]
      rfl
    have whole : Passes second (.digits (some high) []) .plain (String.utf8EncodeChar c) := by
      apply unit hsecond
      simp only [unitStep, lowSurrogate, ← h, Char.ofNat_toNat]
      rfl
    exact escapedUnit.append (half.append ((secondUnit high).append whole))

theorem chars {cs : List Char} {pieces : List (List UInt8)}
    (h : List.Forall₂ CharRendered cs pieces) :
    Passes pieces.flatten .plain .plain (cs.flatMap String.utf8EncodeChar) := by
  induction h with
  | nil => exact nil
  | cons head _ ih =>
    rw [List.flatten_cons, List.flatMap_cons]
    exact (char head).append ih

end Passes

theorem stringBody_rendered {s : String} {bytes : List UInt8} (h : StringRendered s bytes)
    (rest : List UInt8) (p : Position) :
    ∃ body p', bytes = quote :: body ∧ stringBody ⟨body ++ rest, p⟩ = .ok (s, ⟨rest, p'⟩) := by
  obtain ⟨pieces, rendered, rfl⟩ := h
  obtain ⟨p₁, read⟩ := Passes.chars rendered (quote :: rest) p []
  refine ⟨pieces.flatten ++ [quote], p₁.after quote, rfl, ?_⟩
  have closed : stringBytesFrom (quote :: rest) p₁ .plain
      ((s.toList.flatMap String.utf8EncodeChar).reverse ++ []) =
      .ok (s.toList.flatMap String.utf8EncodeChar, ⟨rest, p₁.after quote⟩) := by
    rw [List.append_nil, stringBytesFrom]
    simp only [StringState.closes, beq_self_eq_true, ite_true, List.reverse_reverse]
  have decoded : Utf8.decodePrefix (s.toList.flatMap String.utf8EncodeChar) = (s.toList, []) :=
    Utf8.decodePrefix_encode s
  rw [stringBody]
  simp only [List.append_assoc, List.singleton_append]
  rw [read, closed]
  simp only [decoded, String.ofList_toList]

end Almanac.Json
