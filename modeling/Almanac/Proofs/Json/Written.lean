import Almanac.Proofs.Json.Decimals

set_option autoImplicit false

namespace Almanac.Json

open Ascii

/-- Whether the compact text of a value renders a tree. -/
def Writes (v : Json) (t : Tree) : Prop := Renders (.value t) v.bytes

theorem Writes.element {v : Json} {t : Tree} (h : v.Writes t) : Renders (.element t) v.bytes := by
  have element := Renders.element Blank.nil h Blank.nil
  rw [List.nil_append, List.append_nil] at element
  exact element

theorem null_writes : null.Writes .null := .nullWord

theorem string_writes (s : String) : (string s).Writes (.string s) := .string (string_rendered s)

theorem exists_literal (negative : Bool) (n : Nat) :
    ∃ literal : Literal,
      literal.integer? = (if negative then if n = 0 then none else some (-(n : Int)) else some n) ∧
      literal.bytes = (if negative then [minus] else []) ++ Utf8.encode (toString n) := by
  obtain ⟨d, ds, digits, value, leading, single⟩ := Decimal.exists_digits_of ⟨n, 0⟩
  have whole : Digits.value ⟨d, ds⟩ = n := by
    rw [appended, List.foldl_cons] at value
    simpa [Digits.value] using value
  have text : Utf8.encode (toString n) = Digits.bytes ⟨d, ds⟩ := by
    change Utf8.encode (String.ofList (Nat.toDigits 10 n)) = _
    rw [Utf8.encode_ofList, digits, encode_digits]
    rfl
  refine ⟨⟨negative, ⟨d, ds⟩, fun zero => single (leading zero), none, none⟩, ?_, ?_⟩
  · rw [Literal.integer?, whole]
  · rw [text, Literal.bytes, Literal.tail]
    exact List.append_nil _

theorem integer_writes (i : Int) :
    ∃ n : Literal, n.integer? = some i ∧ (integer i).Writes (.number n) := by
  cases i with
  | ofNat n =>
    obtain ⟨literal, value, bytes⟩ := exists_literal false n
    have text : (integer (.ofNat n)).bytes = literal.bytes := bytes.symm
    refine ⟨literal, value, ?_⟩
    rw [Writes, text]
    exact .number literal
  | negSucc n =>
    obtain ⟨literal, value, bytes⟩ := exists_literal true (n + 1)
    have text : (integer (.negSucc n)).bytes = literal.bytes := by
      have hyphen : Utf8.encode "-" = [minus] := by decide
      rw [bytes, if_pos rfl, ← hyphen, ← Utf8.encode_append]
      rfl
    refine ⟨literal, value, ?_⟩
    rw [Writes, text]
    exact .number literal

theorem elements_written {vs : List Json} {ts : List Tree} (h : List.Forall₂ Writes vs ts)
    (nonempty : ts ≠ []) : Renders (.elements ts) (separated true (vs.map bytes)) := by
  induction h with
  | nil => contradiction
  | @cons v t vs ts head tail ih =>
    rw [List.map_cons, separated, if_pos rfl, List.nil_append]
    cases tail with
    | nil =>
      rw [List.map_nil, separated, List.append_nil]
      exact .lastElement head.element
    | cons next others => exact .elements head.element (ih (List.cons_ne_nil _ _))

theorem array_writes {vs : List Json} {ts : List Tree} (h : List.Forall₂ Writes vs ts) :
    (array vs).Writes (.array ts) := by
  rw [Writes, bytes_array]
  cases h with
  | nil => exact .emptyArray Blank.nil
  | cons head tail => exact .array (elements_written (.cons head tail) (List.cons_ne_nil _ _))

theorem member_written {m : String × Json} {t : Tree} (h : m.2.Writes t) :
    Renders (.member m.1 t) (memberBytes m) := by
  have member := Renders.member Blank.nil (string_rendered m.1) Blank.nil h.element
  rw [List.nil_append, List.append_nil] at member
  exact member

theorem members_written {ms : List (String × Json)} {ts : List (String × Tree)}
    (h : List.Forall₂ (fun m t => m.1 = t.1 ∧ m.2.Writes t.2) ms ts) (nonempty : ts ≠ []) :
    Renders (.members ts) (separated true (ms.map memberBytes)) := by
  induction h with
  | nil => contradiction
  | @cons m t ms ts head tail ih =>
    obtain ⟨name, t⟩ := t
    obtain ⟨rfl, writes⟩ := head
    rw [List.map_cons, separated, if_pos rfl, List.nil_append]
    cases tail with
    | nil =>
      rw [List.map_nil, separated, List.append_nil]
      exact .lastMember (member_written writes)
    | cons next others => exact .members (member_written writes) (ih (List.cons_ne_nil _ _))

theorem object_writes {ms : List (String × Json)} {ts : List (String × Tree)}
    (h : List.Forall₂ (fun m t => m.1 = t.1 ∧ m.2.Writes t.2) ms ts) :
    (object ms).Writes (.object ts) := by
  rw [Writes, bytes_object]
  cases h with
  | nil => exact .emptyObject Blank.nil
  | cons head tail =>
    exact .object (.refl _) (members_written (.cons head tail) (List.cons_ne_nil _ _))

end Almanac.Json
