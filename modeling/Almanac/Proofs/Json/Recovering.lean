import Almanac.Proofs.Json.Compact
import Almanac.Proofs.Json.Records

set_option autoImplicit false

namespace Almanac.Json

open Ascii

variable {σ α : Type}

def Reader.Recovers (r : Reader α) (v : Json) (a : α) : Prop :=
  ∀ rest, Delimited rest → ∀ p, ∃ p', r ⟨v.bytes ++ rest, p⟩ = .ok (a, ⟨rest, p'⟩)

theorem Reader.Recovers.all {r : Reader α} {v : Json} {a : α} (h : r.Recovers v a) :
    Reader.all r v.bytes = .ok a := by
  have atEnd : Delimited [] := nofun
  obtain ⟨p, read⟩ := h [] atEnd .start
  rw [List.append_nil] at read
  unfold Reader.all Cursor.ofBytes
  rw [read]
  rfl

theorem string_starts (s : String) :
    ∃ body, (string s).bytes = quote :: body ∧ ∀ rest p,
      ∃ p', stringBody ⟨body ++ rest, p⟩ = .ok (s, ⟨rest, p'⟩) := by
  obtain ⟨pieces, rendered, bytes⟩ := string_rendered s
  refine ⟨pieces.flatten ++ [quote], bytes, ?_⟩
  intro rest p
  obtain ⟨body, p', same, read⟩ := stringBody_rendered ⟨pieces, rendered, bytes⟩ rest p
  rw [bytes] at same
  cases same
  exact ⟨p', read⟩

theorem parsed_recovers {parse : String → Except String α} {s : String} {a : α}
    (h : parse s = .ok a) (expected : String) :
    (Reader.parsed expected parse).Recovers (.string s) a := by
  intro rest delimited p
  obtain ⟨body, bytes, read⟩ := string_starts s
  obtain ⟨p', done⟩ := read rest (p.after quote)
  refine ⟨p', ?_⟩
  rw [bytes]
  change (stringBody ⟨body ++ rest, p.after quote⟩ >>= _) = _
  rw [done]
  simp only [Bind.bind, Except.bind, h]

theorem optional_string_recovers (location : Option String) :
    (Reader.optional .string).Recovers (.ofOption location) location := by
  intro rest delimited p
  cases location with
  | none =>
    obtain ⟨p', read⟩ := literal_append nullTail rest (p.after 0x6E)
    refine ⟨p', ?_⟩
    change (Cursor.literal nullTail ⟨nullTail ++ rest, p.after 0x6E⟩ >>= _) = _
    rw [read]
    rfl
  | some s =>
    obtain ⟨body, bytes, _⟩ := string_starts s
    have ofString : Reader.string.Recovers (string s) s := parsed_recovers rfl "a string"
    obtain ⟨p', read⟩ := ofString rest delimited p
    refine ⟨p', ?_⟩
    rw [bytes, List.cons_append] at read
    change Reader.optional .string ⟨(string s).bytes ++ rest, p⟩ = _
    rw [bytes, List.cons_append]
    change (Reader.string ⟨quote :: (body ++ rest), p⟩ >>= _) = _
    rw [read]
    rfl

section Lists

def Opens (v : Json) : Prop :=
  ∃ b rest, v.bytes = b :: rest ∧ isSpace b = false ∧ b ≠ closeBracket

theorem object_opens (ms : List (String × Json)) : Opens (.object ms) :=
  ⟨openBrace, _, bytes_object ms, by decide, by decide⟩

theorem separated_delimited (pieces : List (List UInt8)) {b : UInt8}
    (closing : b = closeBracket ∨ b = closeBrace) (rest : List UInt8) :
    Delimited (separated false pieces ++ b :: rest) := by
  cases pieces with
  | nil => exact .cons (.inr (.inr closing)) rest
  | cons piece pieces => exact .cons (.inr (.inl rfl)) _

theorem nextElement_opens {v : Json} (h : Opens v) (first : Bool) (rest : List UInt8)
    (p : Position) :
    ∃ p', nextElement first ⟨(if first then [] else [comma]) ++ (v.bytes ++ rest), p⟩ =
      .ok (some ⟨v.bytes ++ rest, p'⟩) := by
  obtain ⟨b, others, bytes, token, notClosing⟩ := h
  rw [bytes, List.cons_append]
  cases first with
  | true =>
    obtain ⟨p₁, skipped⟩ := skipBlanks_token Blank.nil token (others ++ rest) p
    refine ⟨p₁, ?_⟩
    rw [List.nil_append] at skipped
    rw [if_pos rfl, List.nil_append, nextElement, skipped]
    exact if_neg notClosing
  | false =>
    obtain ⟨p₁, skipped⟩ := skipBlanks_token Blank.nil token (others ++ rest) (p.after comma)
    refine ⟨p₁, ?_⟩
    rw [List.nil_append] at skipped
    have toComma : Cursor.skipBlanks ⟨comma :: b :: (others ++ rest), p⟩ =
        ⟨comma :: b :: (others ++ rest), p⟩ := rfl
    rw [if_neg Bool.false_ne_true, List.singleton_append, nextElement, toComma]
    simp only [Bool.false_eq_true, ite_false, ite_true, Cursor.next, skipped, if_neg notClosing]
    rfl

theorem elements_recovers {r : Reader α} {vs : List Json} {as : List α}
    (h : List.Forall₂ (fun v a => Opens v ∧ r.Recovers v a) vs as) {fuel : Nat}
    (enough : vs.length < fuel) (index : Nat) (read : List α) (rest : List UInt8) (p : Position) :
    ∃ p', Reader.elements r fuel index read
        ⟨separated (index == 0) (vs.map bytes) ++ closeBracket :: rest, p⟩ =
      .ok (read.reverse ++ as, ⟨closeBracket :: rest, p'⟩) := by
  -- only the index tells whether a comma is due, so it moves along with the elements
  induction h generalizing fuel index read p with
  | nil =>
    obtain ⟨fuel, rfl⟩ : ∃ fuel', fuel = fuel' + 1 := ⟨fuel - 1, by omega⟩
    exact ⟨p, by rw [List.append_nil]; rfl⟩
  | @cons v a vs as head _ ih =>
    obtain ⟨opens, recovers⟩ := head
    obtain ⟨fuel, rfl⟩ : ∃ fuel', fuel = fuel' + 1 := ⟨fuel - 1, by omega⟩
    obtain ⟨p₁, next⟩ := nextElement_opens opens (index == 0)
      (separated false (vs.map bytes) ++ closeBracket :: rest) p
    obtain ⟨p₂, element⟩ := recovers _ (separated_delimited (vs.map bytes) (.inl rfl) rest) p₁
    obtain ⟨p₃, later⟩ := ih (Nat.lt_of_succ_lt_succ enough) (index + 1) (a :: read) p₂
    refine ⟨p₃, ?_⟩
    rw [List.map_cons, separated, List.append_assoc, List.append_assoc, Reader.elements, next]
    change (Except.mapError _ (r _) >>= _) = _
    rw [element]
    change Reader.elements r fuel (index + 1) (a :: read)
      ⟨separated false (vs.map bytes) ++ closeBracket :: rest, p₂⟩ = _
    rw [List.reverse_cons, List.append_assoc] at later
    exact later

theorem length_le_separated (first : Bool) (pieces : List (List UInt8)) :
    pieces.length ≤ (separated first pieces).length + if first then 1 else 0 := by
  induction pieces generalizing first with
  | nil => exact Nat.zero_le _
  | cons piece pieces ih =>
    have later := ih false
    cases first <;> simp [separated] at later ⊢ <;> omega

theorem list_recovers {r : Reader α} {vs : List Json} {as : List α}
    (h : List.Forall₂ (fun v a => Opens v ∧ r.Recovers v a) vs as) :
    (Reader.list r).Recovers (.array vs) as := by
  intro rest delimited p
  let inner := separated true (vs.map bytes) ++ closeBracket :: rest
  have enough : vs.length < (openBracket :: inner).length := by
    have := length_le_separated true (vs.map bytes)
    simp [inner] at this ⊢
    omega
  obtain ⟨p₁, read⟩ := elements_recovers h enough 0 [] rest (p.after openBracket)
  obtain ⟨p₂, ended⟩ := endList_end Blank.nil rest p₁
  refine ⟨p₂, ?_⟩
  rw [bytes_array, List.cons_append, List.append_assoc, List.singleton_append]
  change (Reader.elements r (openBracket :: inner).length 0 [] ⟨inner, p.after openBracket⟩ >>=
    _) = _
  rw [show Reader.elements r _ 0 [] ⟨inner, p.after openBracket⟩ = _ from read]
  change (endList ⟨closeBracket :: rest, p₁⟩ >>= fun c => pure (as, c)) = _
  rw [List.nil_append] at ended
  rw [ended]
  rfl

end Lists

namespace Record

variable {record : Record σ α}

/-- Whether members take a draft to another one, each by a field that is not set before. -/
inductive Fills (record : Record σ α) : σ → List (String × Json) → σ → Prop where
  | nil {draft : σ} : Fills record draft [] draft
  | cons {draft next last : σ} {key : String} {v : Json} {ms : List (String × Json)}
      {field : Field σ} (found : record.fields.find? (·.name == key) = some field)
      (unset : field.isSet draft = false) (read : (field.read draft).Recovers v next)
      (tail : Fills record next ms last) : Fills record draft ((key, v) :: ms) last

theorem member_recovers {draft next : σ} {key : String} {v : Json} {field : Field σ}
    (found : record.fields.find? (·.name == key) = some field)
    (unset : field.isSet draft = false) (read : (field.read draft).Recovers v next)
    {rest : List UInt8} (delimited : Delimited rest) (p : Position) :
    ∃ p', record.member key draft ⟨colon :: (v.bytes ++ rest), p⟩ = .ok (next, ⟨rest, p'⟩) := by
  obtain ⟨p₁, atColon⟩ := colonAfterKey_colon Blank.nil (v.bytes ++ rest) p
  obtain ⟨p₂, value⟩ := read rest delimited p₁
  refine ⟨p₂, ?_⟩
  rw [List.nil_append] at atColon
  simp only [member, found, unset, Bool.false_eq_true, ite_false, atColon]
  change Except.mapError _ (field.read draft ⟨v.bytes ++ rest, p₁⟩) = _
  rw [value]
  rfl

theorem members_recovers {draft last : σ} {ms : List (String × Json)}
    (h : record.Fills draft ms last) {fuel : Nat} (enough : ms.length < fuel) (first : Bool)
    (rest : List UInt8) (p : Position) :
    ∃ p', record.members fuel first draft
        ⟨separated first (ms.map memberBytes) ++ closeBrace :: rest, p⟩ =
      .ok (last, ⟨closeBrace :: rest, p'⟩) := by
  induction h generalizing fuel first p with
  | nil =>
    obtain ⟨fuel, rfl⟩ : ∃ fuel', fuel = fuel' + 1 := ⟨fuel - 1, by omega⟩
    exact ⟨p, rfl⟩
  | @cons draft next last key v ms field found unset read _ ih =>
    obtain ⟨fuel, rfl⟩ : ∃ fuel', fuel = fuel' + 1 := ⟨fuel - 1, by omega⟩
    obtain ⟨body, bytes, key_read⟩ := string_starts key
    have separates : Separates first (if first then [] else [comma]) := by
      cases first with
      | true => rfl
      | false => exact ⟨[], Blank.nil, rfl⟩
    let others := separated false (ms.map memberBytes) ++ closeBrace :: rest
    obtain ⟨p₁, atKey⟩ := nextKey_key separates Blank.nil
      (body ++ colon :: (v.bytes ++ others)) p
    obtain ⟨p₂, afterKey⟩ := key_read (colon :: (v.bytes ++ others)) p₁
    obtain ⟨p₃, member⟩ := member_recovers found unset read
      (separated_delimited (ms.map memberBytes) (.inr rfl) rest) p₂
    obtain ⟨p₄, later⟩ := ih (Nat.lt_of_succ_lt_succ enough) false p₃
    refine ⟨p₄, ?_⟩
    have text : separated first ((key, v) :: ms |>.map memberBytes) ++ closeBrace :: rest =
        (if first then [] else [comma]) ++
          ([] ++ quote :: (body ++ colon :: (v.bytes ++ others))) := by
      simp only [List.map_cons, separated, memberBytes, bytes, others, List.append_assoc,
        List.cons_append, List.nil_append]
    rw [text, members, atKey]
    change (stringBody ⟨body ++ colon :: (v.bytes ++ others), p₁⟩ >>= _) = _
    rw [afterKey]
    change (record.member key draft ⟨colon :: (v.bytes ++ others), p₂⟩ >>= _) = _
    rw [member]
    exact later

/-- An object is read up to its closing brace, whatever stands behind that. -/
theorem read_object {draft : σ} {ms : List (String × Json)} {a : α}
    (h : record.Fills record.empty ms draft) (finished : record.ofMembers draft = .ok a)
    (rest : List UInt8) (p : Position) :
    ∃ p', record.read ⟨(object ms).bytes ++ rest, p⟩ = .ok (a, ⟨rest, p'⟩) := by
  let inner := separated true (ms.map memberBytes) ++ closeBrace :: rest
  have enough : ms.length < (openBrace :: inner).length := by
    have := length_le_separated true (ms.map memberBytes)
    simp [inner] at this ⊢
    omega
  obtain ⟨p', members⟩ := members_recovers h enough true rest (p.after openBrace)
  refine ⟨p'.after closeBrace, ?_⟩
  rw [bytes_object, List.cons_append, List.append_assoc, List.singleton_append]
  change (record.members (openBrace :: inner).length true record.empty
    ⟨inner, p.after openBrace⟩ >>= _) = _
  rw [members]
  simp only [Bind.bind, Except.bind, finished]
  rfl

theorem read_recovers {draft : σ} {ms : List (String × Json)} {a : α}
    (h : record.Fills record.empty ms draft) (finished : record.ofMembers draft = .ok a) :
    record.read.Recovers (.object ms) a := fun rest _ p => read_object h finished rest p

end Record

theorem Field.of_recovers {τ : Type} {r : Reader τ} {v : Json} {a : τ} (h : r.Recovers v a)
    {name : String} {get : σ → Option τ} {set : τ → σ → σ} {draft : σ} :
    ((Field.of name get set r).read draft).Recovers v (set a draft) := by
  intro rest delimited p
  obtain ⟨p', read⟩ := h rest delimited p
  refine ⟨p', ?_⟩
  change (r ⟨v.bytes ++ rest, p⟩ >>= _) = _
  rw [read]
  rfl

end Almanac.Json
