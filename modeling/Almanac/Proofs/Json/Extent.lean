import Almanac.Proofs.Json.Recovering
import Almanac.Proofs.Json.Written
import Almanac.Proofs.Text.Parts
import Mathlib.Data.List.TakeWhile

set_option autoImplicit false

namespace Almanac.Json

open Ascii

variable {σ α β : Type}

def Fault.IsUnfinished (fault : Fault) : Prop := ∃ cause, fault.cause = .unfinished cause

def Fault.IsMalformed (fault : Fault) : Prop := ∃ cause, fault.cause = .malformed cause

def EndsEarly (result : Except Fault α) : Prop :=
  ∃ fault, result = .error fault ∧ fault.IsUnfinished

/-- Whether a reader got to the end of its text. -/
def Exhausts (result : Except Fault (α × Cursor)) : Prop :=
  EndsEarly result ∨ ∃ a p, result = .ok (a, ⟨[], p⟩)

theorem EndsEarly.unfinished (cause : Unfinished) (p : Position) :
    EndsEarly (.error (.unfinished cause p) : Except Fault α) :=
  ⟨_, rfl, cause, rfl⟩

theorem EndsEarly.bind {result : Except Fault α} (h : EndsEarly result)
    (f : α → Except Fault β) : EndsEarly (result >>= f) := by
  obtain ⟨fault, rfl, unfinished⟩ := h
  exact ⟨fault, rfl, unfinished⟩

theorem EndsEarly.inside {result : Except Fault α} (h : EndsEarly result) (step : Step) :
    EndsEarly (result.mapError (·.inside step)) := by
  obtain ⟨fault, rfl, unfinished⟩ := h
  exact ⟨fault.inside step, rfl, unfinished⟩

namespace Exhausts

variable {result : Except Fault (α × Cursor)}

theorem inside (h : Exhausts result) (step : Step) :
    Exhausts (result.mapError (·.inside step)) := by
  rcases h with early | ⟨a, p, rfl⟩
  · exact .inl (early.inside step)
  · exact .inr ⟨a, p, rfl⟩

theorem bind (h : Exhausts result) {f : α × Cursor → Except Fault (β × Cursor)}
    (next : ∀ a p, Exhausts (f (a, ⟨[], p⟩))) : Exhausts (result >>= f) := by
  rcases h with early | ⟨a, p, rfl⟩
  · exact .inl (early.bind f)
  · exact next a p

theorem bind_early (h : Exhausts result) {f : α × Cursor → Except Fault β}
    (next : ∀ a p, EndsEarly (f (a, ⟨[], p⟩))) : EndsEarly (result >>= f) := by
  rcases h with early | ⟨a, p, rfl⟩
  · exact early.bind f
  · exact next a p

end Exhausts

/-- Whether a reader gets to the end of every beginning of what is written of a value. -/
def Reader.Exhausts (r : Reader α) (v : Json) : Prop :=
  ∀ cut, cut <+: v.bytes → ∀ p, Json.Exhausts (r ⟨cut, p⟩)

/-- What is written of a value as a whole is left at its end anyway. -/
theorem Reader.Exhausts.of_cut {r : Reader α} {v : Json} {a : α} (whole : r.Recovers v a)
    (h : ∀ cut left, left ≠ [] → v.bytes = cut ++ left → ∀ p, Json.Exhausts (r ⟨cut, p⟩)) :
    r.Exhausts v := by
  rintro cut ⟨left, split⟩ p
  by_cases empty : left = []
  · obtain ⟨p', read⟩ := whole [] nofun p
    rw [empty, List.append_nil] at split
    rw [List.append_nil, ← split] at read
    exact .inr ⟨a, p', read⟩
  · exact h cut left empty split.symm p

section Strings

theorem stringBytesFrom_cut {cut left bytes read : List UInt8} (cutOff : left ≠ [])
    {p p' : Position} {state : StringState}
    (h : stringBytesFrom (cut ++ left) p state read = .ok (bytes, ⟨[], p'⟩)) :
    EndsEarly (stringBytesFrom cut p state read) := by
  induction cut generalizing p state read with
  | nil => exact .unfinished _ _
  | cons b cut ih =>
    rw [List.cons_append, stringBytesFrom] at h
    rw [stringBytesFrom]
    split at h
    · simp only [Except.ok.injEq, Prod.mk.injEq, Cursor.mk.injEq, List.append_eq_nil_iff] at h
      exact absurd h.2.1.2 cutOff
    · rename_i inside
      rw [if_neg inside]
      cases step : state.step b with
      | ok next =>
        rw [step] at h
        exact ih h
      | error cause =>
        rw [step] at h
        cases h

theorem stringBody_cut {cut left : List UInt8} {s : String} {p p' : Position} (cutOff : left ≠ [])
    (h : stringBody ⟨cut ++ left, p⟩ = .ok (s, ⟨[], p'⟩)) : EndsEarly (stringBody ⟨cut, p⟩) := by
  unfold stringBody at h
  cases whole : stringBytesFrom (cut ++ left) p .plain [] with
  | error fault =>
    simp only [whole] at h
    cases h
  | ok result =>
    obtain ⟨bytes, c⟩ := result
    simp only [whole] at h
    have stop : c.rest = [] := by
      split at h
      · cases h
        rfl
      · cases h
    obtain ⟨rest, p₁⟩ := c
    subst stop
    obtain ⟨fault, early, unfinished⟩ := stringBytesFrom_cut cutOff whole
    refine ⟨fault, ?_, unfinished⟩
    unfold stringBody
    simp only [early]

theorem literal_cut {word cut : List UInt8} (h : cut <+: word) (p : Position) :
    EndsEarly (Cursor.literal word ⟨cut, p⟩) ∨
      ∃ p', Cursor.literal word ⟨cut, p⟩ = .ok ⟨[], p'⟩ := by
  induction word generalizing cut p with
  | nil =>
    rw [List.prefix_nil.1 h]
    exact .inr ⟨p, rfl⟩
  | cons b word ih =>
    rcases List.prefix_cons_iff.1 h with rfl | ⟨cut, rfl, shorter⟩
    · exact .inl (.unfinished _ _)
    · simp only [Cursor.literal, ite_true]
      exact ih shorter (p.after b)

theorem string_exhausts (s : String) : Reader.string.Exhausts (.string s) := by
  have whole : Reader.string.Recovers (.string s) s := parsed_recovers rfl "a string"
  refine .of_cut whole ?_
  intro cut left cutOff split p
  obtain ⟨body, bytes, read⟩ := string_starts s
  rw [bytes] at split
  cases cut with
  | nil => exact .inl (.unfinished _ _)
  | cons b cut =>
    cases split
    obtain ⟨p', done⟩ := read [] (p.after quote)
    rw [List.append_nil] at done
    exact .inl ((stringBody_cut cutOff done).bind _)

theorem optional_string_exhausts (location : Option String) :
    (Reader.optional .string).Exhausts (.ofOption location) := by
  intro cut h p
  cases location with
  | none =>
    change cut <+: 0x6E :: nullTail at h
    rcases List.prefix_cons_iff.1 h with rfl | ⟨cut, rfl, shorter⟩
    · exact .inl (.unfinished _ _)
    · change Exhausts (Cursor.literal nullTail ⟨cut, p.after 0x6E⟩ >>= _)
      rcases literal_cut shorter (p.after 0x6E) with early | ⟨p', read⟩
      · exact .inl (early.bind _)
      · rw [read]
        exact .inr ⟨none, p', rfl⟩
  | some s =>
    have exhausts := string_exhausts s cut h p
    obtain ⟨body, bytes, _⟩ := string_starts s
    change cut <+: (Json.string s).bytes at h
    rw [bytes] at h
    rcases List.prefix_cons_iff.1 h with rfl | ⟨cut, rfl, _⟩
    · exact .inl (.unfinished _ _)
    · change Exhausts (Reader.string ⟨quote :: cut, p⟩ >>= _)
      exact exhausts.bind fun a p => .inr ⟨some a, p, rfl⟩

end Strings

section Integers

/-- The first digits of a number make a smaller one, and none that is zero unless the number is. -/
theorem appended_cut {first : Fin 10} {taken left : List (Fin 10)}
    (noLeadingZero : first = 0 → taken ++ left = []) :
    appended first.val taken ≤ appended first.val (taken ++ left) ∧
      (appended first.val (taken ++ left) ≠ 0 → appended first.val taken ≠ 0) := by
  have later : appended first.val (taken ++ left) = appended (appended first.val taken) left :=
    List.foldl_append
  refine ⟨later ▸ le_appended _ left, ?_⟩
  intro nonzero zero
  have least := le_appended first.val taken
  have digit : first = 0 := Fin.ext (by rw [Fin.val_zero]; omega)
  rw [noLeadingZero digit, digit] at nonzero
  exact nonzero rfl

theorem Reads.recovers {r : Reader α} {of : Tree → Option α} (h : Reads r of) {v : Json} {t : Tree}
    {a : α} (writes : v.Writes t) (value : of t = some a) : r.Recovers v a := by
  intro rest delimited p
  have read := h Blank.nil writes delimited p
  rw [value, List.nil_append] at read
  exact read

theorem Writes.number_bytes {v : Json} {n : Literal} (h : v.Writes (.number n)) :
    v.bytes = n.bytes := by
  unfold Writes at h
  generalize v.bytes = bytes at h ⊢
  cases h
  rfl

theorem integer_cut {i : Int} {cut : List UInt8} (h : cut <+: (integer i).bytes) :
    cut = [] ∨ cut = [minus] ∨ ∃ (n : Literal) (j : Int), cut = n.bytes ∧
      n.integer? = some j ∧ (0 ≤ j ∧ j ≤ i ∨ i ≤ j ∧ j < 0) := by
  obtain ⟨n, value, writes⟩ := integer_writes i
  rw [writes.number_bytes] at h
  obtain ⟨negative, ⟨first, rest⟩, noLeadingZero, fraction, exponent⟩ := n
  obtain ⟨rfl, rfl, size, sign⟩ := Literal.integer?_eq_some value
  change appended first.val rest = i.natAbs at size
  simp only [Literal.bytes, Literal.tail, Digits.bytes, Option.elim_none, List.append_nil] at h
  rcases prefix_append_cases h with ⟨left, cutOff, lead⟩ | ⟨digits, rfl, inDigits⟩
  · have nothing : cut = [] := by
      cases negative <;> cases cut <;> simp_all
    exact .inl nothing
  rcases List.prefix_cons_iff.1 inDigits with rfl | ⟨others, rfl, later⟩
  · cases negative
    · exact .inl rfl
    · exact .inr (.inl rfl)
  obtain ⟨taken, ⟨left, rfl⟩, rfl⟩ := List.prefix_map_iff.1 later
  have alone : first = 0 → taken ++ left = [] := noLeadingZero
  obtain ⟨smaller, nonzero⟩ := appended_cut alone
  have leading : first = 0 → taken = [] := fun zero =>
    (List.append_eq_nil_iff.1 (alone zero)).1
  let n : Literal := ⟨negative, ⟨first, taken⟩, leading, none, none⟩
  have bytes : n.bytes = (if negative then [minus] else []) ++
      digitByte first :: taken.map digitByte := List.append_nil _
  refine .inr (.inr ?_)
  cases negative with
  | false =>
    have above : ¬ i < 0 := fun below => Bool.false_ne_true (sign.2 below)
    exact ⟨n, appended first.val taken, bytes.symm, rfl, by omega⟩
  | true =>
    have below : i < 0 := sign.1 rfl
    have counted : appended first.val taken ≠ 0 := nonzero (by omega)
    exact ⟨n, -appended first.val taken, bytes.symm, if_neg counted, by omega⟩

theorem Tree.orNull_int32 {n : Literal} {i : Int} (h : n.integer? = some i)
    (bounds : -2 ^ 31 ≤ i ∧ i < 2 ^ 31) :
    Tree.orNull Tree.int32? (.number n) = some (some (Int32.ofInt i)) := by
  change (Tree.int32? (.number n)).map some = _
  rw [Tree.int32?, h, Option.bind_some, if_pos bounds]
  rfl

theorem int32_exhausts {i : Int} (lower : -2 ^ 31 ≤ i) (upper : i < 2 ^ 31) :
    (Reader.optional .int32).Exhausts (.integer i) := by
  intro cut h p
  rcases integer_cut h with rfl | rfl | ⟨n, j, rfl, value, between⟩
  · exact .inl (.unfinished .value p)
  · exact .inl (.unfinished .value _)
  · have atEnd : Delimited [] := nofun
    have read := optional_reads int32_reads Blank.nil (.number n) atEnd p
    rw [Tree.orNull_int32 value (by omega), List.append_nil, List.nil_append] at read
    obtain ⟨p', read⟩ := read
    exact .inr ⟨_, p', read⟩

end Integers

theorem Field.of_exhausts {τ : Type} {r : Reader τ} {v : Json} (h : r.Exhausts v) {name : String}
    {get : σ → Option τ} {set : τ → σ → σ} (draft : σ) :
    ((Field.of name get set r).read draft).Exhausts v := by
  intro cut cutOff p
  exact (h cut cutOff p).bind fun a p => .inr ⟨set a draft, p, rfl⟩

namespace Record

variable {record : Record σ α}

theorem nextKey_cut (first : Bool) (p : Position) :
    EndsEarly (nextKey first ⟨if first then [] else [comma], p⟩) := by
  cases first
  · exact .unfinished .value _
  · exact .unfinished .object _

theorem members_end (fuel : Nat) (first : Bool) (draft : σ) (p : Position) :
    EndsEarly (record.members fuel first draft ⟨[], p⟩) := by
  cases fuel
  · exact .unfinished .object p
  · exact .unfinished .object p

theorem delimited_of_beginning {pieces : List (List UInt8)} {cut : List UInt8}
    (h : cut <+: separated false pieces) : Delimited cut := by
  cases cut with
  | nil => nofun
  | cons b cut =>
    cases pieces with
    | nil => cases List.prefix_nil.1 h
    | cons piece pieces =>
      obtain ⟨rfl, _⟩ := List.cons_prefix_cons.1 h
      exact .cons (.inr (.inl rfl)) cut

theorem member_exhausts {draft : σ} {key : String} {v : Json} {field : Field σ}
    (found : record.fields.find? (·.name == key) = some field)
    (unset : field.isSet draft = false) (exhausts : (field.read draft).Exhausts v)
    {cut : List UInt8} (h : cut <+: v.bytes) (p : Position) :
    Json.Exhausts (record.member key draft ⟨colon :: cut, p⟩) := by
  obtain ⟨p₁, atColon⟩ := colonAfterKey_colon Blank.nil cut p
  rw [List.nil_append] at atColon
  simp only [member, found, unset, Bool.false_eq_true, ite_false, atColon]
  exact (exhausts cut h p₁).inside _

/-- Members without the brace after them are not at their end, wherever they are cut off: before a
key or in it, before its colon, in its value or after that. -/
theorem members_cut {draft last : σ} {ms : List (String × Json)} (h : record.Fills draft ms last)
    (exhausts : ∀ m ∈ ms, ∀ field ∈ record.fields.find? (·.name == m.1), ∀ draft,
      (field.read draft).Exhausts m.2)
    {first : Bool} {cut : List UInt8} (beginning : cut <+: separated first (ms.map memberBytes))
    (fuel : Nat) (p : Position) : EndsEarly (record.members fuel first draft ⟨cut, p⟩) := by
  induction h generalizing first cut fuel p with
  | nil =>
    rw [List.map_nil, separated, List.prefix_nil] at beginning
    rw [beginning]
    exact members_end fuel first _ p
  | @cons draft next last key v ms field found unset read _ ih =>
    obtain _ | fuel := fuel
    · exact .unfinished .object p
    obtain ⟨body, bytes, key_read⟩ := string_starts key
    let later := separated false (ms.map memberBytes)
    have text : separated first ((key, v) :: ms |>.map memberBytes) =
        (if first then [] else [comma]) ++ quote :: (body ++ colon :: (v.bytes ++ later)) := by
      simp only [List.map_cons, separated, memberBytes, bytes, later, List.append_assoc,
        List.cons_append]
    rw [text] at beginning
    rw [members]
    rcases prefix_append_cases beginning with ⟨left, cutOff, lead⟩ | ⟨cut, rfl, atKey⟩
    · have nothing : cut = [] := by
        cases first <;> cases cut <;> simp_all
      subst nothing
      exact (EndsEarly.unfinished .object p).bind _
    rcases List.prefix_cons_iff.1 atKey with rfl | ⟨cut, rfl, inKey⟩
    · rw [List.append_nil]
      exact (nextKey_cut first p).bind _
    have separates : Separates first (if first then [] else [comma]) := by
      cases first with
      | true => rfl
      | false => exact ⟨[], Blank.nil, rfl⟩
    obtain ⟨p₁, next⟩ := nextKey_key separates Blank.nil cut p
    rw [List.nil_append] at next
    rw [next]
    change EndsEarly (stringBody ⟨cut, p₁⟩ >>= _)
    rcases prefix_append_cases inKey with ⟨left, cutOff, split⟩ | ⟨cut, rfl, afterKey⟩
    · obtain ⟨p₂, whole⟩ := key_read [] p₁
      rw [List.append_nil, split] at whole
      exact (stringBody_cut cutOff whole).bind _
    obtain ⟨p₂, whole⟩ := key_read cut p₁
    rw [whole]
    change EndsEarly (record.member key draft ⟨cut, p₂⟩ >>= _)
    rcases List.prefix_cons_iff.1 afterKey with rfl | ⟨cut, rfl, inValue⟩
    · simp only [member, found, unset, Bool.false_eq_true, ite_false]
      exact (EndsEarly.unfinished .object p₂).bind _
    rcases prefix_append_cases inValue with ⟨left, _, split⟩ | ⟨cut, rfl, afterValue⟩
    · have value := exhausts (key, v) List.mem_cons_self field found draft
      have member := member_exhausts found unset value ⟨left, split.symm⟩ p₂
      exact member.bind_early fun draft p => members_end fuel false draft p
    · obtain ⟨p₃, member⟩ := member_recovers found unset read (delimited_of_beginning afterValue) p₂
      rw [member]
      exact ih (fun m mem => exhausts m (List.mem_cons_of_mem _ mem)) afterValue fuel p₃

theorem read_cut {draft : σ} {ms : List (String × Json)}
    (h : record.Fills record.empty ms draft)
    (exhausts : ∀ m ∈ ms, ∀ field ∈ record.fields.find? (·.name == m.1), ∀ draft,
      (field.read draft).Exhausts m.2)
    {cut : List UInt8} (beginning : cut <+: (object ms).bytes) (proper : cut ≠ (object ms).bytes)
    (p : Position) : EndsEarly (record.read ⟨cut, p⟩) := by
  rw [bytes_object] at beginning proper
  rcases List.prefix_cons_iff.1 beginning with rfl | ⟨cut, rfl, shorter⟩
  · exact .unfinished .value _
  · have unclosed : cut <+: separated true (ms.map memberBytes) := by
      rcases List.prefix_concat_iff.1 shorter with rfl | unclosed
      · exact absurd rfl proper
      · exact unclosed
    have members := members_cut h exhausts unclosed (openBrace :: cut).length (p.after openBrace)
    exact members.bind _

end Record

theorem skipBlanks_rest (rest : List UInt8) (p : Position) :
    (Cursor.skipBlanks ⟨rest, p⟩).rest = rest.dropWhile isSpace := by
  change (Cursor.skipBlanksFrom rest p).rest = _
  induction rest generalizing p with
  | nil => rfl
  | cons b rest ih =>
    rw [Cursor.skipBlanksFrom, List.dropWhile_cons]
    split
    · exact ih (p.after b)
    · rfl

theorem EndsEarly.all {r : Reader α} {bytes : List UInt8} (h : EndsEarly (r (.ofBytes bytes))) :
    EndsEarly (Reader.all r bytes) := h.bind _

/-- What a value of a text is followed by: blanks only, or characters that are too many. -/
theorem Reader.all_followed {r : Reader α} {bytes more : List UInt8} {a : α} {p : Position}
    (h : r (.ofBytes (bytes ++ more)) = .ok (a, ⟨more, p⟩)) :
    ((∀ b ∈ more, isSpace b = true) → Reader.all r (bytes ++ more) = .ok a) ∧
      ((∃ b ∈ more, isSpace b = false) →
        ∃ p, Reader.all r (bytes ++ more) = .error (.malformed .trailingCharacters p)) := by
  have left : Reader.all r (bytes ++ more) =
      if (more.dropWhile isSpace).isEmpty then .ok a
      else .error (.malformed .trailingCharacters (Cursor.skipBlanks ⟨more, p⟩).ahead) := by
    unfold Reader.all
    rw [h, ← skipBlanks_rest more p]
    rfl
  have blank : (more.dropWhile isSpace).isEmpty = true ↔ ∀ b ∈ more, isSpace b = true := by
    rw [List.isEmpty_iff, List.dropWhile_eq_nil_iff]
  rw [left]
  constructor
  · intro blanks
    rw [if_pos (blank.2 blanks)]
  · rintro ⟨b, mem, token⟩
    refine ⟨_, if_neg fun nothing => ?_⟩
    rw [blank.1 nothing b mem] at token
    cases token

end Almanac.Json
