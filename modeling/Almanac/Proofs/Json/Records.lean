import Almanac.Json.Record
import Almanac.Proofs.Json.Reading

set_option autoImplicit false

namespace Almanac.Json

open Ascii

variable {σ α : Type}

/-- A field makes of every rendered value what a function makes of the draft and the value. -/
def Field.Reads (field : Field σ) (of : σ → Tree → Option σ) : Prop :=
  ∀ draft, Json.Reads (field.read draft) (of draft)

theorem Field.of_reads {τ : Type} {name : String} {get : σ → Option τ} {set : τ → σ → σ}
    {r : Reader τ} {of : Tree → Option τ} (h : Json.Reads r of) :
    (Field.of name get set r).Reads fun draft v => (of v).map (set · draft) := by
  intro draft v pre bytes rest before rendered delimited p
  have read := h before rendered delimited p
  change Yields _ ((of v).map fun a => set a draft) rest
  rw [Option.map_eq_bind]
  exact read.bind fun a p _ => ⟨p, rfl⟩

namespace Record

def keep (record : Record σ α) (of : String → σ → Tree → Option σ) (draft : σ)
    (m : String × Tree) : Option σ :=
  match record.fields.find? (·.name == m.1) with
  | some field => if field.isSet draft then none else of m.1 draft m.2
  | none => some draft

/-- The draft after elements for the given fields; nothing if there are more elements. -/
def place (of : String → σ → Tree → Option σ) : List (Field σ) → σ → List Tree → Option σ
  | _, draft, [] => some draft
  | [], _, _ :: _ => none
  | field :: fields, draft, v :: vs => (of field.name draft v).bind fun draft =>
      place of fields draft vs

end Record

def Separates (first : Bool) (lead : List UInt8) : Prop :=
  match first with
  | true => lead = []
  | false => ∃ blank, Blank blank ∧ lead = blank ++ [comma]

theorem skipBlanks_token {pre : List UInt8} (h : Blank pre) {b : UInt8} (token : isSpace b = false)
    (rest : List UInt8) (p : Position) :
    ∃ p', Cursor.skipBlanks ⟨pre ++ b :: rest, p⟩ = ⟨b :: rest, p'⟩ := by
  apply skipBlanks_blank h
  intro b' head
  cases head
  exact token

theorem nextKey_key {first : Bool} {lead pre : List UInt8} (separates : Separates first lead)
    (before : Blank pre) (rest : List UInt8) (p : Position) :
    ∃ p', nextKey first ⟨lead ++ (pre ++ quote :: rest), p⟩ = .ok (some ⟨rest, p'⟩) := by
  cases first with
  | true =>
    cases separates
    obtain ⟨p₁, skipped⟩ := skipBlanks_token before (by decide : isSpace quote = false) rest p
    refine ⟨p₁.after quote, ?_⟩
    rw [List.nil_append, nextKey, skipped]
    rfl
  | false =>
    obtain ⟨blank, hblank, rfl⟩ := separates
    obtain ⟨p₁, toComma⟩ := skipBlanks_token hblank (by decide : isSpace comma = false)
      (pre ++ quote :: rest) p
    obtain ⟨p₂, toKey⟩ := skipBlanks_token before (by decide : isSpace quote = false) rest
      (p₁.after comma)
    refine ⟨p₂.after quote, ?_⟩
    rw [List.append_assoc, List.singleton_append, nextKey, toComma]
    simp only [Bool.false_eq_true, ite_false, Cursor.next, toKey]
    rfl

theorem nextKey_end {blank : List UInt8} (h : Blank blank) (first : Bool) (rest : List UInt8)
    (p : Position) : nextKey first ⟨blank ++ closeBrace :: rest, p⟩ = .ok none := by
  obtain ⟨p₁, skipped⟩ := skipBlanks_token h (by decide : isSpace closeBrace = false) rest p
  rw [nextKey, skipped]
  rfl

theorem colonAfterKey_colon {blank : List UInt8} (h : Blank blank) (rest : List UInt8)
    (p : Position) : ∃ p', colonAfterKey ⟨blank ++ colon :: rest, p⟩ = .ok ⟨rest, p'⟩ := by
  obtain ⟨p₁, skipped⟩ := skipBlanks_token h (by decide : isSpace colon = false) rest p
  refine ⟨p₁.after colon, ?_⟩
  rw [colonAfterKey, skipped]
  rfl

variable {record : Record σ α} {of : String → σ → Tree → Option σ}

theorem Record.member_yields (fields : ∀ field ∈ record.fields, field.Reads (of field.name))
    {name : String} {v : Tree} {after pre bytes rest : List UInt8} (hafter : Blank after)
    (before : Blank pre) (h : Renders (.value v) bytes) (delimited : Delimited rest) (draft : σ)
    (p : Position) :
    Yields (record.member name draft ⟨after ++ colon :: (pre ++ bytes ++ rest), p⟩)
      (record.keep of draft (name, v)) rest := by
  obtain ⟨p₁, colon⟩ := colonAfterKey_colon hafter (pre ++ bytes ++ rest) p
  unfold Record.member Record.keep
  cases found : record.fields.find? (·.name == name) with
  | some field =>
    have mem : field ∈ record.fields := List.mem_of_find?_eq_some found
    have eq := List.find?_some found
    have named : field.name = name := beq_iff_eq.1 eq
    simp only
    by_cases isSet : field.isSet draft = true
    · rw [if_pos isSet, if_pos isSet]
      exact Yields.error _
    · rw [if_neg isSet, if_neg isSet, colon]
      have read := fields field mem draft before h delimited p₁
      rw [named] at read
      exact read.mapError _
  | none =>
    obtain ⟨p₂, skipped⟩ := skipValue_rendered before h delimited p₁
    refine ⟨p₂, ?_⟩
    simp only [colon]
    change Except.mapError _ (skipValue ⟨pre ++ bytes ++ rest, p₁⟩ >>= _) = _
    rw [skipped]
    rfl

theorem Record.members_step (fields : ∀ field ∈ record.fields, field.Reads (of field.name))
    {name : String} {v : Tree} {bytes : List UInt8} (h : Renders (.member name v) bytes) :
    ∃ blank, Blank blank ∧ ∀ fuel {first lead rest} draft p, Separates first lead →
      Delimited rest → ∃ c,
        record.members (fuel + 1) first draft ⟨lead ++ (bytes ++ rest), p⟩ =
          record.member name draft c >>= (fun x => record.members fuel false x.1 x.2) ∧
        Yields (record.member name draft c) (record.keep of draft (name, v)) (blank ++ rest) := by
  cases h with
  | @member _ _ pre key after _ before hkey hafter h =>
    cases h with
    | @element _ pre' bytes blank before' h hblank =>
      refine ⟨blank, hblank, ?_⟩
      intro fuel first lead rest draft p separates delimited
      obtain ⟨body, _, rfl, _⟩ := stringBody_rendered hkey [] p
      obtain ⟨p₁, atKey⟩ := nextKey_key separates before
        (body ++ (after ++ colon :: (pre' ++ bytes ++ (blank ++ rest)))) p
      obtain ⟨body', p₂, eq, read⟩ := stringBody_rendered hkey
        (after ++ colon :: (pre' ++ bytes ++ (blank ++ rest))) p₁
      cases eq
      refine ⟨⟨after ++ colon :: (pre' ++ bytes ++ (blank ++ rest)), p₂⟩, ?_, ?_⟩
      · have text : lead ++ (pre ++ (quote :: body) ++ after ++ colon :: (pre' ++ bytes ++ blank) ++
            rest) = lead ++ (pre ++ quote :: (body ++
              (after ++ colon :: (pre' ++ bytes ++ (blank ++ rest))))) := by
          simp only [List.append_assoc, List.cons_append]
        rw [text, Record.members, atKey]
        change (stringBody ⟨body ++ (after ++ colon :: (pre' ++ bytes ++ (blank ++ rest))), p₁⟩ >>=
          _) = _
        rw [read]
        rfl
      · exact Record.member_yields fields hafter before' h (hblank.delimited delimited) draft p₂

theorem Record.members_yields (fields : ∀ field ∈ record.fields, field.Reads (of field.name))
    {ms : List (String × Tree)} {bytes : List UInt8} (h : Renders (.members ms) bytes)
    {first : Bool} {lead : List UInt8} (separates : Separates first lead) {fuel : Nat}
    (enough : ms.length < fuel) (rest : List UInt8) (draft : σ) (p : Position) :
    Yields (record.members fuel first draft ⟨lead ++ (bytes ++ closeBrace :: rest), p⟩)
      (ms.foldlM (record.keep of) draft) (closeBrace :: rest) := by
  -- the blanks that a member leaves are, with the comma, what stands before the next one
  induction ms generalizing bytes first lead fuel draft p with
  | nil => cases h
  | cons m ms ih =>
    obtain ⟨fuel, rfl⟩ : ∃ fuel', fuel = fuel' + 1 := ⟨fuel - 1, by omega⟩
    have left : ms.length < fuel := Nat.lt_of_succ_lt_succ enough
    rw [List.foldlM_cons]
    cases h with
    | @lastMember name v _ h =>
      obtain ⟨blank, hblank, step⟩ := Record.members_step fields h
      have delimited : Delimited (closeBrace :: rest) := .cons (by decide) rest
      obtain ⟨c, eq, head⟩ := step fuel draft p separates delimited
      rw [eq]
      refine head.bind fun draft p' _ => ?_
      obtain ⟨fuel, rfl⟩ : ∃ fuel', fuel = fuel' + 1 := ⟨fuel - 1, by omega⟩
      obtain ⟨p₁, skipped⟩ := skipBlanks_token hblank (by decide : isSpace closeBrace = false)
        rest p'
      refine ⟨p₁, ?_⟩
      rw [Record.members, nextKey_end hblank, skipped]
      rfl
    | @members name v _ bytes others h tail =>
      obtain ⟨blank, hblank, step⟩ := Record.members_step fields h
      have delimited : Delimited (comma :: (others ++ closeBrace :: rest)) := .cons (by decide) _
      obtain ⟨c, eq, head⟩ := step fuel draft p separates delimited
      rw [List.append_assoc, List.cons_append, eq]
      refine head.bind fun draft p' _ => ?_
      have separator : Separates false (blank ++ [comma]) := ⟨blank, hblank, rfl⟩
      have later := ih tail separator left draft p'
      rw [List.append_assoc, List.singleton_append] at later
      exact later

theorem Renders.members_length {ms : List (String × Tree)} {bytes : List UInt8}
    (h : Renders (.members ms) bytes) : ms.length ≤ bytes.length := by
  induction ms generalizing bytes with
  | nil => exact Nat.zero_le _
  | cons m ms ih =>
    cases h with
    | lastMember h =>
      obtain ⟨pre, rest, _, rfl⟩ := (Renders.lastMember h).members_head
      simp only [List.length_append, List.length_cons, List.length_nil]
      omega
    | members _ tail =>
      have shorter := ih tail
      simp only [List.length_append, List.length_cons]
      omega

theorem nextElement_value {first : Bool} {lead pre bytes : List UInt8} {v : Tree}
    (separates : Separates first lead) (before : Blank pre) (h : Renders (.value v) bytes)
    (rest : List UInt8) (p : Position) :
    ∃ p', nextElement first ⟨lead ++ (pre ++ bytes ++ rest), p⟩ =
      .ok (some ⟨bytes ++ rest, p'⟩) := by
  cases first with
  | true =>
    cases separates
    obtain ⟨b, others, p₁, rfl, starts, skipped⟩ := skipBlanks_value before h rest p
    refine ⟨p₁, ?_⟩
    rw [List.nil_append, nextElement, skipped]
    exact if_neg starts.token.2
  | false =>
    obtain ⟨blank, hblank, rfl⟩ := separates
    obtain ⟨p₁, toComma⟩ := skipBlanks_token hblank (by decide : isSpace comma = false)
      (pre ++ bytes ++ rest) p
    obtain ⟨b, others, p₂, rfl, starts, skipped⟩ :=
      skipBlanks_value before h rest (p₁.after comma)
    refine ⟨p₂, ?_⟩
    rw [List.append_assoc, List.singleton_append, nextElement, toComma]
    simp only [Bool.false_eq_true, ite_false, ite_true, Cursor.next, skipped,
      if_neg starts.token.2]
    rfl

theorem endList_end {blank : List UInt8} (h : Blank blank) (rest : List UInt8) (p : Position) :
    ∃ p', endList ⟨blank ++ closeBracket :: rest, p⟩ = .ok ⟨rest, p'⟩ := by
  obtain ⟨p₁, skipped⟩ := skipBlanks_token h (by decide : isSpace closeBracket = false) rest p
  refine ⟨p₁.after closeBracket, ?_⟩
  rw [endList, skipped]
  rfl

theorem endList_more {pre : List UInt8} (h : Blank pre) {b : UInt8} (token : isSpace b = false)
    (notClosing : b ≠ closeBracket) (rest : List UInt8) (p : Position) :
    ∃ fault, endList ⟨pre ++ b :: rest, p⟩ = .error fault := by
  obtain ⟨p₁, skipped⟩ := skipBlanks_token h token rest p
  rw [endList, skipped]
  simp only [if_neg notClosing]
  split
  · split <;> exact ⟨_, rfl⟩
  · exact ⟨_, rfl⟩

def elementsToEnd (fields : List (Field σ)) (index : Nat) (draft : σ) : Reader σ := fun c =>
  Record.elements fields index draft c >>= fun x => endList x.2 >>= fun c => .ok (x.1.1, c)

theorem elementsToEnd_end (fields : List (Field σ)) (index : Nat) (draft : σ)
    {blank : List UInt8} (h : Blank blank) (rest : List UInt8) (p : Position) :
    Yields (elementsToEnd fields index draft ⟨blank ++ closeBracket :: rest, p⟩) (some draft)
      rest := by
  have stop : Record.elements fields index draft ⟨blank ++ closeBracket :: rest, p⟩ =
      .ok ((draft, index), ⟨blank ++ closeBracket :: rest, p⟩) := by
    cases fields with
    | nil => rfl
    | cons field fields =>
      obtain ⟨p₁, skipped⟩ := skipBlanks_token h (by decide : isSpace closeBracket = false) rest p
      have closed : nextElement (index == 0) ⟨blank ++ closeBracket :: rest, p⟩ = .ok none := by
        rw [nextElement, skipped]
        rfl
      rw [Record.elements, closed]
      rfl
  obtain ⟨p', ended⟩ := endList_end h rest p
  refine ⟨p', ?_⟩
  unfold elementsToEnd
  rw [stop]
  change (endList ⟨blank ++ closeBracket :: rest, p⟩ >>= fun c => .ok (draft, c)) = _
  rw [ended]
  rfl

theorem elementsToEnd_step {field : Field σ} {fields : List (Field σ)}
    (reads : field.Reads (of field.name)) {v : Tree} {bytes : List UInt8}
    (h : Renders (.element v) bytes) :
    ∃ blank, Blank blank ∧ ∀ {index : Nat} {lead rest : List UInt8} (draft : σ) p,
      Separates (index == 0) lead → Delimited rest → ∃ c,
        elementsToEnd (field :: fields) index draft ⟨lead ++ (bytes ++ rest), p⟩ =
          Reader.within (.element index) (field.read draft) c >>=
            (fun x => elementsToEnd fields (index + 1) x.1 x.2) ∧
        Yields (Reader.within (.element index) (field.read draft) c) (of field.name draft v)
          (blank ++ rest) := by
  cases h with
  | @element _ pre bytes blank before h hblank =>
    refine ⟨blank, hblank, ?_⟩
    intro index lead rest draft p separates delimited
    obtain ⟨p₁, next⟩ := nextElement_value separates before h (blank ++ rest) p
    refine ⟨⟨bytes ++ (blank ++ rest), p₁⟩, ?_, ?_⟩
    · have text : lead ++ (pre ++ bytes ++ blank ++ rest) =
          lead ++ (pre ++ bytes ++ (blank ++ rest)) := by
        simp only [List.append_assoc]
      rw [text]
      unfold elementsToEnd
      rw [Record.elements, next]
      change (Reader.within (.element index) (field.read draft) ⟨bytes ++ (blank ++ rest), p₁⟩ >>=
        (fun x => Record.elements fields (index + 1) x.1 x.2) >>= _) = _
      cases Reader.within (.element index) (field.read draft)
        ⟨bytes ++ (blank ++ rest), p₁⟩ <;> rfl
    · have read : Yields (field.read draft ⟨[] ++ bytes ++ (blank ++ rest), p₁⟩)
          (of field.name draft v) (blank ++ rest) :=
        reads draft Blank.nil h (hblank.delimited delimited) p₁
      exact read.mapError _

theorem elementsToEnd_yields {fields : List (Field σ)}
    (reads : ∀ field ∈ fields, field.Reads (of field.name)) {vs : List Tree} {bytes : List UInt8}
    (h : Renders (.elements vs) bytes) {index : Nat} {lead : List UInt8}
    (separates : Separates (index == 0) lead) (draft : σ) (rest : List UInt8) (p : Position) :
    Yields (elementsToEnd fields index draft ⟨lead ++ (bytes ++ closeBracket :: rest), p⟩)
      (Record.place of fields draft vs) rest := by
  induction fields generalizing vs bytes index lead draft p with
  | nil =>
    have tooMany : Record.place of [] draft vs = none := by
      cases h <;> rfl
    obtain ⟨pre, b, others, blank, rfl, token, notClosing⟩ := h.elements_head
    have fault : ∃ fault, endList ⟨lead ++ (pre ++ b :: others ++ closeBracket :: rest), p⟩ =
        .error fault := by
      rw [List.append_assoc]
      cases first : index == 0 with
      | true =>
        rw [first] at separates
        cases separates
        exact endList_more blank token notClosing _ p
      | false =>
        rw [first] at separates
        obtain ⟨blank, hblank, rfl⟩ := separates
        rw [List.append_assoc]
        exact endList_more hblank (by decide) (by decide) _ p
    obtain ⟨fault, failed⟩ := fault
    rw [tooMany]
    refine ⟨fault, ?_⟩
    change (endList _ >>= _) = _
    rw [failed]
    rfl
  | cons field fields ih =>
    have readsHead := reads field List.mem_cons_self
    have readsTail := fun f mem => reads f (List.mem_cons_of_mem field mem)
    cases h with
    | @lastElement v _ h =>
      obtain ⟨blank, hblank, step⟩ := elementsToEnd_step readsHead h
      have delimited : Delimited (closeBracket :: rest) := .cons (by decide) rest
      obtain ⟨c, eq, head⟩ := step draft p separates delimited
      rw [eq]
      exact head.bind fun draft p' _ => by
        have ended := elementsToEnd_end fields (index + 1) draft hblank rest p'
        cases fields <;> exact ended
    | @elements v vs bytes others h tail =>
      obtain ⟨blank, hblank, step⟩ := elementsToEnd_step readsHead h
      have delimited : Delimited (comma :: (others ++ closeBracket :: rest)) :=
        .cons (by decide) _
      obtain ⟨c, eq, head⟩ := step draft p separates delimited
      rw [List.append_assoc, List.cons_append, eq]
      refine head.bind fun draft p' _ => ?_
      have separator : Separates (index + 1 == 0) (blank ++ [comma]) := ⟨blank, hblank, rfl⟩
      have later := ih readsTail tail separator draft p'
      rw [List.append_assoc, List.singleton_append] at later
      exact later

/-- The members of an object between its braces. -/
theorem Record.object_yields (fields : ∀ field ∈ record.fields, field.Reads (of field.name))
    {ms : List (String × Tree)} {bytes : List UInt8} (h : Renders (.value (.object ms)) bytes) :
    ∃ ms' body, ms.Perm ms' ∧ bytes = openBrace :: body ++ [closeBrace] ∧
      ∀ rest p, Yields (record.members (openBrace :: (body ++ closeBrace :: rest)).length true
          record.empty ⟨body ++ closeBrace :: rest, p⟩)
        (ms'.foldlM (record.keep of) record.empty) (closeBrace :: rest) := by
  cases h with
  | @emptyObject blank hblank =>
    refine ⟨[], blank, .nil, rfl, ?_⟩
    intro rest p
    obtain ⟨p', skipped⟩ := skipBlanks_token hblank (by decide : isSpace closeBrace = false) rest p
    refine ⟨p', ?_⟩
    rw [List.length_cons, Record.members, nextKey_end hblank, skipped]
    rfl
  | @object _ ms' body order h =>
    refine ⟨ms', body, order, rfl, ?_⟩
    intro rest p
    have separates : Separates true [] := rfl
    have enough : ms'.length < (openBrace :: (body ++ closeBrace :: rest)).length := by
      have shorter := h.members_length
      simp only [List.length_cons, List.length_append]
      omega
    exact Record.members_yields fields h separates enough rest record.empty p

theorem Record.array_yields (fields : ∀ field ∈ record.fields, field.Reads (of field.name))
    {vs : List Tree} {bytes : List UInt8} (h : Renders (.value (.array vs)) bytes) :
    ∃ body, bytes = openBracket :: body ++ [closeBracket] ∧
      ∀ rest p, Yields (elementsToEnd record.fields 0 record.empty
          ⟨body ++ closeBracket :: rest, p⟩)
        (Record.place of record.fields record.empty vs) rest := by
  cases h with
  | @emptyArray blank hblank =>
    refine ⟨blank, rfl, ?_⟩
    intro rest p
    have none_placed : Record.place of record.fields record.empty [] = some record.empty := by
      cases record.fields <;> rfl
    rw [none_placed]
    exact elementsToEnd_end record.fields 0 record.empty hblank rest p
  | @array _ body h =>
    refine ⟨body, rfl, ?_⟩
    intro rest p
    have separates : Separates (0 == 0) [] := rfl
    exact elementsToEnd_yields fields h separates record.empty rest p

/-- It makes no difference whether a draft is finished before the end of its list or after it. -/
theorem Yields.finish {elements : Except Fault ((σ × Nat) × Cursor)} {value : Option σ}
    {rest : List UInt8} (finish : σ → α)
    (h : Yields (elements >>= fun x => endList x.2 >>= fun c => .ok (x.1.1, c)) value rest) :
    Yields (elements >>= fun x => endList x.2 >>= fun c => .ok (finish x.1.1, c))
      (value.map finish) rest := by
  have after : Yields ((elements >>= fun x => endList x.2 >>= fun c => .ok (x.1.1, c)) >>=
      fun x => .ok (finish x.1, x.2)) (value.map finish) rest := by
    rw [Option.map_eq_bind]
    exact h.bind fun draft p _ => ⟨p, rfl⟩
  cases elements with
  | error fault => exact after
  | ok x =>
    change Yields (endList x.2 >>= (fun c => .ok (x.1.1, c)) >>= _) _ rest at after
    change Yields (endList x.2 >>= _) _ rest
    generalize endList x.2 = ended at after ⊢
    cases ended <;> exact after

theorem Record.read_reads (fields : ∀ field ∈ record.fields, field.Reads (of field.name))
    {finish : σ → α} (ofMembers : ∀ draft, record.ofMembers draft = .ok (finish draft))
    (ofElements : ∀ draft count, record.ofElements draft count = .ok (finish draft))
    {make : Tree → Option α}
    (object : ∀ {ms ms' : List (String × Tree)}, ms.Perm ms' →
      make (.object ms) = (ms'.foldlM (record.keep of) record.empty).map finish)
    (array : ∀ vs, make (.array vs) =
      (Record.place of record.fields record.empty vs).map finish)
    (other : ∀ v, v.kind ≠ .object → v.kind ≠ .array → make v = none) :
    Reads record.read make := by
  intro v pre bytes rest before h delimited p
  obtain ⟨b, others, p₁, eq, starts, skipped⟩ := skipBlanks_value before h rest p
  unfold Record.read
  simp only [skipped, List.head?_cons, Option.some.injEq]
  by_cases isObject : v.kind = .object
  · cases v with
    | object ms =>
      cases starts
      obtain ⟨ms', body, order, rfl, yields⟩ := Record.object_yields fields h
      obtain rfl : body ++ [closeBrace] = others := (List.cons.inj eq).2
      have read := yields rest (p₁.after openBrace)
      rw [if_pos rfl, object order, Option.map_eq_bind, List.append_assoc, List.singleton_append]
      exact read.bind fun draft p _ => by
        refine ⟨p.after closeBrace, ?_⟩
        simp only [ofMembers]
        rfl
    | _ => cases isObject
  · have notBrace : ¬ b = openBrace := by
      rintro rfl
      exact isObject (Option.some.inj starts.kind).symm
    rw [if_neg notBrace]
    by_cases isArray : v.kind = .array
    · cases v with
      | array vs =>
        cases starts
        obtain ⟨body, rfl, yields⟩ := Record.array_yields fields h
        obtain rfl : body ++ [closeBracket] = others := (List.cons.inj eq).2
        have read := yields rest (p₁.after openBracket)
        rw [if_pos rfl, array vs, List.append_assoc, List.singleton_append]
        simp only [ofElements]
        exact read.finish finish
      | _ => cases isArray
    · have notBracket : ¬ b = openBracket := by
        rintro rfl
        exact isArray (Option.some.inj starts.kind).symm
      rw [if_neg notBracket, other v isObject isArray]
      exact Yields.error _

/-- A reader of a whole text makes of a rendering what it makes of the value. -/
theorem Reads.all {r : Reader α} {make : Tree → Option α} (h : Reads r make) {v : Tree}
    {bytes : List UInt8} (rendered : v.IsWrittenAs bytes) :
    (Reader.all r bytes).toOption = make v := by
  cases rendered with
  | @element _ pre body post before rendered after =>
    have atEnd : Delimited [] := by
      intro b head
      cases head
    have delimited : Delimited (post ++ []) := after.delimited atEnd
    rw [List.append_nil] at delimited
    have read := h before rendered delimited .start
    unfold Reader.all Cursor.ofBytes
    cases value : make v with
    | none =>
      rw [value] at read
      obtain ⟨fault, failed⟩ := read
      rw [failed]
      rfl
    | some a =>
      rw [value] at read
      obtain ⟨p, done⟩ := read
      have stop : ∀ b ∈ ([] : List UInt8).head?, isSpace b = false := by
        intro b head
        cases head
      obtain ⟨p', skipped⟩ := skipBlanks_blank after stop p
      rw [List.append_nil] at skipped
      rw [done]
      change Except.toOption
        (if (Cursor.skipBlanks ⟨post, p⟩).rest.isEmpty = true then _ else _) = _
      rw [skipped]
      rfl

end Almanac.Json
