import Almanac.Http.Message
import Almanac.Proofs.Text.Parts
import Mathlib

set_option autoImplicit false

namespace Almanac.Http.MediaType

/-- The second names of the media types that are JSON, in lower case. Of what follows a last plus
either side may be `json`, but nothing else. -/
inductive JsonName : List Char → Prop where
  | json : JsonName ['j', 's', 'o', 'n']
  | suffix {stem : List Char} (h : stem ≠ []) : JsonName (stem ++ '+' :: ['j', 's', 'o', 'n'])
  | base {tail : List Char} (h : '+' ∉ tail) : JsonName (['j', 's', 'o', 'n'] ++ '+' :: tail)

/-- Whether a text is an `application` media type whose second name is, in lower case, a certain
one. After the names the text is at its end or has parameters. -/
def IsApplication (name : List Char → Prop) (text : String) : Prop :=
  ∃ main subtype parameters, text.toList = main ++ '/' :: (subtype ++ parameters) ∧
    (∀ c ∈ main ++ subtype, isTokenChar c = true) ∧
    main.map Char.toLower = "application".toList ∧ name (subtype.map Char.toLower) ∧
    (parameters = [] ∨ ∃ cs, parameters = ';' :: cs ∧ areParameters cs = true)

theorem toLower_eq_plus {c : Char} (h : c.toLower = '+') : c = '+' := by
  unfold Char.toLower at h
  split at h
  · rename_i upper
    have bounds : 65 ≤ c.val.toNat ∧ c.val.toNat ≤ 90 := upper
    have value : (c.val + ('a'.val - 'A'.val)).toNat = 43 :=
      congrArg (fun c => c.val.toNat) h
    have sum : (c.val + ('a'.val - 'A'.val)).toNat = (c.val.toNat + 32) % 2 ^ 32 :=
      UInt32.toNat_add _ _
    rw [sum, Nat.mod_eq_of_lt (by omega)] at value
    omega
  · exact h

theorem plus_mem_map_toLower {cs : List Char} : '+' ∈ cs.map Char.toLower ↔ '+' ∈ cs := by
  rw [List.mem_map]
  constructor
  · rintro ⟨c, mem, lower⟩
    rw [← toLower_eq_plus lower]
    exact mem
  · intro mem
    exact ⟨'+', mem, by decide⟩

theorem splitSuffix_of_plus (c : Char) (stem : List Char) {tail : List Char} (h : '+' ∉ tail) :
    splitSuffix (c :: (stem ++ '+' :: tail)) = (c :: stem, some tail) := by
  have reversed : (stem ++ '+' :: tail).reverse = tail.reverse ++ '+' :: stem.reverse := by
    simp only [List.reverse_append, List.reverse_cons, List.append_assoc, List.singleton_append]
  have others : ∀ c ∈ tail.reverse, (c != '+') = true := by
    intro c mem
    rw [bne_iff_ne]
    rintro rfl
    exact h (List.mem_reverse.1 mem)
  have stop : ∀ c ∈ ('+' :: stem.reverse).head?, (c != '+') = false := by
    intro c head
    cases head
    rfl
  simp only [splitSuffix, reversed, span_append others stop, List.reverse_reverse]

theorem splitSuffix_of_not_mem (c : Char) {rest : List Char} (h : '+' ∉ rest) :
    splitSuffix (c :: rest) = (c :: rest, none) := by
  have others : ∀ c ∈ rest.reverse, (c != '+') = true := by
    intro c mem
    rw [bne_iff_ne]
    rintro rfl
    exact h (List.mem_reverse.1 mem)
  have stop : ∀ c ∈ ([] : List Char).head?, (c != '+') = false := by
    intro c head
    cases head
  have span := span_append others stop
  rw [List.append_nil] at span
  simp only [splitSuffix, span]

theorem exists_last_plus {cs : List Char} (h : '+' ∈ cs) :
    ∃ stem tail, cs = stem ++ '+' :: tail ∧ '+' ∉ tail := by
  obtain ⟨back, front, split, last⟩ := List.eq_append_cons_of_mem (List.mem_reverse.2 h)
  refine ⟨front.reverse, back.reverse, ?_, fun mem => last (List.mem_reverse.1 mem)⟩
  rw [← List.reverse_reverse cs, split]
  simp only [List.reverse_append, List.reverse_cons, List.append_assoc, List.singleton_append]

theorem last_plus_unique {stem stem' tail tail' : List Char} (h : '+' ∉ tail) (h' : '+' ∉ tail')
    (eq : stem ++ '+' :: tail = stem' ++ '+' :: tail') : stem = stem' ∧ tail = tail' := by
  have read := splitSuffix_of_plus '+' stem h
  rw [eq, splitSuffix_of_plus '+' stem' h'] at read
  simp only [Prod.mk.injEq, List.cons.injEq, true_and, Option.some.injEq] at read
  exact ⟨read.1.symm, read.2.symm⟩

theorem not_jsonName_nil : ¬ JsonName [] := by
  intro name
  generalize eq : [] = cs at name
  cases name with
  | json => cases eq
  | suffix h => exact h (List.append_eq_nil_iff.1 eq.symm).1
  | base _ => cases eq

theorem jsonName_cons {c : Char} {rest : List Char} (h : '+' ∉ rest) :
    JsonName (c :: rest) ↔ c :: rest = ['j', 's', 'o', 'n'] := by
  constructor
  · intro name
    generalize eq : c :: rest = cs at name
    cases name with
    | json => rfl
    | @suffix stem nonempty =>
      obtain ⟨s, stem, rfl⟩ := List.exists_cons_of_ne_nil nonempty
      cases eq
      exact absurd (List.mem_append_right _ List.mem_cons_self) h
    | base _ =>
      cases eq
      exact absurd (List.mem_append_right ['s', 'o', 'n'] List.mem_cons_self) h
  · intro eq
    rw [eq]
    exact .json

theorem jsonName_plus {stem tail : List Char} (h : stem ≠ []) (last : '+' ∉ tail) :
    JsonName (stem ++ '+' :: tail) ↔ stem = ['j', 's', 'o', 'n'] ∨ tail = ['j', 's', 'o', 'n'] := by
  have noPlus : '+' ∉ ['j', 's', 'o', 'n'] := by decide
  constructor
  · intro name
    generalize eq : stem ++ '+' :: tail = cs at name
    cases name with
    | json =>
      rw [← eq] at noPlus
      exact absurd (List.mem_append_right _ List.mem_cons_self) noPlus
    | suffix _ => exact .inr (last_plus_unique last noPlus eq).2
    | base other => exact .inl (last_plus_unique last other eq).1
  · rintro (rfl | rfl)
    · exact .base last
    · exact .suffix h

theorem isNamed_iff (cs : List Char) (name : String) :
    isNamed cs name = true ↔ cs.map Char.toLower = name.toList := by
  unfold isNamed
  rw [beq_iff_eq]

theorem isJson_iff (m : MediaType) : m.isJson = true ↔
    m.main.map Char.toLower = "application".toList ∧ JsonName (m.subtype.map Char.toLower) := by
  have letters : "json".toList = ['j', 's', 'o', 'n'] := by decide
  obtain ⟨main, subtype⟩ := m
  cases subtype with
  | nil =>
    have unnamed : isNamed [] "json" = false := by
      rw [← Bool.not_eq_true, isNamed_iff, letters]
      exact List.cons_ne_nil _ _ ∘ Eq.symm
    simp only [isJson, splitSuffix, unnamed, Option.any_none, Bool.or_self, Bool.and_false,
      List.map_nil, not_jsonName_nil, and_false, Bool.false_eq_true]
  | cons c rest =>
    by_cases plus : '+' ∈ rest
    · obtain ⟨stem, tail, rfl, last⟩ := exists_last_plus plus
      have lowered : (c :: (stem ++ '+' :: tail)).map Char.toLower =
          (c :: stem).map Char.toLower ++ '+' :: tail.map Char.toLower := by
        simp only [List.map_cons, List.map_append, List.cons_append]
        rfl
      have lastLower : '+' ∉ tail.map Char.toLower := fun mem => last (plus_mem_map_toLower.1 mem)
      have nonempty : (c :: stem).map Char.toLower ≠ [] := List.cons_ne_nil _ _
      rw [lowered, jsonName_plus nonempty lastLower]
      simp only [isJson, splitSuffix_of_plus c stem last, Option.any_some, Bool.and_eq_true,
        Bool.or_eq_true, isNamed_iff, letters]
    · have noPlus : '+' ∉ rest.map Char.toLower := fun mem => plus (plus_mem_map_toLower.1 mem)
      rw [List.map_cons, jsonName_cons noPlus]
      simp only [isJson, splitSuffix_of_not_mem c plus, Option.any_none, Bool.or_false,
        Bool.and_eq_true, isNamed_iff, letters, List.map_cons]

theorem slash_not_token : isTokenChar '/' = false := by cbv

theorem semicolon_not_token : isTokenChar ';' = false := by cbv

theorem ofString?_eq_some {s : String} {m : MediaType} (h : ofString? s = some m) :
    ∃ parameters, s.toList = m.main ++ '/' :: (m.subtype ++ parameters) ∧
      (∀ c ∈ m.main ++ m.subtype, isTokenChar c = true) ∧
      (parameters = [] ∨ ∃ cs, parameters = ';' :: cs ∧ areParameters cs = true) := by
  unfold ofString? at h
  split at h
  · rename_i main rest outer
    obtain ⟨split, tokens⟩ := eq_append_of_span outer
    split at h
    · cases h
    · split at h
      · rename_i subtype inner
        obtain ⟨rfl, subTokens⟩ := eq_append_of_span inner
        cases h
        refine ⟨[], split, ?_, .inl rfl⟩
        intro c mem
        rcases List.mem_append.1 mem with mem | mem
        · exact tokens c mem
        · exact subTokens c mem
      · rename_i subtype cs inner
        obtain ⟨rfl, subTokens⟩ := eq_append_of_span inner
        split at h
        · rename_i valid
          cases h
          rw [Bool.and_eq_true] at valid
          refine ⟨';' :: cs, split, ?_, .inr ⟨cs, rfl, valid.2⟩⟩
          intro c mem
          rcases List.mem_append.1 mem with mem | mem
          · exact tokens c mem
          · exact subTokens c mem
        · cases h
      · cases h
  · cases h

theorem ofString?_of_parts {s : String} {main subtype parameters : List Char}
    (h : s.toList = main ++ '/' :: (subtype ++ parameters))
    (tokens : ∀ c ∈ main ++ subtype, isTokenChar c = true) (hmain : main ≠ [])
    (hsubtype : subtype ≠ [])
    (hparameters : parameters = [] ∨ ∃ cs, parameters = ';' :: cs ∧ areParameters cs = true) :
    ofString? s = some ⟨main, subtype⟩ := by
  have outer : (main ++ '/' :: (subtype ++ parameters)).span isTokenChar =
      (main, '/' :: (subtype ++ parameters)) := by
    apply span_append fun c mem => tokens c (List.mem_append_left _ mem)
    intro c head
    cases head
    exact slash_not_token
  have inner : (subtype ++ parameters).span isTokenChar = (subtype, parameters) := by
    apply span_append fun c mem => tokens c (List.mem_append_right _ mem)
    intro c head
    rcases hparameters with rfl | ⟨cs, rfl, _⟩
    · cases head
    · cases head
      exact semicolon_not_token
  have some_main : main.isEmpty = false := List.isEmpty_eq_false_iff.2 hmain
  have some_subtype : subtype.isEmpty = false := List.isEmpty_eq_false_iff.2 hsubtype
  unfold ofString?
  rw [h, outer]
  simp only [some_main, Bool.false_eq_true, ite_false, inner]
  rcases hparameters with rfl | ⟨cs, rfl, valid⟩
  · rfl
  · simp only [some_subtype, valid, Bool.not_false, Bool.and_self, ite_true]

theorem any_isJson_iff (s : String) :
    (ofString? s).any (·.isJson) = true ↔ IsApplication JsonName s := by
  constructor
  · intro h
    rw [Option.any_eq_true] at h
    obtain ⟨m, read, isJson⟩ := h
    obtain ⟨parameters, split, tokens, valid⟩ := ofString?_eq_some read
    obtain ⟨main, subtype⟩ := (isJson_iff m).1 isJson
    exact ⟨m.main, m.subtype, parameters, split, tokens, main, subtype, valid⟩
  · rintro ⟨main, subtype, parameters, split, tokens, application, name, valid⟩
    have hmain : main ≠ [] := by
      rintro rfl
      cases application
    have hsubtype : subtype ≠ [] := by
      rintro rfl
      exact not_jsonName_nil name
    rw [ofString?_of_parts split tokens hmain hsubtype valid, Option.any_some, isJson_iff]
    exact ⟨application, name⟩

end Almanac.Http.MediaType
