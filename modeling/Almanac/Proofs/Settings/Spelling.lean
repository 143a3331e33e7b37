import Almanac.Proofs.Text.Parts
import Almanac.Settings.CommandLine
import Mathlib

set_option autoImplicit false

namespace Almanac

namespace Setting

theorem ofLong?_iff {name : String} {s : Setting} :
    ofLong? name = some s ↔ name = s.description.long := by
  constructor
  · intro found
    unfold ofLong? at found
    have same := List.find?_some found
    exact (beq_iff_eq.1 same).symm
  · rintro rfl
    cases s <;> rfl

theorem ofShort?_iff {flag : Char} {s : Setting} :
    ofShort? flag = some s ↔ flag = s.description.short := by
  constructor
  · intro found
    unfold ofShort? at found
    have same := List.find?_some found
    exact (beq_iff_eq.1 same).symm
  · rintro rfl
    cases s <;> rfl

theorem long_clear (s : Setting) : ∀ c ∈ s.description.long.toList, (c != '=') = true := by
  cases s <;> simp [description]

theorem long_ne_nil (s : Setting) : s.description.long.toList ≠ [] := by
  cases s <;> simp [description]

theorem short_ne_hyphen (s : Setting) : s.description.short ≠ '-' := by
  cases s <;> decide

end Setting

namespace Argument

/-- Whether an argument may be the value of the option before it. -/
def IsPlain (text : String) : Prop := text = "-" ∨ text.toList.head? ≠ some '-'

theorem ofString_plain {text : String} (h : IsPlain text) : ofString text = plain text := by
  unfold ofString
  rcases h with rfl | other
  · rfl
  · split
    · rename_i chars
      exact absurd (by rw [chars]; rfl) other
    · rename_i chars
      exact absurd (by rw [chars]; rfl) other
    · rename_i chars
      exact absurd (by rw [chars]; rfl) other
    · rfl

theorem ofString_long {text : String} {name back : List Char}
    (chars : text.toList = '-' :: '-' :: (name ++ back)) (nonempty : name ≠ [])
    (clear : ∀ c ∈ name, (c != '=') = true) (stop : ∀ c ∈ back.head?, (c != '=') = false) :
    ofString text = long (String.ofList name) (back.tail?.map String.ofList) := by
  have span : (name ++ back).span (· != '=') = (name, back) := span_append clear stop
  obtain ⟨c, rest, rfl⟩ := List.exists_cons_of_ne_nil nonempty
  unfold ofString
  rw [chars]
  simp only [List.cons_append] at span ⊢
  rw [span]

theorem ofString_short {text : String} {flag : Char} {rest : List Char}
    (chars : text.toList = '-' :: flag :: rest) (other : flag ≠ '-') :
    ofString text = short flag rest := by
  unfold ofString
  rw [chars]
  split
  · rename_i same
    cases same
    exact absurd rfl other
  · rename_i same
    cases same
    exact absurd rfl other
  · rename_i same
    cases same
    rfl
  · rename_i none
    exact absurd rfl (none flag rest)

def text : Argument → String
  | terminator => "--"
  | long name value => "--" ++ name ++ value.elim "" ("=" ++ ·)
  | short flag rest => "-" ++ String.singleton flag ++ String.ofList rest
  | plain text => text

theorem text_ofString (s : String) : (ofString s).text = s := by
  rw [← String.toList_inj]
  unfold ofString
  split
  · rename_i chars
    exact chars.symm
  · rename_i cs _ chars
    cases span : cs.span (· != '=') with
    | mk name rest =>
      obtain ⟨whole, _⟩ := eq_append_of_span span
      have stop := head_of_span span
      cases rest with
      | nil => simp [text, chars, whole]
      | cons c rest =>
        have equals : c = '=' := by simpa using stop c rfl
        simp [text, chars, whole, equals]
  · rename_i chars
    simp [text, chars]
  · rfl

theorem isPlain_of_ofString {s t : String} (h : ofString s = plain t) : t = s ∧ IsPlain s := by
  unfold ofString at h
  split at h
  · cases h
  · cases h
  · cases h
  · rename_i noShort
    cases h
    refine ⟨rfl, ?_⟩
    unfold IsPlain
    by_contra! option
    obtain ⟨more, hyphen⟩ := option
    obtain ⟨rest, chars⟩ := List.head?_eq_some_iff.1 hyphen
    cases rest with
    | nil => exact more (String.toList_inj.1 chars)
    | cons flag rest => exact noShort flag rest chars

end Argument

theorem attached?_equals (value : String) : attached? ('=' :: value.toList) = some value := by
  simp only [attached?, String.ofList_toList]

theorem attached?_toList {value : String} (nonempty : value ≠ "")
    (other : value.toList.head? ≠ some '=') : attached? value.toList = some value := by
  unfold attached?
  split
  · rename_i chars
    exact absurd (String.toList_inj.1 chars) nonempty
  · rename_i chars
    exact absurd (by rw [chars]; rfl) other
  · rw [String.ofList_toList]

theorem eq_nil_of_attached? {rest : List Char} (h : attached? rest = none) : rest = [] := by
  unfold attached? at h
  split at h
  · rfl
  · cases h
  · cases h

theorem eq_of_attached? {rest : List Char} {value : String} (h : attached? rest = some value) :
    rest = '=' :: value.toList ∨
      (rest = value.toList ∧ value ≠ "" ∧ value.toList.head? ≠ some '=') := by
  unfold attached? at h
  split at h
  · cases h
  · cases h
    exact .inl (by rw [String.toList_ofList])
  · rename_i nonempty noEquals
    cases h
    refine .inr ⟨String.toList_ofList.symm, ?_, ?_⟩
    · intro empty
      exact nonempty (by rw [← String.toList_ofList (l := rest), empty]; rfl)
    · rw [String.toList_ofList]
      intro equals
      obtain ⟨more, chars⟩ := List.head?_eq_some_iff.1 equals
      exact noEquals more chars

/-- The ways to give a setting a value. -/
inductive Spelling (s : Setting) (value : String) : List String → Prop where
  | long (plain : Argument.IsPlain value) : Spelling s value ["--" ++ s.description.long, value]
  | longAttached : Spelling s value ["--" ++ s.description.long ++ "=" ++ value]
  | short (plain : Argument.IsPlain value) :
    Spelling s value ["-" ++ String.singleton s.description.short, value]
  | shortAttached (nonempty : value ≠ "") (other : value.toList.head? ≠ some '=') :
    Spelling s value ["-" ++ String.singleton s.description.short ++ value]
  | shortEquals : Spelling s value ["-" ++ String.singleton s.description.short ++ "=" ++ value]

theorem Spelling.words_cases {s : Setting} {value : String} {words : List String}
    (h : Spelling s value words) : (∃ word, words = [word]) ∨ ∃ word, words = [word, value] := by
  cases h with
  | long plain => exact .inr ⟨_, rfl⟩
  | longAttached => exact .inl ⟨_, rfl⟩
  | short plain => exact .inr ⟨_, rfl⟩
  | shortAttached nonempty other => exact .inl ⟨_, rfl⟩
  | shortEquals => exact .inl ⟨_, rfl⟩

/-- Whether an argument is an option for a setting, with its value or with the value to come. -/
def Announces (argument : String) (s : Setting) (value : Option String) : Prop :=
  match value with
  | some value => Spelling s value [argument]
  | none => ∀ value, Argument.IsPlain value → Spelling s value [argument, value]

theorem announces_long {argument : String} {s : Setting} {value : Option String}
    (form : Argument.ofString argument = .long s.description.long value) :
    Announces argument s value := by
  rw [← Argument.text_ofString argument, form, Argument.text]
  cases value with
  | some value =>
    rw [Option.elim_some, ← String.append_assoc]
    exact .longAttached
  | none =>
    rw [Option.elim_none, String.append_empty]
    exact fun value plain => .long plain

theorem announces_short {argument : String} {s : Setting} {rest : List Char}
    (form : Argument.ofString argument = .short s.description.short rest) :
    Announces argument s (attached? rest) := by
  rw [← Argument.text_ofString argument, form, Argument.text]
  cases attached : attached? rest with
  | some value =>
    rcases eq_of_attached? attached with rfl | ⟨rfl, nonempty, other⟩
    · have equals : String.singleton '=' = "=" := rfl
      rw [String.ofList_cons, String.ofList_toList, equals, ← String.append_assoc]
      exact .shortEquals
    · rw [String.ofList_toList]
      exact .shortAttached nonempty other
  | none =>
    rw [eq_nil_of_attached? attached, String.ofList_nil, String.append_empty]
    exact fun value plain => .short plain

/-- The arguments that give settings values, in their order. A terminator may close them. -/
inductive Spells : List String → List (Setting × String) → Prop where
  | nil : Spells [] []
  | terminator : Spells ["--"] []
  | cons {s : Setting} {value : String} {words rest : List String}
    {given : List (Setting × String)} (spelling : Spelling s value words)
    (others : Spells rest given) : Spells (words ++ rest) ((s, value) :: given)

end Almanac
