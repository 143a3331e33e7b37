import Almanac.Text.Quoted
import Mathlib

set_option autoImplicit false

namespace Almanac

variable {α : Type}

theorem span_append {p : α → Bool} {front back : List α} (h : ∀ c ∈ front, p c = true)
    (stop : ∀ c ∈ back.head?, p c = false) : (front ++ back).span p = (front, back) := by
  rw [List.span_eq_takeWhile_dropWhile, List.takeWhile_append_of_pos h,
    List.dropWhile_append_of_pos h]
  cases back with
  | nil => simp only [List.takeWhile_nil, List.dropWhile_nil, List.append_nil]
  | cons c back =>
    have no := stop c rfl
    rw [List.takeWhile_cons_of_neg (by rw [no]; exact Bool.false_ne_true),
      List.dropWhile_cons_of_neg (by rw [no]; exact Bool.false_ne_true), List.append_nil]

theorem eq_append_of_span {p : α → Bool} {cs front back : List α}
    (h : cs.span p = (front, back)) : cs = front ++ back ∧ ∀ c ∈ front, p c = true := by
  rw [List.span_eq_takeWhile_dropWhile] at h
  cases h
  exact ⟨List.takeWhile_append_dropWhile.symm, fun c mem => List.mem_takeWhile_imp mem⟩

theorem head_of_span {p : α → Bool} {cs front back : List α} (h : cs.span p = (front, back)) :
    ∀ c ∈ back.head?, p c = false := by
  rw [List.span_eq_takeWhile_dropWhile] at h
  cases h
  intro c mem
  have stop := List.head?_dropWhile_not p cs
  rw [Option.mem_def.1 mem] at stop
  exact stop

/-- A beginning of two texts in a row ends within the first one or takes up all of it. -/
theorem prefix_append_cases {cut front back : List α} (h : cut <+: front ++ back) :
    (∃ left, left ≠ [] ∧ front = cut ++ left) ∨ ∃ more, cut = front ++ more ∧ more <+: back := by
  obtain ⟨rest, whole⟩ := h
  rcases List.append_eq_append_iff.1 whole with ⟨left, rfl, rfl⟩ | ⟨more, rfl, rfl⟩
  · by_cases empty : left = []
    · subst empty
      exact .inr ⟨[], by simp, List.nil_prefix⟩
    · exact .inl ⟨left, empty, rfl⟩
  · exact .inr ⟨more, rfl, List.prefix_append _ _⟩

/-- Whether a character is one of the control characters of Unicode or one of its separators of
lines and of paragraphs. -/
def isControl (c : Char) : Bool :=
  c.toNat ≤ 0x1F || (0x7F ≤ c.toNat && c.toNat ≤ 0x9F) || (0x2028 ≤ c.toNat && c.toNat ≤ 0x2029)

def controls (s : String) : List Char := s.toList.filter isControl

@[simp] theorem controls_append (s t : String) : controls (s ++ t) = controls s ++ controls t := by
  simp only [controls, String.toList_append, List.filter_append]

theorem filter_toDigits {b : Nat} (low : 1 < b) (high : b ≤ 16) (n : Nat) :
    (Nat.toDigits b n).filter isControl = [] := by
  have digit : ∀ k < 16, [Nat.digitChar k].filter isControl = [] := by decide
  induction n using Nat.strong_induction_on with
  | _ n ih =>
    rw [Nat.toDigits_eq_if low]
    split
    · rename_i small
      exact digit n (by omega)
    · rename_i large
      rw [List.filter_append, ih (n / b) (Nat.div_lt_self (by omega) low),
        digit (n % b) ((Nat.mod_lt n (by omega)).trans_le high), List.append_nil]

@[simp] theorem controls_nat (n : Nat) : controls (toString n) = [] := by
  change controls n.repr = []
  rw [controls, Nat.toList_repr]
  exact filter_toDigits (by omega) (by omega) n

@[simp] theorem controls_int (n : Int) : controls (toString n) = [] := by
  cases n with
  | ofNat n => exact controls_nat n
  | negSucc n =>
    change controls ("-" ++ toString (n + 1)) = []
    rw [controls_append, controls_nat]
    rfl

theorem isHidden_of_mem {c : Char} {first last : Nat} (h : (first, last) ∈ hiddenRanges)
    (low : first ≤ c.toNat) (high : c.toNat ≤ last) : isHidden c = true := by
  rw [isHidden, List.any_eq_true]
  exact ⟨(first, last), h, by simp [low, high]⟩

/-- The table of hidden characters leaves no control character out. -/
theorem isHidden_of_isControl {c : Char} (h : isControl c = true) : isHidden c = true := by
  simp only [isControl, Bool.or_eq_true, Bool.and_eq_true, decide_eq_true_eq] at h
  rcases h with (low | high) | separator
  · exact isHidden_of_mem (show (0x0, 0x1F) ∈ hiddenRanges by decide +kernel) (by omega) (by omega)
  · exact isHidden_of_mem (show (0x7F, 0xA0) ∈ hiddenRanges by decide +kernel) (by omega) (by omega)
  · exact isHidden_of_mem (show (0x2028, 0x202F) ∈ hiddenRanges by decide +kernel) (by omega)
      (by omega)

theorem filter_codePointEscape (c : Char) : (codePointEscape c).filter isControl = [] := by
  rw [codePointEscape, List.filter_append, List.filter_append,
    filter_toDigits (by omega) (by omega)]
  rfl

theorem filter_quotedChar (c : Char) : (quotedChar c).filter isControl = [] := by
  unfold quotedChar
  split_ifs with null tab newline feed marked visible hidden
  · rfl
  · rfl
  · rfl
  · rfl
  · rcases marked with rfl | rfl <;> rfl
  · have plain : isControl c = false := by
      simp only [isControl, Bool.or_eq_false_iff, Bool.and_eq_false_iff, decide_eq_false_iff_not]
      omega
    exact List.filter_singleton.trans (by rw [plain]; rfl)
  · exact filter_codePointEscape c
  · have plain : isControl c = false :=
      Bool.eq_false_iff.2 fun control => hidden (isHidden_of_isControl control)
    exact List.filter_singleton.trans (by rw [plain]; rfl)

@[simp] theorem controls_quoted (s : String) : controls (quoted s) = [] := by
  have inside : (s.toList.flatMap quotedChar).filter isControl = [] := by
    rw [List.filter_flatMap, List.flatMap_eq_nil_iff]
    exact fun c _ => filter_quotedChar c
  rw [controls, quoted, String.toList_ofList, List.cons_append, List.filter_cons_of_neg (by decide),
    List.filter_append, inside]
  rfl

@[simp] theorem controls_quotedOption (s : Option String) : controls (quotedOption s) = [] := by
  cases s with
  | none => rfl
  | some s =>
    simp only [quotedOption, controls_append, controls_quoted]
    rfl

end Almanac
