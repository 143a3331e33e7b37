import Almanac.Forecast.Generation
import Almanac.Text.Case
import Mathlib

set_option autoImplicit false

/-!
# Which characters are the same without regard to case

Comparing texts without regard to case comes to comparing the folds of their characters one by one
(`equalIgnoringCase_iff`). In the tables each row can be followed back, from where it moves a code
point to that code point. So the characters whose fold is one given character are a short list, got
from the tables and not by trying all characters (`Spelled.fold_eq_iff`).
-/
namespace Almanac

def CaseRow.origin? (r : CaseRow) (n : Nat) : Option Nat :=
  let k := (n - r.offset).toNat
  if r.move? k = some n then some k else none

theorem CaseRow.origin?_of_move? {r : CaseRow} {k n : Nat} (h : r.move? k = some n)
    (positive : 0 < n) : r.origin? n = some k := by
  have moved : ((k : Int) + r.offset).toNat = n := by
    unfold move? at h
    split at h
    · exact Option.some.inj h
    · cases h
  have back : ((n : Int) - r.offset).toNat = k := by omega
  simp only [origin?, back, if_pos h]

namespace CaseMap

variable (m : CaseMap)

theorem sameIgnoringCase_iff (a b : Char) :
    m.sameIgnoringCase a b = true ↔ m.fold a = m.fold b := by
  simp only [sameIgnoringCase, Bool.or_eq_true, beq_iff_eq]
  constructor
  · rintro ((same | upper) | folded)
    · rw [same]
    · rw [fold, fold, upper]
    · exact folded
  · exact .inr

theorem equalIgnoringCase_iff (s t : String) :
    m.equalIgnoringCase s t = true ↔
      List.Forall₂ (fun a b => m.fold a = m.fold b) s.toList t.toList := by
  simp only [equalIgnoringCase, Bool.and_eq_true, beq_iff_eq, List.all_eq_true, Prod.forall,
    sameIgnoringCase_iff, List.forall₂_iff_zip]

theorem equalIgnoringCase_iff_map (s t : String) :
    m.equalIgnoringCase s t = true ↔ s.toList.map m.fold = t.toList.map m.fold := by
  have lists : List.Forall₂ (· = ·) (s.toList.map m.fold) (t.toList.map m.fold) ↔
      s.toList.map m.fold = t.toList.map m.fold := by
    rw [List.forall₂_eq_eq_eq]
  rw [equalIgnoringCase_iff, ← lists, List.forall₂_map_left_iff, List.forall₂_map_right_iff]

/-- Whatever the case forms are, two texts are the same without regard to case exactly if they are
as long and the characters at each place have one fold; looking at the characters and their upper
case forms first changes nothing. So this is an equivalence of texts. -/
theorem equalIgnoringCase_equivalence :
    (∀ s t, m.equalIgnoringCase s t = true ↔ s.length = t.length ∧
      List.Forall₂ (fun a b => (m.upper a).flatMap m.lower = (m.upper b).flatMap m.lower)
        s.toList t.toList) ∧
      (∀ a b, m.sameIgnoringCase a b =
        ((m.upper a).flatMap m.lower == (m.upper b).flatMap m.lower)) ∧
      Equivalence fun s t => m.equalIgnoringCase s t = true := by
  refine ⟨?_, ?_, ?_, ?_, ?_⟩
  · intro s t
    rw [equalIgnoringCase_iff]
    refine ⟨fun folds => ⟨?_, folds⟩, And.right⟩
    rw [← String.length_toList, ← String.length_toList]
    exact folds.length_eq
  · intro a b
    rw [Bool.eq_iff_iff, sameIgnoringCase_iff, beq_iff_eq]
    rfl
  · intro s
    exact (m.equalIgnoringCase_iff_map s s).2 rfl
  · intro s t same
    rw [equalIgnoringCase_iff_map] at same ⊢
    exact same.symm
  · intro s t u same same'
    rw [equalIgnoringCase_iff_map] at same same' ⊢
    exact same.trans same'

def origins (rows : List CaseRow) (n : Nat) : List Nat := rows.filterMap (·.origin? n)

section Tables

variable {rows : List CaseRow} {sequences : List (Nat × List Nat)}
  (several : ∀ s ∈ sequences, 2 ≤ s.2.length)
include several

theorem length_of_lookup {n : Nat} {ns : List Nat} (h : sequences.lookup n = some ns) :
    2 ≤ ns.length := by
  obtain ⟨before, after, rfl, -⟩ := List.lookup_eq_some_iff.1 h
  exact several (n, ns) (by simp)

theorem lookUp_ne_nil (c : Char) : lookUp rows sequences c ≠ [] := by
  unfold lookUp
  split
  · exact List.cons_ne_nil _ _
  · split
    · rename_i found
      have long := length_of_lookup several found
      intro empty
      rw [List.map_eq_nil_iff.1 empty] at long
      contradiction
    · exact List.cons_ne_nil _ _

theorem mem_origins_of_lookUp {c d : Char} (h : lookUp rows sequences c = [d])
    (nonzero : d.toNat ≠ 0) : c.toNat ∈ d.toNat :: origins rows d.toNat := by
  unfold lookUp at h
  split at h
  · rename_i n moved
    have code : n = d.toNat := by
      rw [← List.singleton_inj.1 h, Char.toNat_ofNat] at nonzero ⊢
      split at nonzero
      · rw [if_pos ‹_›]
      · contradiction
    obtain ⟨r, mem, move⟩ := List.exists_of_findSome?_eq_some moved
    rw [code] at move
    exact .tail _ (List.mem_filterMap.2 ⟨r, mem, r.origin?_of_move? move (by omega)⟩)
  · split at h
    · rename_i found
      have long := length_of_lookup several found
      rw [← List.length_map (f := Char.ofNat), h] at long
      contradiction
    · rw [List.singleton_inj.1 h]
      exact .head _

end Tables

theorem flatMap_eq_singleton {f : Char → List Char} (nonempty : ∀ c, f c ≠ []) {cs : List Char}
    {d : Char} (h : cs.flatMap f = [d]) : ∃ c, cs = [c] ∧ f c = [d] := by
  cases cs with
  | nil => cases h
  | cons c cs =>
    rw [List.flatMap_cons, List.append_eq_singleton_iff] at h
    rcases h with ⟨empty, -⟩ | ⟨single, rest⟩
    · exact absurd empty (nonempty c)
    · cases cs with
      | nil => exact ⟨c, rfl, single⟩
      | cons c' cs' =>
        have gone := List.flatMap_eq_nil_iff.1 rest c' List.mem_cons_self
        exact absurd gone (nonempty c')

/-- The code points of all characters whose fold may be the character with the code point `n`. -/
def ancestors (n : Nat) : List Nat :=
  (n :: origins CaseTable.lowerRows n).flatMap fun k => k :: origins CaseTable.upperRows k

theorem upper_several : ∀ s ∈ CaseTable.upperSequences, 2 ≤ s.2.length := by decide

theorem lower_several : ∀ s ∈ CaseTable.lowerSequences, 2 ≤ s.2.length := by decide

theorem mem_ancestors {c d : Char} (h : unicode.fold c = [d]) (nonzero : 0 ∉ ancestors d.toNat) :
    c.toNat ∈ ancestors d.toNat := by
  obtain ⟨u, upper, lower⟩ := flatMap_eq_singleton (lookUp_ne_nil lower_several) h
  have itself : d.toNat ≠ 0 := by
    intro zero
    rw [zero] at nonzero
    exact nonzero (by simp [ancestors])
  have between := mem_origins_of_lookUp lower_several lower itself
  have step {k : Nat} (mem : k ∈ u.toNat :: origins CaseTable.upperRows u.toNat) :
      k ∈ ancestors d.toNat := List.mem_flatMap.2 ⟨_, between, mem⟩
  have positive : u.toNat ≠ 0 := by
    intro zero
    rw [← zero] at nonzero
    exact nonzero (step List.mem_cons_self)
  exact step (mem_origins_of_lookUp upper_several upper positive)

/-- Whether the tables lead from a character that is its own fold back to some characters only, and
these do have that fold. -/
def Spelled (d : Char) (spellings : List Char) : Prop :=
  (∀ n ∈ ancestors d.toNat, n ≠ 0 ∧ n ∈ spellings.map Char.toNat) ∧
    (d :: spellings).all (unicode.fold · = [d])

instance (d : Char) (spellings : List Char) : Decidable (Spelled d spellings) :=
  inferInstanceAs (Decidable (_ ∧ _))

theorem Spelled.fold_eq_iff {d : Char} {spellings : List Char} (h : Spelled d spellings)
    (c : Char) : unicode.fold c = unicode.fold d ↔ c ∈ spellings := by
  obtain ⟨complete, all⟩ := h
  have folded : ∀ c ∈ d :: spellings, unicode.fold c = [d] := by simpa using all
  rw [folded d List.mem_cons_self]
  constructor
  · intro same
    have nonzero : 0 ∉ ancestors d.toNat := fun mem => (complete 0 mem).1 rfl
    obtain ⟨c', mem, code⟩ := List.mem_map.1 (complete _ (mem_ancestors same nonzero)).2
    rw [← Char.toNat_inj.1 code]
    exact mem
  · exact fun mem => folded c (List.mem_cons_of_mem d mem)

theorem equalIgnoringCase_spelled (s : String) {t : String} {spellings : List (List Char)}
    (h : List.Forall₂ Spelled t.toList spellings) :
    unicode.equalIgnoringCase s t = true ↔ List.Forall₂ (· ∈ ·) s.toList spellings := by
  rw [equalIgnoringCase_iff]
  generalize s.toList = cs
  generalize t.toList = ds at h
  induction h generalizing cs with
  | nil => rw [List.forall₂_nil_right_iff, List.forall₂_nil_right_iff]
  | cons head _ ih => simp only [List.forall₂_cons_right_iff, head.fold_eq_iff, ih]

end CaseMap

theorem word_spelled : List.Forall₂ CaseMap.Spelled "celsius".toList
    [['c', 'C'], ['e', 'E'], ['l', 'L'], ['s', 'S', '\u017f'], ['i', 'I', '\u0131'], ['u', 'U'],
      ['s', 'S', '\u017f']] := by
  decide +kernel

theorem letter_spelled : List.Forall₂ CaseMap.Spelled "c".toList [['c', 'C']] := by
  decide +kernel

/-- A name asks for Celsius if it is the letter or the word, whatever the case of each character
and with a long s or a dotless i in its place or not. No other text does. -/
theorem namesCelsius_iff (units : String) :
    namesCelsius units = true ↔
      units.toList = ['c'] ∨ units.toList = ['C'] ∨
        List.Forall₂ (· ∈ ·) units.toList
          [['c', 'C'], ['e', 'E'], ['l', 'L'], ['s', 'S', '\u017f'], ['i', 'I', '\u0131'],
            ['u', 'U'], ['s', 'S', '\u017f']] := by
  have letter : List.Forall₂ (· ∈ ·) units.toList [['c', 'C']] ↔
      units.toList = ['c'] ∨ units.toList = ['C'] := by
    simp only [List.forall₂_cons_right_iff, List.forall₂_nil_right_iff, List.mem_cons,
      List.not_mem_nil, or_false, or_and_right, exists_or]
    simp
  rw [namesCelsius, Bool.or_eq_true, CaseMap.equalIgnoringCase_spelled units word_spelled,
    CaseMap.equalIgnoringCase_spelled units letter_spelled, letter, or_comm, or_assoc]

example : namesCelsius "cels\u0130us" = false := by decide +kernel

end Almanac
