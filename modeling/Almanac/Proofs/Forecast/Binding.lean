import Almanac.Forecast.Wire
import Almanac.Proofs.Json.Records
import Mathlib

set_option autoImplicit false

namespace Almanac

open Json Ascii

namespace Request

def named (name : String) (ms : List (String × Tree)) : List (String × Tree) :=
  ms.filter fun m => m.1 = name

/-- The value of the member with a name, if there is one; nothing at all if there are several. -/
def once (name : String) (ms : List (String × Tree)) : Option (Option Tree) :=
  match named name ms with
  | [] => some none
  | [m] => some (some m.2)
  | _ :: _ :: _ => none

def locationOf : Option Tree → Option (Option String)
  | none | some .null => some none
  | some (.string s) => some (some s)
  | some _ => none

/-- A number of days: by default a week, but none for `null`. -/
def daysOf : Option Tree → Option Int32
  | none => some 7
  | some .null => some 0
  | some v => v.int32?

def unitsOf : Option Tree → Option String
  | none | some .null => some "Farenheit"
  | some (.string s) => some s
  | some _ => none

def ofFields (location days units : Option Tree) : Option Request := do
  let location ← locationOf location
  let days ← daysOf days
  let units ← unitsOf units
  some ⟨location, days, units⟩

/-- The request that a value is, by name or by position. -/
def ofTree : Tree → Option Request
  | .object ms => do
    let location ← once "location" ms
    let days ← once "days" ms
    let units ← once "units" ms
    ofFields location days units
  | .array vs => if vs.length ≤ 3 then ofFields vs[0]? vs[1]? vs[2]? else none
  | _ => none

theorem named_cons_self {m : String × Tree} {name : String} (h : m.1 = name)
    (ms : List (String × Tree)) : named name (m :: ms) = m :: named name ms := by
  unfold named
  rw [List.filter_cons, if_pos (decide_eq_true h)]

theorem named_cons_ne {m : String × Tree} {name : String} (h : m.1 ≠ name)
    (ms : List (String × Tree)) : named name (m :: ms) = named name ms := by
  unfold named
  rw [List.filter_cons, if_neg (fun eq => h (of_decide_eq_true eq))]

theorem once_perm {ms ms' : List (String × Tree)} (h : ms.Perm ms') (name : String) :
    once name ms = once name ms' := by
  have same : (named name ms).Perm (named name ms') := h.filter _
  unfold once
  generalize named name ms = found at same ⊢
  generalize named name ms' = found' at same ⊢
  match found, found', same with
  | [], found', same => rw [List.nil_perm.1 same]
  | [m], found', same => rw [List.singleton_perm.1 same]
  | m :: n :: others, [], same => exact absurd same.length_eq (Nat.succ_ne_zero _)
  | m :: n :: others, [m'], same =>
    exact absurd same.length_eq (by simp only [List.length_cons, List.length_nil]; omega)
  | m :: n :: others, m' :: n' :: others', same => rfl

/-- What a member with a name makes of what is kept of those before it. -/
def fill {τ : Type} (name : String) (of : Tree → Option τ) (slot : Option τ)
    (m : String × Tree) : Option (Option τ) :=
  if m.1 = name then if slot.isSome then none else (of m.2).map some else some slot

theorem fill_of_ne {τ : Type} {name : String} {m : String × Tree} (h : m.1 ≠ name)
    (of : Tree → Option τ) (slot : Option τ) : fill name of slot m = some slot := if_neg h

theorem fill_self {τ : Type} {name : String} {m : String × Tree} (h : m.1 = name)
    (of : Tree → Option τ) (slot : Option τ) : fill name of slot m =
      if slot.isSome then none else (of m.2).map some := if_pos h

def gather {τ : Type} (name : String) (of : Tree → Option τ) (slot : Option τ)
    (ms : List (String × Tree)) : Option (Option τ) := ms.foldlM (fill name of) slot

/-- What is made of a field: of one that is absent nothing, else what is made of its value. -/
def present {τ : Type} (of : Tree → Option τ) (v : Option Tree) : Option (Option τ) :=
  v.elim (some none) fun v => (of v).map some

theorem gather_some {τ : Type} (name : String) (of : Tree → Option τ) (t : τ)
    (ms : List (String × Tree)) : gather name of (some t) ms =
      if named name ms = [] then some (some t) else none := by
  induction ms with
  | nil => rfl
  | cons m ms ih =>
    unfold gather at ih ⊢
    rw [List.foldlM_cons]
    by_cases same : m.1 = name
    · rw [named_cons_self same, if_neg (List.cons_ne_nil _ _), fill_self same]
      rfl
    · rw [named_cons_ne same, fill_of_ne same]
      exact ih

theorem gather_none {τ : Type} (name : String) (of : Tree → Option τ)
    (ms : List (String × Tree)) : gather name of none ms = (once name ms).bind (present of) := by
  induction ms with
  | nil => rfl
  | cons m ms ih =>
    by_cases same : m.1 = name
    · have later (t : τ) := gather_some name of t ms
      unfold gather at later ⊢
      rw [List.foldlM_cons, fill_self same]
      unfold once
      rw [named_cons_self same]
      cases read : of m.2 with
      | none =>
        cases named name ms with
        | nil => exact (congrArg (Option.map some) read).symm
        | cons _ _ => rfl
      | some t =>
        change List.foldlM _ (some t) ms = _
        rw [later]
        cases named name ms with
        | nil => exact (congrArg (Option.map some) read).symm
        | cons _ _ => rfl
    · unfold gather once at ih ⊢
      rw [List.foldlM_cons, fill_of_ne same, named_cons_ne same]
      exact ih

def readField (name : String) (draft : Draft) (v : Tree) : Option Draft :=
  if name = "location" then (v.orNull Tree.string?).map fun x => { draft with location := some x }
  else if name = "days" then (v.orNull Tree.int32?).map fun x => { draft with days := some x }
  else if name = "units" then (v.orNull Tree.string?).map fun x => { draft with units := some x }
  else none

theorem fields_read : ∀ field ∈ record.fields, field.Reads (readField field.name) := by
  intro field mem
  simp only [record, List.mem_cons, List.not_mem_nil, or_false] at mem
  rcases mem with rfl | rfl | rfl
  · exact Field.of_reads (optional_reads string_reads)
  · exact Field.of_reads (optional_reads int32_reads)
  · exact Field.of_reads (optional_reads string_reads)

theorem bind_fill_self {τ δ : Type} {name : String} {m : String × Tree} (h : m.1 = name)
    (of : Tree → Option τ) (slot : Option τ) (put : Option τ → δ) :
    ((fill name of slot m).bind fun slot => some (put slot)) =
      if slot.isSome then none else (of m.2).map fun x => put (some x) := by
  rw [fill_self h]
  split
  · rfl
  · rw [Option.bind_map, Option.map_eq_bind]
    rfl

theorem keep_eq (draft : Draft) (m : String × Tree) : record.keep readField draft m =
    (fill "location" (Tree.orNull Tree.string?) draft.location m).bind fun location =>
    (fill "days" (Tree.orNull Tree.int32?) draft.days m).bind fun days =>
    (fill "units" (Tree.orNull Tree.string?) draft.units m).bind fun units =>
      some ⟨location, days, units⟩ := by
  obtain ⟨name, v⟩ := m
  by_cases location : name = "location"
  · subst location
    rw [fill_of_ne (m := ("location", v)) (by decide : "location" ≠ "days"),
      fill_of_ne (m := ("location", v)) (by decide : "location" ≠ "units")]
    exact (bind_fill_self rfl _ _ fun location => { draft with location }).symm
  by_cases days : name = "days"
  · subst days
    rw [fill_of_ne (m := ("days", v)) (by decide : "days" ≠ "location"),
      fill_of_ne (m := ("days", v)) (by decide : "days" ≠ "units")]
    exact (bind_fill_self rfl _ _ fun days => { draft with days }).symm
  by_cases units : name = "units"
  · subst units
    rw [fill_of_ne (m := ("units", v)) (by decide : "units" ≠ "location"),
      fill_of_ne (m := ("units", v)) (by decide : "units" ≠ "days")]
    exact (bind_fill_self rfl _ _ fun units => { draft with units }).symm
  · have unknown : record.fields.find? (·.name == name) = none := by
      rw [List.find?_eq_none]
      intro field mem
      simp only [record, List.mem_cons, List.not_mem_nil, or_false] at mem
      rcases mem with rfl | rfl | rfl
      · exact fun eq => location (beq_iff_eq.1 eq).symm
      · exact fun eq => days (beq_iff_eq.1 eq).symm
      · exact fun eq => units (beq_iff_eq.1 eq).symm
    rw [fill_of_ne location, fill_of_ne days, fill_of_ne units]
    unfold Record.keep
    rw [unknown]
    rfl

/-- The fields of an object are gathered independently of each other. -/
theorem foldlM_keep (ms : List (String × Tree)) (draft : Draft) :
    ms.foldlM (record.keep readField) draft =
      (gather "location" (Tree.orNull Tree.string?) draft.location ms).bind fun location =>
      (gather "days" (Tree.orNull Tree.int32?) draft.days ms).bind fun days =>
      (gather "units" (Tree.orNull Tree.string?) draft.units ms).bind fun units =>
        some ⟨location, days, units⟩ := by
  induction ms generalizing draft with
  | nil => rfl
  | cons m ms ih =>
    unfold gather at ih ⊢
    simp only [List.foldlM_cons, Option.bind_eq_bind, keep_eq]
    cases fill "location" (Tree.orNull Tree.string?) draft.location m with
    | none => rfl
    | some location =>
      cases fill "days" (Tree.orNull Tree.int32?) draft.days m with
      | none =>
        simp only [Option.bind_none, Option.bind_some, Option.bind_fun_none]
      | some days =>
        cases fill "units" (Tree.orNull Tree.string?) draft.units m with
        | none => simp only [Option.bind_none, Option.bind_some, Option.bind_fun_none]
        | some units => exact ih ⟨location, days, units⟩

theorem locationOf_eq (v : Option Tree) :
    locationOf v = (present (Tree.orNull Tree.string?) v).map Option.join := by
  cases v with
  | none => rfl
  | some v => cases v <;> rfl

theorem daysOf_eq (v : Option Tree) : daysOf v =
    (present (Tree.orNull Tree.int32?) v).map fun days => match days with
      | none => defaultDays
      | some days => days.getD 0 := by
  cases v with
  | none => rfl
  | some v =>
    cases v with
    | number n =>
      change Tree.int32? (.number n) = ((((Tree.int32? (.number n)).map some)).map some).map _
      cases Tree.int32? (.number n) <;> rfl
    | _ => rfl

theorem unitsOf_eq (v : Option Tree) : unitsOf v =
    (present (Tree.orNull Tree.string?) v).map fun units => units.join.getD defaultUnits := by
  cases v with
  | none => rfl
  | some v => cases v <;> rfl

theorem ofFields_eq (location days units : Option Tree) : ofFields location days units =
    ((present (Tree.orNull Tree.string?) location).bind fun location =>
      (present (Tree.orNull Tree.int32?) days).bind fun days =>
      (present (Tree.orNull Tree.string?) units).bind fun units =>
        some (⟨location, days, units⟩ : Draft)).map Draft.finish := by
  unfold ofFields
  rw [locationOf_eq, daysOf_eq, unitsOf_eq]
  cases present (Tree.orNull Tree.string?) location with
  | none => rfl
  | some location =>
    cases present (Tree.orNull Tree.int32?) days with
    | none => rfl
    | some days => cases present (Tree.orNull Tree.string?) units <;> rfl

theorem ofTree_object {ms ms' : List (String × Tree)} (order : ms.Perm ms') :
    ofTree (.object ms) =
      (ms'.foldlM (record.keep readField) record.empty).map Draft.finish := by
  simp only [ofTree, once_perm order, Option.bind_eq_bind]
  rw [foldlM_keep]
  change _ = Option.map Draft.finish
    ((gather "location" _ none ms').bind fun location =>
      (gather "days" _ none ms').bind fun days =>
      (gather "units" _ none ms').bind fun units => some ⟨location, days, units⟩)
  rw [gather_none, gather_none, gather_none]
  cases once "location" ms' with
  | none => rfl
  | some location =>
    cases once "days" ms' with
    | none => cases h : present (Tree.orNull Tree.string?) location <;>
        simp only [Option.bind_some, Option.bind_none, h, Option.map_none]
    | some days =>
      cases once "units" ms' with
      | none =>
        cases h : present (Tree.orNull Tree.string?) location <;>
          cases h' : present (Tree.orNull Tree.int32?) days <;>
            simp only [Option.bind_some, Option.bind_none, h, h', Option.map_none]
      | some units => exact ofFields_eq location days units

theorem ofTree_array (vs : List Tree) : ofTree (.array vs) =
    (Record.place readField record.fields record.empty vs).map Draft.finish := by
  have location (draft : Draft) (v : Tree) : readField "location" draft v =
      (v.orNull Tree.string?).map fun x => { draft with location := some x } := rfl
  have days (draft : Draft) (v : Tree) : readField "days" draft v =
      (v.orNull Tree.int32?).map fun x => { draft with days := some x } := rfl
  have units (draft : Draft) (v : Tree) : readField "units" draft v =
      (v.orNull Tree.string?).map fun x => { draft with units := some x } := rfl
  match vs with
  | [] => exact ofFields_eq none none none
  | [a] =>
    refine (ofFields_eq (some a) none none).trans ?_
    change _ = ((readField "location" ⟨none, none, none⟩ a).bind some).map Draft.finish
    rw [location]
    cases h : a.orNull Tree.string? <;> simp only [present, Option.elim_some, h] <;> rfl
  | [a, b] =>
    refine (ofFields_eq (some a) (some b) none).trans ?_
    change _ = ((readField "location" ⟨none, none, none⟩ a).bind fun draft =>
      (readField "days" draft b).bind some).map Draft.finish
    simp only [location, days]
    cases h : a.orNull Tree.string? <;> cases h' : b.orNull Tree.int32? <;>
      simp only [present, Option.elim_some, h, h'] <;> rfl
  | [a, b, c] =>
    refine (ofFields_eq (some a) (some b) (some c)).trans ?_
    change _ = ((readField "location" ⟨none, none, none⟩ a).bind fun draft =>
      (readField "days" draft b).bind fun draft =>
      (readField "units" draft c).bind some).map Draft.finish
    simp only [location, days, units]
    cases h : a.orNull Tree.string? <;> cases h' : b.orNull Tree.int32? <;>
      cases h'' : c.orNull Tree.string? <;>
        simp only [present, Option.elim_some, h, h', h''] <;> rfl
  | a :: b :: c :: d :: others =>
    have tooLong : ¬ (a :: b :: c :: d :: others).length ≤ 3 := by
      simp only [List.length_cons]
      omega
    change (if (a :: b :: c :: d :: others).length ≤ 3 then
        ofFields (some a) (some b) (some c) else none) =
      ((readField "location" ⟨none, none, none⟩ a).bind fun draft =>
      (readField "days" draft b).bind fun draft =>
      (readField "units" draft c).bind fun _ => none).map Draft.finish
    rw [if_neg tooLong]
    simp only [Option.bind_fun_none, Option.map_none]

theorem read_reads : Reads record.read ofTree := by
  apply Record.read_reads fields_read
  · exact fun _ => rfl
  · exact fun _ _ => rfl
  · exact ofTree_object
  · exact ofTree_array
  · intro v notObject notArray
    cases v with
    | object _ => exact absurd rfl notObject
    | array _ => exact absurd rfl notArray
    | _ => rfl

/-- Reading a value, however it is written, gives the request that the value is, and a fault if it
is none. -/
theorem parse_written {v : Tree} {bytes : List UInt8} (h : v.IsWrittenAs bytes) :
    (∀ request, parse bytes = .ok request ↔ ofTree v = some request) ∧
      (ofTree v = none ↔ ∃ fault, parse bytes = .error fault) := by
  have same : (parse bytes).toOption = ofTree v := read_reads.all h
  rw [← same]
  cases parse bytes with
  | error fault =>
    refine ⟨fun request => ⟨fun eq => ?_, fun eq => ?_⟩, fun _ => ⟨fault, rfl⟩, fun _ => rfl⟩
    · cases eq
    · cases eq
  | ok result =>
    refine ⟨fun request => ⟨fun eq => ?_, fun eq => ?_⟩, fun eq => ?_, fun ⟨fault, eq⟩ => ?_⟩
    · cases eq
      rfl
    · cases eq
      rfl
    · cases eq
    · cases eq

/-- The days stand last, under a key with an escape, behind a member that nothing reads. -/
theorem escaped_key_parsed :
    let three : Literal := ⟨false, ⟨3, []⟩, fun _ => rfl, none, none⟩
    let v : Tree := .object [("days", .number three), ("x", .array [.null, .object []])]
    let bytes := Utf8.encode "\x7b\"x\":[null,\x7b \x7d],\"day\\u0073\" : 3\x7d"
    v.IsWrittenAs bytes ∧ parse bytes = .ok ⟨none, 3, "Farenheit"⟩ := by
  intro three v bytes
  have blank : Blank [space] := by
    intro b mem
    rw [List.mem_singleton.1 mem]
    rfl
  have letter (c : Char) (h : c = 'd' ∨ c = 'a' ∨ c = 'y' ∨ c = 'x') :
      CharRendered c (String.utf8EncodeChar c) := by
    rcases h with rfl | rfl | rfl | rfl <;> exact .plain (by decide) (by decide) (by decide)
  have s : CharRendered 's' (backslash :: 0x75 :: [0x30, 0x30, 0x37, 0x33]) :=
    .unit (.mk (rfl : hexDigit? 0x30 = some 0) (rfl : hexDigit? 0x30 = some 0)
      (rfl : hexDigit? 0x37 = some 7) (rfl : hexDigit? 0x33 = some 3))
  have days : StringRendered "days" _ :=
    ⟨_, .cons (letter 'd' (by decide)) (.cons (letter 'a' (by decide))
      (.cons (letter 'y' (by decide)) (.cons s .nil))), rfl⟩
  have x : StringRendered "x" _ := ⟨_, .cons (letter 'x' (by decide)) .nil, rfl⟩
  have null : Renders (.element .null) _ := .element Blank.nil .nullWord Blank.nil
  have empty : Renders (.element (.object [])) _ :=
    .element Blank.nil (.emptyObject blank) Blank.nil
  have list : Renders (.element (.array [.null, .object []])) _ :=
    .element Blank.nil (.array (.elements null (.lastElement empty))) Blank.nil
  have number : Renders (.element (.number three)) _ := .element blank (.number three) Blank.nil
  have members := Renders.members (.member Blank.nil x Blank.nil list)
    (.lastMember (.member Blank.nil days blank number))
  have object : Renders (.element v) _ :=
    .element Blank.nil (.object (.swap _ _ _) members) Blank.nil
  have written : v.IsWrittenAs bytes := by
    unfold Tree.IsWrittenAs
    convert object using 1
    cbv
  exact ⟨written, ((parse_written written).1 _).2 (by cbv)⟩

end Request

end Almanac
