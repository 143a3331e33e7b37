import Almanac.Json.Typed
import Almanac.Proofs.Json.Skipping

set_option autoImplicit false

namespace Almanac.Json

open Ascii

variable {α β : Type}

/-- Whether a reader stops before `rest` with the given value, or finds a fault if there is none. -/
def Yields (result : Except Fault (α × Cursor)) (value : Option α) (rest : List UInt8) : Prop :=
  match value with
  | some a => ∃ p, result = .ok (a, ⟨rest, p⟩)
  | none => ∃ fault, result = .error fault

namespace Yields

variable {result : Except Fault (α × Cursor)} {value : Option α} {rest rest' : List UInt8}

theorem bind {f : α × Cursor → Except Fault (β × Cursor)} {g : α → Option β}
    (h : Yields result value rest)
    (next : ∀ a p, value = some a → Yields (f (a, ⟨rest, p⟩)) (g a) rest') :
    Yields (result >>= f) (value.bind g) rest' := by
  cases value with
  | none =>
    obtain ⟨fault, rfl⟩ := h
    exact ⟨fault, rfl⟩
  | some a =>
    obtain ⟨p, rfl⟩ := h
    exact next a p rfl

theorem mapError (h : Yields result value rest) (f : Fault → Fault) :
    Yields (result.mapError f) value rest := by
  cases value with
  | none =>
    obtain ⟨fault, rfl⟩ := h
    exact ⟨f fault, rfl⟩
  | some a =>
    obtain ⟨p, rfl⟩ := h
    exact ⟨p, rfl⟩

theorem error (fault : Fault) : Yields (.error fault : Except Fault (α × Cursor)) none rest :=
  ⟨fault, rfl⟩

end Yields

/-- A reader makes of every rendered value, after blanks, what a function makes of the value. -/
def Reads (r : Reader α) (of : Tree → Option α) : Prop :=
  ∀ {v : Tree} {pre bytes rest : List UInt8}, Blank pre → Renders (.value v) bytes →
    Delimited rest → ∀ p, Yields (r ⟨pre ++ bytes ++ rest, p⟩) (of v) rest

theorem Blank.nil : Blank [] := by
  intro b mem
  cases mem

theorem skipBlanks_blank {pre rest : List UInt8} (h : Blank pre)
    (stop : ∀ b ∈ rest.head?, isSpace b = false) (p : Position) :
    ∃ p', Cursor.skipBlanks ⟨pre ++ rest, p⟩ = ⟨rest, p'⟩ := by
  induction pre generalizing p with
  | nil =>
    refine ⟨p, ?_⟩
    cases rest with
    | nil => rfl
    | cons b rest =>
      change (if isSpace b = true then _ else _) = _
      rw [stop b rfl]
      rfl
  | cons b pre ih =>
    obtain ⟨p', skipped⟩ := ih (fun b' mem => h b' (List.mem_cons_of_mem b mem)) (p.after b)
    refine ⟨p', ?_⟩
    change (if isSpace b = true then _ else _) = _
    rw [h b List.mem_cons_self]
    exact skipped

theorem skipBlanks_value {v : Tree} {pre bytes : List UInt8} (before : Blank pre)
    (h : Renders (.value v) bytes) (rest : List UInt8) (p : Position) :
    ∃ b others p', bytes = b :: others ∧ v.Starts b ∧
      Cursor.skipBlanks ⟨pre ++ bytes ++ rest, p⟩ = ⟨b :: (others ++ rest), p'⟩ := by
  obtain ⟨b, others, rfl, starts⟩ := h.starts
  have stop : ∀ b' ∈ (b :: (others ++ rest)).head?, isSpace b' = false := by
    intro b' head
    cases head
    exact starts.token.1
  obtain ⟨p', skipped⟩ := skipBlanks_blank before stop p
  exact ⟨b, others, p', rfl, starts, by rw [List.append_assoc]; exact skipped⟩

theorem literal_append (word rest : List UInt8) (p : Position) :
    ∃ p', Cursor.literal word ⟨word ++ rest, p⟩ = .ok ⟨rest, p'⟩ := by
  induction word generalizing p with
  | nil => exact ⟨p, rfl⟩
  | cons b word ih =>
    obtain ⟨p', read⟩ := ih (p.after b)
    refine ⟨p', ?_⟩
    rw [List.cons_append, Cursor.literal]
    simp only [ite_true]
    exact read

namespace Tree

def string? : Tree → Option String
  | string s => some s
  | _ => none

def int32? : Tree → Option Int32
  | number n =>
    n.integer?.bind fun i => if -2 ^ 31 ≤ i ∧ i < 2 ^ 31 then some (Int32.ofInt i) else none
  | _ => none

def orNull (of : Tree → Option α) : Tree → Option (Option α)
  | null => some none
  | v => (of v).map some

inductive Kind where
  | null
  | bool
  | number
  | string
  | array
  | object
deriving DecidableEq

def kind : Tree → Kind
  | null => .null
  | bool _ => .bool
  | number _ => .number
  | string _ => .string
  | array _ => .array
  | object _ => .object

theorem number_of_kind {v : Tree} (h : v.kind = .number) : ∃ n, v = .number n := by
  cases v with
  | number n => exact ⟨n, rfl⟩
  | _ => cases h

def Kind.ofByte? (b : UInt8) : Option Kind :=
  if b = 0x6E then some .null
  else if b = 0x74 ∨ b = 0x66 then some .bool
  else if b = minus ∨ (digit? b).isSome = true then some .number
  else if b = quote then some .string
  else if b = openBracket then some .array
  else if b = openBrace then some .object
  else none

theorem kind_digitByte (d : Fin 10) : Kind.ofByte? (digitByte d) = some .number := by
  revert d
  decide

theorem Starts.kind {v : Tree} {b : UInt8} (h : v.Starts b) : Kind.ofByte? b = some v.kind := by
  cases v with
  | null =>
    cases h
    rfl
  | bool _ => rcases h with rfl | rfl <;> rfl
  | number _ =>
    rcases h with rfl | ⟨d, rfl⟩
    · rfl
    · exact kind_digitByte d
  | string _ =>
    cases h
    rfl
  | array _ =>
    cases h
    rfl
  | object _ =>
    cases h
    rfl

end Tree

theorem string_reads : Reads Reader.string Tree.string? := by
  intro v pre bytes rest before h delimited p
  obtain ⟨b, others, p₁, rfl, starts, skipped⟩ := skipBlanks_value before h rest p
  unfold Reader.string Reader.parsed
  simp only [skipped, List.head?_cons, Option.some.injEq]
  by_cases isQuote : b = quote
  · have kind := starts.kind
    rw [isQuote] at kind
    cases v with
    | string s =>
      cases h with
      | string h =>
        obtain ⟨body, p₂, eq, read⟩ := stringBody_rendered h rest (p₁.after quote)
        cases eq
        refine ⟨p₂, ?_⟩
        rw [if_pos rfl]
        simp only [Cursor.next, read]
        rfl
    | _ => cases kind
  · have noString : v.string? = none := by
      cases v with
      | string s => exact absurd starts isQuote
      | _ => rfl
    rw [if_neg isQuote, noString]
    exact Yields.error _

theorem exists_digitByte {b : UInt8} (h : (digit? b).isSome = true) : ∃ d, b = digitByte d := by
  unfold digit? at h
  split at h
  · rename_i bounds
    refine ⟨⟨b.toNat - 0x30, by omega⟩, ?_⟩
    apply UInt8.toNat_inj.1
    rw [digitByte, UInt8.toNat_ofNat', Nat.mod_eq_of_lt (by omega)]
    exact (Nat.add_sub_cancel' bounds.1).symm
  · cases h

def fitInt32 : Numeral × Cursor → Except Fault (Int32 × Cursor)
  | (.integer n, c) =>
    if -2 ^ 31 ≤ n ∧ n < 2 ^ 31 then .ok (Int32.ofInt n, c)
    else .error (.mismatch (.wrongValue (.integer n) "i32") c.position)
  | (.number x, c) => .error (.mismatch (.wrongType (.number x) "i32") c.position)

theorem numeral_int32 (n : Literal) {rest : List UInt8} (delimited : Delimited rest)
    (p : Position) :
    Yields (numeral n.negative ⟨n.whole.bytes ++ (n.tail ++ rest), p⟩ >>= fitInt32)
      (Tree.int32? (.number n)) rest := by
  by_cases fits : ∃ i, n.integer? = some i ∧ -2 ^ 31 ≤ i ∧ i < 2 ^ 31
  · obtain ⟨i, integer, bounds⟩ := fits
    obtain ⟨p', read⟩ := numeral_integer delimited p integer (by omega) (by omega)
    have value : Tree.int32? (.number n) = some (Int32.ofInt i) := by
      simp only [Tree.int32?, integer, Option.bind_some, if_pos bounds]
    rw [read, value]
    refine ⟨p', ?_⟩
    change (if -2 ^ 31 ≤ i ∧ i < 2 ^ 31 then _ else _) = _
    rw [if_pos bounds]
  · have value : Tree.int32? (.number n) = none := by
      simp only [Tree.int32?]
      cases integer : n.integer? with
      | none => rfl
      | some i =>
        have outside : ¬ (-2 ^ 31 ≤ i ∧ i < 2 ^ 31) := fun bounds => fits ⟨i, integer, bounds⟩
        simp only [Option.bind_some, if_neg outside]
    rw [value]
    cases read : numeral n.negative ⟨n.whole.bytes ++ (n.tail ++ rest), p⟩ with
    | error fault => exact ⟨fault, rfl⟩
    | ok result =>
      obtain ⟨number, c⟩ := result
      cases number with
      | number x => exact ⟨_, rfl⟩
      | integer i =>
        have integer := integer?_of_numeral delimited read
        have outside : ¬ (-2 ^ 31 ≤ i ∧ i < 2 ^ 31) := fun bounds => fits ⟨i, integer, bounds⟩
        exact ⟨.mismatch (.wrongValue (.integer i) "i32") c.position, if_neg outside⟩

theorem numeric_eq {expected : String} {convert : Numeral → Except Mismatch α}
    {fit : Numeral × Cursor → Except Fault (α × Cursor)}
    (h : ∀ n c, fit (n, c) = match convert n with
      | .ok a => .ok (a, c)
      | .error cause => .error (.mismatch cause c.position)) (c : Cursor) :
    Reader.numeric expected convert c =
      if c.skipBlanks.rest.head? = some minus then numeral true c.skipBlanks.next >>= fit
      else if c.skipBlanks.atDigit then numeral false c.skipBlanks >>= fit
      else .error (otherThan expected c.skipBlanks) := by
  have same : fit = fun x => match convert x.1 with
      | .ok a => .ok (a, x.2)
      | .error cause => .error (.mismatch cause x.2.position) := by
    funext x
    exact h x.1 x.2
  rw [same]
  rfl

theorem int32_eq (c : Cursor) : Reader.int32 c =
    if c.skipBlanks.rest.head? = some minus then numeral true c.skipBlanks.next >>= fitInt32
    else if c.skipBlanks.atDigit then numeral false c.skipBlanks >>= fitInt32
    else .error (otherThan "i32" c.skipBlanks) := by
  unfold Reader.int32
  apply numeric_eq
  rintro (n | x) c
  · by_cases bounds : -2 ^ 31 ≤ n ∧ n < 2 ^ 31
    · simp only [fitInt32, if_pos bounds]
    · simp only [fitInt32, if_neg bounds]
  · rfl

theorem int32_reads : Reads Reader.int32 Tree.int32? := by
  intro v pre bytes rest before h delimited p
  obtain ⟨b, others, p₁, eq, starts, skipped⟩ := skipBlanks_value before h rest p
  rw [int32_eq, skipped]
  by_cases isNumber : v.kind = .number
  · obtain ⟨n, rfl⟩ := Tree.number_of_kind isNumber
    cases h with
    | number n =>
      unfold Literal.bytes at eq
      cases negative : n.negative with
      | true =>
        have read := numeral_int32 n delimited (p₁.after minus)
        rw [negative] at eq read
        cases eq
        rw [← List.append_assoc] at read
        exact read
      | false =>
        have read := numeral_int32 n delimited p₁
        rw [negative] at eq read
        cases eq
        rw [← List.append_assoc] at read
        have notMinus : ¬ some (digitByte n.whole.first) = some minus := by
          rw [Option.some.injEq]
          exact digitByte_ne_minus n.whole.first
        have atDigit (rest : List UInt8) :
            Cursor.atDigit ⟨digitByte n.whole.first :: rest, p₁⟩ = true := by
          change (digit? (digitByte n.whole.first)).isSome = true
          rw [digit?_digitByte]
          rfl
        rw [List.head?_cons, if_neg notMinus, if_pos (atDigit _)]
        exact read
  · have notMinus : ¬ some b = some minus := by
      intro minus
      cases minus
      exact isNumber (Option.some.inj starts.kind).symm
    have notDigit (rest : List UInt8) : ¬ Cursor.atDigit ⟨b :: rest, p₁⟩ = true := by
      intro digit
      obtain ⟨d, rfl⟩ := exists_digitByte digit
      exact isNumber (Option.some.inj (starts.kind.symm.trans (Tree.kind_digitByte d)))
    have none : v.int32? = none := by
      cases v with
      | number n => exact absurd rfl isNumber
      | _ => rfl
    rw [List.head?_cons, if_neg notMinus, if_neg (notDigit _), none]
    exact Yields.error _

theorem optional_reads {r : Reader α} {of : Tree → Option α} (h : Reads r of) :
    Reads (Reader.optional r) (Tree.orNull of) := by
  intro v pre bytes rest before rendered delimited p
  obtain ⟨b, others, p₁, eq, starts, skipped⟩ := skipBlanks_value before rendered rest p
  unfold Reader.optional
  simp only [skipped, List.head?_cons, Option.some.injEq]
  by_cases isNull : v.kind = .null
  · have value : v = .null := by
      cases v with
      | null => rfl
      | _ => cases isNull
    subst value
    cases rendered with
    | nullWord =>
      cases eq
      obtain ⟨p₂, read⟩ := literal_append nullTail rest (p₁.after 0x6E)
      refine ⟨p₂, ?_⟩
      rw [if_pos rfl]
      change (Cursor.literal nullTail ⟨nullTail ++ rest, p₁.after 0x6E⟩ >>= _) = _
      rw [read]
      rfl
  · have notN : ¬ b = 0x6E := by
      rintro rfl
      exact isNull (Option.some.inj starts.kind).symm
    have value : Tree.orNull of v = (of v).map some := by
      cases v with
      | null => exact absurd rfl isNull
      | _ => rfl
    have read : Yields (r ⟨[] ++ bytes ++ rest, p₁⟩) (of v) rest :=
      h Blank.nil rendered delimited p₁
    rw [if_neg notN, value, Option.map_eq_bind]
    rw [eq] at read
    exact read.bind fun a p _ => ⟨p, rfl⟩

end Almanac.Json
