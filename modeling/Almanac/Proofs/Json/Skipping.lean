import Almanac.Json.Skip
import Almanac.Proofs.Json.Numbers
import Almanac.Proofs.Json.Strings

set_option autoImplicit false

namespace Almanac.Json

open Ascii

/-- Some bytes take the machine from one state and stack to others. -/
def Skips (bytes : List UInt8) (state : SkipState) (stack : List Bracket) (state' : SkipState)
    (stack' : List Bracket) : Prop :=
  ∀ rest p, ∃ p', skipFrom (bytes ++ rest) p state stack = skipFrom rest p' state' stack'

/-- Whether the machine is between two tokens and no value has ended. -/
def SkipState.Awaits : SkipState → Prop
  | value | firstElement | firstKey | key | colon => True
  | after | literal _ | number _ | text .. => False

theorem SkipState.Awaits.inside {state : SkipState} (h : state.Awaits) (b : UInt8) :
    state.endsBefore b = false := by
  cases state with
  | value | firstElement | firstKey | key | colon => rfl
  | after | literal _ | number _ | text _ _ => exact False.elim h

theorem SkipState.Awaits.stays {state : SkipState} (h : state.Awaits) (stack : List Bracket)
    {b : UInt8} (space : isSpace b = true) : state.step stack b = .ok (state, stack) := by
  cases state with
  | value | firstElement | firstKey | key | colon => simp only [SkipState.step, space, ite_true]
  | after | literal _ | number _ | text _ _ => exact False.elim h

namespace Skips

variable {bytes bytes' : List UInt8} {b : UInt8} {state next state' : SkipState}
variable {stack stack₁ stack' : List Bracket}

theorem nil : Skips [] state stack state stack := by
  intro rest p
  exact ⟨p, rfl⟩

theorem append (h : Skips bytes state stack next stack₁)
    (h' : Skips bytes' next stack₁ state' stack') :
    Skips (bytes ++ bytes') state stack state' stack' := by
  intro rest p
  obtain ⟨p₁, h₁⟩ := h (bytes' ++ rest) p
  obtain ⟨p₂, h₂⟩ := h' rest p₁
  exact ⟨p₂, by rw [List.append_assoc, h₁, h₂]⟩

theorem byte (inside : (stack.isEmpty && state.endsBefore b) = false)
    (h : state.step stack b = .ok (state', stack')) : Skips [b] state stack state' stack' := by
  intro rest p
  refine ⟨p.after b, ?_⟩
  rw [List.singleton_append, skipFrom, inside, h]
  rfl

theorem step (inside : state.endsBefore b = false)
    (h : state.step stack b = .ok (state', stack')) : Skips [b] state stack state' stack' := by
  apply byte _ h
  rw [inside, Bool.and_false]

theorem blank (h : Blank bytes) (inside : ∀ b, (stack.isEmpty && state.endsBefore b) = false)
    (stay : ∀ b, isSpace b = true → state.step stack b = .ok (state, stack)) :
    Skips bytes state stack state stack := by
  induction bytes with
  | nil => exact nil
  | cons b bytes ih =>
    have head : Skips [b] state stack state stack :=
      byte (inside b) (stay b (h b List.mem_cons_self))
    exact head.append (ih fun b' mem => h b' (List.mem_cons_of_mem b mem))

theorem awaitingBlank (state : SkipState) (awaits : state.Awaits) (h : Blank bytes) :
    Skips bytes state stack state stack := by
  apply blank h
  · intro b
    rw [awaits.inside, Bool.and_false]
  · intro b space
    exact awaits.stays stack space

theorem afterBlank {k : Bracket} (h : Blank bytes) :
    Skips bytes .after (k :: stack) .after (k :: stack) := by
  apply blank h
  · intro b
    rfl
  · intro b space
    cases k <;> simp only [SkipState.step, SkipState.follow, space, ite_true]

theorem literal {tail : List UInt8} (h : tail ≠ []) :
    Skips tail (.literal tail) stack .after stack := by
  induction tail with
  | nil => exact absurd rfl h
  | cons b tail ih =>
    cases tail with
    | nil =>
      apply step rfl
      simp only [SkipState.step, List.isEmpty_nil, ite_true]
    | cons b' tail =>
      have head : Skips [b] (.literal (b :: b' :: tail)) stack (.literal (b' :: tail)) stack := by
        apply step rfl
        simp only [SkipState.step, List.isEmpty_cons, ite_true]
        rfl
      exact head.append (ih (List.cons_ne_nil b' tail))

theorem unit {isKey : Bool} {n : Nat} (h : HexUnit bytes n) :
    Skips bytes (.text isKey (.digits [])) stack (.text isKey .plain) stack := by
  obtain ⟨a, b, c, d, rfl, value⟩ := h.digits
  have first : Skips [a] (.text isKey (.digits [])) stack (.text isKey (.digits [a])) stack :=
    step rfl rfl
  have second : Skips [b] (.text isKey (.digits [a])) stack (.text isKey (.digits [b, a]))
      stack := step rfl rfl
  have third : Skips [c] (.text isKey (.digits [b, a])) stack (.text isKey (.digits [c, b, a]))
      stack := step rfl rfl
  have last : Skips [d] (.text isKey (.digits [c, b, a])) stack (.text isKey .plain) stack := by
    apply step rfl
    simp only [SkipState.step, SkipState.textStep, value, Option.isSome_some, ite_true]
    rfl
  exact first.append (second.append (third.append last))

theorem plain {isKey : Bool} (h : ∀ b ∈ bytes, b ≠ quote ∧ b ≠ backslash ∧ ¬ b.toNat < 0x20) :
    Skips bytes (.text isKey .plain) stack (.text isKey .plain) stack := by
  induction bytes with
  | nil => exact nil
  | cons b bytes ih =>
    obtain ⟨noQuote, noBackslash, printable⟩ := h b List.mem_cons_self
    have head : Skips [b] (.text isKey .plain) stack (.text isKey .plain) stack := by
      apply step rfl
      simp only [SkipState.step, SkipState.textStep, if_neg noQuote, if_neg noBackslash,
        if_neg printable]
      rfl
    exact head.append (ih fun b' mem => h b' (List.mem_cons_of_mem b mem))

theorem char {isKey : Bool} {c : Char} (h : CharRendered c bytes) :
    Skips bytes (.text isKey .plain) stack (.text isKey .plain) stack := by
  have mark : Skips [backslash] (.text isKey .plain) stack (.text isKey .escape) stack :=
    step rfl rfl
  have unitMark : Skips [0x75] (.text isKey .escape) stack (.text isKey (.digits [])) stack :=
    step rfl rfl
  cases h with
  | plain printable noQuote noBackslash =>
    exact plain fun b mem => plain_byte printable noQuote noBackslash mem
  | @short value b escape h =>
    obtain ⟨read, notUnit, _⟩ := shortEscape?_of_mem escape
    have code : Skips [b] (.text isKey .escape) stack (.text isKey .plain) stack := by
      apply step rfl
      simp only [SkipState.step, SkipState.textStep, if_neg notUnit, read, Option.isSome_some,
        ite_true]
      rfl
    exact mark.append code
  | unit h => exact mark.append (unitMark.append (unit h))
  | pair hfirst hsecond _ _ _ =>
    exact mark.append (unitMark.append ((unit hfirst).append
      (mark.append (unitMark.append (unit hsecond)))))

theorem chars {isKey : Bool} {cs : List Char} {pieces : List (List UInt8)}
    (h : List.Forall₂ CharRendered cs pieces) :
    Skips pieces.flatten (.text isKey .plain) stack (.text isKey .plain) stack := by
  induction h with
  | nil => exact nil
  | cons head _ ih =>
    rw [List.flatten_cons]
    exact (char head).append ih

theorem string {isKey : Bool} {s : String} (h : StringRendered s bytes) :
    ∃ body, bytes = quote :: body ∧
      Skips body (.text isKey .plain) stack (if isKey then .colon else .after) stack := by
  obtain ⟨pieces, rendered, rfl⟩ := h
  refine ⟨pieces.flatten ++ [quote], rfl, ?_⟩
  have closing : Skips [quote] (.text isKey .plain) stack (if isKey then .colon else .after)
      stack := by
    cases isKey <;> exact step rfl rfl
  exact (chars rendered).append closing

theorem numberByte {stage stage' : NumberStage} (h : stage.next? b = some stage') :
    Skips [b] (.number stage) stack (.number stage') stack := by
  apply step
  · simp only [SkipState.endsBefore, h, Option.isNone_some, Bool.and_false, Bool.false_and]
  · simp only [SkipState.step, h]

/-- Digits after which the number is where it was before them. -/
theorem moreDigits {stage : NumberStage} (ds : List (Fin 10))
    (h : ∀ d, stage.next? (digitByte d) = some stage) :
    Skips (ds.map digitByte) (.number stage) stack (.number stage) stack := by
  induction ds with
  | nil => exact nil
  | cons d ds ih => exact (numberByte (h d)).append ih

theorem someDigits {stage stage' : NumberStage} (ds : Digits)
    (first : ∀ d, stage.next? (digitByte d) = some stage')
    (rest : ∀ d, stage'.next? (digitByte d) = some stage') :
    Skips ds.bytes (.number stage) stack (.number stage') stack :=
  (numberByte (first ds.first)).append (moreDigits ds.rest rest)

theorem exponent (e : Exponent) {stage : NumberStage}
    (h : ∀ b : UInt8, b = 0x65 ∨ b = 0x45 → stage.next? b = some .mark) :
    Skips e.bytes (.number stage) stack (.number .exponent) stack := by
  have more : ∀ d, NumberStage.exponent.next? (digitByte d) = some .exponent := by decide
  have mark : Skips [e.mark] (.number stage) stack (.number .mark) stack :=
    numberByte (h e.mark e.isMark)
  have unsigned : Skips e.digits.bytes (.number .mark) stack (.number .exponent) stack :=
    someDigits e.digits (by decide) more
  have signed : Skips e.digits.bytes (.number .sign) stack (.number .exponent) stack :=
    someDigits e.digits (by decide) more
  cases hs : e.sign with
  | none =>
    have bytes : e.bytes = [e.mark] ++ e.digits.bytes := by
      simp only [Exponent.bytes, hs, Option.toList_none, List.nil_append, List.cons_append]
    rw [bytes]
    exact mark.append unsigned
  | some b =>
    have sign : Skips [b] (.number .mark) stack (.number .sign) stack := by
      rcases e.isSign b hs with rfl | rfl <;> exact numberByte rfl
    have bytes : e.bytes = [e.mark] ++ ([b] ++ e.digits.bytes) := by
      simp only [Exponent.bytes, hs, Option.toList_some, List.cons_append, List.nil_append]
    rw [bytes]
    exact mark.append (sign.append signed)

theorem numberTail (n : Literal) (stack : List Bracket) {stage : NumberStage}
    (complete : stage.complete = true) (toPoint : stage.next? point = some .point)
    (toMark : ∀ b : UInt8, b = 0x65 ∨ b = 0x45 → stage.next? b = some .mark) :
    ∃ stage', stage'.complete = true ∧
      Skips n.tail (.number stage) stack (.number stage') stack := by
  unfold Literal.tail
  cases n.fraction with
  | none =>
    cases n.exponent with
    | none => exact ⟨stage, complete, nil⟩
    | some e => exact ⟨.exponent, rfl, exponent e toMark⟩
  | some ds =>
    have dot : Skips [point] (.number stage) stack (.number .point) stack := numberByte toPoint
    have digits : Skips ds.bytes (.number .point) stack (.number .fraction) stack :=
      someDigits ds (by decide) (by decide)
    have fraction := dot.append digits
    cases n.exponent with
    | none =>
      refine ⟨.fraction, rfl, ?_⟩
      simp only [Option.elim_some, Option.elim_none, List.append_nil]
      exact fraction
    | some e =>
      refine ⟨.exponent, rfl, fraction.append (exponent e ?_)⟩
      rintro b (rfl | rfl) <;> rfl

theorem whole (n : Literal) (stack : List Bracket) : ∃ stage, stage.complete = true ∧
    stage.next? point = some .point ∧
    (∀ b : UInt8, b = 0x65 ∨ b = 0x45 → stage.next? b = some .mark) ∧
    Skips n.whole.bytes (.number .minus) stack (.number stage) stack := by
  by_cases zero : n.whole.first = 0
  · refine ⟨.zero, rfl, rfl, ?_, ?_⟩
    · rintro b (rfl | rfl) <;> rfl
    · rw [Digits.bytes, n.noLeadingZero zero, zero]
      exact numberByte rfl
  · refine ⟨.digits, rfl, rfl, ?_, ?_⟩
    · rintro b (rfl | rfl) <;> rfl
    · have first : ∀ d : Fin 10, d ≠ 0 →
          NumberStage.minus.next? (digitByte d) = some .digits := by decide
      exact (numberByte (first n.whole.first zero)).append (moreDigits n.whole.rest (by decide))

end Skips

theorem NumberStage.next?_delimiter {stage : NumberStage} (complete : stage.complete = true)
    {b : UInt8} (h : isSpace b = true ∨ b = comma ∨ b = closeBracket ∨ b = closeBrace) :
    stage.next? b = none := by
  obtain ⟨noDigit, noPoint, small, capital⟩ := delimiter_not_in_number h
  have noMark : (b == 0x65 || b == 0x45) = false := by
    simp only [Bool.or_eq_false_iff, beq_eq_false_iff_ne]
    exact ⟨small, capital⟩
  cases stage with
  | zero => simp only [NumberStage.next?, if_neg noPoint, noMark, Bool.false_eq_true, ite_false]
  | digits =>
    simp only [NumberStage.next?, if_neg noPoint, noMark, noDigit, Option.isSome_none,
      Bool.false_eq_true, ite_false]
  | fraction =>
    simp only [NumberStage.next?, noMark, noDigit, Option.isSome_none, Bool.false_eq_true,
      ite_false]
  | exponent =>
    simp only [NumberStage.next?, noDigit, Option.isSome_none, Bool.false_eq_true, ite_false]
  | minus => cases complete
  | point => cases complete
  | mark => cases complete
  | sign => cases complete

/-- A complete number has ended if nothing that belongs to it follows. -/
theorem skipFrom_number {stage : NumberStage} (complete : stage.complete = true)
    {rest : List UInt8} (h : Delimited rest) (p : Position) (stack : List Bracket) :
    skipFrom rest p (.number stage) stack = skipFrom rest p .after stack := by
  cases rest with
  | nil =>
    have same : SkipState.atEnd (.number stage) stack = SkipState.atEnd .after stack := by
      simp only [SkipState.atEnd, complete, ite_true]
    unfold skipFrom
    rw [same]
  | cons b rest =>
    have noMore := NumberStage.next?_delimiter complete (h b rfl)
    have noDigit := (delimiter_not_in_number (h b rfl)).1
    have ends : SkipState.endsBefore (.number stage) b = SkipState.endsBefore .after b := by
      simp only [SkipState.endsBefore, complete, noMore, noDigit, Option.isNone_none,
        Option.isSome_none, Bool.and_true, Bool.and_false, Bool.not_false]
    have step : SkipState.step (.number stage) stack b = SkipState.step .after stack b := by
      simp only [SkipState.step, noMore, noDigit, complete, Option.isSome_none, Bool.false_eq_true,
        and_false, ite_false, ite_true]
    rw [skipFrom, skipFrom, ends, step]

def Part.entry : Part → SkipState
  | value _ | element _ | elements _ => .value
  | member .. | members _ => .key

def Part.Fits : Part → List Bracket → Prop
  | value _, _ => True
  | element _, stack => stack ≠ []
  | elements _, stack => stack.head? = some .list
  | member .., stack => stack.head? = some .object
  | members _, stack => stack.head? = some .object

def Part.Skipped (part : Part) (bytes : List UInt8) : Prop :=
  ∀ stack, part.Fits stack → ∀ rest p, Delimited rest →
    ∃ p', skipFrom (bytes ++ rest) p part.entry stack = skipFrom rest p' .after stack

theorem Skips.skipped {bytes : List UInt8} {v : Tree}
    (h : ∀ stack, Skips bytes .value stack .after stack) : (Part.value v).Skipped bytes :=
  fun stack _ rest p _ => h stack rest p

theorem skipFrom_digit (d : Fin 10) (rest : List UInt8) (p : Position) (stack : List Bracket) :
    skipFrom (digitByte d :: rest) p .value stack =
      skipFrom (digitByte d :: rest) p (.number .minus) stack := by
  have other : ∀ d : Fin 10, isSpace (digitByte d) = false ∧ digitByte d ≠ quote ∧
      digitByte d ≠ openBracket ∧ digitByte d ≠ openBrace ∧ digitByte d ≠ 0x6E ∧
      digitByte d ≠ 0x74 ∧ digitByte d ≠ 0x66 ∧ digitByte d ≠ minus := by decide
  obtain ⟨noSpace, noQuote, noBracket, noBrace, noNull, noTrue, noFalse, noMinus⟩ := other d
  have next : ∀ d : Fin 10, (NumberStage.minus.next? (digitByte d)).isSome = true := by decide
  obtain ⟨stage, next⟩ := Option.isSome_iff_exists.1 (next d)
  have inside : SkipState.endsBefore (.number .minus) (digitByte d) = false := rfl
  have step : SkipState.step .value stack (digitByte d) =
      SkipState.step (.number .minus) stack (digitByte d) := by
    simp only [SkipState.step, SkipState.start, noSpace, if_neg noQuote, if_neg noBracket,
      if_neg noBrace, if_neg noNull, if_neg noTrue, if_neg noFalse, if_neg noMinus, next,
      Bool.false_eq_true, ite_false]
  rw [skipFrom, skipFrom, inside, step]
  rfl

theorem Skips.number (n : Literal) (stack : List Bracket) : ∃ stage, stage.complete = true ∧
    Skips n.bytes .value stack (.number stage) stack := by
  obtain ⟨middle, complete, toPoint, toMark, whole⟩ := Skips.whole n stack
  obtain ⟨stage, complete, tail⟩ := Skips.numberTail n stack complete toPoint toMark
  refine ⟨stage, complete, ?_⟩
  have unsigned := whole.append tail
  unfold Literal.bytes
  cases n.negative with
  | true =>
    have sign : Skips [minus] .value stack (.number .minus) stack := step rfl rfl
    exact sign.append unsigned
  | false =>
    intro rest p
    obtain ⟨p', skipped⟩ := unsigned rest p
    exact ⟨p', (skipFrom_digit n.whole.first _ p stack).trans skipped⟩

theorem Delimited.cons {b : UInt8}
    (h : isSpace b = true ∨ b = comma ∨ b = closeBracket ∨ b = closeBrace) (rest : List UInt8) :
    Delimited (b :: rest) := by
  intro b' head
  cases head
  exact h

theorem Renders.elements_head {vs : List Tree} {bytes : List UInt8}
    (h : Renders (.elements vs) bytes) : ∃ pre b rest, Blank pre ∧ bytes = pre ++ b :: rest ∧
      isSpace b = false ∧ b ≠ closeBracket := by
  have element {v : Tree} {bytes : List UInt8} (h : Renders (.element v) bytes) :
      ∃ pre b rest, Blank pre ∧ bytes = pre ++ b :: rest ∧ isSpace b = false ∧
        b ≠ closeBracket := by
    cases h with
    | @element _ pre _ post before h after =>
      obtain ⟨b, rest, rfl, starts⟩ := h.starts
      exact ⟨pre, b, rest ++ post, before, by rw [List.append_assoc]; rfl, starts.token⟩
  cases h with
  | lastElement h => exact element h
  | elements head tail =>
    obtain ⟨pre, b, rest, blank, rfl, others⟩ := element head
    exact ⟨pre, b, _, blank, by rw [List.append_assoc]; rfl, others⟩

theorem Renders.members_head {ms : List (String × Tree)} {bytes : List UInt8}
    (h : Renders (.members ms) bytes) :
    ∃ pre rest, Blank pre ∧ bytes = pre ++ quote :: rest := by
  have member {name : String} {v : Tree} {bytes : List UInt8}
      (h : Renders (.member name v) bytes) :
      ∃ pre rest, Blank pre ∧ bytes = pre ++ quote :: rest := by
    cases h with
    | @member _ _ pre _ _ _ before hkey after h =>
      obtain ⟨pieces, _, rfl⟩ := hkey
      exact ⟨pre, _, before, by rw [List.append_assoc, List.append_assoc]; rfl⟩
  cases h with
  | lastMember h => exact member h
  | members head tail =>
    obtain ⟨pre, rest, blank, rfl⟩ := member head
    exact ⟨pre, _, blank, by rw [List.append_assoc]; rfl⟩

/-- Two states that do the same at the next token do the same from the blanks before it on. -/
theorem skipFrom_awaits (state later : SkipState) (awaits : state.Awaits) (awaits' : later.Awaits)
    {pre : List UInt8} (blank : Blank pre) {stack : List Bracket} {b : UInt8}
    (same : state.step stack b = later.step stack b) (rest : List UInt8) (p : Position) :
    skipFrom (pre ++ b :: rest) p state stack = skipFrom (pre ++ b :: rest) p later stack := by
  induction pre generalizing p with
  | nil => rw [List.nil_append, skipFrom, skipFrom, awaits.inside, awaits'.inside, same]
  | cons b' pre ih =>
    have space := blank b' List.mem_cons_self
    have further := ih (fun b mem => blank b (List.mem_cons_of_mem b' mem)) (p.after b')
    rw [List.cons_append, skipFrom, skipFrom, awaits.inside, awaits'.inside,
      awaits.stays stack space, awaits'.stays stack space]
    simp only [Bool.and_false, Bool.false_eq_true, ite_false]
    exact further

/-- A list or an object with something in it: what is passed over inside of the brackets is passed
over with them. The state after the opening bracket may differ from the one before what is inside
of it in that it allows the closing bracket as well. -/
theorem enclosed_skipped {v : Tree} {bytes : List UInt8} {opener closer : UInt8} {k : Bracket}
    {first later : SkipState} (opening : ∀ stack, Skips [opener] .value stack first (k :: stack))
    (closing : ∀ stack, Skips [closer] .after (k :: stack) .after stack)
    (delimiter : isSpace closer = true ∨ closer = comma ∨ closer = closeBracket ∨
      closer = closeBrace)
    (entering : ∀ rest p stack,
      skipFrom (bytes ++ rest) p first stack = skipFrom (bytes ++ rest) p later stack)
    (inside : ∀ stack rest p, Delimited rest → ∃ p',
      skipFrom (bytes ++ rest) p later (k :: stack) = skipFrom rest p' .after (k :: stack)) :
    (Part.value v).Skipped (opener :: bytes ++ [closer]) := by
  intro stack _ rest p _
  obtain ⟨p₁, h₁⟩ := opening stack (bytes ++ closer :: rest) p
  obtain ⟨p₂, h₂⟩ := inside stack (closer :: rest) p₁ (.cons delimiter rest)
  obtain ⟨p₃, h₃⟩ := closing stack rest p₂
  refine ⟨p₃, ?_⟩
  rw [List.append_assoc]
  exact h₁.trans ((entering _ p₁ _).trans (h₂.trans h₃))

theorem array_skipped {vs : List Tree} {bytes : List UInt8} (h : Renders (.elements vs) bytes)
    (inside : (Part.elements vs).Skipped bytes) :
    (Part.value (.array vs)).Skipped (openBracket :: bytes ++ [closeBracket]) := by
  obtain ⟨pre, b, others, blank, head, noSpace, notClosing⟩ := h.elements_head
  have same (stack : List Bracket) :
      SkipState.step .firstElement stack b = SkipState.step .value stack b := by
    simp only [SkipState.step, noSpace, Bool.false_eq_true, ite_false, if_neg notClosing]
  have entering (rest : List UInt8) (p : Position) (stack : List Bracket) :
      skipFrom (bytes ++ rest) p .firstElement stack = skipFrom (bytes ++ rest) p .value stack := by
    rw [head, List.append_assoc]
    exact skipFrom_awaits .firstElement .value trivial trivial blank (same stack) _ p
  exact enclosed_skipped (fun _ => .step rfl rfl) (fun _ => .byte rfl rfl) (by decide) entering
    fun stack => inside (.list :: stack) rfl

theorem object_skipped {ms ms' : List (String × Tree)} {bytes : List UInt8}
    (h : Renders (.members ms') bytes) (inside : (Part.members ms').Skipped bytes) :
    (Part.value (.object ms)).Skipped (openBrace :: bytes ++ [closeBrace]) := by
  obtain ⟨pre, others, blank, head⟩ := h.members_head
  have entering (rest : List UInt8) (p : Position) (stack : List Bracket) :
      skipFrom (bytes ++ rest) p .firstKey stack = skipFrom (bytes ++ rest) p .key stack := by
    rw [head, List.append_assoc]
    exact skipFrom_awaits .firstKey .key trivial trivial blank rfl _ p
  exact enclosed_skipped (fun _ => .step rfl rfl) (fun _ => .byte rfl rfl) (by decide) entering
    fun stack => inside (.object :: stack) rfl

theorem Skips.emptyBrackets {blank : List UInt8} (h : Blank blank) {opener closer : UInt8}
    {k : Bracket} (first : SkipState) (awaits : first.Awaits) {stack : List Bracket}
    (opening : Skips [opener] .value stack first (k :: stack))
    (closing : Skips [closer] first (k :: stack) .after stack) :
    Skips (opener :: blank ++ [closer]) .value stack .after stack :=
  opening.append ((Skips.awaitingBlank first awaits h).append closing)

theorem element_skipped {v : Tree} {pre bytes post : List UInt8} (before : Blank pre)
    (after : Blank post) (inside : (Part.value v).Skipped bytes) :
    (Part.element v).Skipped (pre ++ bytes ++ post) := by
  intro stack nonempty rest p delimited
  obtain ⟨k, outer, rfl⟩ := List.exists_cons_of_ne_nil nonempty
  obtain ⟨p₁, h₁⟩ := Skips.awaitingBlank .value trivial before (bytes ++ (post ++ rest)) p
  obtain ⟨p₂, h₂⟩ := inside (k :: outer) trivial (post ++ rest) p₁ (after.delimited delimited)
  obtain ⟨p₃, h₃⟩ := Skips.afterBlank after rest p₂
  refine ⟨p₃, ?_⟩
  rw [List.append_assoc, List.append_assoc]
  exact h₁.trans (h₂.trans h₃)

theorem member_skipped {name : String} {v : Tree} {pre key post bytes : List UInt8}
    (before : Blank pre) (hkey : StringRendered name key) (after : Blank post)
    (inside : (Part.element v).Skipped bytes) :
    (Part.member name v).Skipped (pre ++ key ++ post ++ colon :: bytes) := by
  intro stack head rest p delimited
  obtain ⟨outer, rfl⟩ : ∃ outer, stack = .object :: outer := List.head?_eq_some_iff.1 head
  obtain ⟨body, rfl, text⟩ : ∃ body, key = quote :: body ∧
      Skips body (.text true .plain) (.object :: outer) .colon (.object :: outer) :=
    Skips.string hkey
  have opening : Skips [quote] .key (.object :: outer) (.text true .plain) (.object :: outer) :=
    Skips.step rfl rfl
  have colon : Skips [Ascii.colon] .colon (.object :: outer) .value (.object :: outer) :=
    Skips.step rfl rfl
  have front := (Skips.awaitingBlank .key trivial before).append
    (opening.append (text.append ((Skips.awaitingBlank .colon trivial after).append colon)))
  obtain ⟨p₁, h₁⟩ := front (bytes ++ rest) p
  obtain ⟨p₂, h₂⟩ := inside _ (List.cons_ne_nil _ _) rest p₁ delimited
  refine ⟨p₂, ?_⟩
  have bytes_eq : pre ++ (quote :: body) ++ post ++ Ascii.colon :: bytes ++ rest =
      pre ++ ([quote] ++ (body ++ (post ++ [Ascii.colon]))) ++ (bytes ++ rest) := by
    simp only [List.append_assoc, List.cons_append, List.nil_append]
  rw [bytes_eq]
  exact h₁.trans h₂

theorem list_skipped {bytes rest : List UInt8} {k : Bracket} {outer : List Bracket}
    {state : SkipState} {p : Position} {others : List UInt8}
    (first : ∀ rest p, Delimited rest → ∃ p', skipFrom (bytes ++ rest) p state (k :: outer) =
      skipFrom rest p' .after (k :: outer))
    (separator : Skips [comma] .after (k :: outer) state (k :: outer))
    (later : ∀ p, ∃ p', skipFrom (others ++ rest) p state (k :: outer) =
      skipFrom rest p' .after (k :: outer)) :
    ∃ p', skipFrom (bytes ++ comma :: others ++ rest) p state (k :: outer) =
      skipFrom rest p' .after (k :: outer) := by
  obtain ⟨p₁, h₁⟩ := first (comma :: others ++ rest) p (.cons (by decide) _)
  obtain ⟨p₂, h₂⟩ := separator (others ++ rest) p₁
  obtain ⟨p₃, h₃⟩ := later p₂
  refine ⟨p₃, ?_⟩
  rw [List.append_assoc]
  exact h₁.trans (h₂.trans h₃)

theorem Renders.skipped {part : Part} {bytes : List UInt8} (h : Renders part bytes) :
    part.Skipped bytes := by
  -- the stack of brackets is arbitrary, which takes the induction to any depth; a number has no end
  -- of its own, which is why what follows must be delimited
  induction h with
  | nullWord =>
    apply Skips.skipped
    intro stack
    have first : Skips [0x6E] .value stack (.literal nullTail) stack := Skips.step rfl rfl
    exact first.append (Skips.literal (by decide))
  | trueWord =>
    apply Skips.skipped
    intro stack
    have first : Skips [0x74] .value stack (.literal trueTail) stack := Skips.step rfl rfl
    exact first.append (Skips.literal (by decide))
  | falseWord =>
    apply Skips.skipped
    intro stack
    have first : Skips [0x66] .value stack (.literal falseTail) stack := Skips.step rfl rfl
    exact first.append (Skips.literal (by decide))
  | number n =>
    intro stack _ rest p delimited
    obtain ⟨stage, complete, number⟩ := Skips.number n stack
    obtain ⟨p', skipped⟩ := number rest p
    exact ⟨p', skipped.trans (skipFrom_number complete delimited p' stack)⟩
  | @string s bytes h =>
    apply Skips.skipped
    intro stack
    obtain ⟨body, rfl, text⟩ : ∃ body, bytes = quote :: body ∧
        Skips body (.text false .plain) stack .after stack := Skips.string h
    have opening : Skips [quote] .value stack (.text false .plain) stack := Skips.step rfl rfl
    exact opening.append text
  | emptyArray blank =>
    apply Skips.skipped
    intro stack
    exact Skips.emptyBrackets blank .firstElement trivial (.step rfl rfl) (.step rfl rfl)
  | array h ih => exact array_skipped h ih
  | emptyObject blank =>
    apply Skips.skipped
    intro stack
    exact Skips.emptyBrackets blank .firstKey trivial (.step rfl rfl) (.step rfl rfl)
  | object _ h ih => exact object_skipped h ih
  | element before _ after ih => exact element_skipped before after ih
  | lastElement h ih =>
    intro stack inside
    apply ih
    rintro rfl
    cases inside
  | elements head tail ihHead ihTail =>
    intro stack inside rest p delimited
    obtain ⟨outer, rfl⟩ : ∃ outer, stack = .list :: outer := List.head?_eq_some_iff.1 inside
    exact list_skipped (ihHead _ (List.cons_ne_nil _ _)) (Skips.byte rfl rfl)
      fun p => ihTail (.list :: outer) rfl rest p delimited
  | member before hkey after _ ih => exact member_skipped before hkey after ih
  | lastMember h ih => exact ih
  | members head tail ihHead ihTail =>
    intro stack inside rest p delimited
    obtain ⟨outer, rfl⟩ : ∃ outer, stack = .object :: outer := List.head?_eq_some_iff.1 inside
    exact list_skipped (ihHead _ rfl) (Skips.byte rfl rfl)
      fun p => ihTail (.object :: outer) rfl rest p delimited

theorem skipValue_rendered {v : Tree} {pre bytes rest : List UInt8} (before : Blank pre)
    (h : Renders (.value v) bytes) (delimited : Delimited rest) (p : Position) :
    ∃ p', skipValue ⟨pre ++ bytes ++ rest, p⟩ = .ok ⟨rest, p'⟩ := by
  obtain ⟨p₁, h₁⟩ := Skips.awaitingBlank .value trivial before (bytes ++ rest) p
  obtain ⟨p₂, h₂⟩ := h.skipped [] trivial rest p₁ delimited
  refine ⟨p₂, ?_⟩
  have ended : skipFrom rest p₂ .after [] = .ok ⟨rest, p₂⟩ := by
    cases rest <;> rfl
  change skipFrom (pre ++ bytes ++ rest) p .value [] = _
  rw [List.append_assoc]
  exact h₁.trans (h₂.trans ended)

end Almanac.Json
