import Almanac.Proofs.Settings.Spelling
import Mathlib

set_option autoImplicit false

namespace Almanac

theorem bind_eq_ok {ε α β : Type} {x : Except ε α} {f : α → Except ε β} {b : β} :
    (x >>= f) = .ok b ↔ ∃ a, x = .ok a ∧ f a = .ok b := by
  cases x <;> simp [Bind.bind, Except.bind]

namespace Scan

def giveAll (draft : Settings.Draft) (given : List (Setting × String)) :
    Except Stop Settings.Draft :=
  given.foldlM (fun draft g => give draft g.1 g.2) draft

variable {scan scan' : Scan} {setting : Setting} {value word next : String}

section Steps

variable (going : scan.ended = false)

include going

theorem step_long {name : Option String}
    (form : Argument.ofString word = .long setting.description.long name) :
    scan.step word = scan.option setting name := by
  have found : Setting.ofLong? setting.description.long = some setting := Setting.ofLong?_iff.2 rfl
  simp only [step, going, form, found]
  rfl

theorem step_short {rest : List Char}
    (chars : word.toList = '-' :: setting.description.short :: rest) :
    scan.step word = scan.option setting (attached? rest) := by
  have form := Argument.ofString_short chars setting.short_ne_hyphen
  have found : Setting.ofShort? setting.description.short = some setting :=
    Setting.ofShort?_iff.2 rfl
  simp only [step, going, form, found]
  rfl

theorem step_attached (h : Spelling setting value [word]) :
    scan.step word = scan.option setting (some value) := by
  cases h with
  | longAttached =>
    have chars : ("--" ++ setting.description.long ++ "=" ++ value).toList =
        '-' :: '-' :: (setting.description.long.toList ++ '=' :: value.toList) := by simp
    have form := Argument.ofString_long chars setting.long_ne_nil setting.long_clear (by simp)
    exact step_long going (by simpa using form)
  | shortAttached nonempty other =>
    have chars : ("-" ++ String.singleton setting.description.short ++ value).toList =
        '-' :: setting.description.short :: value.toList := by simp
    rw [step_short going chars, attached?_toList nonempty other]
  | shortEquals =>
    have chars : ("-" ++ String.singleton setting.description.short ++ "=" ++ value).toList =
        '-' :: setting.description.short :: '=' :: value.toList := by simp
    rw [step_short going chars, attached?_equals]

theorem step_separate (h : Spelling setting value [word, next]) :
    next = value ∧ Argument.IsPlain value ∧ scan.step word = scan.option setting none := by
  cases h with
  | long plain =>
    have chars : ("--" ++ setting.description.long).toList =
        '-' :: '-' :: (setting.description.long.toList ++ []) := by simp
    have form := Argument.ofString_long chars setting.long_ne_nil setting.long_clear (by simp)
    exact ⟨rfl, plain, step_long going (by simpa using form)⟩
  | short plain =>
    have chars : ("-" ++ String.singleton setting.description.short).toList =
        ['-', setting.description.short] := by simp
    exact ⟨rfl, plain, step_short going chars⟩

theorem step_terminator : scan.step "--" = .ok { scan with ended := true } := by
  simp only [step, going]
  rfl

end Steps

theorem step_value (draft : Settings.Draft) (setting : Setting)
    (plain : Argument.IsPlain value) :
    step ⟨draft, some (setting, none), false⟩ value =
      .ok ⟨draft, some (setting, some value), false⟩ := by
  simp only [step, Argument.ofString_plain plain]
  rfl

theorem giveAll_cons (draft : Settings.Draft) (setting : Setting) (value : String)
    (given : List (Setting × String)) : giveAll draft ((setting, value) :: given) =
      give draft setting value >>= fun draft => giveAll draft given :=
  List.foldlM_cons

/-- The spelling of the settings that are given makes no difference. -/
theorem settle_spelled {arguments : List String} {given : List (Setting × String)}
    (h : Spells arguments given) (scan : Scan) (going : scan.ended = false) :
    (arguments.foldlM step scan >>= settle) = scan.settle >>= fun draft => giveAll draft given := by
  induction h generalizing scan with
  | nil => simp only [List.foldlM_nil, pure_bind, giveAll, bind_pure]
  | terminator =>
    rw [List.foldlM_cons, step_terminator going]
    simp only [giveAll, List.foldlM_nil, bind_pure]
    rfl
  | @cons setting value words rest given spelling others ih =>
    simp only [giveAll_cons]
    rcases spelling.words_cases with ⟨word, rfl⟩ | ⟨word, rfl⟩
    · -- the value is given with the option
      calc
        _ = scan.step word >>= fun scan => rest.foldlM step scan >>= settle := by
          simp only [List.cons_append, List.nil_append, List.foldlM_cons, bind_assoc]
        _ = scan.settle >>= fun draft => give draft setting value >>= fun draft =>
              rest.foldlM step ⟨draft, none, false⟩ >>= settle := by
          rw [step_attached going spelling]
          simp only [option, bind_assoc, pure_bind]
        _ = _ := bind_congr fun _ => bind_congr fun draft => ih ⟨draft, none, false⟩ rfl
    · -- the value is settled when what follows it begins
      obtain ⟨_, plain, stepped⟩ := step_separate going spelling
      calc
        _ = scan.step word >>= fun scan => scan.step value >>= fun scan =>
              rest.foldlM step scan >>= settle := by
          simp only [List.cons_append, List.nil_append, List.foldlM_cons, bind_assoc]
        _ = scan.settle >>= fun draft =>
              rest.foldlM step ⟨draft, some (setting, some value), false⟩ >>= settle := by
          rw [stepped]
          simp only [option, bind_assoc, pure_bind, step_value _ _ plain]
          rfl
        _ = _ := bind_congr fun draft => ih ⟨draft, some (setting, some value), false⟩ rfl

def awaits? (scan : Scan) : Option Setting :=
  match scan.pending with
  | some (setting, none) => some setting
  | _ => none

theorem awaits?_of_settle {draft : Settings.Draft} (h : scan.settle = .ok draft) :
    scan.awaits? = none := by
  unfold settle at h
  unfold awaits?
  split at h
  · simp [*]
  · cases h
  · simp [*]

/-- What one argument does to the arguments read so far. -/
inductive Takes (scan : Scan) (argument : String) : Scan → Prop where
  | terminator (closing : argument = "--") : Takes scan argument { scan with ended := true }
  | given {setting : Setting} {value : String} {before after : Settings.Draft}
    (spelling : Spelling setting value [argument]) (settled : scan.settle = .ok before)
    (read : give before setting value = .ok after) : Takes scan argument ⟨after, none, false⟩
  | opened {setting : Setting} {draft : Settings.Draft}
    (spelling : ∀ value, Argument.IsPlain value → Spelling setting value [argument, value])
    (settled : scan.settle = .ok draft) :
    Takes scan argument ⟨draft, some (setting, none), false⟩
  | value {setting : Setting} (due : scan.pending = some (setting, none))
    (plain : Argument.IsPlain argument) :
    Takes scan argument { scan with pending := some (setting, some argument) }

theorem takes_of_option {argument : String} {value : Option String}
    (announced : Announces argument setting value) (h : scan.option setting value = .ok scan') :
    Takes scan argument scan' := by
  obtain ⟨draft, settled, rest⟩ := bind_eq_ok.1 h
  cases value with
  | some value =>
    obtain ⟨draft, read, done⟩ := bind_eq_ok.1 rest
    cases done
    exact .given announced settled read
  | none =>
    cases rest
    exact .opened announced settled

theorem not_notice {α : Type} {notice : Notice} {a : α} : scan.notice notice ≠ .ok a := by
  intro h
  obtain ⟨draft, _, refused⟩ := bind_eq_ok.1 h
  cases refused

theorem takes_of_step {argument : String} (h : scan.step argument = .ok scan') :
    scan.ended = false ∧ Takes scan argument scan' := by
  unfold step at h
  split at h
  · cases h
  · rename_i going
    refine ⟨Bool.eq_false_iff.2 going, ?_⟩
    cases form : Argument.ofString argument with
    | terminator =>
      have written := Argument.text_ofString argument
      rw [form] at h written
      cases h
      exact .terminator written.symm
    | long name value =>
      rw [form] at h
      cases found : Setting.ofLong? name with
      | some setting =>
        obtain rfl := Setting.ofLong?_iff.1 found
        simp only [found] at h
        exact takes_of_option (announces_long form) h
      | none =>
        simp only [found] at h
        cases note : Notice.ofLong? name with
        | none =>
          rw [note] at h
          cases h
        | some notice =>
          rw [note] at h
          cases value with
          | none => exact absurd h not_notice
          | some value => cases h
    | short flag rest =>
      rw [form] at h
      cases found : Setting.ofShort? flag with
      | some setting =>
        obtain rfl := Setting.ofShort?_iff.1 found
        simp only [found] at h
        exact takes_of_option (announces_short form) h
      | none =>
        simp only [found] at h
        cases note : Notice.ofShort? flag with
        | none =>
          rw [note] at h
          cases h
        | some notice =>
          rw [note] at h
          exact absurd h not_notice
    | plain text =>
      obtain ⟨rfl, plain⟩ := Argument.isPlain_of_ofString form
      rw [form] at h
      simp only at h
      split at h
      · rename_i due
        cases h
        exact .value due plain
      · cases h

/-- Whether arguments bring the value that is due, if one is, and then spell settings. -/
def Completes (due : Option Setting) (arguments : List String) : Prop :=
  match due with
  | none => ∃ given, Spells arguments given
  | some _ => ∃ value rest given,
      arguments = value :: rest ∧ Argument.IsPlain value ∧ Spells rest given

theorem continues_of_settled {arguments : List String} {scan : Scan} {draft : Settings.Draft}
    (h : (arguments.foldlM step scan >>= settle) = .ok draft) :
    (scan.ended = true → arguments = []) ∧ Completes scan.awaits? arguments := by
  induction arguments generalizing scan with
  | nil =>
    refine ⟨fun _ => rfl, ?_⟩
    rw [awaits?_of_settle h]
    exact ⟨[], .nil⟩
  | cons argument rest ih =>
    rw [List.foldlM_cons, bind_assoc] at h
    obtain ⟨scan', stepped, h⟩ := bind_eq_ok.1 h
    obtain ⟨going, takes⟩ := takes_of_step stepped
    obtain ⟨closed, continued⟩ := ih h
    refine ⟨fun ended => absurd (going.symm.trans ended) Bool.false_ne_true, ?_⟩
    cases takes with
    | terminator closing =>
      obtain rfl := closed rfl
      change Completes scan.awaits? [] at continued
      cases due : scan.awaits? with
      | none =>
        rw [closing]
        exact ⟨[], .terminator⟩
      | some setting =>
        rw [due] at continued
        obtain ⟨value, rest, given, more, _⟩ := continued
        cases more
    | given spelling settled read =>
      obtain ⟨given, others⟩ := continued
      rw [awaits?_of_settle settled]
      exact ⟨_, .cons spelling others⟩
    | opened spelling settled =>
      obtain ⟨value, rest, given, rfl, plain, others⟩ := continued
      rw [awaits?_of_settle settled]
      exact ⟨_, .cons (spelling value plain) others⟩
    | @value setting due plain =>
      obtain ⟨given, others⟩ := continued
      have waiting : scan.awaits? = some setting := by
        unfold awaits?
        rw [due]
      rw [waiting]
      exact ⟨argument, rest, given, rfl, plain, others⟩

end Scan

namespace Settings

variable {environment : Environment} {arguments : List String}

/-- Settings come from command lines with a spelling only. -/
theorem spelled_of_read {settings : Settings} (h : read environment arguments = .ok settings) :
    ∃ given, Spells arguments.tail given := by
  unfold read at h
  obtain ⟨scan, scanned, h⟩ := bind_eq_ok.1 h
  obtain ⟨draft, settled, _⟩ := bind_eq_ok.1 h
  exact (Scan.continues_of_settled (bind_eq_ok.2 ⟨scan, scanned, settled⟩)).2

theorem read_spelled {given : List (Setting × String)} (h : Spells arguments.tail given) :
    read environment arguments = (do
      let draft ← Scan.giveAll .empty given
      let draft ← Setting.all.foldlM (Scan.complete environment) draft
      pure draft.finish) := by
  have settled := Scan.settle_spelled h .start rfl
  simp only [read, ← bind_assoc, settled]
  rfl

end Settings

end Almanac
