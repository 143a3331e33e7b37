import Almanac.Proofs.Settings.Reading
import Almanac.Startup.Basic
import Mathlib

set_option autoImplicit false

namespace Almanac

def TlsFile.setting : TlsFile → Setting
  | key => .keyFile
  | cert => .certFile

theorem TlsFile.forall_iff {p : TlsFile → Prop} : (∀ file, p file) ↔ p .key ∧ p .cert :=
  ⟨fun h => ⟨h .key, h .cert⟩, fun h file => by cases file; exacts [h.1, h.2]⟩

theorem mapError_eq_ok {ε ε' α : Type} {x : Except ε α} {f : ε → ε'} {a : α} :
    x.mapError f = .ok a ↔ x = .ok a := by
  cases x <;> simp [Except.mapError]

namespace Settings

def path (settings : Settings) : TlsFile → Option String
  | .key => settings.keyFile
  | .cert => settings.certFile

namespace Draft

variable {draft draft' : Draft} {setting : Setting} {value : String}

def path (draft : Draft) : TlsFile → Option String
  | .key => draft.keyFile
  | .cert => draft.certFile

@[simp] theorem path_empty (file : TlsFile) : empty.path file = none := by
  cases file <;> rfl

theorem path_finish (draft : Draft) (file : TlsFile) :
    draft.finish.path file = draft.path file := by
  cases file <;> rfl

theorem isGiven_setting (draft : Draft) (file : TlsFile) :
    draft.isGiven file.setting = (draft.path file).isSome := by
  cases file <;> rfl

theorem put_path (h : draft.put setting value = .ok draft') (file : TlsFile) :
    draft'.path file = if setting = file.setting then some value else draft.path file := by
  cases setting with
  | address =>
    simp only [put] at h
    split at h
    · cases h
      cases file <;> rfl
    · cases h
  | port =>
    obtain ⟨n, _, done⟩ := bind_eq_ok.1 h
    cases done
    cases file <;> rfl
  | keyFile =>
    cases h
    cases file <;> rfl
  | certFile =>
    cases h
    cases file <;> rfl
  | seed =>
    obtain ⟨n, _, done⟩ := bind_eq_ok.1 h
    cases done
    cases file <;> rfl
  | limit =>
    obtain ⟨n, _, done⟩ := bind_eq_ok.1 h
    cases done
    cases file <;> rfl

end Draft

end Settings

namespace Scan

variable {draft draft' : Settings.Draft} {environment : Environment}

theorem give_cases {setting : Setting} {value : String}
    (h : give draft setting value = .ok draft') :
    draft.isGiven setting = false ∧ draft.put setting value = .ok draft' := by
  unfold give at h
  split at h
  · cases h
  · rename_i fresh
    exact ⟨Bool.eq_false_iff.2 fresh, mapError_eq_ok.1 h⟩

/-- A path that is there already stays, as its option is not read again. -/
theorem give_path {setting : Setting} {value : String} (h : give draft setting value = .ok draft')
    (file : TlsFile) : draft'.path file =
      (draft.path file).or (if setting = file.setting then some value else none) := by
  obtain ⟨fresh, read⟩ := give_cases h
  rw [Settings.Draft.put_path read file]
  by_cases own : setting = file.setting
  · rw [own, Settings.Draft.isGiven_setting, Option.isSome_eq_false_iff,
      Option.isNone_iff_eq_none] at fresh
    rw [if_pos own, if_pos own, fresh, Option.none_or]
  · rw [if_neg own, if_neg own, Option.or_none]

theorem giveAll_path {given : List (Setting × String)} (h : giveAll draft given = .ok draft')
    (file : TlsFile) : draft'.path file = (draft.path file).or (given.lookup file.setting) := by
  induction given generalizing draft with
  | nil =>
    cases h
    rw [List.lookup_nil, Option.or_none]
  | cons g given ih =>
    rw [giveAll_cons] at h
    obtain ⟨middle, read, h⟩ := bind_eq_ok.1 h
    rw [ih h, give_path read file, Option.or_assoc, List.lookup_cons]
    by_cases own : g.1 = file.setting
    · rw [if_pos own, own, beq_self_eq_true, Option.some_or]
    · rw [if_neg own, beq_false_of_ne (Ne.symm own), Option.none_or]

theorem complete_path {setting : Setting} (h : complete environment draft setting = .ok draft')
    (file : TlsFile) : draft'.path file = (draft.path file).or
      (if setting = file.setting then environment setting.description.variableName else none) := by
  unfold complete at h
  split at h
  · rename_i already
    cases h
    by_cases own : setting = file.setting
    · rw [own, Settings.Draft.isGiven_setting] at already
      obtain ⟨path, there⟩ := Option.isSome_iff_exists.1 already
      rw [there, Option.some_or]
    · rw [if_neg own, Option.or_none]
  · cases found : environment setting.description.variableName with
    | none =>
      rw [found] at h
      cases h
      rw [ite_self, Option.or_none]
    | some value =>
      rw [found] at h
      exact give_path h file

theorem completeAll_path {settings : List Setting}
    (h : settings.foldlM (complete environment) draft = .ok draft') (file : TlsFile) :
    draft'.path file = (draft.path file).or (if file.setting ∈ settings then
      environment file.setting.description.variableName else none) := by
  induction settings generalizing draft with
  | nil =>
    cases h
    rw [if_neg List.not_mem_nil, Option.or_none]
  | cons setting settings ih =>
    rw [List.foldlM_cons] at h
    obtain ⟨middle, completed, h⟩ := bind_eq_ok.1 h
    rw [ih h, complete_path completed file, Option.or_assoc]
    by_cases own : setting = file.setting
    · rw [if_pos own, own, if_pos List.mem_cons_self]
      split
      · rw [Option.or_self]
      · rw [Option.or_none]
    · rw [if_neg own, Option.none_or]
      simp only [List.mem_cons, Ne.symm own, false_or]

end Scan

namespace Settings

variable {environment : Environment} {arguments : List String} {settings : Settings}

/-- A path is that of the command line before that of the environment. -/
theorem read_path (accepted : read environment arguments = .ok settings)
    {given : List (Setting × String)} (spelled : Spells arguments.tail given) (file : TlsFile) :
    settings.path file =
      (given.lookup file.setting).or (environment file.setting.description.variableName) := by
  rw [read_spelled spelled] at accepted
  obtain ⟨draft, read, accepted⟩ := bind_eq_ok.1 accepted
  obtain ⟨full, completed, done⟩ := bind_eq_ok.1 accepted
  cases done
  have listed : file.setting ∈ Setting.all := by cases file <;> decide
  rw [Draft.path_finish, Scan.completeAll_path completed, Scan.giveAll_path read, if_pos listed,
    Draft.path_empty, Option.none_or]

theorem tlsFiles_eq_pair (settings : Settings) (key cert : String) :
    settings.tlsFiles = .ok (some ⟨key, cert⟩) ↔
      settings.keyFile = some key ∧ settings.certFile = some cert := by
  unfold tlsFiles
  cases settings.keyFile <;> cases settings.certFile <;> simp

theorem tlsFiles_eq_missing (settings : Settings) (missing : TlsFile) :
    settings.tlsFiles = .error (.incompleteTls missing) ↔
      ∀ file, settings.path file = none ↔ file = missing := by
  rw [TlsFile.forall_iff]
  unfold tlsFiles path
  cases settings.keyFile <;> cases settings.certFile <;> cases missing <;> simp

theorem tlsFiles_eq_none (settings : Settings) :
    settings.tlsFiles = .ok none ↔ ∀ file, settings.path file = none := by
  rw [TlsFile.forall_iff]
  unfold tlsFiles path
  cases settings.keyFile <;> cases settings.certFile <;> simp

theorem loadTls_iff (settings : Settings) (host : Host) (files : TlsFiles) :
    .loadTls files ∈ (Start.run host settings).steps ↔ settings.tlsFiles = .ok (some files) := by
  unfold Start.run
  split
  · rename_i asked
    simp [asked]
  · rename_i asked
    simp [asked, Start.bind]
  · rename_i named asked
    cases Start.checkTls host named with
    | error cause => simp [asked, eq_comm]
    | ok => simp [asked, Start.bind, eq_comm]

/-- Of a key and a certificate, each from the command line or the environment, both are used or the
start fails and names the one that is missing; no step is taken before that. Only who asks for
neither is served without encryption. -/
theorem encryption_kept (accepted : read environment arguments = .ok settings) :
    (∃ given, Spells arguments.tail given) ∧ ∀ given, Spells arguments.tail given →
      let key := (given.lookup .keyFile).or (environment "KEY_FILE_PATH")
      let cert := (given.lookup .certFile).or (environment "CERT_FILE_PATH")
      (∀ k c, settings.tlsFiles = .ok (some ⟨k, c⟩) ↔ key = some k ∧ cert = some c) ∧
      (settings.tlsFiles = .error (.incompleteTls .cert) ↔ key ≠ none ∧ cert = none) ∧
      (settings.tlsFiles = .error (.incompleteTls .key) ↔ key = none ∧ cert ≠ none) ∧
      (settings.tlsFiles = .ok none ↔
        (given.lookup .keyFile = none ∧ environment "KEY_FILE_PATH" = none) ∧
          given.lookup .certFile = none ∧ environment "CERT_FILE_PATH" = none) ∧
      ∀ host,
        (∀ missing, settings.tlsFiles = .error (.incompleteTls missing) →
          Start.run host settings = ⟨[], .error (.config (.incompleteTls missing))⟩ ∧
          Launch.run host environment arguments = .ended 1 "" ("Error: " ++
            (ServeError.config (.incompleteTls missing)).diagnosis ++ "\n")) ∧
        ∀ files, .loadTls files ∈ (Start.run host settings).steps ↔
          settings.tlsFiles = .ok (some files) := by
  refine ⟨spelled_of_read accepted, ?_⟩
  intro given spelled key cert
  have keyRead : settings.path .key = key := read_path accepted spelled .key
  have certRead : settings.path .cert = cert := read_path accepted spelled .cert
  refine ⟨?_, ?_, ?_, ?_, ?_⟩
  · intro k c
    rw [← keyRead, ← certRead]
    exact tlsFiles_eq_pair settings k c
  · rw [tlsFiles_eq_missing, TlsFile.forall_iff, keyRead, certRead]
    simp
  · rw [tlsFiles_eq_missing, TlsFile.forall_iff, keyRead, certRead]
    simp
  · rw [tlsFiles_eq_none, TlsFile.forall_iff, keyRead, certRead, Option.or_eq_none_iff,
      Option.or_eq_none_iff]
  · intro host
    refine ⟨?_, loadTls_iff settings host⟩
    intro missing incomplete
    have stopped : Start.run host settings = ⟨[], .error (.config (.incompleteTls missing))⟩ := by
      rw [Start.run, incomplete]
    refine ⟨stopped, ?_⟩
    rw [Launch.run, accepted]
    simp only [stopped]

/-- The path of the key from the environment and that of the certificate from a short option. -/
theorem mixed_encryption_kept :
    let environment : Environment := fun name =>
      if name = "KEY_FILE_PATH" then some "key.pem" else none
    let arguments := ["forecast_service", "-s", "7", "-ccert.pem"]
    ∃ settings, read environment arguments = .ok settings ∧
      settings.tlsFiles = .ok (some ⟨"key.pem", "cert.pem"⟩) := by
  intro environment arguments
  let settings : Settings := ⟨.unspecified, 3000, some "key.pem", some "cert.pem", some 7, none⟩
  have accepted : read environment arguments = .ok settings := rfl
  have seed : Spelling .seed "7" ["-s", "7"] := .short (.inr (by decide))
  have cert : Spelling .certFile "cert.pem" ["-ccert.pem"] :=
    .shortAttached (by decide) (by decide)
  obtain ⟨_, kept⟩ := encryption_kept accepted
  have spelled := Spells.cons seed (.cons cert .nil)
  exact ⟨settings, accepted, ((kept _ spelled).1 "key.pem" "cert.pem").2 ⟨rfl, rfl⟩⟩

end Settings

end Almanac
