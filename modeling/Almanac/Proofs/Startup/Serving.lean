import Almanac.Proofs.Startup.Encryption

set_option autoImplicit false

namespace Almanac

section Serving

variable {host : Host} {environment : Environment} {arguments : List String}
  {settings : Settings} {files : TlsFiles}

theorem Start.checkTls_eq_ok :
    Start.checkTls host files = .ok () ↔
      ∃ cert key, host.readFile files.cert = .ok cert ∧ host.readFile files.key = .ok key ∧
        Tls.checkIdentity cert key = .ok () := by
  simp only [Start.checkTls, bind_eq_ok, mapError_eq_ok]
  constructor
  · rintro ⟨cert, certRead, key, keyRead, identity⟩
    exact ⟨cert, key, certRead, keyRead, identity⟩
  · rintro ⟨cert, key, certRead, keyRead, identity⟩
    exact ⟨cert, certRead, key, keyRead, identity⟩

theorem Start.result_eq_ok :
    (Start.run host settings).result = .ok () ↔
      (settings.tlsFiles = .ok none ∨
        ∃ files, settings.tlsFiles = .ok (some files) ∧ Start.checkTls host files = .ok ()) ∧
      host.bind settings.socketAddress = .ok () := by
  unfold Start.run
  split
  · rename_i cause asked
    simp [asked]
  · rename_i asked
    simp [asked, Start.bind, mapError_eq_ok]
  · rename_i named asked
    cases used : Start.checkTls host named with
    | error cause => simp [asked, used]
    | ok => simp [asked, used, Start.bind, mapError_eq_ok]

theorem Launch.run_eq_serving :
    Launch.run host environment arguments = .serving ↔
      ∃ settings, Settings.read environment arguments = .ok settings ∧
        (Start.run host settings).result = .ok () := by
  unfold Launch.run
  split
  · rename_i read
    simp [read]
  · rename_i read
    simp [read]
  · rename_i settings read
    cases result : (Start.run host settings).result with
    | error cause => simp [read, result]
    | ok => simp [read, result]

end Serving

namespace Tls

variable {certificateFile keyFile : List UInt8}

/-- Files are an identity if the first certificate has the public key of the only private key. -/
theorem checkIdentity_eq_ok :
    checkIdentity certificateFile keyFile = .ok () ↔
      ∃ first more key form own, certificates certificateFile = .ok (first :: more) ∧
        privateKey keyFile = .ok key ∧ KeyForm.of? key = some form ∧
        form.publicKey? key = some own ∧ Certificate.publicKey first = .ok own := by
  simp only [checkIdentity, bind_eq_ok]
  constructor
  · rintro ⟨all, certificatesRead, key, keyRead, identity⟩
    split at identity
    · cases identity
    · rename_i form known
      split at identity
      · cases identity
      · cases identity
      · rename_i own first more usable
        obtain ⟨certified, shown, same⟩ := bind_eq_ok.1 identity
        split at same
        · rename_i equal
          rw [mapError_eq_ok, equal] at shown
          exact ⟨first, more, key, form, own, certificatesRead, keyRead, known, usable, shown⟩
        · cases same
  · rintro ⟨first, more, key, form, own, certificatesRead, keyRead, known, usable, shown⟩
    refine ⟨first :: more, certificatesRead, key, keyRead, ?_⟩
    simp only [known, usable]
    exact bind_eq_ok.2 ⟨own, mapError_eq_ok.2 shown, if_pos rfl⟩

theorem not_empty_of_checkIdentity (h : checkIdentity certificateFile keyFile = .ok ()) :
    certificateFile ≠ [] ∧ keyFile ≠ [] := by
  obtain ⟨first, more, key, _, _, certificatesRead, keyRead, _⟩ := checkIdentity_eq_ok.1 h
  constructor
  · rintro rfl
    cases certificatesRead
  · rintro rfl
    cases keyRead

end Tls

namespace FileTree

variable {tree : FileTree} {path : String} {contents : List UInt8}

theorem mem_of_entries {origin : Origin} {name : String}
    (h : (name, .file contents) ∈ tree.entries origin) :
    contents = [] ∨ (name, contents) ∈ tree.files := by
  cases origin with
  | start =>
    obtain ⟨⟨listed, stored⟩, member, same⟩ := List.mem_map.1 h
    cases same
    exact .inr member
  | root =>
    -- of the directories that every system has none is a file
    simp only [entries, standard, List.mem_cons, List.mem_map, Prod.mk.injEq,
      FileNode.file.injEq, reduceCtorEq, and_false, exists_const, or_false] at h
    exact .inl h.2
  | above => cases h

theorem mem_of_node? {p : Place} (h : tree.node? p = some (.file contents)) :
    contents = [] ∨ (p.path, contents) ∈ tree.files := by
  unfold node? at h
  dsimp only at h
  split at h
  · cases h
  · split at h
    · rename_i node listed
      cases h
      obtain ⟨before, after, entries, _⟩ := List.lookup_eq_some_iff.1 listed
      have member : (p.path, .file contents) ∈ tree.entries p.origin := by
        rw [entries]
        exact List.mem_append_right _ List.mem_cons_self
      exact mem_of_entries member
    · split at h <;> cases h

theorem mem_of_read (h : tree.read path = .ok contents) :
    contents = [] ∨ ∃ name, (name, contents) ∈ tree.files := by
  unfold read at h
  split at h
  · cases h
  · split at h
    · cases h
    · obtain ⟨place, _, found⟩ := bind_eq_ok.1 h
      split at found
      · rename_i node
        cases found
        exact (mem_of_node? node).imp_right fun listed => ⟨_, listed⟩
      · cases found

end FileTree

theorem Host.bind_ofTree {tree : FileTree} {settings : Settings} :
    (Host.ofTree tree).bind settings.socketAddress = .ok () ↔
      settings.port = 0 ∨ 1024 ≤ settings.port := by
  change (if 1 ≤ settings.port ∧ settings.port < 1024 then Except.error _ else .ok ()) = .ok () ↔ _
  split
  · grind
  · grind

/-- With the files of a tree around it the service serves exactly if it may have its port and,
unless encryption is not asked for, both paths lead to files of the tree that are an identity. -/
theorem Launch.run_ofTree_eq_serving {tree : FileTree} {environment : Environment}
    {arguments : List String} :
    Launch.run (.ofTree tree) environment arguments = .serving ↔
      ∃ settings, Settings.read environment arguments = .ok settings ∧
        (settings.port = 0 ∨ 1024 ≤ settings.port) ∧
        ((∀ file, settings.path file = none) ∨
          ∃ keyPath certPath, settings.keyFile = some keyPath ∧ settings.certFile = some certPath ∧
            ∃ key ∈ tree.files, ∃ cert ∈ tree.files, tree.read keyPath = .ok key.2 ∧
              tree.read certPath = .ok cert.2 ∧ Tls.checkIdentity cert.2 key.2 = .ok ()) := by
  simp only [run_eq_serving, Start.result_eq_ok, Host.bind_ofTree, Settings.tlsFiles_eq_none]
  constructor
  · rintro ⟨settings, accepted, encryption, port⟩
    refine ⟨settings, accepted, port, encryption.imp_right ?_⟩
    rintro ⟨⟨keyPath, certPath⟩, pair, used⟩
    obtain ⟨keyNamed, certNamed⟩ := (Settings.tlsFiles_eq_pair settings _ _).1 pair
    obtain ⟨cert, key, certRead, keyRead, identity⟩ := Start.checkTls_eq_ok.1 used
    obtain ⟨certFilled, keyFilled⟩ := Tls.not_empty_of_checkIdentity identity
    obtain ⟨keyName, keyListed⟩ := (FileTree.mem_of_read keyRead).resolve_left keyFilled
    obtain ⟨certName, certListed⟩ := (FileTree.mem_of_read certRead).resolve_left certFilled
    exact ⟨keyPath, certPath, keyNamed, certNamed, (keyName, key), keyListed,
      (certName, cert), certListed, keyRead, certRead, identity⟩
  · rintro ⟨settings, accepted, port, encryption⟩
    refine ⟨settings, accepted, encryption.imp_right ?_, port⟩
    rintro ⟨keyPath, certPath, keyNamed, certNamed, key, _, cert, _, keyRead, certRead, identity⟩
    exact ⟨⟨keyPath, certPath⟩, (Settings.tlsFiles_eq_pair settings _ _).2 ⟨keyNamed, certNamed⟩,
      Start.checkTls_eq_ok.2 ⟨cert.2, key.2, certRead, keyRead, identity⟩⟩

end Almanac
