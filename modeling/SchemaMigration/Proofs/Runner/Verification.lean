import SchemaMigration.Proofs.Runner.Inversion

/-!
# Verification

Records are verified against the files that are found now: each record, in the order in which
records are read, has at most one issue. A run records the digest of the very file that is found for
a migration, so as long as the files stay as they are it makes no record with an issue.
-/

namespace SchemaMigration

namespace Runner

/-- What there is to find about a record, given the files that are found for migrations. -/
inductive Finds (f : Files) (files : Dict String) (record : Record) : Option IntegrityIssue → Prop
    where
  /-- No file is found for its migration. -/
  | missing (absent : files.get? record.migration = none) :
      Finds f files record (some (.missingFile record.migration))
  /-- A file is found, but no digest was recorded. -/
  | unchecked {path : String} (found : files.get? record.migration = some path)
      (unrecorded : record.checksum = none) : Finds f files record none
  /-- A digest was recorded, but the file cannot be read. -/
  | unreadable {path expected : String} {problem : FileProblem}
      (found : files.get? record.migration = some path)
      (recorded : record.checksum = some expected) (unread : f.read path = .error problem) :
      Finds f files record (some (.missingFile record.migration))
  /-- The file has the digest that was recorded. -/
  | unchanged {path : String} {content : List UInt8}
      (found : files.get? record.migration = some path) (read : f.read path = .ok content)
      (recorded : record.checksum = some (Sha256.hexDigest content)) : Finds f files record none
  /-- The file has another digest. -/
  | changed {path expected : String} {content : List UInt8}
      (found : files.get? record.migration = some path) (read : f.read path = .ok content)
      (recorded : record.checksum = some expected) (differs : Sha256.hexDigest content ≠ expected) :
      Finds f files record
        (some (.checksumMismatch record.migration expected (Sha256.hexDigest content)))

variable {f : Files} {files : Dict String} {record : Record} {found : Option IntegrityIssue}

theorem Finds.issue?_eq (h : Finds f files record found) : issue? f files record = found := by
  cases h with
  | missing absent => simp only [issue?, absent]
  | unchecked found unrecorded => simp only [issue?, found, unrecorded]
  | unreadable found recorded unread => simp only [issue?, found, recorded, checksum, unread]
  | unchanged found read recorded => simp only [issue?, found, recorded, checksum, read, if_true]
  | changed found read recorded differs =>
    simp only [issue?, found, recorded, checksum, read, differs, if_false]

/-- What is found about a record is what there is to find. -/
theorem finds_issue? (f : Files) (files : Dict String) (record : Record) :
    Finds f files record (issue? f files record) := by
  have of_finds {found : Option IntegrityIssue} (h : Finds f files record found) :
      Finds f files record (issue? f files record) := by
    rwa [h.issue?_eq]
  cases hfound : files.get? record.migration with
  | none => exact of_finds (.missing hfound)
  | some path =>
    cases hrecorded : record.checksum with
    | none => exact of_finds (.unchecked hfound hrecorded)
    | some expected =>
      cases hread : f.read path with
      | error problem => exact of_finds (.unreadable hfound hrecorded hread)
      | ok content =>
        by_cases heq : Sha256.hexDigest content = expected
        · exact of_finds (.unchanged hfound hread (heq ▸ hrecorded))
        · exact of_finds (.changed hfound hread hrecorded heq)

/-- A record with the digest that its file has now is as it should be, also if there was none because
the file cannot be read. -/
theorem finds_of_checksum {path : String} (hfound : files.get? record.migration = some path)
    (hchecksum : record.checksum = (checksum path f).toOption) : Finds f files record none := by
  cases hread : f.read path with
  | error problem =>
    rw [checksum, hread] at hchecksum
    exact .unchecked hfound hchecksum
  | ok content =>
    rw [checksum, hread] at hchecksum
    exact .unchanged hfound hread hchecksum

variable {r : Runner} {c : Command} {o : RunOptions} {s : Session} {n : Nat}
  {origin : Record → Nat}

theorem exec_verify_of_undiscovered {e : Error} (htable : s.store.hasTable r.config.table = true)
    (hfiles : Discovery.discover r.config s.files = .error e) :
    r.verify.exec s = (.error (.failed e), s) := by
  simp only [verify, Action.exec_bind, Action.exec_get, htable, if_true, exec_files, hfiles,
    mapError_error]

theorem exec_verify {t : Table} (hget : s.store.tables.get? r.config.table = some t)
    (hfiles : Discovery.discover r.config s.files = .ok files) :
    ∃ read, Tracking.records r.config.table s.store = .ok read ∧
      r.verify.exec s =
        (.ok { checked := read.length, issues := read.filterMap (issue? s.files files) }, s) := by
  obtain ⟨read, hread⟩ := Tracking.records_eq_ok hget
  have htable := Store.hasTable_eq_true.2 ⟨t, hget⟩
  refine ⟨read, hread, ?_⟩
  simp only [verify, Action.exec_bind, Action.exec_get, htable, if_true, exec_files, hfiles,
    mapError_ok, Action.exec_read, hread, Action.exec_pure]

/-- Verifying reports the issues of the records, and none if there is no tracking table. -/
theorem exec_verify_of_discovered (hfiles : Discovery.discover r.config s.files = .ok files) :
    ∃ report, r.verify.exec s = (.ok report, s) ∧ ∀ issue, issue ∈ report.issues ↔
      ∃ record ∈ Tracking.recorded r.config.table s.store,
        issue? s.files files record = some issue := by
  cases hget : s.store.tables.get? r.config.table with
  | none =>
    have htable := Store.hasTable_eq_false.2 hget
    refine ⟨{}, ?_, ?_⟩
    · simp [verify, htable]
    · simp [Tracking.recorded, Store.rows, hget]
  | some t =>
    obtain ⟨read, hread, hverify⟩ := exec_verify hget hfiles
    refine ⟨_, hverify, ?_⟩
    intro issue
    simp only [List.mem_filterMap, (Tracking.records_perm hread).mem_iff]

/-- The records of files that were applied have no issues. -/
theorem AppliesAll.finds {batch : Int64} {selected : List (String × String)} {s s' : Store}
    {tracking : Table} (hkeeps : r.KeepsTracking f)
    (hget : s.tables.get? r.config.table = some tracking) (htracks : tracking.Tracks)
    (hselected : ∀ file ∈ selected, files.get? file.1 = some file.2)
    (h : AppliesAll r f batch selected s s') :
    ∀ record ∈ Tracking.recorded r.config.table s',
      record ∈ Tracking.recorded r.config.table s ∨ Finds f files record none := by
  obtain ⟨tracking', added, hget', -, hrows, hadded⟩ := h.logged hkeeps hget htracks
  rw [Tracking.recorded_of_get? hget, Tracking.recorded_of_get? hget', hrows, List.map_append]
  intro record hr
  rcases List.mem_append.1 hr with hold | hnew
  · exact .inl hold
  · right
    obtain ⟨hlength, hrows⟩ := List.forall₂_iff_zip.1 hadded
    rw [← List.map_snd_zip hlength.ge, List.map_map] at hnew
    obtain ⟨⟨file, row⟩, hpair, rfl⟩ := List.mem_map.1 hnew
    have hrow := hrows hpair
    have hfound := hselected file (List.of_mem_zip hpair).1
    exact finds_of_checksum (hrow.migration ▸ hfound) hrow.checksum

section Spares

variable (hbodies : r.BodiesRequest (Operation.Spares r.config.table))
  (hseeders : r.SeedersRequest (Operation.Spares r.config.table))

include hbodies hseeders

/-- Whatever way a run goes, the records that it makes have no issues. -/
theorem runPending_finds {reverted : List String}
    (hreverted : o.pretend = false → reverted = [])
    (htracks : ∀ t, s.store.tables.get? r.config.table = some t → t.Tracks)
    (hfiles : Discovery.discover r.config s.files = .ok files) :
    ∀ record ∈ Tracking.recorded r.config.table ((r.runPending o reverted).exec s).2.store,
      record ∈ Tracking.recorded r.config.table s.store ∨ Finds s.files files record none := by
  cases hpretend : o.pretend with
  | true =>
    have htables := tables_runPending_of_pretend (r := r) hpretend reverted s
    have hsame : Tracking.recorded r.config.table ((r.runPending o reverted).exec s).2.store =
        Tracking.recorded r.config.table s.store := Tracking.recorded_congr (by rw [htables])
    rw [hsame]
    exact fun record hr => .inl hr
  | false =>
    obtain rfl := hreverted hpretend
    obtain ⟨result, u, hannounce, hrecorded, -, hresult⟩ := announce_cases hpretend htracks
    rw [runPending_eq_announce, Action.exec_bind, hannounce, ← hrecorded]
    cases result with
    | error fault => exact fun record hr => .inl hr
    | ok announced =>
      cases announced with
      | none =>
        simp only [applyAnnounced, Action.exec_bind, exec_say, Action.exec_pure]
        exact fun record hr => .inl hr
      | some announced =>
        obtain ⟨batch, selected⟩ := announced
        obtain ⟨known, hknown, hmem⟩ := mem_files_of_announce hannounce
        obtain rfl := Except.ok.inj (hknown.symm.trans hfiles)
        obtain ⟨tracking, hget, htracks'⟩ := hresult.tracks
        obtain ⟨done, later, reached, hsplit, happlies, hafter⟩ :=
          hresult.applies hbodies hseeders hpretend
        dsimp only
        rw [Tracking.recorded_congr hafter, ← hresult.files]
        apply happlies.finds (hbodies.keepsTracking _) hget htracks'
        intro file hfile
        exact Dict.get?_of_mem (hmem file (hsplit ▸ List.mem_append_left later hfile))

/-- After every call, a record was there before or it has no issues. -/
theorem call_finds (htracks : ∀ t, s.store.tables.get? r.config.table = some t → t.Tracks)
    (hfiles : Discovery.discover r.config s.files = .ok files) :
    ∀ record ∈ Tracking.recorded r.config.table ((r.call c).exec s).2.store,
      record ∈ Tracking.recorded r.config.table s.store ∨ Finds s.files files record none := by
  have hwithin := Tracking.within_recorded htracks
  cases hstart : r.runStart? c s with
  | none =>
    have hafter := call_within hbodies hstart hwithin
    exact fun record hr => .inl (hafter.sublist.subset hr)
  | some begun =>
    obtain ⟨reverted, start⟩ := begun
    obtain ⟨hruns, -, hprepare⟩ := runStart?_eq_some.1 hstart
    obtain ⟨o, ho⟩ := Option.isSome_iff_exists.1 hruns
    obtain ⟨locks, hcall⟩ := exec_call_of_runStart? ho hstart
    have hbegun := prepare_within hbodies c (r.locked s) (hwithin.of_get?_eq (by rw [tables_locked]))
    have hkept := files_prepare r c (r.locked s)
    rw [hprepare] at hbegun hkept
    rw [files_locked] at hkept
    rw [hcall]
    intro record hr
    rcases runPending_finds hbodies hseeders (fun hreal => reverted_eq_nil ho hreal hstart)
      hbegun.tracks (hkept ▸ hfiles) record hr with hold | hnew
    · exact .inl (hbegun.sublist.subset hold)
    · exact .inr (hkept ▸ hnew)

end Spares

/-- Verifying reports just the issues that there are, in the order in which the records are read, if
there is a tracking table and the files are found; otherwise it fails. Wherever calls of runners
lead, if no program of theirs writes the tracking table or opens or closes a transaction, a call
makes no record with an issue and gives none to a record that had none, whether it returns or
fails. -/
theorem verify_is_exact (r : Runner) (s : Session) :
    (s.store.hasTable r.config.table = true →
      match Discovery.discover r.config s.files with
      | .error e => r.verify.exec s = (.error (.failed e), s)
      | .ok files => ∃ read findings, Tracking.records r.config.table s.store = .ok read ∧
          List.Forall₂ (Finds s.files files) read findings ∧
          r.verify.exec s =
            (.ok { checked := read.length, issues := findings.reduceOption }, s)) ∧
    ∀ (c : Command) (n : Nat) (origin : Record → Nat), Calls r.config.table n origin s →
      r.BodiesRequest (Operation.Spares r.config.table) →
      r.SeedersRequest (Operation.Spares r.config.table) →
      ∀ files, Discovery.discover r.config s.files = .ok files →
      let after := ((r.call c).exec s).2
      after.files = s.files ∧
      (∀ record ∈ Tracking.recorded r.config.table after.store,
        record ∈ Tracking.recorded r.config.table s.store ∨ Finds after.files files record none) ∧
      ∃ before later, r.verify.exec s = (.ok before, s) ∧ r.verify.exec after = (.ok later, after) ∧
        later.issues ⊆ before.issues := by
  constructor
  · intro htable
    obtain ⟨t, hget⟩ := Store.hasTable_eq_true.1 htable
    cases hfiles : Discovery.discover r.config s.files with
    | error e => exact exec_verify_of_undiscovered htable hfiles
    | ok files =>
      obtain ⟨read, hread, hverify⟩ := exec_verify hget hfiles
      refine ⟨read, read.map (issue? s.files files), hread, ?_, ?_⟩
      · rw [List.forall₂_map_right_iff]
        exact List.forall₂_same.2 fun record _ => finds_issue? s.files files record
      · rw [hverify, List.reduceOption, List.filterMap_map]
        rfl
  · intro c n origin hcalls hbodies hseeders files hfiles after
    have hkept : after.files = s.files := files_call r c s
    have hnew := call_finds (c := c) hbodies hseeders hcalls.numbered.tracks hfiles
    obtain ⟨before, hbefore, hissues⟩ := exec_verify_of_discovered hfiles
    obtain ⟨later, hlater, hissues'⟩ := exec_verify_of_discovered (hkept ▸ hfiles)
    refine ⟨hkept, ?_, before, later, hbefore, hlater, ?_⟩
    · rw [hkept]
      exact hnew
    · intro issue hissue
      obtain ⟨record, hr, hfound⟩ := (hissues' issue).1 hissue
      rw [hkept] at hfound
      rcases hnew record hr with hold | hnone
      · exact (hissues issue).2 ⟨record, hold, hfound⟩
      · rw [hnone.issue?_eq] at hfound
        cases hfound

/-- One file was applied and is gone, and a run applies the one that has come: only the first one is
missing. -/
theorem verify_after_run_of_other_file :
    let a : Migration := { up := .pure (), down := .pure () }
    let r : Runner :=
      { config := { paths := ["m"], table := "t" }, migrations := Dict.ofList [("a", a), ("b", a)] }
    let files (name : String) : Files := { nodes := [(["m"], .directory), (["m", name], .file [])] }
    let first : Session := { files := files "a.rs" }
    let s : Session := { ((r.call (.run {})).exec first).2 with files := files "b.rs" }
    let after : Session := ((r.call (.run {})).exec s).2
    Calls "t" 1 (r.origins (.run {}) first 0 fun _ => 0) s ∧
      (∃ read findings, Tracking.records "t" s.store = .ok read ∧
        List.Forall₂ (Finds s.files (Dict.ofList [("b", "m/b.rs")])) read findings ∧
        findings.reduceOption = [.missingFile "a"]) ∧
      r.verify.exec s = (.ok { checked := 1, issues := [.missingFile "a"] }, s) ∧
      (Tracking.recorded "t" after.store).map (·.migration) = ["a", "b"] ∧
      ∃ later, r.verify.exec after = (.ok later, after) ∧
        later.issues ⊆ [.missingFile "a"] := by
  intro a r files first s after
  have hruns : s.store.hasTable "t" = true ∧
      (r.verify.exec s).1 = .ok { checked := 1, issues := [.missingFile "a"] } ∧
      (Tracking.recorded "t" after.store).map (·.migration) = ["a", "b"] := by
    decide +kernel +revert
  obtain ⟨htable, hverify, hrecorded⟩ := hruns
  have hbodies : r.BodiesRequest (Operation.Spares "t") := by
    apply BodiesRequest.of_ofList rfl
    intro entry h
    obtain rfl | rfl : entry = ("a", a) ∨ entry = ("b", a) := by simpa using h
    · exact ⟨trivial, trivial⟩
    · exact ⟨trivial, trivial⟩
  have hcalls : Calls "t" 1 (r.origins (.run {}) first 0 fun _ => 0) s :=
    ((Calls.start rfl).call r (.run {}) rfl hbodies (.of_empty rfl)).meanwhile rfl
  have hfound : Discovery.discover r.config s.files = .ok (Dict.ofList [("b", "m/b.rs")]) := by
    cbv
  obtain ⟨hexact, hcall⟩ := verify_is_exact r s
  replace hexact := hexact htable
  rw [hfound] at hexact
  obtain ⟨read, findings, hread, hfinds, hreport⟩ := hexact
  obtain ⟨-, -, before, later, hbefore, hlater, hissues⟩ :=
    hcall (.run {}) _ _ hcalls hbodies (.of_empty rfl) _ hfound
  rw [hbefore] at hverify
  obtain rfl := Except.ok.inj hverify
  rw [hbefore] at hreport
  have hmissing := congrArg VerifyReport.issues (Except.ok.inj (Prod.mk.inj hreport).1)
  exact ⟨hcalls, ⟨read, findings, hread, hfinds, hmissing.symm⟩, hbefore, hrecorded, later, hlater,
    hissues⟩

/-- Verifying fails where a directory of migrations is no directory, even with a tracking table. And
programs that open and roll back transactions can bring a deleted record back when its file is
gone: all files stay as they are, and still a rollback adds an issue. -/
theorem rollback_may_add_issue :
    let y : Migration := { up := .pure (), down := .pure (), transactional := false }
    let z : Migration := {
      up := (Program.request .begin).bind fun _ => .pure ()
      down := (Program.request .rollback).bind fun _ => .pure ()
      transactional := false }
    let r : Runner := {
      config := { paths := ["m", "n"], table := "t" }
      migrations := Dict.ofList [("y", y), ("z", z)] }
    let nodes : List (List String × Node) :=
      [(["m"], .directory), (["n"], .directory), (["n", "z.rs"], .file [])]
    let first : Session := { files := { nodes := nodes ++ [(["m", "y.rs"], .file [])] } }
    let applied : Session := ((r.call (.run {})).exec first).2
    let reverted : Session := ((r.call (.rollback { target := some "y" })).exec applied).2
    let s : Session := { reverted with files := { nodes } }
    let after : Session := ((r.call (.rollback {})).exec s).2
    let broken : Session := { applied with files := { nodes := [(["m"], .file [])] } }
    (broken.store.hasTable "t" = true ∧ ∀ report, (r.verify.exec broken).1 ≠ .ok report) ∧
      r.BodiesRequest (·.writes "t" = false) ∧ Tracking.Reached "t" s.store ∧
      after.files = s.files ∧ (r.verify.exec s).1 = .ok { checked := 1, issues := [] } ∧
      (r.verify.exec after).1 = .ok { checked := 1, issues := [.missingFile "y"] } := by
  intro y z r nodes first applied reverted s after broken
  have hruns : broken.store.hasTable "t" = true ∧
      (r.verify.exec s).1 = .ok { checked := 1, issues := [] } ∧
      (r.verify.exec after).1 = .ok { checked := 1, issues := [.missingFile "y"] } := by
    decide +kernel +revert
  obtain ⟨htable, hbefore, hafter⟩ := hruns
  have hbodies : r.BodiesRequest (·.writes "t" = false) := by
    apply BodiesRequest.of_ofList rfl
    intro entry h
    obtain rfl | rfl : entry = ("y", y) ∨ entry = ("z", z) := by simpa using h
    · exact ⟨trivial, trivial⟩
    · exact ⟨.bind (Program.requests_request rfl) fun _ => trivial,
        .bind (Program.requests_request rfl) fun _ => trivial⟩
  have hreached : Tracking.Reached "t" s.store :=
    ((Tracking.reached_empty "t").call first r (.run {}) rfl hbodies (.of_empty rfl)).call applied r
      (.rollback { target := some "y" }) rfl hbodies (.of_empty rfl)
  have hkept : after.files = s.files := files_call r (.rollback {}) s
  have hbroken : Discovery.discover r.config broken.files = .error (.io "m" .notDirectory) := by cbv
  refine ⟨⟨htable, ?_⟩, hbodies, hreached, hkept, hbefore, hafter⟩
  intro report hreport
  rw [exec_verify_of_undiscovered htable hbroken] at hreport
  cases hreport

end Runner

end SchemaMigration
