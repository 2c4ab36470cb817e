import SchemaMigration.Proofs.Dict
import SchemaMigration.Proofs.Runner.Numbering
import SchemaMigration.Proofs.Runner.Prediction

/-!
# Agreement of the reports

The status of migrations merges what is recorded with what is found, each name once. What it lists
as pending is what waits to be applied, in the same order, and this is also what a pretended run
reports. What it lists as applied is what is recorded, if no name is recorded twice.
-/

namespace SchemaMigration

namespace Runner

/-- What is known of each migration, under its name. -/
def known (files : Dict String) (records : List Record) : Dict Status :=
  files.entries.foldl (fun known file => known.insertIfNew file.1 (pendingStatus file.1 file.2))
    (Dict.ofList (records.map fun record => (record.migration, ranStatus files record)))

theorem statusOf_eq (files : Dict String) (records : List Record) :
    statusOf files records = (known files records).values := rfl

variable {files : Dict String} {records : List Record} {entry : Status}

/-- The last record of a migration counts, and its file only if it has no record. -/
theorem get?_known (files : Dict String) (records : List Record) (name : String) :
    (known files records).get? name =
      ((records.reverse.find? fun record => record.migration == name).map (ranStatus files)).or
        ((files.get? name).map (pendingStatus name)) := by
  have hran : (Dict.ofList (records.map fun record =>
      (record.migration, ranStatus files record))).get? name =
      (records.reverse.find? fun record => record.migration == name).map (ranStatus files) := by
    rw [Dict.ofList, Dict.get?_foldl_insert, ← List.map_reverse, List.find?_map, Option.map_map,
      Dict.get?_empty, Option.or_none]
    rfl
  have hpending : (files.entries.find? fun file => file.1 == name).map
      (fun file => pendingStatus file.1 file.2) = (files.get? name).map (pendingStatus name) := by
    rw [Dict.get?, Option.map_map]
    apply Option.map_congr
    intro file hfile
    have hname : file.1 = name := by simpa using List.find?_some hfile
    simp [hname]
  rw [known, Dict.get?_foldl_insertIfNew, hran, hpending]

/-- A migration is known as applied if it is recorded, and as pending if it only has a file. -/
theorem known_cases {name : String} (h : (known files records).get? name = some entry) :
    (∃ record ∈ records, record.migration = name ∧ entry = ranStatus files record) ∨
      ∃ path, files.get? name = some path ∧ (∀ record ∈ records, record.migration ≠ name) ∧
        entry = pendingStatus name path := by
  rw [get?_known] at h
  cases hfound : records.reverse.find? fun record => record.migration == name with
  | some record =>
    have hname : record.migration = name := by simpa using List.find?_some hfound
    have hmem := List.mem_reverse.1 (List.mem_of_find?_eq_some hfound)
    rw [hfound] at h
    exact .inl ⟨record, hmem, hname, (Option.some.inj h).symm⟩
  | none =>
    have hnone : ∀ record ∈ records, record.migration ≠ name := by
      simpa using hfound
    rw [hfound, Option.map_none, Option.none_or] at h
    obtain ⟨path, hpath, rfl⟩ := Option.map_eq_some_iff.1 h
    exact .inr ⟨path, hpath, hnone, rfl⟩

theorem known_eq_none {name : String} :
    (known files records).get? name = none ↔
      (∀ record ∈ records, record.migration ≠ name) ∧ files.get? name = none := by
  rw [get?_known, Option.or_eq_none_iff, Option.map_eq_none_iff, Option.map_eq_none_iff]
  simp

/-- Each migration is known under its own name. -/
theorem migration_of_known {name : String} (h : (known files records).get? name = some entry) :
    entry.migration = name := by
  rcases known_cases h with ⟨record, -, hname, rfl⟩ | ⟨path, -, -, rfl⟩
  · exact hname
  · rfl

theorem mem_statusOf :
    entry ∈ statusOf files records ↔ (known files records).get? entry.migration = some entry := by
  rw [statusOf_eq, Dict.values, List.mem_map]
  constructor
  · rintro ⟨item, hitem, rfl⟩
    have hget := Dict.get?_of_mem hitem
    rwa [migration_of_known hget]
  · intro h
    exact ⟨(entry.migration, entry), Dict.mem_entries.2 h, rfl⟩

theorem names_statusOf (files : Dict String) (records : List Record) :
    (statusOf files records).map (·.migration) = (known files records).keys := by
  rw [statusOf_eq, Dict.values, Dict.keys, List.map_map]
  apply List.map_congr_left
  intro item hitem
  exact migration_of_known (Dict.get?_of_mem hitem)

theorem pairwise_statusOf (files : Dict String) (records : List Record) :
    ((statusOf files records).map (·.migration)).Pairwise (· < ·) := by
  rw [names_statusOf]
  exact List.pairwise_map.2 (known files records).ascending

/-- A name is listed if it is recorded or found. -/
theorem mem_names_statusOf {name : String} :
    name ∈ (statusOf files records).map (·.migration) ↔
      name ∈ records.map (·.migration) ∨ files.contains name = true := by
  rw [names_statusOf, Dict.mem_keys, ← Option.isSome_iff_exists, ← not_iff_not,
    Option.not_isSome_iff_eq_none, known_eq_none, not_or, Bool.not_eq_true, Dict.contains_eq_false]
  simp

theorem path_of_mem_statusOf (h : entry ∈ statusOf files records) :
    entry.path = files.get? entry.migration := by
  rcases known_cases (mem_statusOf.1 h) with ⟨record, -, -, heq⟩ | ⟨path, hpath, -, heq⟩
  · rw [heq]
    rfl
  · rw [hpath, heq]
    rfl

/-- What is listed as pending is what is due, in the same order. -/
theorem filter_pending_statusOf (files : Dict String) (records : List Record) :
    ((statusOf files records).filter fun entry => !entry.isRan) =
      (pendingFiles files records).map fun file => pendingStatus file.1 file.2 := by
  have : Std.Antisymm fun a b : Status => a.migration < b.migration :=
    ⟨fun a b hab hba => absurd (String.lt_trans hab hba) (String.lt_irrefl _)⟩
  have : Std.Irrefl fun a b : Status => a.migration < b.migration :=
    ⟨fun a => String.lt_irrefl a.migration⟩
  have hlisted := (List.pairwise_map.1 (pairwise_statusOf files records)).filter
    fun entry => !entry.isRan
  have hdue : ((pendingFiles files records).map fun file =>
      pendingStatus file.1 file.2).Pairwise fun a b => a.migration < b.migration :=
    List.pairwise_map.2 (files.ascending.filter _)
  apply hlisted.eq_of_mem_iff hdue
  intro entry
  rw [List.mem_filter, mem_statusOf, pendingFiles_eq, List.mem_map]
  constructor
  · rintro ⟨hknown, hpending⟩
    rcases known_cases hknown with ⟨record, -, -, heq⟩ | ⟨path, hpath, hnone, heq⟩
    · rw [heq] at hpending
      cases hpending
    · refine ⟨(entry.migration, path), ?_, heq.symm⟩
      simpa [List.mem_filter, Dict.mem_entries, hpath] using hnone
  · rintro ⟨file, hfile, rfl⟩
    obtain ⟨hmem, hnone⟩ := List.mem_filter.1 hfile
    have hnone := of_decide_eq_true hnone
    have hfound : (records.reverse.find? fun record => record.migration == file.1) = none := by
      simpa using hnone
    refine ⟨?_, rfl⟩
    rw [show (pendingStatus file.1 file.2).migration = file.1 from rfl, get?_known, hfound,
      Dict.get?_of_mem hmem]
    rfl

theorem nodup_ran_statusOf (files : Dict String) (records : List Record) :
    (((statusOf files records).filter (·.isRan)).map (·.migration)).Nodup := by
  have hsublist : (((statusOf files records).filter (·.isRan)).map (·.migration)).Sublist
      ((statusOf files records).map (·.migration)) := List.filter_sublist.map _
  apply ((pairwise_statusOf files records).sublist hsublist).imp
  intro a b hlt heq
  exact String.lt_irrefl _ (heq ▸ hlt)

/-- What is listed as applied is what is recorded, if no name is recorded twice. -/
theorem filter_ran_statusOf (files : Dict String)
    (hnames : (records.map (·.migration)).Nodup) :
    ((statusOf files records).filter (·.isRan)).Perm (records.map (ranStatus files)) := by
  have hlisted := List.Nodup.of_map _ (nodup_ran_statusOf files records)
  have hrecords : (records.map (ranStatus files)).Nodup := by
    apply List.Nodup.of_map (·.migration)
    rwa [List.map_map]
  apply (List.perm_ext_iff_of_nodup hlisted hrecords).2
  intro entry
  rw [List.mem_filter, mem_statusOf, List.mem_map]
  constructor
  · rintro ⟨hknown, hran⟩
    rcases known_cases hknown with ⟨record, hr, -, rfl⟩ | ⟨path, -, -, heq⟩
    · exact ⟨record, hr, rfl⟩
    · rw [heq] at hran
      cases hran
  · rintro ⟨record, hr, rfl⟩
    refine ⟨?_, rfl⟩
    cases hknown : (known files records).get? record.migration with
    | none => exact absurd rfl ((known_eq_none.1 hknown).1 record hr)
    | some entry =>
      rcases known_cases hknown with ⟨other, hother, hname, rfl⟩ | ⟨path, -, hnone, -⟩
      · obtain rfl := List.inj_on_of_nodup_map hnames hother hr hname
        exact hknown
      · exact absurd rfl (hnone record hr)

/-- Reading the names of applied migrations returns a list, or it fails because there is no tracking
table, and then the list is empty. -/
def ListsRan (table : String) (s : Store) (names : List String) : Prop :=
  match s.tables.get? table with
  | none => Tracking.ran table s = .error (.failed (.adapter (.noSuchTable table))) ∧ names = []
  | some _ => Tracking.ran table s = .ok names

section Exec

variable {r : Runner} {s s' : Session}

theorem exec_currentRecords_lists (r : Runner) (s : Session) :
    ∃ read, r.currentRecords.exec s = (.ok read, s) ∧
      read.Perm (Tracking.recorded r.config.table s.store) ∧
      ListsRan r.config.table s.store (read.map (·.migration)) := by
  cases hget : s.store.tables.get? r.config.table with
  | none =>
    have hran : Tracking.ran r.config.table s.store =
        .error (.failed (.adapter (.noSuchTable r.config.table))) := by
      simp only [Tracking.ran, Tracking.records, Tracking.select, Store.select, Store.table, hget]
      rfl
    have hnone : Tracking.recorded r.config.table s.store = [] := by
      rw [Tracking.recorded, Store.rows, hget]
      rfl
    refine ⟨[], ?_, ?_, ?_⟩
    · simp [currentRecords, hget]
    · rw [hnone]
    · rw [ListsRan, hget]
      exact ⟨hran, rfl⟩
  | some t =>
    obtain ⟨read, hread⟩ := Tracking.records_eq_ok hget
    refine ⟨read, ?_, Tracking.records_perm hread, ?_⟩
    · simp [currentRecords, hget, hread]
    · rw [ListsRan, hget, Tracking.ran, hread]
      rfl

theorem exec_status (hfiles : Discovery.discover r.config s.files = .ok files) :
    ∃ read, r.status.exec s = (.ok (statusOf files read), s) ∧
      read.Perm (Tracking.recorded r.config.table s.store) ∧
      ListsRan r.config.table s.store (read.map (·.migration)) := by
  obtain ⟨read, hread, hperm, hran⟩ := exec_currentRecords_lists r s
  refine ⟨read, ?_, hperm, hran⟩
  simp only [status, Action.exec_bind, exec_files, hfiles, mapError_ok, hread, Action.exec_pure]

theorem exec_status_of_hasTable (hfiles : Discovery.discover r.config s.files = .ok files)
    (htable : s.store.hasTable r.config.table = true) :
    ∃ read, r.status.exec s = (.ok (statusOf files read), s) ∧
      read.Perm (Tracking.recorded r.config.table s.store) ∧
      Tracking.ran r.config.table s.store = .ok (read.map (·.migration)) := by
  obtain ⟨read, hstatus, hperm, hran⟩ := exec_status hfiles
  obtain ⟨t, hget⟩ := Store.hasTable_eq_true.1 htable
  rw [ListsRan, hget] at hran
  exact ⟨read, hstatus, hperm, hran⟩

/-- A run that returns reports the files that it selected. -/
theorem migrated_of_applyPending {o : RunOptions} {read : List Record} {result : RunResult}
    (h : (r.applyPending o files read).exec s = (.ok result, s')) :
    result.migrated = (selectFiles o (pendingFiles files read)).map (·.1) := by
  cases hselected : selectFiles o (pendingFiles files read) with
  | nil =>
    rw [exec_applyPending_of_nil hselected] at h
    obtain rfl := Except.ok.inj (Prod.mk.inj h).1
    rfl
  | cons first rest =>
    simp only [applyPending, hselected, List.isEmpty_cons, Bool.false_eq_true, if_false] at h
    obtain ⟨batch, s₁, -, h⟩ := Action.exec_bind_eq_ok.1 h
    obtain ⟨⟨⟩, s₂, -, h⟩ := Action.exec_bind_eq_ok.1 h
    obtain ⟨⟨⟩, s₃, -, h⟩ := Action.exec_bind_eq_ok.1 h
    obtain ⟨⟨⟩, s₄, -, h⟩ := Action.exec_bind_eq_ok.1 h
    split at h
    · obtain ⟨⟨⟩, s₅, -, h⟩ := Action.exec_bind_eq_ok.1 h
      obtain rfl := Except.ok.inj (Prod.mk.inj h).1
      rfl
    · obtain rfl := Except.ok.inj (Prod.mk.inj h).1
      rfl

/-- A pretended run that returns reports what is due. -/
theorem migrated_of_pretend {result : RunResult}
    (hfiles : Discovery.discover r.config s.files = .ok files)
    (h : (r.run { pretend := true }).exec s = (.ok result, s')) :
    result.migrated =
      (pendingFiles files (Tracking.recorded r.config.table s.store)).map (·.1) := by
  obtain ⟨u, locks, hrun, -, -⟩ := withLock_eq_ok h
  have hlocked : Tracking.recorded r.config.table (r.locked s).store =
      Tracking.recorded r.config.table s.store := Tracking.recorded_congr (by rw [tables_locked])
  obtain ⟨read, hread, hmem⟩ := exec_currentRecords r (r.locked s)
  have hread : (r.recordsForRun true).exec (r.locked s) = (.ok read, r.locked s) := hread
  rw [hlocked] at hmem
  rw [exec_runPending_of_known [] (by rwa [files_locked]) rfl hread rfl,
    filter_not_reverted_nil] at hrun
  rw [← pendingFiles_congr hmem]
  exact migrated_of_applyPending hrun

/-- A run returns only if the files are found. -/
theorem discovered_of_run {o : RunOptions} {result : RunResult}
    (h : (r.run o).exec s = (.ok result, s')) :
    ∃ files, Discovery.discover r.config s.files = .ok files := by
  obtain ⟨u, locks, hrun, -, -⟩ := withLock_eq_ok h
  obtain ⟨files, hfiles, -⟩ := runPending_known hrun
  exact ⟨files, by rwa [files_locked] at hfiles⟩

/-- Wherever calls of runners lead, if no program of theirs writes the tracking table or opens or
closes a transaction: if the files are found, the status lists each recorded and each found name
once in ascending order, with the path of its file; as applied it lists what is recorded, and as
pending what is due, which is also what a pretended run reports. If the files are not found, all of
these fail. -/
theorem reports_agree {n : Nat} {origin : Record → Nat} (h : Calls r.config.table n origin s) :
    match Discovery.discover r.config s.files with
    | .error e => (r.status.exec s).1 = .error (.failed e) ∧
        (r.pending.exec s).1 = .error (.failed e) ∧
        ∀ result, ((r.run { pretend := true }).exec s).1 ≠ .ok result
    | .ok files => ∃ (entries : List Status) (waiting ran : List String),
        r.status.exec s = (.ok entries, s) ∧ r.pending.exec s = (.ok waiting, s) ∧
        ListsRan r.config.table s.store ran ∧
        (entries.map (·.migration)).Pairwise (· < ·) ∧
        (∀ name, name ∈ entries.map (·.migration) ↔ name ∈ ran ∨ files.contains name = true) ∧
        ((entries.filter (·.isRan)).map (·.migration)).Perm ran ∧
        ((entries.filter (·.isRan)).map fun entry => (entry.migration, entry.batch)).Perm
          ((Tracking.recorded r.config.table s.store).map fun record =>
            (record.migration, some record.batch)) ∧
        (entries.filter fun entry => !entry.isRan).map (·.migration) = waiting ∧
        (∀ entry ∈ entries, entry.path = files.get? entry.migration) ∧
        ∀ result, ((r.run { pretend := true }).exec s).1 = .ok result →
          result.migrated = waiting := by
  cases hfiles : Discovery.discover r.config s.files with
  | error e =>
    dsimp only
    refine ⟨?_, ?_, ?_⟩
    · simp only [status, Action.exec_bind, exec_files, hfiles, mapError_error]
    · obtain ⟨read, hread, -⟩ := exec_currentRecords r s
      simp only [pending, Action.exec_bind, hread, exec_files, hfiles, mapError_error]
    · intro result hresult
      obtain ⟨files, hfound⟩ := discovered_of_run (Prod.ext hresult rfl)
      rw [hfiles] at hfound
      cases hfound
  | ok files =>
    obtain ⟨read, hstatus, hperm, hran⟩ := exec_status hfiles
    have hnames : (read.map (·.migration)).Nodup :=
      (hperm.map _).nodup_iff.2 h.numbered.names
    have hlisted := filter_ran_statusOf files hnames
    refine ⟨statusOf files read,
      (pendingFiles files (Tracking.recorded r.config.table s.store)).map (·.1),
      read.map (·.migration), hstatus, exec_pending hfiles, hran, pairwise_statusOf files read,
      fun name => mem_names_statusOf, ?_, ?_, ?_, fun entry => path_of_mem_statusOf, ?_⟩
    · have hnamed := hlisted.map (·.migration)
      rwa [List.map_map] at hnamed
    · have hbatches := hlisted.map fun entry => (entry.migration, entry.batch)
      rw [List.map_map] at hbatches
      exact hbatches.trans (hperm.map _)
    · rw [filter_pending_statusOf, List.map_map, pendingFiles_congr fun _ => hperm.mem_iff]
      rfl
    · intro result hresult
      exact migrated_of_pretend hfiles (Prod.ext hresult rfl)

/-- One file was applied and is gone, and another one has come. -/
theorem status_of_orphan :
    let a : Migration := { up := .pure (), down := .pure () }
    let r : Runner :=
      { config := { paths := ["m"], table := "t" }, migrations := Dict.ofList [("a", a), ("b", a)] }
    let files (name : String) : Files := { nodes := [(["m"], .directory), (["m", name], .file [])] }
    let first : Session := { files := files "a.rs" }
    let s : Session := { ((r.call (.run {})).exec first).2 with files := files "b.rs" }
    Calls "t" 1 (r.origins (.run {}) first 0 fun _ => 0) s ∧ ∃ entries,
      r.status.exec s = (.ok entries, s) ∧
      ((entries.filter (·.isRan)).map fun entry => (entry.migration, entry.batch)) =
        [("a", some 1)] ∧
      (entries.filter fun entry => !entry.isRan).map (·.migration) = ["b"] ∧
      ∀ entry ∈ entries, entry.path = if entry.migration = "b" then some "m/b.rs" else none := by
  intro a r files first s
  have hruns : (Tracking.recorded "t" s.store).map (fun record =>
      (record.migration, some record.batch)) = [("a", some 1)] ∧
      (r.pending.exec s).1 = .ok ["b"] := by
    decide +kernel +revert
  obtain ⟨hrecorded, hdue⟩ := hruns
  have hbodies : r.BodiesRequest (Operation.Spares "t") := by
    apply BodiesRequest.of_ofList rfl
    intro entry h
    obtain rfl | rfl : entry = ("a", a) ∨ entry = ("b", a) := by simpa using h
    · exact ⟨trivial, trivial⟩
    · exact ⟨trivial, trivial⟩
  have hcalls : Calls "t" 1 (r.origins (.run {}) first 0 fun _ => 0) s :=
    ((Calls.start rfl).call r (.run {}) rfl hbodies (.of_empty rfl)).meanwhile rfl
  have hfound : Discovery.discover r.config s.files = .ok (Dict.ofList [("b", "m/b.rs")]) := by
    cbv
  have hagree := reports_agree (r := r) hcalls
  rw [hfound] at hagree
  obtain ⟨entries, waiting, ran, hstatus, hpending, -, -, -, -, hran, hwaiting, hpaths, -⟩ := hagree
  have hran : ((entries.filter (·.isRan)).map fun entry => (entry.migration, entry.batch)).Perm
      [("a", some 1)] := hrecorded ▸ hran
  rw [hpending] at hdue
  obtain rfl := Except.ok.inj hdue
  refine ⟨hcalls, entries, hstatus, List.perm_singleton.1 hran, hwaiting, ?_⟩
  intro entry hentry
  rw [hpaths entry hentry]
  exact Dict.get?_insert _ _ _ _

/-- Without a tracking table the status lists what is found, but reading the applied names fails;
and it fails itself where a directory of migrations is no directory. Programs that open and roll
back transactions can bring a deleted record back when its migration has been applied again, so that
it is recorded twice, but listed once. -/
theorem reports_may_disagree :
    let y : Migration := { up := .pure (), down := .pure (), transactional := false }
    let z : Migration := { y with up := (Program.request .begin).bind fun _ => .pure () }
    let x : Migration := { y with up := (Program.request .rollback).bind fun _ => .pure () }
    let r : Runner := {
      config := { paths := ["m", "n", "o"], table := "t" }
      migrations := Dict.ofList [("x", x), ("y", y), ("z", z)] }
    let nodes : List (List String × Node) := [(["m"], .directory), (["n"], .directory),
      (["o"], .directory), (["m", "y.rs"], .file []), (["n", "z.rs"], .file [])]
    let first : Session := { files := { nodes } }
    let applied : Session := ((r.call (.run {})).exec first).2
    let reverted : Session := ((r.call (.rollback { target := some "y" })).exec applied).2
    let second : Session :=
      { reverted with files := { nodes := nodes ++ [(["o", "x.rs"], .file [])] } }
    let s : Session := ((r.call (.run {})).exec second).2
    let broken : Session := { files := { nodes := [(["m"], .file [])] } }
    (Tracking.Reached "t" first.store ∧ (∃ entries, r.status.exec first = (.ok entries, first)) ∧
      Tracking.ran "t" first.store = .error (.failed (.adapter (.noSuchTable "t")))) ∧
    (Tracking.Reached "t" broken.store ∧ ∀ entries, (r.status.exec broken).1 ≠ .ok entries) ∧
    r.BodiesRequest (·.writes "t" = false) ∧ Tracking.Reached "t" s.store ∧
      ∃ entries ran, r.status.exec s = (.ok entries, s) ∧ Tracking.ran "t" s.store = .ok ran ∧
        ran.Perm ["y", "x", "y"] ∧ ¬((entries.filter (·.isRan)).map (·.migration)).Perm ran := by
  intro y z x r nodes first applied reverted second s broken
  have hruns : s.store.hasTable "t" = true ∧
      (Tracking.recorded "t" s.store).map (·.migration) = ["y", "x", "y"] := by
    decide +kernel +revert
  obtain ⟨htable, hrecorded⟩ := hruns
  have hbodies : r.BodiesRequest (·.writes "t" = false) := by
    apply BodiesRequest.of_ofList rfl
    intro entry h
    obtain rfl | rfl | rfl : entry = ("x", x) ∨ entry = ("y", y) ∨ entry = ("z", z) := by
      simpa using h
    · exact ⟨.bind (Program.requests_request rfl) fun _ => trivial, trivial⟩
    · exact ⟨trivial, trivial⟩
    · exact ⟨.bind (Program.requests_request rfl) fun _ => trivial, trivial⟩
  have hreached : Tracking.Reached "t" s.store :=
    (((Tracking.reached_empty "t").call first r (.run {}) rfl hbodies (.of_empty rfl)).call applied r
      (.rollback { target := some "y" }) rfl hbodies (.of_empty rfl)).call second r (.run {}) rfl
      hbodies (.of_empty rfl)
  have hfirst : ∃ files, Discovery.discover r.config first.files = .ok files :=
    ⟨Dict.ofList [("y", "m/y.rs"), ("z", "n/z.rs")], by cbv⟩
  have hbroken : Discovery.discover r.config broken.files = .error (.io "m" .notDirectory) := by cbv
  have hkept : s.files = second.files := files_call r (.run {}) second
  have hfound : Discovery.discover r.config s.files =
      .ok (Dict.ofList [("x", "o/x.rs"), ("y", "m/y.rs"), ("z", "n/z.rs")]) := by
    rw [hkept]
    cbv
  refine ⟨⟨Tracking.reached_empty "t", ?_, rfl⟩, ⟨Tracking.reached_empty "t", ?_⟩, hbodies, hreached,
    ?_⟩
  · obtain ⟨files, hfiles⟩ := hfirst
    obtain ⟨read, hstatus, -⟩ := exec_status hfiles
    exact ⟨_, hstatus⟩
  · intro entries hstatus
    simp only [status, Action.exec_bind, exec_files, hbroken, mapError_error] at hstatus
    cases hstatus
  · obtain ⟨read, hstatus, hperm, hran⟩ := exec_status_of_hasTable hfound htable
    have hnames : (read.map (·.migration)).Perm ["y", "x", "y"] := hrecorded ▸ hperm.map _
    refine ⟨_, _, hstatus, hran, hnames, fun hlisted => ?_⟩
    have htwice := (hlisted.trans hnames).nodup_iff.1 (nodup_ran_statusOf _ read)
    simp at htwice

end Exec

end Runner

end SchemaMigration
