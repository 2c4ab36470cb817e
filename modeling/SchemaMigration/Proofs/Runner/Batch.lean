import Mathlib
import SchemaMigration.Proofs.Runner.Lock
import SchemaMigration.Proofs.Runner.Pending
import SchemaMigration.Proofs.Runner.Task

/-!
# Batches

A run applies the files that are due one after the other, up to the first that fails. Whatever made
it fail, the records afterwards are those from before and one for each file that was applied, and
all other files are as pending as they were.
-/

namespace SchemaMigration

namespace Runner

/-- The tasks of applying files complete one after the other. -/
inductive AppliesAll (r : Runner) (f : Files) (batch : Int64) :
    List (String × String) → Store → Store → Prop where
  /-- Nothing is to be applied. -/
  | nil {s : Store} : AppliesAll r f batch [] s s
  /-- A file is applied, and then the others are. -/
  | cons {file : String × String} {rest : List (String × String)} {s s₁ s' : Store}
      (first : (applying batch file).Completes r f s s₁)
      (others : AppliesAll r f batch rest s₁ s') :
      AppliesAll r f batch (file :: rest) s s'

variable {r : Runner} {f : Files} {batch : Int64} {tracking : Table}

/-- A row of the tracking table is that of a file which was applied as part of a batch. -/
structure IsRowOf (f : Files) (batch : Int64) (file : String × String) (row : Row) : Prop where
  migration : (Record.ofRow row).migration = file.1
  batch : (Record.ofRow row).batch = batch
  checksum : (Record.ofRow row).checksum = (checksum file.2 f).toOption

/-- Applying files appends a row for each of them, in order. -/
theorem AppliesAll.logged {files : List (String × String)} {s s' : Store}
    (hkeeps : r.KeepsTracking f) (hget : s.tables.get? r.config.table = some tracking)
    (htracks : tracking.Tracks) (h : AppliesAll r f batch files s s') :
    ∃ tracking' added, s'.tables.get? r.config.table = some tracking' ∧ tracking'.Tracks ∧
      tracking'.rows = tracking.rows ++ added ∧ List.Forall₂ (IsRowOf f batch) files added := by
  induction h generalizing tracking with
  | nil => exact ⟨tracking, [], hget, htracks, by simp, .nil⟩
  | cons first others ih =>
    obtain ⟨tracking₁, hget₁, htracks₁, row, hname, hbatch, hchecksum, hrows₁⟩ :=
      first.updates hkeeps hget htracks
    obtain ⟨tracking', added, hget', htracks', hrows', hadded⟩ := ih hget₁ htracks₁
    refine ⟨tracking', row :: added, hget', htracks', ?_, .cons ⟨hname, hbatch, hchecksum⟩ hadded⟩
    rw [hrows', hrows₁, List.append_assoc, List.singleton_append]

/-- The rows that are appended have the names of the files and their batch. -/
theorem AppliesAll.updates {files : List (String × String)} {s s' : Store}
    (hkeeps : r.KeepsTracking f) (hget : s.tables.get? r.config.table = some tracking)
    (htracks : tracking.Tracks) (h : AppliesAll r f batch files s s') :
    ∃ tracking' added, s'.tables.get? r.config.table = some tracking' ∧ tracking'.Tracks ∧
      tracking'.rows = tracking.rows ++ added ∧
      (added.map Record.ofRow).map (fun record => (record.migration, record.batch)) =
        files.map fun file => (file.1, batch) := by
  obtain ⟨tracking', added, hget', htracks', hrows, hadded⟩ := h.logged hkeeps hget htracks
  refine ⟨tracking', added, hget', htracks', hrows, ?_⟩
  clear hrows h
  induction hadded with
  | nil => rfl
  | cons hrow _ ih => simp only [List.map_cons, ih, hrow.migration, hrow.batch]

/-- Applying files appends a record for each of them if no program touches the tracking table. -/
theorem AppliesAll.table {files : List (String × String)} {s s' : Store}
    (hbodies : r.BodiesRequest (Operation.Spares r.config.table))
    (hget : s.tables.get? r.config.table = some tracking) (htracks : tracking.Tracks)
    (h : AppliesAll r f batch files s s') :
    ∃ tracking' added, s'.tables.get? r.config.table = some tracking' ∧ tracking'.Tracks ∧
      tracking'.rows.map Record.ofRow = tracking.rows.map Record.ofRow ++ added ∧
      added.map (fun record => (record.migration, record.batch)) =
        files.map fun file => (file.1, batch) := by
  obtain ⟨tracking', added, hget', htracks', hrows, hadded⟩ :=
    h.updates (hbodies.keepsTracking f) hget htracks
  exact ⟨tracking', _, hget', htracks', by rw [hrows, List.map_append], hadded⟩

/-- Where a tracking table was made sure of, applying files adds a record for each of them. -/
theorem AppliesAll.recorded {files : List (String × String)} {s prepared s' : Store}
    (hbodies : r.BodiesRequest (Operation.Spares r.config.table))
    (htracks : ∀ t, s.tables.get? r.config.table = some t → t.Tracks)
    (hensure : Tracking.ensure r.config.table s = .ok ((), prepared))
    (h : AppliesAll r f batch files prepared s') :
    ∃ tracking added, s'.tables.get? r.config.table = some tracking ∧ tracking.Tracks ∧
      Tracking.recorded r.config.table s' = Tracking.recorded r.config.table s ++ added ∧
      added.map (fun record => (record.migration, record.batch)) =
        files.map fun file => (file.1, batch) := by
  obtain ⟨store, tracking, hensure', hget, hrows, htracks'⟩ :=
    Tracking.ensure_total r.config.table s
  obtain rfl : store = prepared := by
    rw [hensure] at hensure'
    exact (Prod.mk.inj (Except.ok.inj hensure')).2.symm
  obtain ⟨tracking', added, hget', htracks', hrows', hadded⟩ :=
    h.table hbodies hget (htracks' htracks)
  refine ⟨tracking', added, hget', htracks', ?_, hadded⟩
  rw [Tracking.recorded_of_get? hget', hrows', hrows]
  rfl

/-- Files are applied up to the first that fails. -/
theorem exec_applyAll {s : Session} (hbodies : r.BodiesRequest (Operation.Spares r.config.table))
    (hb : 1 ≤ batch.toInt) (hget : s.store.tables.get? r.config.table = some tracking)
    (htracks : tracking.Tracks) (selected : List (String × String)) :
    ∃ done later result s' reached, selected = done ++ later ∧
      (r.applyAll batch false selected).exec s = (result, s') ∧ s'.files = s.files ∧
      AppliesAll r s.files batch done s.store reached ∧
      s'.store.tables.get? r.config.table = reached.tables.get? r.config.table ∧
      match later with
      | [] => result = .ok ()
      | file :: _ => ∃ fault, (applying batch file).Fails r s.files reached fault ∧
          result = .error fault := by
  induction selected generalizing s tracking with
  | nil => exact ⟨[], [], .ok (), s, s.store, rfl, rfl, rfl, .nil, rfl, rfl⟩
  | cons file rest ih =>
    obtain ⟨result, s₁, hexec, hfiles, hends, -⟩ :=
      execute_ends (t := applying batch file) hbodies rfl hget htracks fun _ => hb
    rw [applyAll_cons, Action.exec_bind, hexec]
    rcases result with fault | ⟨⟩
    · exact ⟨[], file :: rest, .error fault, s₁, s.store, rfl, rfl, hfiles, .nil, hends.2, fault,
        hends.1, rfl⟩
    · obtain ⟨tracking₁, hget₁, htracks₁, -⟩ := hends.table hbodies hget htracks
      obtain ⟨done, later, result, s', reached, hrest, hexec', hfiles', happlies, hstore,
        hresult⟩ := ih hget₁ htracks₁
      rw [hfiles] at hfiles' happlies hresult
      exact ⟨file :: done, later, result, s', reached, congrArg (file :: ·) hrest, hexec', hfiles',
        .cons hends happlies, hstore, hresult⟩

variable {o : RunOptions} {records read : List Record} {s : Session}

/-- A run that is not pretended applies the files that are due as one batch. -/
theorem exec_applyPending (hbodies : r.BodiesRequest (Operation.Spares r.config.table))
    (hreal : o.pretend = false) (hseed : o.seed = false)
    (hget : s.store.tables.get? r.config.table = some tracking) (htracks : tracking.Tracks)
    (files : Dict String) (hread : ∀ record, record ∈ read ↔ record ∈ records)
    (hbatch : Tracking.following (greatestBatch read) = .ok batch) (hb : 1 ≤ batch.toInt) :
    ∃ done later result s' reached, due o files records = done ++ later ∧
      (r.applyPending o files read).exec s = (result, s') ∧ s'.files = s.files ∧
      AppliesAll r s.files batch done s.store reached ∧
      s'.store.tables.get? r.config.table = reached.tables.get? r.config.table ∧
      match later with
      | [] => result = .ok {
          batch := if (due o files records).isEmpty then none else some batch
          migrated := (due o files records).map (·.1)
          pretend := false }
      | file :: _ => ∃ fault, (applying batch file).Fails r s.files reached fault ∧
          result = .error fault := by
  have hselected : selectFiles o (pendingFiles files read) = due o files records :=
    selectFiles_pendingFiles o hread
  rcases hdue : due o files records with _ | ⟨file, rest⟩
  · rw [hdue] at hselected
    rw [exec_applyPending_of_nil hselected, hreal]
    exact ⟨[], [], _, _, s.store, rfl, rfl, rfl, .nil, rfl, rfl⟩
  · rw [hdue] at hselected
    rw [exec_applyPending_of_ne_nil hselected (List.cons_ne_nil _ _) hbatch, hreal]
    obtain ⟨done, later, result, s₁, reached, hsplit, happly, hfiles, happlies, hstore, hresult⟩ :=
      exec_applyAll (s := s.journaled (r.announcement (.batchStarted batch
        ((file :: rest).map (·.1)) false) s.store)) hbodies hb hget htracks (file :: rest)
    simp only [happly, hseed, Bool.false_and, Bool.false_eq_true, if_false]
    rcases later with _ | ⟨failing, others⟩
    · subst hresult
      exact ⟨done, [], _, _, reached, hsplit, rfl, hfiles, happlies, hstore, rfl⟩
    · obtain ⟨fault, hfails, rfl⟩ := hresult
      exact ⟨done, failing :: others, _, _, reached, hsplit, rfl, hfiles, happlies, hstore, fault,
        hfails, rfl⟩

/-- A run without the lock applies and records the files that are due up to the first that fails. -/
theorem exec_runPending {files : Dict String}
    (htracks : ∀ t, s.store.tables.get? r.config.table = some t → t.Tracks)
    (hmax : ∀ record ∈ Tracking.recorded r.config.table s.store,
      record.batch.toInt < Int64.maxValue.toInt)
    (hbodies : r.BodiesRequest (Operation.Spares r.config.table))
    (hreal : o.pretend = false) (hseed : o.seed = false)
    (hfiles : Discovery.discover r.config s.files = .ok files) (hknown : unknown? o files = none) :
    let records := Tracking.recorded r.config.table s.store
    ∃ batch done later added prepared reached result s',
      batch.toInt = Tracking.lastNumber records + 1 ∧ due o files records = done ++ later ∧
      Tracking.ensure r.config.table s.store = .ok ((), prepared) ∧
      (r.runPending o []).exec s = (result, s') ∧ s'.files = s.files ∧
      AppliesAll r s.files batch done prepared reached ∧
      Tracking.recorded r.config.table s'.store = records ++ added ∧
      added.map (fun record => (record.migration, record.batch)) =
        done.map (fun file => (file.1, batch)) ∧
      match later with
      | [] => result = .ok {
          batch := if (due o files records).isEmpty then none else some batch
          migrated := (due o files records).map (·.1)
          pretend := false }
      | file :: _ => ∃ fault, (applying batch file).Fails r s.files reached fault ∧
          result = .error fault := by
  intro records
  obtain ⟨prepared, tracking, read, hensure, hget, hrows, htracks', hread, hmem⟩ :=
    exec_recordsForRun_false r s
  have hpos {record : Record} (hr : record ∈ read) : 1 ≤ record.batch.toInt :=
    Tracking.one_le_batch_of_tracks htracks ((hmem record).1 hr)
  obtain ⟨batch, hbatch, hvalue⟩ := following_greatestBatch (fun _ => hpos)
    fun record hr => hmax record ((hmem record).1 hr)
  rw [Tracking.lastNumber_congr hmem] at hvalue
  have hb : 1 ≤ batch.toInt := by
    have hnonneg := Tracking.lastNumber_nonneg (Tracking.recorded r.config.table s.store)
    omega
  obtain ⟨done, later, result, s', reached, hsplit, happly, hfiles', happlies, hstore, hresult⟩ :=
    exec_applyPending (s := { s with store := prepared }) hbodies hreal hseed hget
      (htracks' htracks) files hmem hbatch hb
  obtain ⟨tracking', added, hget', -, hrows', hadded⟩ :=
    happlies.table hbodies hget (htracks' htracks)
  refine ⟨batch, done, later, added, prepared, reached, result, s', hvalue, hsplit, hensure, ?_,
    hfiles', happlies, ?_, hadded, hresult⟩
  · rw [← hreal] at hread
    rw [exec_runPending_of_known [] hfiles hknown hread rfl, filter_not_reverted_nil, happly]
  · rw [Tracking.recorded_of_get? (hstore.trans hget'), hrows', hrows]
    rfl

/-- The files that were applied are no longer pending, and all others are as they were. -/
theorem exec_pending_of_added {files : Dict String} {after : Session}
    {done : List (String × String)} {added : List Record}
    (hfiles : Discovery.discover r.config s.files = .ok files)
    (hafter : after.files = s.files)
    (hrecorded : Tracking.recorded r.config.table after.store =
      Tracking.recorded r.config.table s.store ++ added)
    (hadded : added.map (·.migration) = done.map (·.1)) :
    ∃ waiting, (r.pending.exec s).1 = .ok waiting ∧
      (r.pending.exec after).1 = .ok (waiting.filter fun name => name ∉ done.map (·.1)) ∧
      waiting = (pendingFiles files (Tracking.recorded r.config.table s.store)).map (·.1) := by
  refine ⟨_, ?_, ?_, rfl⟩
  · rw [exec_pending hfiles]
  · rw [exec_pending (by rw [hafter, hfiles]), hrecorded, pendingFiles_append, hadded,
      List.filter_map]
    rfl

/-- A run applies and records the files that are due up to the first that fails, which stays pending
together with all that come after it. -/
theorem run_applies_prefix {files : Dict String} (hs : Tracking.Tracked r.config.table s.store)
    (hmax : ∀ record ∈ Tracking.recorded r.config.table s.store,
      record.batch.toInt < Int64.maxValue.toInt)
    (hbodies : r.BodiesRequest (Operation.Spares r.config.table)) (hfree : r.IsFree s.store)
    (hreal : o.pretend = false) (hseed : o.seed = false)
    (hfiles : Discovery.discover r.config s.files = .ok files)
    (honly : ∀ names ∈ o.only, ∀ name ∈ names, files.contains name = true) :
    let records := Tracking.recorded r.config.table s.store
    let selected := due o files records
    let result := ((r.run o).exec s).1
    let after := ((r.run o).exec s).2
    ∃ (batch : Int64) (done later : List (String × String)) (added : List Record)
      (waiting : List String) (prepared reached : Store),
      batch.toInt = Tracking.lastNumber records + 1 ∧ selected = done ++ later ∧
      Tracking.ensure r.config.table (r.locked s).store = .ok ((), prepared) ∧
      AppliesAll r s.files batch done prepared reached ∧
      Tracking.recorded r.config.table after.store = records ++ added ∧
      added.map (fun record => (record.migration, record.batch)) =
        done.map (fun file => (file.1, batch)) ∧
      (r.pending.exec s).1 = .ok waiting ∧
      (r.pending.exec after).1 = .ok (waiting.filter fun name => name ∉ done.map (·.1)) ∧
      (∀ file ∈ later, file.1 ∈ waiting.filter fun name => name ∉ done.map (·.1)) ∧
      match later with
      | [] => result = .ok {
          batch := if selected.isEmpty then none else some batch
          migrated := selected.map (·.1)
          pretend := false }
      | file :: _ => ∃ fault, (applying batch file).Fails r s.files reached fault ∧
          result = .error fault := by
  intro records selected result after
  have hrecords : Tracking.recorded r.config.table (r.locked s).store = records :=
    Tracking.recorded_congr (by rw [tables_locked])
  obtain ⟨batch, done, later, added, prepared, reached, result', s', hvalue, hsplit, hensure, hexec,
      hfiles', happlies, hrecorded, hadded, hresult⟩ :=
    exec_runPending (s := r.locked s) (fun t ht => hs.tracks (by rwa [tables_locked] at ht))
      (by rwa [hrecords]) hbodies hreal hseed (by rwa [files_locked]) (unknown?_eq_none.2 honly)
  obtain ⟨locks, hlocks⟩ := exec_withLock_of_isFree hfree (r.runPending o [])
  have hrun : (r.run o).exec s = (result', s'.relocked locks) := by
    rw [run, hlocks, hexec]
  simp only [files_locked, hrecords] at hfiles' happlies hvalue hsplit hrecorded hresult
  have hafter : after.files = s.files ∧
      Tracking.recorded r.config.table after.store = records ++ added := by
    simp only [after, hrun]
    exact ⟨hfiles', hrecorded⟩
  have hnames : added.map (·.migration) = done.map (·.1) := by
    have h := congrArg (List.map Prod.fst) hadded
    rwa [List.map_map, List.map_map] at h
  obtain ⟨waiting, hbefore, hpending, hwaiting⟩ :=
    exec_pending_of_added hfiles hafter.1 hafter.2 hnames
  refine ⟨batch, done, later, added, waiting, prepared, reached, hvalue, hsplit, hensure, happlies,
    hafter.2, hadded, hbefore, hpending, fun file hfile => ?_, ?_⟩
  · have hascending := due_ascending o files records
    have hpending := (due_sublist o files records).subset
    rw [hsplit] at hascending hpending
    have hdone : file.1 ∉ done.map (·.1) := fun hmem => by
      obtain ⟨earlier, hearlier, heq⟩ := List.mem_map.1 hmem
      have hlt := (List.pairwise_append.1 hascending).2.2 earlier hearlier file hfile
      exact String.lt_irrefl _ (heq ▸ hlt)
    rw [hwaiting]
    refine List.mem_filter.2 ⟨?_, by simpa using hdone⟩
    exact List.mem_map_of_mem (hpending (List.mem_append_right _ hfile))
  · simpa only [result, hrun] using hresult

/-- A run of two files, of which the second one fails, in a store without a tracking table. -/
theorem run_applies_first_of_two :
    let a : Migration := { up := .request (.createTable "users" []), down := .pure () }
    let b : Migration := { up := .fail (.adapter (.stated "b")), down := .pure () }
    let migrations := Dict.ofList [("a", a), ("b", b)]
    let r : Runner := { config := { paths := ["m"], advisoryLock := true }, migrations }
    let nodes := [(["m"], .directory), (["m", "a.rs"], .file []), (["m", "b.rs"], .file [])]
    let s : Session := { files := { nodes } }
    let o : RunOptions := { only := some ["b", "a"] }
    let files := Dict.ofList [("a", "m/a.rs"), ("b", "m/b.rs")]
    let after := ((r.run o).exec s).2
    Tracking.Tracked r.config.table s.store ∧
      r.BodiesRequest (Operation.Spares r.config.table) ∧ r.IsFree s.store ∧
      Discovery.discover r.config s.files = .ok files ∧
      ∃ (batch : Int64) (done later : List (String × String)), batch.toInt = 1 ∧
        due o files [] = done ++ later ∧
        (Tracking.recorded r.config.table after.store).map
          (fun record => (record.migration, record.batch)) =
            done.map fun file => (file.1, batch) := by
  intro a b migrations r nodes s o files after
  have hs : Tracking.Tracked r.config.table s.store := .inl rfl
  have hbodies : r.BodiesRequest (Operation.Spares r.config.table) := by
    have hentries : r.migrations.entries = [("a", a), ("b", b)] := by cbv
    refine .of_entries fun entry h => ?_
    obtain rfl | rfl : entry = ("a", a) ∨ entry = ("b", b) := by simpa [hentries] using h
    · exact ⟨Program.requests_request ⟨by decide, rfl⟩, trivial⟩
    · exact ⟨trivial, trivial⟩
  have hfree : r.IsFree s.store := fun _ _ => rfl
  have hfiles : Discovery.discover r.config s.files = .ok files := by cbv
  have hbelow : ∀ record ∈ Tracking.recorded r.config.table s.store,
      record.batch.toInt < Int64.maxValue.toInt := by
    intro record h
    cases h
  have honly : ∀ names ∈ o.only, ∀ name ∈ names, files.contains name = true := by
    simp only [o, Option.mem_def, Option.some.injEq, forall_eq']
    decide
  obtain ⟨batch, done, later, added, -, -, -, hbatch, hdue, -, -, hrecords, hadded, -⟩ :=
    run_applies_prefix hs hbelow hbodies hfree rfl rfl hfiles honly
  refine ⟨hs, hbodies, hfree, hfiles, batch, done, later, hbatch, hdue, ?_⟩
  rw [hrecords]
  exact hadded

end Runner

end SchemaMigration
