import SchemaMigration.Proofs.Runner.Selection
import SchemaMigration.Proofs.Runner.Task

/-!
# Reverting records

Records are reverted one after the other. What is reported depends on the records and the files
alone; afterwards there are no records of the migrations that were reverted, and all others are
left. A reset reverts all records.
-/

namespace SchemaMigration

namespace Runner

/-- What is reported when records are reverted: those with a file are, and the others are not. -/
def revertReport (files : Dict String) (pretend : Bool) (records : List Record) :
    RollbackResult where
  rolledBack := (records.map (·.migration)).filter files.contains
  skippedMissing := (records.map (·.migration)).filter fun name => !files.contains name
  pretend := pretend

variable {r : Runner} {s : Session} {files : Dict String} {record : Record}

theorem revertReport_of_none (h : files.get? record.migration = none) (pretend : Bool)
    (rest : List Record) :
    let report := revertReport files pretend rest
    revertReport files pretend (record :: rest) =
      { report with skippedMissing := record.migration :: report.skippedMissing } := by
  simp [revertReport, Dict.contains_eq_false.2 h]

theorem revertReport_of_some {path : String} (h : files.get? record.migration = some path)
    (pretend : Bool) (rest : List Record) :
    let report := revertReport files pretend rest
    revertReport files pretend (record :: rest) =
      { report with rolledBack := record.migration :: report.rolledBack } := by
  simp [revertReport, Dict.contains_of_get?_eq_some h]

/-- If all records have a file, all are reverted. -/
theorem revertReport_of_found {records : List Record}
    (h : ∀ record ∈ records, files.contains record.migration = true) (pretend : Bool) :
    revertReport files pretend records = { rolledBack := records.map (·.migration), pretend } := by
  induction records with
  | nil => rfl
  | cons record rest ih =>
    obtain ⟨hrecord, hrest⟩ := List.forall_mem_cons.1 h
    rw [Dict.contains_eq_isSome] at hrecord
    obtain ⟨path, hpath⟩ := Option.isSome_iff_exists.1 hrecord
    rw [revertReport_of_some hpath, ih hrest, List.map_cons]

theorem exec_revertAll_of_none (h : files.get? record.migration = none) (pretend : Bool)
    (rest : List Record) :
    (r.revertAll files pretend (record :: rest)).exec s =
      match (r.revertAll files pretend rest).exec
        (s.journaled (r.printout s!"Migration not found: {record.migration}")) with
      | (.error fault, s') => (.error fault, s')
      | (.ok report, s') =>
        (.ok { report with skippedMissing := record.migration :: report.skippedMissing }, s') := by
  simp only [revertAll, h, Action.exec_bind, exec_say]
  rcases (r.revertAll files pretend rest).exec _ with ⟨fault | report, s'⟩ <;> rfl

theorem exec_revertAll_of_some {path : String} (h : files.get? record.migration = some path)
    (pretend : Bool) (rest : List Record) :
    (r.revertAll files pretend (record :: rest)).exec s =
      match (r.execute { reverting record path with pretend }).exec s with
      | (.error fault, s₁) => (.error fault, s₁)
      | (.ok (), s₁) =>
        match (r.revertAll files pretend rest).exec s₁ with
        | (.error fault, s') => (.error fault, s')
        | (.ok report, s') =>
          (.ok { report with rolledBack := record.migration :: report.rolledBack }, s') := by
  simp only [revertAll, h, Action.exec_bind, reverting]
  rcases (r.execute _).exec s with ⟨fault | ⟨⟩, s₁⟩
  · rfl
  · dsimp only
    generalize (r.revertAll files pretend rest).exec s₁ = outcome
    rcases outcome with ⟨fault | report, s'⟩ <;> rfl

theorem revertAll_eq_ok_of_none {pretend : Bool} {rest : List Record} {report : RollbackResult}
    {s' : Session} (h : files.get? record.migration = none) :
    (r.revertAll files pretend (record :: rest)).exec s = (.ok report, s') ↔
      ∃ others, (r.revertAll files pretend rest).exec
          (s.journaled (r.printout s!"Migration not found: {record.migration}")) =
            (.ok others, s') ∧
        report = { others with skippedMissing := record.migration :: others.skippedMissing } := by
  rw [exec_revertAll_of_none h]
  generalize (r.revertAll files pretend rest).exec _ = outcome
  rcases outcome with ⟨fault | others, s₁⟩ <;> simp [eq_comm, and_comm]

theorem revertAll_eq_ok_of_some {path : String} {pretend : Bool} {rest : List Record}
    {report : RollbackResult} {s' : Session} (h : files.get? record.migration = some path) :
    (r.revertAll files pretend (record :: rest)).exec s = (.ok report, s') ↔
      ∃ s₁ others, (r.execute { reverting record path with pretend }).exec s = (.ok (), s₁) ∧
        (r.revertAll files pretend rest).exec s₁ = (.ok others, s') ∧
        report = { others with rolledBack := record.migration :: others.rolledBack } := by
  have hcons : r.revertAll files pretend (record :: rest) =
      r.execute { reverting record path with pretend } >>= fun _ =>
        r.revertAll files pretend rest >>= fun others =>
          pure { others with rolledBack := record.migration :: others.rolledBack } := by
    simp only [revertAll, h]
    rfl
  rw [hcons, Action.exec_bind_eq_ok]
  constructor
  · rintro ⟨⟨⟩, s₁, hexec, hothers⟩
    obtain ⟨others, s₂, hrest, hpure⟩ := Action.exec_bind_eq_ok.1 hothers
    obtain ⟨hreport, rfl⟩ := Prod.mk.inj hpure
    exact ⟨s₁, others, hexec, hrest, (Except.ok.inj hreport).symm⟩
  · rintro ⟨s₁, others, hexec, hrest, rfl⟩
    exact ⟨(), s₁, hexec, Action.exec_bind_eq_ok.2 ⟨others, s', hrest, rfl⟩⟩

/-- Reverting ends with the report and without the records of what was reverted, or as one of the
tasks fails. -/
theorem exec_revertAll {tracking : Table}
    (hbodies : r.BodiesRequest (Operation.Spares r.config.table))
    (hget : s.store.tables.get? r.config.table = some tracking) (htracks : tracking.Tracks)
    (files : Dict String) (records : List Record) :
    ∃ result s', (r.revertAll files false records).exec s = (result, s') ∧ s'.files = s.files ∧
      match result with
      | .ok report => report = revertReport files false records ∧
          ∃ tracking', s'.store.tables.get? r.config.table = some tracking' ∧ tracking'.Tracks ∧
            tracking'.rows = tracking.rows.filter fun row =>
              !report.rolledBack.contains (Record.ofRow row).migration
      | .error fault => ∃ t store, Task.Fails t r s.files store fault := by
  induction records generalizing s tracking with
  | nil =>
    refine ⟨.ok { pretend := false }, s, rfl, rfl, rfl, tracking, hget, htracks, ?_⟩
    exact (List.filter_eq_self.2 fun _ _ => rfl).symm
  | cons record rest ih =>
    rcases hfile : files.get? record.migration with _ | path
    · rw [exec_revertAll_of_none hfile, revertReport_of_none hfile]
      obtain ⟨result, s', hexec, hfiles, hresult⟩ :=
        ih (s := s.journaled (r.printout s!"Migration not found: {record.migration}")) hget htracks
      rw [hexec]
      rcases result with fault | report
      · exact ⟨.error fault, s', rfl, hfiles, hresult⟩
      · obtain ⟨rfl, htable⟩ := hresult
        exact ⟨.ok _, s', rfl, hfiles, rfl, htable⟩
    · rw [exec_revertAll_of_some hfile, revertReport_of_some hfile]
      obtain ⟨result, s₁, hexec, hfiles, hends, -⟩ :=
        execute_ends (t := reverting record path) hbodies rfl hget htracks nofun
      have hreverting : { reverting record path with pretend := false } = reverting record path :=
        rfl
      rw [hreverting, hexec]
      rcases result with fault | ⟨⟩
      · exact ⟨.error fault, s₁, rfl, hfiles, _, _, hends.1⟩
      · obtain ⟨tracking₁, hget₁, htracks₁, hrows₁⟩ := hends.table hbodies hget htracks
        obtain ⟨result, s', hexec', hfiles', hresult⟩ := ih hget₁ htracks₁
        dsimp only
        rw [hexec']
        rcases result with fault | report
        · exact ⟨.error fault, s', rfl, hfiles'.trans hfiles, hfiles ▸ hresult⟩
        · obtain ⟨rfl, tracking', hget', htracks', hrows'⟩ := hresult
          refine ⟨.ok _, s', rfl, hfiles'.trans hfiles, rfl, tracking', hget', htracks', ?_⟩
          rw [hrows', hrows₁, List.filter_filter]
          refine List.filter_congr fun row _ => ?_
          rw [List.contains_cons, Bool.not_or, Bool.and_comm]
          rfl

/-- Records without a file are only reported. -/
theorem exec_revertAll_of_missing {records : List Record}
    (h : ∀ record ∈ records, files.contains record.migration = false) (pretend : Bool) :
    ∃ s', (r.revertAll files pretend records).exec s =
      (.ok (revertReport files pretend records), s') ∧ s'.store = s.store := by
  induction records generalizing s with
  | nil => exact ⟨s, rfl, rfl⟩
  | cons record rest ih =>
    obtain ⟨hrecord, hrest⟩ := List.forall_mem_cons.1 h
    have hnone := Dict.contains_eq_false.1 hrecord
    rw [exec_revertAll_of_none hnone, revertReport_of_none hnone]
    obtain ⟨s', hexec, hstore⟩ := ih hrest
      (s := s.journaled (r.printout s!"Migration not found: {record.migration}"))
    rw [hexec]
    exact ⟨s', rfl, hstore⟩

/-- The part of `rollbackRecords` that follows the choice of the records. -/
def revertSelected (r : Runner) (pretend : Bool) (records : List Record) :
    Action RollbackResult := do
  if records.isEmpty then r.nothingToRollBack pretend
  else
    let files ← r.files
    r.emit (.rollbackStarted (records.map (·.migration)) pretend)
    let result ← r.revertAll files pretend records
    r.emit (.rollbackCompleted result.rolledBack pretend)
    return result

theorem rollbackRecords_eq (r : Runner) (o : RollbackOptions) :
    r.rollbackRecords o = (do
      if !(← get).store.hasTable r.config.table then r.nothingToRollBack o.pretend
      else r.revertSelected o.pretend (← Action.read (rollbackTargets r.config.table o))) :=
  rfl

theorem exec_nothingToRollBack (r : Runner) (pretend : Bool) (s : Session) :
    (r.nothingToRollBack pretend).exec s =
      (.ok { pretend }, s.journaled (r.printout "Nothing to rollback.")) := by
  simp [nothingToRollBack, Except.map]

/-- Records are reverted between the two events of a rollback. -/
theorem exec_revertSelected_of_ne_nil {records : List Record} (hne : records ≠ [])
    (hfiles : Discovery.discover r.config s.files = .ok files) (pretend : Bool) :
    (r.revertSelected pretend records).exec s =
      match (r.revertAll files pretend records).exec (s.journaled
        (r.announcement (.rollbackStarted (records.map (·.migration)) pretend) s.store)) with
      | (.error fault, s') => (.error fault, s')
      | (.ok report, s') => (.ok report, s'.journaled
          (r.announcement (.rollbackCompleted report.rolledBack pretend) s'.store)) := by
  have hempty : records.isEmpty = false := by simpa using hne
  simp only [revertSelected, hempty, Bool.false_eq_true, if_false, Action.exec_bind, exec_files,
    hfiles, mapError_ok, exec_emit]
  rcases (r.revertAll files pretend records).exec _ with ⟨fault | report, s'⟩
  · rfl
  · rfl

theorem exec_revertSelected_of_error {e : Error}
    (h : Discovery.discover r.config s.files = .error e) (pretend : Bool)
    (records : List Record) :
    (r.revertSelected pretend records).exec s =
      if records.isEmpty then (r.nothingToRollBack pretend).exec s else (.error (.failed e), s) := by
  simp only [revertSelected, Action.exec_ite, Action.exec_bind, exec_files, h, mapError_error]

/-- The chosen records are reverted as far as they have a file, or one of the tasks fails. -/
theorem exec_revertSelected {tracking : Table}
    (hbodies : r.BodiesRequest (Operation.Spares r.config.table))
    (hget : s.store.tables.get? r.config.table = some tracking) (htracks : tracking.Tracks)
    (records : List Record) (hfiles : Discovery.discover r.config s.files = .ok files) :
    ∃ result s', (r.revertSelected false records).exec s = (result, s') ∧ s'.files = s.files ∧
      match result with
      | .ok report => report = revertReport files false records ∧
          ∃ tracking', s'.store.tables.get? r.config.table = some tracking' ∧ tracking'.Tracks ∧
            tracking'.rows = tracking.rows.filter fun row =>
              !report.rolledBack.contains (Record.ofRow row).migration
      | .error fault => ∃ t store, Task.Fails t r s.files store fault := by
  rcases records with _ | ⟨record, rest⟩
  · refine ⟨_, _, exec_nothingToRollBack r false s, rfl, rfl, tracking, hget, htracks, ?_⟩
    exact (List.filter_eq_self.2 fun _ _ => rfl).symm
  · have hne : record :: rest ≠ [] := List.cons_ne_nil _ _
    rw [exec_revertSelected_of_ne_nil hne hfiles]
    obtain ⟨result, s', hexec, hfiles', hresult⟩ := exec_revertAll (s := s.journaled
      (r.announcement (.rollbackStarted ((record :: rest).map (·.migration)) false) s.store))
      hbodies hget htracks files (record :: rest)
    rw [hexec]
    rcases result with fault | report
    · exact ⟨.error fault, s', rfl, hfiles', hresult⟩
    · exact ⟨.ok report, _, rfl, hfiles', hresult⟩

theorem exec_revertSelected_of_missing {records : List Record}
    (hfiles : Discovery.discover r.config s.files = .ok files)
    (h : ∀ record ∈ records, files.contains record.migration = false) (pretend : Bool) :
    ∃ report s', (r.revertSelected pretend records).exec s = (.ok report, s') ∧
      s'.store = s.store := by
  rcases records with _ | ⟨record, rest⟩
  · exact ⟨_, _, exec_nothingToRollBack r pretend s, rfl⟩
  · obtain ⟨s', hexec, hstore⟩ := exec_revertAll_of_missing h pretend (r := r) (s := s.journaled
      (r.announcement (.rollbackStarted ((record :: rest).map (·.migration)) pretend) s.store))
    rw [exec_revertSelected_of_ne_nil (List.cons_ne_nil _ _) hfiles, hexec]
    exact ⟨_, _, rfl, hstore⟩

theorem exec_rollbackRecords_of_no_table (h : s.store.tables.get? r.config.table = none)
    (o : RollbackOptions) :
    (r.rollbackRecords o).exec s =
      (.ok { pretend := o.pretend }, s.journaled (r.printout "Nothing to rollback.")) := by
  have htable : s.store.hasTable r.config.table = false := Store.hasTable_eq_false.2 h
  simp only [rollbackRecords_eq, Action.exec_bind, Action.exec_get, htable, Bool.not_false,
    if_true, exec_nothingToRollBack]

theorem exec_rollbackRecords {tracking : Table}
    (h : s.store.tables.get? r.config.table = some tracking) (o : RollbackOptions) :
    (r.rollbackRecords o).exec s =
      match rollbackTargets r.config.table o s.store with
      | .error fault => (.error fault, s)
      | .ok records => (r.revertSelected o.pretend records).exec s := by
  have htable : s.store.hasTable r.config.table = true := Store.hasTable_eq_true.2 ⟨_, h⟩
  simp only [rollbackRecords_eq, Action.exec_bind, Action.exec_get, htable, Bool.not_true,
    Bool.false_eq_true, if_false, Action.exec_read]
  rcases rollbackTargets r.config.table o s.store with fault | records <;> rfl

theorem exec_resetRecords_of_no_table (h : s.store.tables.get? r.config.table = none)
    (pretend : Bool) :
    (r.resetRecords pretend).exec s =
      (.ok { pretend }, s.journaled (r.printout "Nothing to rollback.")) := by
  have htable : s.store.hasTable r.config.table = false := Store.hasTable_eq_false.2 h
  simp [resetRecords, htable, exec_nothingToRollBack]

/-- A reset reverts as many batches as the number of the last one. -/
theorem exec_resetRecords {last : Int64} (h : s.store.hasTable r.config.table = true)
    (hlast : Tracking.lastBatch r.config.table s.store = .ok last) (pretend : Bool) :
    (r.resetRecords pretend).exec s =
      if last = 0 then (r.nothingToRollBack pretend).exec s
      else (r.rollbackRecords { steps := some last.toUInt64.toNat, pretend }).exec s := by
  simp only [resetRecords, Action.exec_bind, Action.exec_get, h, if_true, Action.exec_read, hlast,
    Action.exec_ite]

/-- What is to be reverted is recorded. -/
theorem mem_recorded_of_rollbackTargets {table : String} {o : RollbackOptions} {store : Store}
    {targets : List Record} (h : rollbackTargets table o store = .ok targets) {record : Record}
    (hr : record ∈ targets) : record ∈ Tracking.recorded table store := by
  obtain ⟨selection, hselection, h⟩ := except_bind_eq_ok.1 h
  obtain rfl := Except.ok.inj h
  rw [List.mem_mergeSort] at hr
  unfold rollbackSelection at hselection
  split at hselection
  · obtain ⟨found, hfind, hselection⟩ := except_bind_eq_ok.1 hselection
    obtain ⟨l, hl, hfind⟩ := except_bind_eq_ok.1 hfind
    split at hselection
    · obtain rfl := Except.ok.inj hselection
      obtain rfl := List.mem_singleton.1 hr
      exact Tracking.mem_recorded_of_select rfl hl (List.mem_of_mem_head? (Except.ok.inj hfind))
    · cases hselection
  · split at hselection
    · exact Tracking.mem_recorded_of_select rfl hselection hr
    · obtain ⟨l, hl, hselection⟩ := except_bind_eq_ok.1 hselection
      obtain rfl := Except.ok.inj hselection
      exact Tracking.mem_recorded_of_select rfl hl (List.mem_filter.1 hr).1

/-- To revert as many batches as the number of the last one is to revert those from the first one
on. -/
theorem rollbackTargets_of_steps {table : String} {store : Store} {tracking : Table}
    (hget : store.tables.get? table = some tracking) (htracks : tracking.Tracks) (steps : Nat)
    (hsteps : Tracking.lastNumber (Tracking.recorded table store) ≤ steps) (pretend : Bool) :
    rollbackTargets table { steps := some steps, pretend } store =
      rollbackTargets table { batch := some 1, pretend } store := by
  obtain ⟨read, hread⟩ := Tracking.records_eq_ok hget
  have hfirst : rollbackSelection table { batch := some 1, pretend } store = .ok read :=
    (Tracking.fromBatch_one_of_tracks hget htracks).trans hread
  have hlast : rollbackSelection table { steps := some steps, pretend } store = .ok read := by
    refine Tracking.lastBatches_eq_records hread fun record hr => ?_
    have hrecorded := (Tracking.records_perm hread).mem_iff.1 hr
    refine ⟨Tracking.one_le_batch_of_tracks (Tracking.tracks_of_get? hget htracks) hrecorded, ?_⟩
    have hle := Tracking.le_lastNumber hrecorded
    rw [Option.getD_some]
    omega
  rw [rollbackTargets, rollbackTargets, hfirst, hlast]

/-- All records are from the first batch on. -/
theorem rollbackTargets_from_first {table : String} {store : Store} {tracking : Table}
    (hget : store.tables.get? table = some tracking) (htracks : tracking.Tracks) :
    ∃ targets, targets.Perm (Tracking.recorded table store) ∧ ∀ pretend,
      rollbackTargets table { batch := some 1, pretend } store = .ok targets := by
  obtain ⟨read, hread⟩ := Tracking.records_eq_ok hget
  refine ⟨read.mergeSort fun a b => b.migration ≤ a.migration, ?_, fun pretend => ?_⟩
  · exact (List.mergeSort_perm read _).trans (Tracking.records_perm hread)
  · exact rollbackTargets_eq_ok ((Tracking.fromBatch_one_of_tracks hget htracks).trans hread)

/-- A reset is a rollback from the first batch on, whatever batches there are. -/
theorem exec_resetRecords_of_tracks
    (htracks : ∀ t, s.store.tables.get? r.config.table = some t → t.Tracks) (pretend : Bool) :
    (r.resetRecords pretend).exec s = (r.rollbackRecords { batch := some 1, pretend }).exec s := by
  cases hget : s.store.tables.get? r.config.table with
  | none => rw [exec_resetRecords_of_no_table hget, exec_rollbackRecords_of_no_table hget]
  | some tracking =>
    obtain ⟨last, hlast, hvalue⟩ := Tracking.lastBatch_of_tracks hget (htracks _ hget)
    have hpos := Tracking.lastNumber_nonneg (Tracking.recorded r.config.table s.store)
    have hsteps : (last.toUInt64.toNat : Int) = last.toInt := by
      rw [Int64.toNat_toUInt64_of_le (Int64.le_iff_toInt_le.2 (hvalue ▸ hpos)),
        ← Int64.toNat_toInt, Int.toNat_of_nonneg (hvalue ▸ hpos)]
    rw [exec_resetRecords (Store.hasTable_eq_true.2 ⟨_, hget⟩) hlast]
    split
    · rename_i hzero
      -- No batch at all means no record, so there is nothing to revert either way.
      have hnil : Tracking.recorded r.config.table s.store = [] :=
        List.eq_nil_iff_forall_not_mem.2 fun record hr => by
          have hle := Tracking.le_lastNumber hr
          have hone := Tracking.one_le_batch_of_tracks htracks hr
          rw [← hvalue, hzero] at hle
          exact absurd (Int.le_trans hone hle) (by decide)
      obtain ⟨targets, hperm, htargets⟩ := rollbackTargets_from_first hget (htracks _ hget)
      rw [hnil] at hperm
      rw [exec_rollbackRecords hget, htargets, hperm.eq_nil]
      rfl
    · rw [exec_rollbackRecords hget, exec_rollbackRecords hget,
        rollbackTargets_of_steps hget (htracks _ hget) _ (by omega)]

/-- A reset reverts all records. -/
theorem exec_resetRecords_eq_revertSelected
    (htracks : ∀ t, s.store.tables.get? r.config.table = some t → t.Tracks) :
    ∃ targets, targets.Perm (Tracking.recorded r.config.table s.store) ∧
      ∀ pretend u, u.store = s.store →
        (r.resetRecords pretend).exec u = (r.revertSelected pretend targets).exec u := by
  cases hget : s.store.tables.get? r.config.table with
  | none =>
    refine ⟨[], ?_, fun pretend u hu => ?_⟩
    · rw [Tracking.recorded, Store.rows, hget]
      exact .nil
    · rw [exec_resetRecords_of_no_table (hu ▸ hget)]
      exact (exec_nothingToRollBack r pretend u).symm
  | some tracking =>
    obtain ⟨targets, hperm, htargets⟩ := rollbackTargets_from_first hget (htracks _ hget)
    refine ⟨targets, hperm, fun pretend u hu => ?_⟩
    rw [exec_resetRecords_of_tracks (hu ▸ htracks), exec_rollbackRecords (hu ▸ hget), hu, htargets]

end Runner

end SchemaMigration
