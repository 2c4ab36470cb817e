import SchemaMigration.Proofs.Runner.Narration
import SchemaMigration.Proofs.Tracking.Batches
import SchemaMigration.Runner.Report

/-!
# What is due

Which files a run applies and under which number depends on the files, the options and the records
of the tracking table, but not on the order in which the records are read.
-/

namespace SchemaMigration

namespace Runner

/-- The files that a run is to apply: those without a record and among the allowed ones, ascending
by name, and only the first of them in steps. -/
def due (o : RunOptions) (files : Dict String) (records : List Record) : List (String × String) :=
  let allowed := files.entries.filter fun file =>
    (∀ record ∈ records, record.migration ≠ file.1) ∧ ∀ names ∈ o.only, file.1 ∈ names
  if o.step then allowed.take 1 else allowed

variable {files : Dict String} {records read : List Record}

theorem pendingFiles_eq (files : Dict String) (records : List Record) :
    pendingFiles files records =
      files.entries.filter fun file => ∀ record ∈ records, record.migration ≠ file.1 := by
  refine List.filter_congr fun file _ => ?_
  rw [Bool.eq_iff_iff]
  simp only [Bool.not_eq_true', List.contains_eq_mem, decide_eq_false_iff_not, List.mem_map,
    not_exists, not_and, decide_eq_true_eq, ne_eq]

/-- The order in which records are read does not matter. -/
theorem pendingFiles_congr (h : ∀ record, record ∈ read ↔ record ∈ records) :
    pendingFiles files read = pendingFiles files records := by
  simp only [pendingFiles_eq, h]

/-- No record is left out if nothing is taken to be reverted. -/
theorem filter_not_reverted_nil (records : List Record) :
    (records.filter fun record => !List.contains [] record.migration) = records :=
  List.filter_eq_self.2 fun _ _ => rfl

theorem pendingFiles_append (files : Dict String) (records added : List Record) :
    pendingFiles files (records ++ added) =
      (pendingFiles files records).filter fun file => file.1 ∉ added.map (·.migration) := by
  simp only [pendingFiles_eq, List.filter_filter]
  refine List.filter_congr fun file _ => ?_
  rw [Bool.eq_iff_iff]
  simp only [List.mem_append, decide_eq_true_eq, Bool.and_eq_true, List.mem_map, not_exists,
    not_and]
  constructor
  · intro h
    exact ⟨fun record hr => h record (.inr hr), fun record hr => h record (.inl hr)⟩
  · rintro ⟨hadded, hrecords⟩ record (hr | hr)
    · exact hrecords record hr
    · exact hadded record hr

/-- A file that is recorded is no longer pending. -/
theorem pendingFiles_concat {file : String × String} {rest : List (String × String)}
    {record : Record} (h : pendingFiles files records = file :: rest)
    (hrecord : record.migration = file.1) : pendingFiles files (records ++ [record]) = rest := by
  have hascending : Ascending (file :: rest) := h ▸ files.ascending.sublist List.filter_sublist
  have hlater : ∀ other ∈ rest, file.1 < other.1 := (List.pairwise_cons.1 hascending).1
  rw [pendingFiles_append, h, List.map_singleton, hrecord]
  refine (List.filter_cons_of_neg (by simp)).trans (List.filter_eq_self.2 fun other hother => ?_)
  have hne : other.1 ≠ file.1 := fun heq =>
    String.lt_irrefl file.1 (heq ▸ hlater other hother)
  simpa using hne

theorem selectFiles_pendingFiles (o : RunOptions) (h : ∀ record, record ∈ read ↔ record ∈ records) :
    selectFiles o (pendingFiles files read) = due o files records := by
  rw [pendingFiles_congr h, pendingFiles_eq]
  rcases honly : o.only with _ | names
  · simp only [selectFiles, due, honly, Option.mem_def, reduceCtorEq, false_implies,
      implies_true, and_true]
  · have hallowed : (files.entries.filter fun file =>
        ∀ record ∈ records, record.migration ≠ file.1).filter (fun file => names.contains file.1) =
        files.entries.filter fun file =>
          (∀ record ∈ records, record.migration ≠ file.1) ∧ file.1 ∈ names := by
      rw [List.filter_filter]
      refine List.filter_congr fun file _ => ?_
      rw [Bool.eq_iff_iff, Bool.and_eq_true, List.contains_eq_mem]
      simp only [decide_eq_true_eq, and_comm]
    simp only [selectFiles, due, honly, hallowed, Option.mem_def, Option.some.injEq, forall_eq']

theorem due_sublist (o : RunOptions) (files : Dict String) (records : List Record) :
    (due o files records).Sublist (pendingFiles files records) := by
  have hallowed : (files.entries.filter fun file =>
      (∀ record ∈ records, record.migration ≠ file.1) ∧ ∀ names ∈ o.only, file.1 ∈ names).Sublist
      (pendingFiles files records) := by
    rw [pendingFiles_eq]
    exact List.monotone_filter_right _ fun file h => by simp_all
  unfold due
  split
  · exact (List.take_sublist _ _).trans hallowed
  · exact hallowed

theorem due_ascending (o : RunOptions) (files : Dict String) (records : List Record) :
    Ascending (due o files records) :=
  files.ascending.sublist ((due_sublist o files records).trans List.filter_sublist)

theorem toInt_max (a b : Int64) : (max a b).toInt = max a.toInt b.toInt := by
  have hmax : max a b = if a ≤ b then b else a := rfl
  rw [hmax]
  by_cases h : a ≤ b
  · rw [if_pos h, Int.max_eq_right (Int64.le_iff_toInt_le.1 h)]
  · have hlt : b.toInt ≤ a.toInt := by
      rw [Int64.le_iff_toInt_le] at h
      omega
    rw [if_neg h, Int.max_eq_left hlt]

theorem toInt_foldl_max (records : List Record) {batch : Int64} (h : 0 ≤ batch.toInt) :
    ((records.map (·.batch)).foldl max batch).toInt =
      max batch.toInt (Tracking.lastNumber records) := by
  induction records generalizing batch with
  | nil => exact (Int.max_eq_left h).symm
  | cons record rest ih =>
    have hcons : Tracking.lastNumber (record :: rest) =
        max record.batch.toInt (Tracking.lastNumber rest) := rfl
    have hmax : 0 ≤ (max batch record.batch).toInt := by
      rw [toInt_max]
      omega
    rw [List.map_cons, List.foldl_cons, ih hmax, toInt_max, hcons, Int.max_assoc]

/-- If all records have a batch, the greatest one is what a run counts from. -/
theorem toInt_greatestBatch (h : ∀ record ∈ records, 1 ≤ record.batch.toInt) :
    (greatestBatch records).toInt = Tracking.lastNumber records := by
  cases records with
  | nil => rfl
  | cons record rest =>
    have hb : 0 ≤ record.batch.toInt := Int.le_trans (by decide) (h record List.mem_cons_self)
    exact toInt_foldl_max rest hb

theorem greatestBatch_congr (h : ∀ record, record ∈ read ↔ record ∈ records)
    (hpos : ∀ record ∈ records, 1 ≤ record.batch.toInt) :
    greatestBatch read = greatestBatch records := by
  rw [← Int64.toInt_inj, toInt_greatestBatch hpos, ← Tracking.lastNumber_congr h]
  exact toInt_greatestBatch fun record hr => hpos record ((h record).1 hr)

theorem one_le_following {batch : Int64} (hpos : ∀ record ∈ records, 1 ≤ record.batch.toInt)
    (h : Tracking.following (greatestBatch records) = .ok batch) : 1 ≤ batch.toInt := by
  rcases hnext : successor? (greatestBatch records) with _ | next
  · simp [Tracking.following, hnext] at h
  · simp only [Tracking.following, hnext, Except.ok.injEq] at h
    have hnonneg := Tracking.lastNumber_nonneg records
    rw [← h, successor?_eq_some.1 hnext, toInt_greatestBatch hpos]
    omega

theorem following_greatestBatch (h : ∀ record ∈ records, 1 ≤ record.batch.toInt)
    (hmax : ∀ record ∈ records, record.batch.toInt < Int64.maxValue.toInt) :
    ∃ batch, Tracking.following (greatestBatch records) = .ok batch ∧
      batch.toInt = Tracking.lastNumber records + 1 := by
  have hlt : Tracking.lastNumber records ≤ Int64.maxValue.toInt - 1 :=
    Tracking.lastNumber_le.2 ⟨by decide, fun record hr => Int.le_sub_one_of_lt (hmax record hr)⟩
  rw [← toInt_greatestBatch h] at hlt ⊢
  have hmin := (greatestBatch records).minValue_le_toInt
  have hvalue : (Int64.ofInt ((greatestBatch records).toInt + 1)).toInt =
      (greatestBatch records).toInt + 1 := by
    have hsmallest := Int64.toInt_minValue
    have hgreatest := Int64.toInt_maxValue
    exact Int64.toInt_ofInt_of_le (by omega) (by omega)
  refine ⟨Int64.ofInt ((greatestBatch records).toInt + 1), ?_, hvalue⟩
  rw [Tracking.following, successor?_eq_some.2 hvalue]

section Exec

variable {r : Runner} {o : RunOptions} {s : Session}

/-- The first of the names in the options that no file has. -/
def unknown? (o : RunOptions) (files : Dict String) : Option String :=
  o.only.bind (unknownName? files)

theorem unknown?_eq_none :
    unknown? o files = none ↔ ∀ names ∈ o.only, ∀ name ∈ names, files.contains name = true := by
  rcases honly : o.only with _ | names <;> simp [unknown?, unknownName?, honly]

theorem exec_checkNames (hfiles : Discovery.discover r.config s.files = .ok files) :
    (r.checkNames o).exec s =
      match unknown? o files with
      | some name => (.error (.failed (.validation (.unknownMigration name))), s)
      | none => (.ok (), s) := by
  rcases honly : o.only with _ | names
  · simp [checkNames, unknown?, honly]
  · simp only [checkNames, unknown?, honly, Action.exec_bind, exec_files, hfiles, Option.bind_some,
      mapError_ok]
    rcases unknownName? files names with _ | name <;> rfl

/-- The part of `runPending` that follows the reading of files and records. -/
def applyPending (r : Runner) (o : RunOptions) (files : Dict String) (records : List Record) :
    Action RunResult := do
  let selected := selectFiles o (pendingFiles files records)
  if selected.isEmpty then
    r.say "Nothing to migrate."
    return { batch := none, migrated := [], pretend := o.pretend }
  else
    let batch ← Action.resume (Tracking.following (greatestBatch records))
    let names := selected.map (·.1)
    r.emit (.batchStarted batch names o.pretend)
    r.applyAll batch o.pretend selected
    r.emit (.batchCompleted batch names o.pretend)
    if o.seed && !o.pretend && r.config.seedersPath.isSome then r.seed none
    return { batch := some batch, migrated := names, pretend := o.pretend }

theorem runPending_eq (r : Runner) (o : RunOptions) (reverted : List String) :
    r.runPending o reverted = (do
      r.checkNames o
      let records := (← r.recordsForRun o.pretend).filter fun record =>
        !reverted.contains record.migration
      r.applyPending o (← r.files) records) :=
  rfl

theorem exec_applyPending_of_nil {read : List Record}
    (h : selectFiles o (pendingFiles files read) = []) :
    (r.applyPending o files read).exec s =
      (.ok { batch := none, migrated := [], pretend := o.pretend },
        s.journaled (r.printout "Nothing to migrate.")) := by
  simp [applyPending, h, Except.map]

/-- If something is due, the batch is announced, applied and announced again, and then perhaps the
default seeder is run. -/
theorem exec_applyPending_of_ne_nil {read : List Record} {batch : Int64}
    {selected : List (String × String)}
    (hselected : selectFiles o (pendingFiles files read) = selected) (hne : selected ≠ [])
    (hbatch : Tracking.following (greatestBatch read) = .ok batch) :
    let names := selected.map (·.1)
    let result : RunResult := { batch := some batch, migrated := names, pretend := o.pretend }
    (r.applyPending o files read).exec s =
      match (r.applyAll batch o.pretend selected).exec
        (s.journaled (r.announcement (.batchStarted batch names o.pretend) s.store)) with
      | (.error fault, s') => (.error fault, s')
      | (.ok (), s') =>
        let s₁ := s'.journaled (r.announcement (.batchCompleted batch names o.pretend) s'.store)
        if o.seed && !o.pretend && r.config.seedersPath.isSome then
          match (r.seed none).exec s₁ with
          | (.error fault, s₂) => (.error fault, s₂)
          | (.ok (), s₂) => (.ok result, s₂)
        else (.ok result, s₁) := by
  intro names result
  have hempty : selected.isEmpty = false := by
    simpa using hne
  simp only [applyPending, hselected, hempty, Bool.false_eq_true, if_false, Action.exec_bind,
    Action.exec_resume, hbatch, exec_emit]
  rcases (r.applyAll batch o.pretend selected).exec _ with ⟨fault | ⟨⟩, s'⟩
  · rfl
  · simp only [Action.exec_bind, Action.exec_ite, Action.exec_pure]
    split
    · rcases (r.seed none).exec _ with ⟨fault | ⟨⟩, s₂⟩ <;> rfl
    · rfl

/-- The records that a call sees are those in the tracking table. -/
theorem exec_currentRecords (r : Runner) (s : Session) :
    ∃ read, r.currentRecords.exec s = (.ok read, s) ∧
      ∀ record, record ∈ read ↔ record ∈ Tracking.recorded r.config.table s.store := by
  rcases hget : s.store.tables.get? r.config.table with _ | tracking
  · refine ⟨[], ?_, ?_⟩
    · simp [currentRecords, hget]
    · simp [Tracking.recorded, Store.rows, hget]
  · obtain ⟨read, hread⟩ := Tracking.records_eq_ok hget
    refine ⟨read, ?_, fun record => (Tracking.records_perm hread).mem_iff⟩
    simp [currentRecords, hget, hread]

theorem recordsForRun_true (r : Runner) : r.recordsForRun true = r.currentRecords := rfl

/-- A run that is not pretended creates the tracking table if there is none. -/
theorem exec_recordsForRun_false (r : Runner) (s : Session) :
    ∃ prepared tracking read, Tracking.ensure r.config.table s.store = .ok ((), prepared) ∧
      prepared.tables.get? r.config.table = some tracking ∧
      tracking.rows = s.store.rows r.config.table ∧
      ((∀ t, s.store.tables.get? r.config.table = some t → t.Tracks) → tracking.Tracks) ∧
      (r.recordsForRun false).exec s = (.ok read, { s with store := prepared }) ∧
      ∀ record, record ∈ read ↔ record ∈ Tracking.recorded r.config.table s.store := by
  obtain ⟨prepared, tracking, hensure, hget, hrows, htracks⟩ :=
    Tracking.ensure_total r.config.table s.store
  obtain ⟨read, hread⟩ := Tracking.records_eq_ok hget
  refine ⟨prepared, tracking, read, hensure, hget, hrows, htracks, ?_, fun record => ?_⟩
  · simp [recordsForRun, hensure, hread]
  · rw [(Tracking.records_perm hread).mem_iff, Tracking.recorded, Tracking.recorded,
      Store.rows_of_get? hget, hrows]

/-- A run with known names only applies what is pending, on the store with a tracking table. -/
theorem exec_runPending_of_known (reverted : List String) {read : List Record} {s₁ : Session}
    (hfiles : Discovery.discover r.config s.files = .ok files) (hknown : unknown? o files = none)
    (hread : (r.recordsForRun o.pretend).exec s = (.ok read, s₁)) (hs₁ : s₁.files = s.files) :
    (r.runPending o reverted).exec s =
      (r.applyPending o files
        (read.filter fun record => !reverted.contains record.migration)).exec s₁ := by
  rw [runPending_eq, Action.exec_bind, exec_checkNames hfiles, hknown]
  simp only [Action.exec_bind, hread, exec_files, hs₁, hfiles, mapError_ok]

/-- The pending migrations are those with a file and without a record. -/
theorem exec_pending (hfiles : Discovery.discover r.config s.files = .ok files) :
    r.pending.exec s =
      (.ok ((pendingFiles files (Tracking.recorded r.config.table s.store)).map (·.1)), s) := by
  obtain ⟨read, hread, hmem⟩ := exec_currentRecords r s
  rw [pending, Action.exec_bind, hread]
  simp only [Action.exec_bind, exec_files, hfiles, mapError_ok, Action.exec_pure,
    pendingFiles_congr hmem]

end Exec

end Runner

end SchemaMigration
