import SchemaMigration.Proofs.Runner.Announcement

/-!
# How a run goes

A run takes the lock, makes sure of the tracking table, applies the pending files that it selects,
and gives the lock up. What it selects and under which number it records this is determined by the
session in which it starts; if it finds no files, selects nothing or has no number left, this is
all.
-/

namespace SchemaMigration

/-- The migrations that are recorded, each with the number of its batch. -/
def Tracking.batched (table : String) (s : Store) : List (String × Int) :=
  (recorded table s).map fun record => (record.migration, record.batch.toInt)

theorem Tracking.batched_fst (table : String) (s : Store) :
    (batched table s).map (·.1) = (recorded table s).map (·.migration) :=
  List.map_map

namespace Runner

variable {r : Runner} {o : RunOptions} {s : Session} {files : Dict String}

/-- The session in which there is a tracking table. -/
def readied (r : Runner) (s : Session) : Session :=
  { s with store := Tracking.ensured r.config.table s.store }

@[simp] theorem files_readied (r : Runner) (s : Session) : (r.readied s).files = s.files := rfl

@[simp] theorem features_readied (r : Runner) (s : Session) :
    (r.readied s).store.features = s.store.features := by
  obtain ⟨tables, n, h⟩ := Tracking.ensured_eq r.config.table s.store
  rw [readied, h]
  rfl

theorem readied_of_get? {t : Table} (h : s.store.tables.get? r.config.table = some t) :
    r.readied s = s := by
  rw [readied, Tracking.ensured_of_get? h]

theorem recorded_readied (r : Runner) (s : Session) :
    Tracking.recorded r.config.table (r.readied s).store =
      Tracking.recorded r.config.table s.store := by
  obtain ⟨store, t, hensure, hget, hrows, -⟩ := Tracking.ensure_total r.config.table s.store
  obtain ⟨-, rfl⟩ := Prod.mk.inj (Except.ok.inj ((Tracking.ensure_eq _ _).symm.trans hensure))
  rw [readied, Tracking.recorded_of_get? hget, hrows]
  rfl

/-- A real run makes sure of the tracking table and reads what is recorded. -/
theorem exec_recordsForRun_readied (r : Runner) (s : Session) :
    ∃ read, (r.recordsForRun false).exec s = (.ok read, r.readied s) ∧
      ∀ record, record ∈ read ↔ record ∈ Tracking.recorded r.config.table s.store := by
  obtain ⟨store, -, read, hensure, -, -, -, hread, hmem⟩ := exec_recordsForRun_false r s
  obtain ⟨-, rfl⟩ := Prod.mk.inj (Except.ok.inj ((Tracking.ensure_eq _ _).symm.trans hensure))
  exact ⟨read, hread, hmem⟩

theorem recorded_locked (r : Runner) (s : Session) (table : String) :
    Tracking.recorded table (r.locked s).store = Tracking.recorded table s.store :=
  Tracking.recorded_congr (by rw [tables_locked])

/-- What a run makes of the outcome of applying the files of its batch. -/
def reported (r : Runner) (batch : Int64) (names : List String) :
    Except Fault Unit × Session → Except Fault RunResult × Session
  | (.error fault, u) => (.error fault, u)
  | (.ok (), u) => (.ok { batch := some batch, migrated := names, pretend := false },
      u.journaled (r.announcement (.batchCompleted batch names false) u.store))

theorem applyAll_singleton (r : Runner) (batch : Int64) (file : String × String) :
    r.applyAll batch false [file] = r.execute (applying batch file) :=
  bind_pure _

section Free

variable (hfree : r.IsFree s.store) (honly : o.only = none) (hreal : o.pretend = false)

include hfree honly hreal

variable (hfiles : Discovery.discover r.config s.files = .ok files)

include hfiles

/-- A run applies what is pending, on the session with a tracking table. -/
theorem exec_run_of_discovered :
    ∃ read, (∀ record, record ∈ read ↔ record ∈ Tracking.recorded r.config.table s.store) ∧
      (r.run o).exec s = r.unlocked (r.config.advisoryLock && s.store.lockable)
        ((r.applyPending o files read).exec (r.readied (r.locked s))) := by
  obtain ⟨read, hread, hmem⟩ := exec_recordsForRun_readied r (r.locked s)
  have hknown : unknown? o files = none := by
    rw [unknown?, honly]
    rfl
  rw [← hreal] at hread
  refine ⟨read, fun record => by rw [hmem, recorded_locked], ?_⟩
  rw [run, exec_withLock hfree,
    exec_runPending_of_known [] (by rwa [files_locked]) hknown hread rfl, filter_not_reverted_nil]

/-- A run that selects nothing says so. -/
theorem exec_run_of_nil
    (hselected :
      selectFiles o (pendingFiles files (Tracking.recorded r.config.table s.store)) = []) :
    (r.run o).exec s = r.unlocked (r.config.advisoryLock && s.store.lockable)
      (.ok { batch := none, migrated := [], pretend := false },
        (r.readied (r.locked s)).journaled (r.printout "Nothing to migrate.")) := by
  obtain ⟨read, hmem, hrun⟩ := exec_run_of_discovered hfree honly hreal hfiles
  rw [hrun, exec_applyPending_of_nil (by rw [pendingFiles_congr hmem, hselected]), hreal]

/-- A run applies what it selects as the next batch. -/
theorem exec_run_of_ne_nil {selected : List (String × String)} (hseed : o.seed = false)
    (hselected : selectFiles o (pendingFiles files (Tracking.recorded r.config.table s.store)) =
      selected) (hne : selected ≠ [])
    (hpos : ∀ record ∈ Tracking.recorded r.config.table s.store, 1 ≤ record.batch.toInt)
    (hmax : Tracking.lastNumber (Tracking.recorded r.config.table s.store) < Int64.maxValue.toInt) :
    let names := selected.map (·.1)
    ∃ batch : Int64, batch.toInt =
        Tracking.lastNumber (Tracking.recorded r.config.table s.store) + 1 ∧
      (r.run o).exec s = r.unlocked (r.config.advisoryLock && s.store.lockable)
        (r.reported batch names ((r.applyAll batch false selected).exec
          ((r.readied (r.locked s)).journaled (r.announcement
            (.batchStarted batch names false) (r.readied (r.locked s)).store)))) := by
  intro names
  obtain ⟨read, hmem, hrun⟩ := exec_run_of_discovered hfree honly hreal hfiles
  obtain ⟨batch, hbatch, hvalue⟩ := following_greatestBatch
    (fun record hr => hpos record ((hmem record).1 hr))
    fun record hr => Int.lt_of_le_of_lt (Tracking.le_lastNumber ((hmem record).1 hr)) hmax
  refine ⟨batch, by rw [hvalue, Tracking.lastNumber_congr hmem], ?_⟩
  rw [hrun, exec_applyPending_of_ne_nil (by rw [pendingFiles_congr hmem, hselected]) hne hbatch,
    hreal, hseed]
  rcases (r.applyAll batch false selected).exec _ with ⟨fault | ⟨⟩, u⟩ <;> rfl

end Free

end Runner

end SchemaMigration
