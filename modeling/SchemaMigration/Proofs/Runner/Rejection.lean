import Mathlib
import SchemaMigration.Proofs.Runner.Command
import SchemaMigration.Proofs.Runner.Failure
import SchemaMigration.Proofs.Runner.Fresh
import SchemaMigration.Proofs.Runner.Invariant
import SchemaMigration.Proofs.Runner.Lock
import SchemaMigration.Proofs.Runner.Revert

/-!
# Rejected names

A run of names without a file is rejected before anything is changed. `refresh` and `fresh` look at
the names only after they reverted all batches or dropped all tables, so what they reject is left
unchanged only if there was nothing to revert or to drop.
-/

namespace SchemaMigration

namespace Runner

/-- The error of a run of a name that no file has. -/
def rejection (name : String) : Fault :=
  .failed (.validation (.unknownMigration name))

/-- A call is rejected because of a name that no file has, and leaves all tables as they were. -/
def RejectsUntouched (r : Runner) (c : Command) (s : Session) (name : String) : Prop :=
  ∃ s', (r.call c).exec s = (.error (rejection name), s') ∧ s'.store.tables = s.store.tables

variable {r : Runner} {o : RunOptions} {s : Session} {files : Dict String} {name : String}

/-- A run is rejected before anything is changed. -/
theorem exec_runPending_of_unknown (hfiles : Discovery.discover r.config s.files = .ok files)
    (hname : unknown? o files = some name) (reverted : List String) :
    (r.runPending o reverted).exec s = (.error (rejection name), s) := by
  rw [runPending_eq, Action.exec_bind, exec_checkNames hfiles, hname]
  rfl

/-- A call that is not rejected for want of the lock is rejected as its action is. -/
theorem withLock_rejects_iff {α : Type} (f : α → Report) (action : Action α) (tables : Dict Table) :
    (∃ s', (f <$> r.withLock action).exec s = (.error (rejection name), s') ∧
        s'.store.tables = tables) ↔
      r.IsFree s.store ∧ ∃ s', action.exec (r.locked s) = (.error (rejection name), s') ∧
        s'.store.tables = tables := by
  rw [Action.exec_map]
  by_cases hfree : r.IsFree s.store
  · obtain ⟨locks, hlocks⟩ := exec_withLock_of_isFree hfree action
    rw [hlocks]
    rcases action.exec (r.locked s) with ⟨fault | x, s₁⟩
    · simp [hfree, Except.map]
    · simp [Except.map]
  · rw [exec_withLock_of_not_isFree hfree]
    simp [hfree, Except.map, rejection]

/-- A real `fresh` is rejected when all tables are dropped. -/
theorem exec_freshPending_of_unknown (hreal : o.pretend = false)
    (hfiles : Discovery.discover r.config s.files = .ok files)
    (hname : unknown? o files = some name) :
    ∃ s', (r.freshPending o).exec s = (.error (rejection name), s') ∧ s'.store.tables = ∅ := by
  obtain ⟨mutations, hexec⟩ := exec_freshPending_of_real (r := r) hreal s
  let dropped : Session := { s with store := { s.store with tables := ∅, mutations } }
  have hfiles' : Discovery.discover r.config (dropped.journaled
      (r.printout "Dropped all tables successfully.")).files = .ok files := hfiles
  exact ⟨_, hexec.trans (exec_runPending_of_unknown hfiles' hname []), rfl⟩

/-- A refresh is rejected if all batches could be reverted. -/
theorem exec_refreshPending_of_unknown (hreal : o.pretend = false)
    (hfiles : Discovery.discover r.config s.files = .ok files)
    (hname : unknown? o files = some name) :
    (r.refreshPending o).exec s =
      match (r.resetRecords false).exec s with
      | (.ok _, s') => (.error (rejection name), s')
      | (.error fault, s') => (.error fault, s') := by
  rw [refreshPending, hreal, Action.exec_bind]
  have hkept : ((r.resetRecords false).exec s).2.files = s.files :=
    preserves_resetRecords r (tolerates (Session.ignoresNarration_files s.files) r)
      (fun t _ _ s' hs => (files_execute r t s').trans hs) s rfl
  generalize (r.resetRecords false).exec s = outcome at hkept ⊢
  rcases outcome with ⟨fault | report, s'⟩
  · rfl
  · have hfiles' : Discovery.discover r.config s'.files = .ok files := by rwa [← hkept] at hfiles
    exact exec_runPending_of_unknown hfiles' hname _

/-- A refresh is rejected without a change just if all batches can be reverted without one. -/
theorem refreshPending_rejects_iff (hreal : o.pretend = false)
    (hfiles : Discovery.discover r.config s.files = .ok files)
    (hname : unknown? o files = some name) (tables : Dict Table) :
    (∃ s', (r.refreshPending o).exec s = (.error (rejection name), s') ∧
        s'.store.tables = tables) ↔
      ∃ report s', (r.resetRecords false).exec s = (.ok report, s') ∧
        s'.store.tables = tables := by
  rw [exec_refreshPending_of_unknown hreal hfiles hname]
  rcases hreset : (r.resetRecords false).exec s with ⟨fault | report, s₁⟩
  · constructor
    · rintro ⟨s', h, -⟩
      have hfault : fault = rejection name := Except.error.inj (Prod.mk.inj h).1
      exact absurd ⟨name, rfl⟩ (hfault ▸ failsWith_resetRecords r false s fault s₁ hreset)
    · rintro ⟨report, s', h, -⟩
      cases h
  · simp

/-- Where nothing else than runners wrote the tracking table, all batches can be reverted without a
change just if no record has a file. -/
theorem resetRecords_keeps_iff
    (htracks : ∀ t, s.store.tables.get? r.config.table = some t → t.Tracks)
    (hbodies : r.BodiesRequest (Operation.Spares r.config.table))
    (hfiles : Discovery.discover r.config s.files = .ok files) :
    (∃ report s', (r.resetRecords false).exec s = (.ok report, s') ∧
        s'.store.tables = s.store.tables) ↔
      ∀ record ∈ Tracking.recorded r.config.table s.store,
        files.contains record.migration = false := by
  obtain ⟨targets, hperm, hreset⟩ := exec_resetRecords_eq_revertSelected htracks
  rw [hreset false s rfl]
  constructor
  · rintro ⟨report, s', hexec, htables⟩ record hrecord
    obtain ⟨tracking, hget, row, hrow, rfl⟩ := Tracking.mem_recorded.1 hrecord
    obtain ⟨result, s₁, hexec', -, hresult⟩ :=
      exec_revertSelected hbodies hget (htracks _ hget) targets hfiles
    obtain ⟨rfl, rfl⟩ := Prod.mk.inj (hexec'.symm.trans hexec)
    obtain ⟨rfl, tracking', hget', -, hrows⟩ := hresult
    rw [htables, hget] at hget'
    obtain rfl := Option.some.inj hget'
    have hkept : (Record.ofRow row).migration ∉ (revertReport files false targets).rolledBack := by
      simpa using List.filter_eq_self.1 hrows.symm row hrow
    refine Bool.eq_false_iff.2 fun hcontains => hkept ?_
    exact List.mem_filter.2 ⟨List.mem_map_of_mem (hperm.mem_iff.2 hrecord), hcontains⟩
  · intro hmissing
    obtain ⟨report, s', hexec, hstore⟩ := exec_revertSelected_of_missing (s := s) hfiles
      (fun record hr => hmissing record (hperm.mem_iff.1 hr)) false
    exact ⟨report, s', hexec, congrArg (·.tables) hstore⟩

/-- When a run, a `fresh` and a `refresh` of a name without a file are rejected with all tables as
they were. For a run it is enough that the lock is free. But `fresh` drops all tables first, so
there must not be any, and `refresh` reverts all batches first, so that has to succeed without a
change of the tables: where nothing else than runners and the operations of tracking tables wrote
the tracking table, no record may have a file. -/
theorem rejectsUntouched_iff (hreal : o.pretend = false)
    (hfiles : Discovery.discover r.config s.files = .ok files)
    (hname : unknown? o files = some name) :
    (r.RejectsUntouched (.run o) s name ↔ r.IsFree s.store) ∧
      (r.RejectsUntouched (.fresh o) s name ↔ r.IsFree s.store ∧ s.store.tables = ∅) ∧
      (r.RejectsUntouched (.refresh o) s name ↔ r.IsFree s.store ∧
        ∃ report s', (r.resetRecords false).exec (r.locked s) = (.ok report, s') ∧
          s'.store.tables = s.store.tables) ∧
      (Tracking.Tracked r.config.table s.store →
        r.BodiesRequest (Operation.Spares r.config.table) →
        (r.RejectsUntouched (.refresh o) s name ↔ r.IsFree s.store ∧
          ∀ record ∈ Tracking.recorded r.config.table s.store,
            files.contains record.migration = false)) := by
  have hfiles' : Discovery.discover r.config (r.locked s).files = .ok files := by
    rwa [files_locked]
  have hrun : r.RejectsUntouched (.run o) s name ↔ r.IsFree s.store := by
    refine (withLock_rejects_iff _ _ _).trans (and_iff_left ?_)
    exact ⟨_, exec_runPending_of_unknown hfiles' hname [], tables_locked r s⟩
  have hfresh : r.RejectsUntouched (.fresh o) s name ↔ r.IsFree s.store ∧ s.store.tables = ∅ := by
    refine (withLock_rejects_iff _ _ _).trans (and_congr_right fun _ => ?_)
    obtain ⟨s', hexec, htables⟩ := exec_freshPending_of_unknown hreal hfiles' hname
    rw [hexec]
    simp [htables, eq_comm]
  have hrefresh : r.RejectsUntouched (.refresh o) s name ↔ r.IsFree s.store ∧
      ∃ report s', (r.resetRecords false).exec (r.locked s) = (.ok report, s') ∧
        s'.store.tables = s.store.tables := by
    refine (withLock_rejects_iff _ _ _).trans (and_congr_right fun _ => ?_)
    exact refreshPending_rejects_iff hreal hfiles' hname _
  refine ⟨hrun, hfresh, hrefresh, fun hs hbodies => hrefresh.trans (and_congr_right fun _ => ?_)⟩
  have htables := tables_locked r s
  have hkeeps := resetRecords_keeps_iff (r := r) (s := r.locked s)
    (fun t ht => hs.tracks (by rwa [htables] at ht)) hbodies hfiles'
  rwa [htables, Tracking.recorded_congr (congrArg (·.get? r.config.table) htables)] at hkeeps

/-- A name without a file, in a store with a record whose migration has a file: a run is rejected
with the tables as they were, but `fresh` and `refresh` are not. -/
theorem late_rejection_of_one_record :
    let a : Migration := { up := .pure (), down := .pure () }
    let r : Runner := { config := { paths := ["m"] }, migrations := Dict.ofList [("a", a)] }
    let record : Record := { migration := "a", batch := 1 }
    let empty : Table := { columns := (Tracking.blueprint r.config.table).columns }
    let start : Store := ({} : Store).withTable r.config.table empty
    let store := start.withTable r.config.table (empty.append (record.numbered 1) 2)
    let nodes := [(["m"], .directory), (["m", "a.rs"], .file [])]
    let s : Session := { store, files := { nodes } }
    let o : RunOptions := { only := some ["ghost"] }
    o.pretend = false ∧ Discovery.discover r.config s.files = .ok (Dict.ofList [("a", "m/a.rs")]) ∧
      unknown? o (Dict.ofList [("a", "m/a.rs")]) = some "ghost" ∧
      Tracking.Tracked r.config.table s.store ∧ r.BodiesRequest (Operation.Spares r.config.table) ∧
      r.RejectsUntouched (.run o) s "ghost" ∧ ¬r.RejectsUntouched (.fresh o) s "ghost" ∧
      ¬r.RejectsUntouched (.refresh o) s "ghost" := by
  intro a r record empty start store nodes s o
  have hfiles : Discovery.discover r.config s.files = .ok (Dict.ofList [("a", "m/a.rs")]) := by cbv
  have hname : unknown? o (Dict.ofList [("a", "m/a.rs")]) = some "ghost" := by cbv
  have hs : Tracking.Tracked r.config.table s.store :=
    .inr (Tracking.reached_logged r.config.table (by decide : 1 ≤ record.batch.toInt))
  have hbodies : r.BodiesRequest (Operation.Spares r.config.table) := by
    refine .of_entries fun entry h => ?_
    obtain rfl : entry = ("a", a) := List.mem_singleton.1 h
    exact ⟨trivial, trivial⟩
  have hget : s.store.tables.get? r.config.table = some (empty.append (record.numbered 1) 2) :=
    Dict.get?_insert_self _ _ _
  obtain ⟨hrun, hfresh, -, hrefresh⟩ := rejectsUntouched_iff (o := o) rfl hfiles hname
  refine ⟨rfl, hfiles, hname, hs, hbodies, hrun.2 (by decide), fun h => ?_, fun h => ?_⟩
  · rw [(hfresh.1 h).2] at hget
    cases hget
  · have hmissing := ((hrefresh hs hbodies).1 h).2 { record with id := some 1 } (by
      rw [Tracking.recorded_of_get? hget, Table.append, List.map_append]
      exact List.mem_append_right _ (List.mem_singleton.2 (Record.ofRow_numbered record 1).symm))
    have hfile : (Dict.ofList [("a", "m/a.rs")]).contains record.migration = true := by cbv
    rw [hfile] at hmissing
    cases hmissing

end Runner

end SchemaMigration
