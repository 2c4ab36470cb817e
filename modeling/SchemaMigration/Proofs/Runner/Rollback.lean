import SchemaMigration.Proofs.Runner.Completion
import SchemaMigration.Proofs.Runner.Numbering
import SchemaMigration.Proofs.Runner.Selection

/-!
# Rollbacks

A rollback selects records and reverts them in descending order of their names, up to the first that
fails. Afterwards the records of what was reverted are gone and all others are there. A record
without a file is passed over and stays.
-/

namespace SchemaMigration

namespace Runner

variable {r : Runner} {o : RollbackOptions} {s s' : Session} {files : Dict String}

/-- If the lock is free, a rollback reverts what is to be reverted. -/
theorem exec_rollback_of_targets {targets : List Record} (hfree : r.IsFree s.store)
    (htable : s.store.hasTable r.config.table = true)
    (htargets : rollbackTargets r.config.table o s.store = .ok targets) :
    ∃ locks, (r.rollback o).exec s =
      (((r.revertSelected o.pretend targets).exec (r.locked s)).1,
        ((r.revertSelected o.pretend targets).exec (r.locked s)).2.relocked locks) := by
  obtain ⟨tracking, hget⟩ := Store.hasTable_eq_true.1 htable
  obtain ⟨locks, hlocks⟩ := exec_withLock_of_isFree hfree (r.rollbackRecords o)
  rw [← tables_locked r s] at hget
  rw [← rollbackTargets_congr (tables_locked r s)] at htargets
  refine ⟨locks, ?_⟩
  rw [rollback, hlocks, exec_rollbackRecords hget, htargets]

/-- Without a configured lock, a rollback without a target reverts the selected records, if these are
listed in strictly descending order. -/
theorem exec_rollback_of_unlocked {tracking : Table} {targets : List Record}
    (hunlocked : r.config.advisoryLock = false)
    (hget : s.store.tables.get? r.config.table = some tracking) (htracks : tracking.Tracks)
    (htarget : o.target = none)
    (hselected : targets.Perm ((Tracking.recorded r.config.table s.store).filter
      (o.selects (Tracking.recorded r.config.table s.store))))
    (hdescending : targets.Pairwise fun a b => b.migration < a.migration) :
    (r.rollback o).exec s = (r.revertSelected o.pretend targets).exec s := by
  rw [rollback, exec_withLock_of_unlocked hunlocked, exec_rollbackRecords hget,
    rollbackTargets_of_descending hget htracks htarget hselected hdescending]

/-- Reverting takes away the records that have a file, and no others if no migration is recorded
twice. -/
theorem RevertsAll.recorded {f : Files} {records : List Record} {store store' : Store}
    {tracking : Table} (hkeeps : r.KeepsTracking f)
    (hget : store.tables.get? r.config.table = some tracking) (htracks : tracking.Tracks)
    (hnames : ((Tracking.recorded r.config.table store).map (·.migration)).Nodup)
    (hrecorded : ∀ record ∈ records, record ∈ Tracking.recorded r.config.table store)
    (h : RevertsAll r f files records store store') :
    Tracking.recorded r.config.table store' =
      (Tracking.recorded r.config.table store).filter fun record =>
        record ∉ records ∨ files.contains record.migration = false := by
  obtain ⟨tracking', hget', -, hrows⟩ := h.table hkeeps hget htracks
  rw [Tracking.recorded_of_get? hget', hrows]
  rw [Tracking.recorded_of_get? hget] at hnames hrecorded ⊢
  rw [List.filter_map (f := Record.ofRow)]
  refine congrArg _ (List.filter_congr fun row hrow => ?_)
  have hmem : (Record.ofRow row).migration ∈ records.map (·.migration) ↔
      Record.ofRow row ∈ records := by
    constructor
    · intro hname
      obtain ⟨record, hr, heq⟩ := List.mem_map.1 hname
      rwa [← List.inj_on_of_nodup_map hnames (hrecorded record hr) (List.mem_map_of_mem hrow) heq]
    · exact List.mem_map_of_mem
  rw [Bool.eq_iff_iff]
  simp only [Bool.not_eq_true', List.contains_eq_mem, decide_eq_false_iff_not, List.mem_filter,
    hmem, Function.comp_apply, decide_eq_true_eq, not_and, Bool.not_eq_true]
  exact imp_iff_not_or

/-- How a rollback ends that reverts records, each before those with lesser names. -/
inductive RollsBack (r : Runner) (files : Dict String) (s : Session) (targets : List Record) :
    Except Fault RollbackResult → Session → Prop where
  /-- All of them are reverted that have a file, and these are pending then. -/
  | completed {after : Session} {reached : Store} {waiting : List String}
      (reverted : RevertsAll r s.files files targets (r.locked s).store reached)
      (recorded : Tracking.recorded r.config.table after.store =
        (Tracking.recorded r.config.table s.store).filter fun record =>
          record ∉ targets ∨ files.contains record.migration = false)
      (invocations : after.invocations = s.invocations ++ downs files targets)
      (pending : (r.pending.exec after).1 = .ok waiting)
      (released : ∀ name ∈ (revertReport files false targets).rolledBack, name ∈ waiting) :
      RollsBack r files s targets (.ok (revertReport files false targets)) after
  /-- One of them fails and is still recorded; those before it are reverted that have a file. -/
  | stopped {done later : List Record} {record : Record} {path : String} {after : Session}
      {reached : Store} {fault : Fault} {own : List (String × Direction)}
      (split : targets = done ++ record :: later)
      (reverted : RevertsAll r s.files files done (r.locked s).store reached)
      (found : files.get? record.migration = some path)
      (failed : (reverting record path).Fails r s.files reached fault)
      (recorded : Tracking.recorded r.config.table after.store =
        (Tracking.recorded r.config.table s.store).filter fun other =>
          other ∉ done ∨ files.contains other.migration = false)
      (kept : record ∈ Tracking.recorded r.config.table after.store)
      (tried : own.Sublist [(record.migration, .down)])
      (invocations : after.invocations = s.invocations ++ downs files done ++ own) :
      RollsBack r files s targets (.error fault) after

section

variable {targets : List Record} {tracking : Table}
  (hnames : ((Tracking.recorded r.config.table s.store).map (·.migration)).Nodup)

include hnames

/-- The migrations of which the records are gone are pending, if they have a file. -/
theorem mem_pending_of_reverted {after : Session}
    (hfiles : Discovery.discover r.config after.files = .ok files)
    (htargets : ∀ record ∈ targets, record ∈ Tracking.recorded r.config.table s.store)
    (hrecorded : Tracking.recorded r.config.table after.store =
      (Tracking.recorded r.config.table s.store).filter fun record =>
        record ∉ targets ∨ files.contains record.migration = false) :
    ∃ waiting, (r.pending.exec after).1 = .ok waiting ∧
      ∀ name ∈ (revertReport files false targets).rolledBack, name ∈ waiting := by
  refine ⟨_, by rw [exec_pending hfiles], ?_⟩
  intro name hname
  obtain ⟨htarget, hfile⟩ := List.mem_filter.1 hname
  obtain ⟨record, hr, rfl⟩ := List.mem_map.1 htarget
  obtain ⟨file, hentry, hname⟩ := List.any_eq_true.1 hfile
  refine List.mem_map.2 ⟨file, ?_, eq_of_beq hname⟩
  rw [pendingFiles_eq, List.mem_filter, decide_eq_true_eq]
  refine ⟨hentry, fun other hother heq => ?_⟩
  rw [hrecorded, List.mem_filter, decide_eq_true_eq] at hother
  -- The record under this name is the one that is gone.
  obtain rfl := List.inj_on_of_nodup_map hnames hother.1 (htargets record hr)
    (heq.trans (eq_of_beq hname))
  rcases hother.2 with hleft | hmissing
  · exact hleft hr
  · rw [hmissing] at hfile
    cases hfile

/-- Reverting selected records goes as described. -/
theorem revertSelected_rollsBack {u : Session} {result : Except Fault RollbackResult}
    (hbodies : r.BodiesRequest (Operation.Spares r.config.table))
    (hget : s.store.tables.get? r.config.table = some tracking) (htracks : tracking.Tracks)
    (hfiles : Discovery.discover r.config s.files = .ok files)
    (htargets : ∀ record ∈ targets, record ∈ Tracking.recorded r.config.table s.store)
    (hdescending : targets.Pairwise fun a b => b.migration < a.migration)
    (h : (r.revertSelected false targets).exec (r.locked s) = (result, u)) (locks : List String) :
    RollsBack r files s targets result (u.relocked locks) := by
  have hget' : (r.locked s).store.tables.get? r.config.table = some tracking := by
    rwa [tables_locked]
  have hsame : Tracking.recorded r.config.table (r.locked s).store =
      Tracking.recorded r.config.table s.store := Tracking.recorded_congr (by rw [tables_locked])
  rw [← hsame] at hnames htargets
  obtain ⟨done, later, s₁, hsplit, hfiles₁, hreverts, hruns, hend⟩ :=
    revertSelected_cases (by rwa [files_locked]) h
  rw [files_locked] at hfiles₁ hreverts
  rw [Session.invocations_of_journal (journal_locked r s)] at hruns
  have hdone : ∀ record ∈ done, record ∈ Tracking.recorded r.config.table (r.locked s).store :=
    fun record hr => htargets record (hsplit ▸ List.mem_append_left later hr)
  have hrecorded := hreverts.recorded (hbodies.keepsTracking _) hget' htracks hnames hdone
  rw [hsame] at hrecorded hnames htargets
  cases later with
  | nil =>
    obtain ⟨rfl, hstore, hruns', hfiles'⟩ := hend
    obtain rfl : targets = done := hsplit.trans (List.append_nil done)
    rw [← hstore] at hrecorded
    have hafter : Discovery.discover r.config (u.relocked locks).files = .ok files := by
      show Discovery.discover r.config u.files = .ok files
      rwa [hfiles', files_locked]
    obtain ⟨waiting, hpending, hreleased⟩ :=
      mem_pending_of_reverted hnames hafter htargets hrecorded
    exact .completed hreverts hrecorded (hruns'.trans hruns) hpending hreleased
  | cons record others =>
    obtain ⟨path, fault, hfound, rfl, hexec⟩ := hend
    obtain ⟨tracking₁, hget₁, htracks₁, -⟩ :=
      hreverts.table (hbodies.keepsTracking _) hget' htracks
    obtain ⟨result, u', hexec', -, hends, -⟩ :=
      execute_ends (t := reverting record path) hbodies rfl hget₁ htracks₁ nofun
    obtain ⟨rfl, rfl⟩ := Prod.mk.inj (hexec'.symm.trans hexec)
    obtain ⟨own, htried, hown⟩ := exists_invocations_execute r (reverting record path) s₁
    rw [hexec, hruns] at hown
    rw [hfiles₁] at hends
    have hafter : Tracking.recorded r.config.table u'.store =
        Tracking.recorded r.config.table s₁.store := Tracking.recorded_congr hends.2
    -- The one that failed is not among those before it, which have greater names.
    have hkept : record ∉ done := by
      intro hr
      rw [hsplit] at hdescending
      exact String.lt_irrefl _
        ((List.pairwise_append.1 hdescending).2.2 record hr record List.mem_cons_self)
    rw [← hafter] at hrecorded
    have hstill : record ∈ Tracking.recorded r.config.table u'.store := by
      rw [hrecorded]
      exact List.mem_filter.2 ⟨htargets record (hsplit ▸ by simp), by simp [hkept]⟩
    exact .stopped hsplit hreverts hfound hends.1 hrecorded hstill htried hown

end

/-- A rollback in any session that calls reach, whether they returned or failed. If the lock is held
elsewhere it is refused. Otherwise, if the migration that it names is not recorded, it fails and
changes nothing. Otherwise it selects the record of the named migration, or else the records from
the given batch on, or else those of the last batches, and reverts these and no others, each once
and in strictly descending order of the names, up to the first that fails. -/
theorem rollback_reverts_selection {table : String} {n : Nat} {origin : Record → Nat}
    (h : Calls table n origin s) (own : r.config.table = table)
    (hbodies : r.BodiesRequest (Operation.Spares table)) (htable : s.store.hasTable table = true)
    (hreal : o.pretend = false) :
    let records := Tracking.recorded table s.store
    let result := ((r.rollback o).exec s).1
    let after := ((r.rollback o).exec s).2
    (¬r.IsFree s.store → after = s ∧ result =
      .error (.failed (.lockUnavailable (.held r.config.lockName r.config.lockTimeout)))) ∧
    (r.IsFree s.store →
      (∀ target ∈ o.target, target ∉ records.map (·.migration) →
        result = .error (.failed (.validation (.notRun target))) ∧
          after.store.tables = s.store.tables ∧ after.journal = s.journal) ∧
      ((∀ target ∈ o.target, target ∈ records.map (·.migration)) →
        ∃ targets, targets.Perm (records.filter (o.selects records)) ∧
          targets.Pairwise (fun a b => b.migration < a.migration) ∧
          match Discovery.discover r.config s.files with
          | .ok files => RollsBack r files s targets result after
          | .error e => after.store.tables = s.store.tables ∧ after.invocations = s.invocations ∧
              result = if targets.isEmpty then .ok {} else .error (.failed e))) := by
  subst own
  intro records result after
  have hnumbered := h.numbered
  obtain ⟨tracking, hget⟩ := Store.hasTable_eq_true.1 htable
  have htracks := hnumbered.tracks tracking hget
  have hget' : (r.locked s).store.tables.get? r.config.table = some tracking := by
    rwa [tables_locked]
  have hsame : Tracking.recorded r.config.table (r.locked s).store = records :=
    Tracking.recorded_congr (by rw [tables_locked])
  refine ⟨fun hlocked => ?_, fun hfree => ?_⟩
  · simp only [after, result, rollback, exec_withLock_of_not_isFree hlocked, and_self]
  obtain ⟨locks, hlocks⟩ := exec_withLock_of_isFree hfree (r.rollbackRecords o)
  rw [exec_rollbackRecords hget', hreal] at hlocks
  have hcall : (r.rollback o).exec s = (result, after) := rfl
  rw [rollback, hlocks] at hcall
  constructor
  · intro target htarget hnew
    rw [rollbackTargets_of_not_recorded hget' htracks htarget (by rwa [hsame])] at hcall
    obtain ⟨hresult, hafter⟩ := Prod.mk.inj hcall
    rw [← hresult, ← hafter]
    exact ⟨rfl, by rw [Session.tables_relocked, tables_locked], journal_locked r s⟩
  · intro htarget
    obtain ⟨targets, htargets, hperm⟩ := rollbackTargets_perm (o := o) hget' htracks
      (fun _ => by rw [hsame]; exact hnumbered.names) (by rwa [hsame])
    rw [hsame] at hperm
    have hrecorded : ∀ record ∈ targets, record ∈ records := fun record hr =>
      (List.mem_filter.1 (hperm.mem_iff.1 hr)).1
    have hnames : (targets.map (·.migration)).Nodup :=
      ((hperm.map _).nodup_iff).2 (hnumbered.names.sublist (List.filter_sublist.map _))
    have hdescending := List.pairwise_map.1
      (pairwise_lt_of_nodup (pairwise_rollbackTargets htargets) hnames)
    refine ⟨targets, hperm, hdescending, ?_⟩
    simp only [htargets] at hcall
    obtain ⟨hresult, hafter⟩ := Prod.mk.inj hcall
    rw [← hresult, ← hafter]
    cases hfiles : Discovery.discover r.config s.files with
    | ok files =>
      exact revertSelected_rollsBack hnumbered.names hbodies hget htracks hfiles hrecorded
        hdescending rfl locks
    | error e =>
      rw [exec_revertSelected_of_error (by rwa [files_locked])]
      cases targets with
      | nil =>
        rw [List.isEmpty_nil, if_pos rfl, exec_nothingToRollBack]
        refine ⟨by rw [Session.tables_relocked, Session.store_journaled, tables_locked], ?_, rfl⟩
        exact (Session.invocations_journaled _ _).trans
          (by simp [Session.invocations_of_journal (journal_locked r s)])
      | cons first rest =>
        refine ⟨by simp, ?_, rfl⟩
        exact Session.invocations_of_journal (journal_locked r s)

/-- A rollback of two batches when the file of the first one is gone: both records are selected, the
second one is reverted and the first one stays. -/
theorem rollback_passes_over_missing_file :
    let a : Migration := { up := .pure (), down := .pure () }
    let r : Runner :=
      { config := { paths := ["m"], table := "t" }, migrations := Dict.ofList [("a", a), ("b", a)] }
    let files (name : String) : Files := { nodes := [(["m"], .directory), (["m", name], .file [])] }
    let first : Session := { files := files "a.rs" }
    let second : Session := { ((r.call (.run {})).exec first).2 with files := files "b.rs" }
    let s : Session := ((r.call (.run {})).exec second).2
    let origin := r.origins (.run {}) second 1 (r.origins (.run {}) first 0 fun _ => 0)
    let o : RollbackOptions := { steps := some 2 }
    let records := Tracking.recorded "t" s.store
    let found := Dict.ofList [("b", "m/b.rs")]
    Calls "t" 2 origin s ∧ r.BodiesRequest (Operation.Spares "t") ∧ s.store.hasTable "t" = true ∧
      r.IsFree s.store ∧ Discovery.discover r.config s.files = .ok found ∧
      records.map (fun record => (record.migration, record.batch)) = [("a", 1), ("b", 2)] ∧
      ∃ targets, targets.Perm records ∧ targets.Pairwise (fun a b => b.migration < a.migration) ∧
        RollsBack r found s targets ((r.rollback o).exec s).1 ((r.rollback o).exec s).2 := by
  intro a r files first second s origin o records found
  have hruns : r.IsFree s.store ∧ s.store.hasTable "t" = true ∧
      records.map (fun record => (record.migration, record.batch)) = [("a", 1), ("b", 2)] ∧
      records.filter (o.selects records) = records := by
    decide +kernel +revert
  obtain ⟨hfree, htable, hrecords, hselects⟩ := hruns
  have hkept : s.files = files "b.rs" :=
    preserves_call r (Session.ignoresNarration_files second.files)
      (fun _ => r.sustains_files second.files) second rfl
  have hfound : Discovery.discover r.config (files "b.rs") = .ok found := by cbv
  have hfiles : Discovery.discover r.config s.files = .ok found := by rw [hkept, hfound]
  have hbodies : r.BodiesRequest (Operation.Spares "t") :=
    .of_ofList rfl (by simp [a, Program.Requests])
  have hsecond : Calls "t" 1 (r.origins (.run {}) first 0 fun _ => 0) second :=
    ((Calls.start rfl).call r (.run {}) rfl hbodies (.of_empty rfl)).meanwhile rfl
  have hcalls : Calls "t" 2 origin s := hsecond.call r (.run {}) rfl hbodies (.of_empty rfl)
  obtain ⟨-, hunlocked⟩ := rollback_reverts_selection (o := o) hcalls rfl hbodies htable rfl
  obtain ⟨targets, hperm, hdescending, hrolls⟩ := (hunlocked hfree).2 (by simp [o])
  rw [hfiles] at hrolls
  rw [hselects] at hperm
  exact ⟨hcalls, hbodies, htable, hfree, hfiles, hrecords, targets, hperm, hdescending, hrolls⟩

end Runner

end SchemaMigration
