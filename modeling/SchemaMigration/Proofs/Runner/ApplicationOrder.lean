import SchemaMigration.Proofs.Runner.Application
import SchemaMigration.Proofs.Runner.Rollback

/-!
# The order of application

Migrations are reverted in descending order of their names, whatever the order in which they were
applied. Within a batch the two orders are opposite, because a run applies its files in ascending
order; across batches they need not be, because a file that is added later may have a lesser name.
-/

namespace SchemaMigration

namespace Runner

variable {r : Runner} {c : Command} {s : Session}

/-- Reverting chosen records runs programs of some of them, in their order. -/
theorem revertSelected_runs (r : Runner) (targets : List Record) (s : Session) :
    ∃ names : List String, names.Sublist (targets.map (·.migration)) ∧
      ((r.revertSelected false targets).exec s).2.invocations =
        s.invocations ++ names.map fun name => (name, .down) := by
  cases hfiles : Discovery.discover r.config s.files with
  | error e =>
    refine ⟨[], List.nil_sublist _, ?_⟩
    rw [exec_revertSelected_of_error hfiles]
    split
    · simp [exec_nothingToRollBack]
    · simp
  | ok files =>
    cases hrevert : (r.revertSelected false targets).exec s with
    | mk result u =>
      obtain ⟨done, later, s₁, rfl, -, -, hruns, hend⟩ := revertSelected_cases hfiles hrevert
      let reverted := (revertReport files false done).rolledBack
      have hdone : reverted.Sublist (done.map (·.migration)) := List.filter_sublist
      rw [List.map_append]
      cases later with
      | nil =>
        refine ⟨reverted, hdone.trans (List.sublist_append_left _ _), ?_⟩
        exact hend.2.2.1.trans hruns
      | cons record others =>
        obtain ⟨path, fault, -, -, hexec⟩ := hend
        have hran := invocations_execute r (reverting record path) s₁
        rw [hexec, hruns] at hran
        rcases hran with hran | ⟨hnone, -⟩
        · refine ⟨reverted ++ [record.migration], hdone.append (by simp), ?_⟩
          simpa [reverted, downs, reverting] using hran
        · exact ⟨reverted, hdone.trans (List.sublist_append_left _ _), hnone⟩

/-- The programs that a rollback runs are those of records that are to be reverted, in their order.
-/
theorem rollbackRecords_runs (r : Runner) (o : RollbackOptions) (s : Session) :
    ∃ names : List String, ((r.rollbackRecords o).exec s).2.invocations =
        s.invocations ++ names.map (fun name => (name, .down)) ∧
      (names ≠ [] → ∃ targets, rollbackTargets r.config.table o s.store = .ok targets ∧
        names.Sublist (targets.map (·.migration))) := by
  cases hpretend : o.pretend with
  | true =>
    have hI := tolerates (Session.ignoresNarration_invocations s.invocations) r
    have hnone := preserves_rollbackRecords r hI
      (fun t _ ht => preserves_execute r hI (by simp) ht) hpretend s rfl
    exact ⟨[], by simpa using hnone⟩
  | false =>
    cases hget : s.store.tables.get? r.config.table with
    | none =>
      rw [exec_rollbackRecords_of_no_table hget]
      exact ⟨[], by simp⟩
    | some tracking =>
      rw [exec_rollbackRecords hget, hpretend]
      cases htargets : rollbackTargets r.config.table o s.store with
      | error fault => exact ⟨[], by simp⟩
      | ok targets =>
        obtain ⟨names, hsublist, hruns⟩ := revertSelected_runs r targets s
        exact ⟨names, hruns, fun _ => ⟨targets, rfl, hsublist⟩⟩

/-- A reset runs the programs that some rollback runs. -/
theorem resetRecords_runs (r : Runner) (pretend : Bool) (s : Session) :
    ((r.resetRecords pretend).exec s).2.invocations = s.invocations ∨
      ∃ o, (r.resetRecords pretend).exec s = (r.rollbackRecords o).exec s := by
  cases hget : s.store.tables.get? r.config.table with
  | none =>
    rw [exec_resetRecords_of_no_table hget]
    exact .inl (by simp)
  | some tracking =>
    rw [exec_resetRecords (Store.hasTable_eq_true.2 ⟨_, hget⟩) (Tracking.lastBatch_eq hget)]
    split
    · rw [exec_nothingToRollBack]
      exact .inl (by simp)
    · exact .inr ⟨_, rfl⟩

/-- Under the lock nothing but the action itself runs programs. -/
theorem invocations_withLock {α : Type} (r : Runner) (action : Action α) (s : Session) :
    ((r.withLock action).exec s).2.invocations = s.invocations ∨
      ((r.withLock action).exec s).2.invocations = (action.exec (r.locked s)).2.invocations := by
  by_cases hfree : r.IsFree s.store
  · obtain ⟨locks, hlocks⟩ := exec_withLock_of_isFree hfree action
    rw [hlocks]
    exact .inr rfl
  · rw [exec_withLock_of_not_isFree hfree]
    exact .inl rfl

/-- A call that only reverts runs the programs of records that are to be reverted, in their order.
-/
theorem call_runs (r : Runner) (hc : c.options? = none) (s : Session) :
    ∃ names : List String, ((r.call c).exec s).2.invocations =
        s.invocations ++ names.map (fun name => (name, .down)) ∧
      (names ≠ [] → ∃ o targets, rollbackTargets r.config.table o (r.locked s).store = .ok targets ∧
        names.Sublist (targets.map (·.migration))) := by
  have hlocked := Session.invocations_of_journal (journal_locked r s)
  cases c with
  | run | refresh | fresh => cases hc
  | rollback o =>
    rw [call, Action.exec_map]
    rcases invocations_withLock r (r.rollbackRecords o) s with hnone | hruns
    · exact ⟨[], by simpa [rollback] using hnone⟩
    · obtain ⟨names, hnames, htargets⟩ := rollbackRecords_runs r o (r.locked s)
      exact ⟨names, hruns.trans (hlocked ▸ hnames), fun hne => ⟨o, htargets hne⟩⟩
  | reset pretend =>
    rw [call, Action.exec_map]
    rcases invocations_withLock r (r.resetRecords pretend) s with hnone | hruns
    · exact ⟨[], by simpa [reset] using hnone⟩
    · rcases resetRecords_runs r pretend (r.locked s) with hnone | ⟨o, hreset⟩
      · exact ⟨[], by simpa [reset] using hruns.trans (hnone.trans hlocked)⟩
      · obtain ⟨names, hnames, htargets⟩ := rollbackRecords_runs r o (r.locked s)
        rw [hreset] at hruns
        exact ⟨names, hruns.trans (hlocked ▸ hnames), fun hne => ⟨o, htargets hne⟩⟩

/-- What is to be reverted has no name twice if no migration is recorded twice. -/
theorem nodup_rollbackTargets {table : String} {options : RollbackOptions} {store : Store}
    {targets : List Record} (htracks : ∀ t, store.tables.get? table = some t → t.Tracks)
    (hnames : ((Tracking.recorded table store).map (·.migration)).Nodup)
    (h : rollbackTargets table options store = .ok targets) :
    (targets.map (·.migration)).Nodup := by
  cases hget : store.tables.get? table with
  | none =>
    have hnone : targets = [] := List.eq_nil_iff_forall_not_mem.2 fun record hr => by
      have hrecorded := mem_recorded_of_rollbackTargets h hr
      simp [Tracking.recorded, Store.rows, hget] at hrecorded
    simp [hnone]
  | some t =>
    have htarget : ∀ target ∈ options.target,
        target ∈ (Tracking.recorded table store).map (·.migration) := by
      intro target htarget
      by_contra hnew
      rw [rollbackTargets_of_not_recorded hget (htracks t hget) htarget hnew] at h
      cases h
    obtain ⟨targets', htargets, hperm⟩ :=
      rollbackTargets_perm hget (htracks t hget) (fun _ => hnames) htarget
    obtain rfl := Except.ok.inj (htargets.symm.trans h)
    exact (hperm.map _).nodup_iff.2 (hnames.sublist (List.filter_sublist.map _))

end Runner

/-- A part of a list without repetition is what the list has of its elements. -/
theorem filter_mem_of_sublist {part whole : List String} (h : part.Sublist whole)
    (hnodup : whole.Nodup) : whole.filter (· ∈ part) = part := by
  refine (hnodup.perm_iff_eq_of_sublist List.filter_sublist h).1 ?_
  refine (List.perm_ext_iff_of_nodup (hnodup.filter _) (hnodup.sublist h)).2 fun name => ?_
  rw [List.mem_filter, decide_eq_true_eq]
  exact and_iff_right_of_imp fun hname => h.subset hname

/-- A descending list and an ascending one of the same elements are opposite. -/
theorem eq_reverse_of_ascending {down up : List String} (h : down.Perm up)
    (hdown : down.Pairwise fun a b => b < a) (hup : up.Pairwise (· < ·)) : down = up.reverse := by
  have hreverse : up.reverse.Pairwise fun a b => b < a := List.pairwise_reverse.2 hup
  exact List.Perm.eq_of_pairwise (fun _ _ _ _ hab hba =>
    absurd (String.lt_trans hab hba) (String.lt_irrefl _)) hdown hreverse
      (h.trans (List.reverse_perm up).symm)

namespace Runner

variable {r : Runner} {c : Command} {s : Session} {table : String}

/-- Among what was applied, the migrations of one recorded batch are in ascending order. -/
theorem Ordered.ascending_of_batch (h : Ordered table s) (batch : Int64) (p : String → Bool)
    (hp : ∀ name, p name = true → ∃ record ∈ Tracking.recorded table s.store,
      record.migration = name ∧ record.batch = batch) :
    (s.applied.filter p).Pairwise (· < ·) := by
  let own := ((Tracking.recorded table s.store).filter fun record => record.batch = batch).map
    (·.migration)
  have hown : own.Pairwise (· < ·) := by
    rw [List.pairwise_map]
    refine (h.ascending.filter _).imp_of_mem fun {a b} ha hb hlt => hlt ?_
    rw [of_decide_eq_true (List.mem_filter.1 ha).2, of_decide_eq_true (List.mem_filter.1 hb).2]
  have hsublist : own.Sublist s.applied := (List.filter_sublist.map _).trans h.sublist
  have hpart : (s.applied.filter p).Sublist (s.applied.filter (· ∈ own)) := by
    apply List.monotone_filter_right
    intro name hname
    obtain ⟨record, hr, rfl, hbatch⟩ := hp name hname
    simp only [decide_eq_true_eq, own]
    exact List.mem_map_of_mem (List.mem_filter.2 ⟨hr, by simpa using hbatch⟩)
  rw [filter_mem_of_sublist hsublist s.nodup_applied] at hpart
  exact hown.sublist hpart

/-- If all records are selected and they are in descending order, they are reverted as they are. -/
theorem invocations_rollback_of_descending {options : RollbackOptions} (hfree : r.IsFree s.store)
    (htable : s.store.hasTable r.config.table = true) (h : Ordered r.config.table s)
    (htarget : options.target = none)
    (hselects : (Tracking.recorded r.config.table s.store).filter
      (options.selects (Tracking.recorded r.config.table s.store)) =
        Tracking.recorded r.config.table s.store)
    (hdescending : (Tracking.recorded r.config.table s.store).Pairwise fun a b =>
      b.migration < a.migration) :
    ((r.call (.rollback options)).exec s).2.invocations =
      ((r.revertSelected options.pretend (Tracking.recorded r.config.table s.store)).exec
        (r.locked s)).2.invocations := by
  obtain ⟨tracking, hget⟩ := Store.hasTable_eq_true.1 htable
  have htargets := rollbackTargets_of_descending hget (h.tracks tracking hget) htarget
    (by rw [hselects]) hdescending
  obtain ⟨locks, hlocks⟩ := exec_rollback_of_targets hfree htable htargets
  rw [call, Action.exec_map, hlocks]
  rfl

/-- A call that only reverts, in any session, runs the programs of reverting in descending order of
the names. In a session that calls have reached, it runs each only once, and all of migrations that
were applied. Within each batch this is the reverse of the order in which they were applied; over
several batches it is so just if they were applied in ascending order of their names. -/
theorem reverts_in_descending_order (hc : c.options? = none) (s : Session) :
    ∃ names : List String,
      ((r.call c).exec s).2.invocations = s.invocations ++ names.map (fun name => (name, .down)) ∧
      names.Pairwise (fun a b => b ≤ a) ∧
      ∀ table, History table s → r.config.table = table →
        let undone := s.applied.filter (· ∈ names)
        let inBatch (batch : Int64) (name : String) : Bool :=
          ∃ record ∈ Tracking.recorded table s.store, record.migration = name ∧ record.batch = batch
        names.Pairwise (fun a b => b < a) ∧ names.Perm undone ∧
          (∀ name ∈ names, ∃ batch, inBatch batch name = true) ∧
          (∀ batch, names.filter (inBatch batch) = (undone.filter (inBatch batch)).reverse) ∧
          (names = undone.reverse ↔ undone.Pairwise (· < ·)) := by
  obtain ⟨names, hruns, htargets⟩ := call_runs r hc s
  have hdescending : names.Pairwise fun a b => b ≤ a := by
    by_cases hne : names = []
    · simp [hne]
    · obtain ⟨o, targets, htargets, hsublist⟩ := htargets hne
      exact (pairwise_rollbackTargets htargets).sublist hsublist
  refine ⟨names, hruns, hdescending, ?_⟩
  intro table h own
  subst own
  intro undone inBatch
  have hordered := h.ordered
  have hsame : Tracking.recorded r.config.table (r.locked s).store =
      Tracking.recorded r.config.table s.store := Tracking.recorded_congr (by rw [tables_locked])
  obtain ⟨hnodup, hrecorded⟩ : names.Nodup ∧ ∀ name ∈ names,
      ∃ record ∈ Tracking.recorded r.config.table s.store, record.migration = name := by
    by_cases hne : names = []
    · simp [hne]
    · obtain ⟨o, targets, htargets, hsublist⟩ := htargets hne
      constructor
      · refine (nodup_rollbackTargets ?_ (hsame ▸ hordered.names) htargets).sublist hsublist
        rw [tables_locked]
        exact hordered.tracks
      · intro name hname
        obtain ⟨record, hr, rfl⟩ := List.mem_map.1 (hsublist.subset hname)
        exact ⟨record, hsame ▸ mem_recorded_of_rollbackTargets htargets hr, rfl⟩
  have hstrict : names.Pairwise fun a b => b < a := pairwise_lt_of_nodup hdescending hnodup
  have hundone : undone.Nodup := s.nodup_applied.filter _
  have hperm : names.Perm undone := by
    refine (List.perm_ext_iff_of_nodup hnodup hundone).2 fun name => ?_
    simp only [undone, List.mem_filter, decide_eq_true_eq, iff_and_self]
    intro hname
    obtain ⟨record, hr, rfl⟩ := hrecorded name hname
    exact hordered.sublist.subset (List.mem_map_of_mem hr)
  refine ⟨hstrict, hperm, ?_, ?_, ?_⟩
  · intro name hname
    obtain ⟨record, hr, rfl⟩ := hrecorded name hname
    exact ⟨record.batch, decide_eq_true ⟨record, hr, rfl, rfl⟩⟩
  · intro batch
    apply eq_reverse_of_ascending (hperm.filter _) (hstrict.filter _)
    rw [List.filter_filter]
    apply hordered.ascending_of_batch batch
    intro name hname
    exact of_decide_eq_true (Bool.and_eq_true_iff.1 hname).1
  · constructor
    · intro heq
      rw [heq, List.pairwise_reverse] at hstrict
      exact hstrict
    · exact eq_reverse_of_ascending hperm hstrict

/-- A file with a lesser name is added and applied after another one: it was applied last, but it is
reverted last, too. -/
theorem later_file_is_reverted_last :
    let a : Migration := { up := .pure (), down := .pure () }
    let r : Runner := {
      config := { paths := ["m", "n"], table := "t" }
      migrations := Dict.ofList [("a", a), ("b", a)] }
    let nodes := [(["m"], .directory), (["m", "b.rs"], .file []), (["n"], .directory)]
    let first : Session := { files := { nodes } }
    let second : Session := { ((r.call (.run {})).exec first).2 with
      files := { nodes := nodes ++ [(["n", "a.rs"], .file [])] } }
    let s : Session := ((r.call (.run {})).exec second).2
    let after := ((r.call (.rollback { steps := some 2 })).exec s).2
    History "t" s ∧ r.BodiesRequest (Operation.Spares "t") ∧ s.applied = ["b", "a"] ∧
      after.invocations = s.invocations ++ ["b", "a"].map (fun name => (name, .down)) ∧
      ["b", "a"] ≠ s.applied.reverse := by
  intro a r nodes first second s after
  let records := Tracking.recorded "t" s.store
  have hruns : r.IsFree s.store ∧ s.store.hasTable "t" = true ∧ s.applied = ["b", "a"] ∧
      (records.Pairwise fun a b => b.migration < a.migration) ∧
      records.filter (({ steps := some 2 } : RollbackOptions).selects records) = records ∧
      ((r.revertSelected false records).exec (r.locked s)).2.invocations =
        s.invocations ++ ["b", "a"].map fun name => (name, .down) := by
    decide +kernel +revert
  obtain ⟨hfree, htable, happlied, hdescending, hselects, hreverts⟩ := hruns
  have hbodies : r.BodiesRequest (Operation.Spares "t") :=
    .of_ofList rfl (by simp [a, Program.Requests])
  have hsecond : History "t" second :=
    ((History.start rfl).call r (.run {}) rfl hbodies (.of_empty rfl)).meanwhile rfl
      (Session.invocations_of_journal rfl)
  have hhistory : History "t" s :=
    hsecond.call r (.run {}) rfl hbodies (.of_empty rfl)
  have hafter := invocations_rollback_of_descending hfree htable hhistory.ordered (by rfl)
    hselects hdescending
  exact ⟨hhistory, hbodies, happlied, hafter.trans hreverts, by rw [happlied]; decide⟩

/-- Two files that are applied by one run, in the order of their names, are reverted in the reverse
of it. -/
theorem one_run_is_reverted_in_reverse :
    let a : Migration := { up := .pure (), down := .pure () }
    let r : Runner := {
      config := { paths := ["m", "n"], table := "t" }
      migrations := Dict.ofList [("a", a), ("b", a)] }
    let nodes := [(["m"], .directory), (["m", "b.rs"], .file []), (["n"], .directory),
      (["n", "a.rs"], .file [])]
    let first : Session := { files := { nodes } }
    let s : Session := ((r.call (.run {})).exec first).2
    let after := ((r.call (.rollback {})).exec s).2
    History "t" s ∧ s.applied = ["a", "b"] ∧ ∃ names : List String,
      after.invocations = s.invocations ++ names.map (fun name => (name, .down)) ∧
      names = (s.applied.filter (· ∈ names)).reverse := by
  intro a r nodes first s after
  have happlied : s.applied = ["a", "b"] := by
    decide +kernel +revert
  have hbodies : r.BodiesRequest (Operation.Spares "t") :=
    .of_ofList rfl (by simp [a, Program.Requests])
  have hhistory : History "t" s :=
    (History.start rfl).call r (.run {}) rfl hbodies (.of_empty rfl)
  obtain ⟨names, hruns, -, hreached⟩ :=
    reverts_in_descending_order (r := r) (c := .rollback {}) rfl s
  obtain ⟨-, -, -, -, hreverse⟩ := hreached "t" hhistory rfl
  refine ⟨hhistory, happlied, names, hruns, hreverse.2 ?_⟩
  have hascending : s.applied.Pairwise (· < ·) := by
    rw [happlied]
    decide
  exact hascending.filter _

end Runner

end SchemaMigration
