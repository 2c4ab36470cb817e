import SchemaMigration.Proofs.Tracking.Selection
import SchemaMigration.Runner.Rollback

/-!
# What is to be reverted

Which records a rollback is to revert depends on its options and on the records alone, and not on
the order in which these are read. They are reverted in descending order of their names.
-/

namespace SchemaMigration

/-- Whether a record is to be reverted: it is that of the named migration, or else from the given
batch on, or else of one of the last batches. -/
def RollbackOptions.selects (o : RollbackOptions) (records : List Record) (record : Record) :
    Bool :=
  match o.target with
  | some target => record.migration = target
  | none =>
    match o.batch with
    | some batch => batch.toInt ≤ record.batch.toInt
    | none => Tracking.laterBatches records record.batch < max 1 (o.steps.getD 1)

namespace RollbackOptions

variable {o : RollbackOptions} {records : List Record}

theorem selects_of_target {target : String} (h : o.target = some target) :
    o.selects records = fun record => decide (record.migration = target) := by
  funext record
  simp [selects, h]

theorem selects_of_batch {batch : Int64} (htarget : o.target = none) (h : o.batch = some batch) :
    o.selects records = fun record => decide (batch.toInt ≤ record.batch.toInt) := by
  funext record
  simp [selects, htarget, h]

theorem selects_of_steps (htarget : o.target = none) (hbatch : o.batch = none) :
    o.selects records = fun record =>
      decide (Tracking.laterBatches records record.batch < max 1 (o.steps.getD 1)) := by
  funext record
  simp [selects, htarget, hbatch]

/-- Without options, the records of the last batch are reverted. -/
theorem filter_selects_default {added : List Record} {batch : Int64} (hne : added ≠ [])
    (hadded : ∀ record ∈ added, record.batch = batch)
    (hgreater : ∀ record ∈ records, record.batch.toInt < batch.toInt) :
    (records ++ added).filter (({} : RollbackOptions).selects (records ++ added)) = added := by
  obtain ⟨last, hlast⟩ := List.exists_mem_of_ne_nil added hne
  have hselects (record : Record) :
      ({} : RollbackOptions).selects (records ++ added) record = true ↔
        ∀ other ∈ records ++ added, other.batch.toInt ≤ record.batch.toInt := by
    rw [selects_of_steps rfl rfl, decide_eq_true_eq]
    exact Tracking.laterBatches_lt_one
  rw [List.filter_append, List.filter_eq_nil_iff.2, List.filter_eq_self.2, List.nil_append]
  · intro record hr
    refine (hselects record).2 fun other hother => ?_
    rw [hadded record hr]
    rcases List.mem_append.1 hother with hearlier | hother
    · exact Int.le_of_lt (hgreater other hearlier)
    · rw [hadded other hother]
  · intro record hr hselected
    have hle := (hselects record).1 hselected last (List.mem_append_right _ hlast)
    rw [hadded last hlast] at hle
    exact Int.not_lt.2 hle (hgreater record hr)

end RollbackOptions

namespace Runner

variable {table : String} {o : RollbackOptions} {s : Store} {targets : List Record}

/-- What is to be reverted depends on the tables alone. -/
theorem rollbackTargets_congr {s' : Store} (h : s'.tables = s.tables) :
    rollbackTargets table o s' = rollbackTargets table o s := by
  have hselect (q : Query) : Tracking.select table q s' = Tracking.select table q s := by
    simp only [Tracking.select, Store.select, Store.table, h]
  simp only [rollbackTargets, rollbackSelection, Tracking.find, Tracking.fromBatch,
    Tracking.lastBatches, Tracking.records, hselect]

/-- The chosen records are sorted by their names. -/
theorem rollbackTargets_eq_ok {selection : List Record}
    (h : rollbackSelection table o s = .ok selection) :
    rollbackTargets table o s =
      .ok (selection.mergeSort fun a b => b.migration ≤ a.migration) := by
  rw [rollbackTargets, h]
  rfl

/-- What is to be reverted is in descending order of the names. -/
theorem pairwise_rollbackTargets (h : rollbackTargets table o s = .ok targets) :
    (targets.map (·.migration)).Pairwise fun a b => b ≤ a := by
  obtain ⟨selection, -, h⟩ := except_bind_eq_ok.1 h
  obtain rfl := Except.ok.inj h
  let precedes (a b : Record) : Bool := decide (b.migration ≤ a.migration)
  have htrans (a b c : Record) (hab : precedes a b = true) (hbc : precedes b c = true) :
      precedes a c = true := by
    simp only [precedes, decide_eq_true_eq] at *
    exact String.le_trans hbc hab
  have htotal (a b : Record) : (precedes a b || precedes b a) = true := by
    simp only [precedes, Bool.or_eq_true, decide_eq_true_eq]
    exact String.le_total _ _
  exact List.pairwise_map.2
    ((List.pairwise_mergeSort htrans htotal selection).imp of_decide_eq_true)

/-- Names in descending order are in strictly descending order if none of them occurs twice. -/
theorem pairwise_lt_of_nodup {names : List String} (h : names.Pairwise fun a b => b ≤ a)
    (hnodup : names.Nodup) : names.Pairwise fun a b => b < a :=
  (h.and hnodup).imp fun hab => name_lt_of_not_lt (String.not_lt.2 hab.1) hab.2

/-- The only record of a migration. -/
theorem filter_migration_eq_singleton {records : List Record} {record : Record}
    (hnames : (records.map (·.migration)).Nodup) (h : record ∈ records) :
    records.filter (fun other => other.migration = record.migration) = [record] := by
  induction records with
  | nil => cases h
  | cons first rest ih =>
    rw [List.map_cons, List.nodup_cons] at hnames
    rcases List.mem_cons.1 h with rfl | hrest
    · have hothers : rest.filter (fun other => other.migration = record.migration) = [] := by
        apply List.filter_eq_nil_iff.2
        intro other hother heq
        exact hnames.1 (List.mem_map.2 ⟨other, hother, of_decide_eq_true heq⟩)
      simp [hothers]
    · have hne : first.migration ≠ record.migration := fun heq =>
        hnames.1 (heq ▸ List.mem_map_of_mem hrest)
      rw [List.filter_cons_of_neg (by simpa using hne)]
      exact ih hnames.2 hrest

variable {t : Table} (ht : s.tables.get? table = some t) (h : t.Tracks)

include ht h

theorem rollbackTargets_of_not_recorded {target : String} (htarget : o.target = some target)
    (hnew : target ∉ (Tracking.recorded table s).map (·.migration)) :
    rollbackTargets table o s = .error (.failed (.validation (.notRun target))) := by
  obtain ⟨found, hfind, hfound⟩ := Tracking.find_of_tracks ht h target
  cases found with
  | none =>
    rw [rollbackTargets, rollbackSelection, htarget]
    simp only [hfind]
    rfl
  | some record => exact absurd (List.mem_map.2 ⟨record, hfound⟩) hnew

/-- What is to be reverted are the selected records, if a named one is recorded. -/
theorem rollbackTargets_perm
    (hnames : o.target.isSome → ((Tracking.recorded table s).map (·.migration)).Nodup)
    (htarget : ∀ target ∈ o.target, target ∈ (Tracking.recorded table s).map (·.migration)) :
    ∃ targets, rollbackTargets table o s = .ok targets ∧
      targets.Perm
        ((Tracking.recorded table s).filter (o.selects (Tracking.recorded table s))) := by
  obtain ⟨selection, hselection, hperm⟩ : ∃ selection,
      rollbackSelection table o s = .ok selection ∧ selection.Perm
        ((Tracking.recorded table s).filter (o.selects (Tracking.recorded table s))) := by
    cases hname : o.target with
    | some target =>
      obtain ⟨found, hfind, hfound⟩ := Tracking.find_of_tracks ht h target
      cases found with
      | none =>
        obtain ⟨record, hr, heq⟩ := List.mem_map.1 (htarget target hname)
        exact absurd heq (hfound record hr)
      | some record =>
        obtain ⟨hr, rfl⟩ := hfound
        refine ⟨[record], by simp only [rollbackSelection, hname, hfind]; rfl, ?_⟩
        rw [RollbackOptions.selects_of_target hname,
          filter_migration_eq_singleton (hnames (by simp [hname])) hr]
    | none =>
      cases hbatch : o.batch with
      | some batch =>
        obtain ⟨l, hl, hperm⟩ := Tracking.fromBatch_of_tracks ht h batch
        refine ⟨l, by simp only [rollbackSelection, hname, hbatch, hl], ?_⟩
        rwa [RollbackOptions.selects_of_batch hname hbatch]
      | none =>
        obtain ⟨l, hl, hperm⟩ := Tracking.lastBatches_of_tracks ht (max 1 (o.steps.getD 1))
        refine ⟨l, by simp only [rollbackSelection, hname, hbatch, hl], ?_⟩
        rwa [RollbackOptions.selects_of_steps hname hbatch]
  exact ⟨_, rollbackTargets_eq_ok hselection, (List.mergeSort_perm _ _).trans hperm⟩

/-- The selected records, if they are listed in strictly descending order. -/
theorem rollbackTargets_of_descending (htarget : o.target = none)
    (hselected : targets.Perm
      ((Tracking.recorded table s).filter (o.selects (Tracking.recorded table s))))
    (hdescending : targets.Pairwise fun a b => b.migration < a.migration) :
    rollbackTargets table o s = .ok targets := by
  obtain ⟨found, hfound, hperm⟩ := rollbackTargets_perm (o := o) ht h (by simp [htarget])
    (by simp [htarget])
  replace hperm := hperm.trans hselected.symm
  have hnames : (targets.map (·.migration)).Nodup := by
    rw [List.nodup_iff_pairwise_ne, List.pairwise_map]
    refine hdescending.imp fun {a b} hlt heq => ?_
    rw [heq] at hlt
    exact String.lt_irrefl _ hlt
  have hsorted := List.pairwise_map.1 (pairwise_lt_of_nodup (pairwise_rollbackTargets hfound)
    ((hperm.map _).nodup_iff.2 hnames))
  have hsame : found = targets :=
    List.Perm.eq_of_pairwise (fun _ _ _ _ hab hba =>
      absurd (String.lt_trans hab hba) (String.lt_irrefl _)) hsorted hdescending hperm
  rw [hfound, hsame]

end Runner

end SchemaMigration
