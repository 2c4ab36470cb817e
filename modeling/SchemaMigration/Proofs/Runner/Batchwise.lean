import SchemaMigration.Proofs.Runner.Rollback
import SchemaMigration.Proofs.Runner.Undoing

/-!
# Batch by batch

To roll back the last so many batches at once, or one after the other, comes to the same: the same
records are left and the same migrations are reverted, though in another order. At once, the batches
are chosen from what is recorded at the beginning; one after the other, the last one is chosen anew
each time.
-/

namespace SchemaMigration

namespace Runner

/-- The last so many batches are gone, and the programs that revert their migrations were run. -/
structure RevertsLast (table : String) (count : Nat) (s : Session) (reverted : List String)
    (after : Session) : Prop where
  recorded : Tracking.recorded table after.store =
    (Tracking.recorded table s.store).filter fun record =>
      count ≤ Tracking.laterBatches (Tracking.recorded table s.store) record.batch
  names : reverted.Perm (((Tracking.recorded table s.store).filter fun record =>
    Tracking.laterBatches (Tracking.recorded table s.store) record.batch < count).map (·.migration))
  invocations : after.invocations = s.invocations ++ reverted.map fun name => (name, .down)

namespace RevertsLast

variable {table : String} {count : Nat} {s u after : Session} {first rest : List String}

theorem zero (table : String) (s : Session) : RevertsLast table 0 s [] s := by
  constructor <;> simp

/-- To revert the last batch and then some more is to revert one more than these. -/
theorem succ (hfirst : RevertsLast table 1 s first u) (hrest : RevertsLast table count u rest after) :
    RevertsLast table (count + 1) s (first ++ rest) after := by
  let records := Tracking.recorded table s.store
  obtain ⟨hkept, hgone⟩ := Tracking.filter_laterBatches_succ records count
  constructor
  · rw [hrest.recorded, hfirst.recorded]
    exact hkept
  · have hnames := hfirst.names.append hrest.names
    rw [hfirst.recorded, hgone, ← List.map_append] at hnames
    refine hnames.trans (List.Perm.map _ ?_)
    -- Of the batches that are gone, the last one is apart from those before it.
    have hlast : records.filter (fun record => Tracking.laterBatches records record.batch < 1) =
        (records.filter fun record =>
          Tracking.laterBatches records record.batch < count + 1).filter fun record =>
            !decide (1 ≤ Tracking.laterBatches records record.batch) := by
      rw [List.filter_filter]
      refine List.filter_congr fun record _ => ?_
      rw [Bool.eq_iff_iff, Bool.and_eq_true, Bool.not_eq_true', decide_eq_false_iff_not]
      simp only [decide_eq_true_eq]
      omega
    rw [hlast]
    exact List.perm_append_comm.trans (List.filter_append_perm _ _)
  · rw [hrest.invocations, hfirst.invocations, List.map_append, List.append_assoc]

/-- What is left and what was reverted is determined by how many batches it was. -/
theorem unique {after' : Session} (h : RevertsLast table count s first after)
    (h' : RevertsLast table count s rest after') :
    Tracking.recorded table after.store = Tracking.recorded table after'.store ∧
      first.Perm rest :=
  ⟨h.recorded.trans h'.recorded.symm, h.names.trans h'.names.symm⟩

end RevertsLast

/-- Every migration is recorded once at most, and has a file if it is recorded. -/
structure AllFound (r : Runner) (files : Dict String) (s : Session) : Prop where
  tracks : ∀ t, s.store.tables.get? r.config.table = some t → t.Tracks
  names : ((Tracking.recorded r.config.table s.store).map (·.migration)).Nodup
  discovered : Discovery.discover r.config s.files = .ok files
  found : ∀ record ∈ Tracking.recorded r.config.table s.store,
    files.contains record.migration = true

variable {r : Runner} {o : RollbackOptions} {files : Dict String} {count : Nat} {s s' : Session}

theorem files_rollback (r : Runner) (o : RollbackOptions) (s : Session) :
    ((r.rollback o).exec s).2.files = s.files := by
  have h := files_call r (.rollback o) s
  rwa [call, Action.exec_map] at h

section Bodies

variable (hbodies : r.BodiesRequest (Operation.Spares r.config.table))

include hbodies

theorem AllFound.rollback (h : AllFound r files s) (o : RollbackOptions) :
    AllFound r files ((r.rollback o).exec s).2 := by
  have hwithin : Tracking.Within r.config.table (Tracking.recorded r.config.table s.store)
      ((r.rollback o).exec s).2.store :=
    preserves_withLock (Session.ignoresNarration_within _ _) r (rollbackRecords_within hbodies o) s
      (Tracking.within_recorded h.tracks)
  constructor
  · exact hwithin.tracks
  · exact h.names.sublist (hwithin.sublist.map _)
  · rw [files_rollback]
    exact h.discovered
  · exact fun record hr => h.found record (hwithin.sublist.subset hr)

end Bodies

end Runner

end SchemaMigration
