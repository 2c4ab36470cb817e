import SchemaMigration.Proofs.Dict
import SchemaMigration.Proofs.Runner.Pending
import SchemaMigration.Runner.Rollback

/-!
# Starting afresh

A real `fresh` is a run on the store without tables; its pretence is a run in which all recorded
migrations count as reverted.
-/

namespace SchemaMigration

namespace Runner

variable {r : Runner} {s : Session} {o : RunOptions}

/-- Tables are dropped as far as they are there. -/
theorem exec_dropTables (names : List String) (s : Session) :
    ∃ tables mutations, (dropTables names).exec s =
        (.ok (), { s with store := { s.store with tables, mutations } }) ∧
      ∀ name, tables.get? name = if name ∈ names then none else s.store.tables.get? name := by
  induction names generalizing s with
  | nil => exact ⟨s.store.tables, s.store.mutations, rfl, by simp⟩
  | cons table rest ih =>
    rcases htable : s.store.hasTable table with _ | _
    · obtain ⟨tables, mutations, hrest, hget⟩ := ih s
      refine ⟨tables, mutations, ?_, fun name => ?_⟩
      · simp only [dropTables, Action.exec_bind, Action.exec_get, htable, Bool.false_eq_true,
          if_false, hrest]
      · have habsent := Store.hasTable_eq_false.1 htable
        simp only [hget, List.mem_cons]
        by_cases hname : name = table
        · simp [hname, habsent]
        · simp [hname]
    · obtain ⟨tables, mutations, hrest, hget⟩ := ih { s with store := { s.store with
        tables := s.store.tables.erase table, mutations := s.store.mutations + 1 } }
      refine ⟨tables, mutations, ?_, fun name => ?_⟩
      · have hdrop := Store.dropTable_eq_ok (x := ()).2 ⟨htable, rfl⟩
        simp only [dropTables, Action.exec_bind, Action.exec_get, htable, if_true,
          Action.exec_change, hdrop, hrest]
      · simp only [hget, List.mem_cons, Dict.get?_erase]
        by_cases hname : name = table
        · simp [hname]
        · simp [hname]

/-- All tables are dropped before a real run. -/
theorem exec_freshPending_of_real (hreal : o.pretend = false) (s : Session) :
    ∃ mutations, (r.freshPending o).exec s = (r.runPending o []).exec
      (Session.journaled { s with store := { s.store with tables := ∅, mutations } }
        (r.printout "Dropped all tables successfully.")) := by
  obtain ⟨tables, mutations, hdrop, hget⟩ := exec_dropTables s.store.listTables s
  have hempty : tables = ∅ := Dict.eq_empty fun name => by
    rw [hget]
    split
    · rfl
    · rename_i hname
      rcases hvalue : s.store.tables.get? name with _ | t
      · rfl
      · exact absurd (Dict.mem_keys.2 ⟨t, hvalue⟩) hname
  subst hempty
  refine ⟨mutations, ?_⟩
  simp only [freshPending, hreal, Bool.false_eq_true, if_false, Action.exec_bind, Action.exec_get,
    hdrop, exec_say]

/-- In the pretence all recorded migrations count as reverted. -/
theorem exec_freshPending_of_pretend (hpretend : o.pretend = true) (s : Session) :
    ∃ reverted, (r.freshPending o).exec s = (r.runPending o reverted).exec s ∧
      ∀ record ∈ Tracking.recorded r.config.table s.store, record.migration ∈ reverted := by
  rcases hget : s.store.tables.get? r.config.table with _ | tracking
  · have htable : s.store.hasTable r.config.table = false := Store.hasTable_eq_false.2 hget
    refine ⟨[], ?_, by simp [Tracking.recorded, Store.rows, hget]⟩
    simp [freshPending, hpretend, htable]
  · have htable : s.store.hasTable r.config.table = true := Store.hasTable_eq_true.2 ⟨_, hget⟩
    obtain ⟨read, hread⟩ := Tracking.records_eq_ok hget
    refine ⟨read.map (·.migration), ?_, fun record hr => ?_⟩
    · have hran : Tracking.ran r.config.table s.store = .ok (read.map (·.migration)) := by
        simp only [Tracking.ran, hread]
        rfl
      simp [freshPending, hpretend, htable, hran]
    · exact List.mem_map_of_mem ((Tracking.records_perm hread).mem_iff.2 hr)

end Runner

end SchemaMigration
