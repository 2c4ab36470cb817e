import SchemaMigration.Proofs.Tracking.Operations

/-!
# Stores that keep a tracking table

A store keeps a tracking table if the table, and the one that a rollback would bring back, hold
numbered records wherever they exist. The operations of tracking tables preserve this, and so does
every request that does not write the table.
-/

namespace SchemaMigration

namespace Tracking

/-- The tracking table holds numbered records, now and after a rollback, wherever it exists. -/
structure Kept (table : String) (s : Store) : Prop where
  tables : ∀ t, s.tables.get? table = some t → t.Tracks
  snapshot : ∀ tables, s.snapshot = some tables → ∀ t, tables.get? table = some t → t.Tracks

namespace Kept

variable {table : String} {s s' : Store}

theorem of_get?_eq (h : Kept table s) (htables : s'.tables.get? table = s.tables.get? table)
    (hsnapshot : s'.snapshot = s.snapshot) : Kept table s' where
  tables t ht := h.tables t (htables ▸ ht)
  snapshot tables hs := h.snapshot tables (hsnapshot ▸ hs)

theorem of_tracks (h : Kept table s) {t : Table} (ht : t.Tracks)
    (htables : s'.tables.get? table = some t) (hsnapshot : s'.snapshot = s.snapshot) :
    Kept table s' where
  tables _ ht' := Option.some.inj (htables.symm.trans ht') ▸ ht
  snapshot tables hs := h.snapshot tables (hsnapshot ▸ hs)

theorem begin (h : Kept table s) {x : Unit} (hs : Store.begin s = .ok (x, s')) :
    Kept table s' := by
  obtain ⟨-, rfl⟩ := Store.begin_eq_ok.1 hs
  refine ⟨h.tables, fun tables hsnapshot => ?_⟩
  obtain rfl := Option.some.inj hsnapshot
  exact h.tables

theorem commit (h : Kept table s) {x : Unit} (hs : Store.commit s = .ok (x, s')) :
    Kept table s' := by
  obtain ⟨-, rfl⟩ := Store.commit_eq_ok.1 hs
  exact ⟨h.tables, fun tables hsnapshot => nomatch hsnapshot⟩

theorem rollback (h : Kept table s) {x : Unit} (hs : Store.rollback s = .ok (x, s')) :
    Kept table s' := by
  obtain ⟨tables, hsnapshot, rfl⟩ := Store.rollback_eq_ok.1 hs
  exact ⟨h.snapshot tables hsnapshot, fun tables hsnapshot => nomatch hsnapshot⟩

/-- Only requests that write the table can make the difference. -/
theorem perform (h : Kept table s) {op : Operation} (hop : op.writes table = false)
    {answer : op.Answer} (hs : Store.perform op s = .ok (answer, s')) : Kept table s' := by
  by_cases ht : op.isTransactional = false
  · obtain ⟨htables, hsnapshot, -⟩ := Store.perform_spares ⟨hop, ht⟩ hs
    exact h.of_get?_eq htables hsnapshot
  · cases op with
    | begin =>
      obtain rfl | ⟨x, hs⟩ := Store.served_eq_ok hs
      · exact h
      · exact h.begin hs
    | commit =>
      obtain rfl | ⟨x, hs⟩ := Store.served_eq_ok hs
      · exact h
      · exact h.commit hs
    | rollback =>
      obtain rfl | ⟨x, hs⟩ := Store.served_eq_ok hs
      · exact h
      · exact h.rollback hs
    | _ => exact absurd rfl ht

theorem ensure (h : Kept table s) {x : Unit} (hs : Tracking.ensure table s = .ok (x, s')) :
    Kept table s' := by
  rw [ensure_eq_ok.1 hs]
  split
  · exact h
  · exact h.of_tracks (.empty table) (Dict.get?_insert_self _ _ _) rfl

theorem log (h : Kept table s) {record x : Record}
    (hs : Tracking.log table record s = .ok (x, s')) : Kept table s' := by
  rcases ht : s.tables.get? table with _ | t
  · unfold Tracking.log at hs
    split at hs
    · simp [throw, throwThe, MonadExceptOf.throw] at hs
    · obtain ⟨⟨row, s₁⟩, hinsert, -⟩ := except_bind_eq_ok.1 hs
      obtain ⟨t, t', ht', -⟩ := Store.insert_eq_ok.1 hinsert
      simp [ht] at ht'
  · obtain ⟨hb, next, hnext, rfl⟩ := log_eq_ok ht (h.tables t ht) hs
    exact h.of_tracks ((h.tables t ht).append hb hnext) (Dict.get?_insert_self _ _ _) rfl

theorem deleteSelected (h : Kept table s) {q : Query} {n : Nat}
    (hs : Tracking.deleteSelected table q s = .ok (n, s')) : Kept table s' := by
  rcases ht : s.tables.get? table with _ | t
  · obtain ⟨rows, hrows, -⟩ := except_bind_eq_ok.1 hs
    obtain ⟨t, ht', -⟩ := except_bind_eq_ok.1 hrows
    simp [Store.table_eq_ok.1 ht'] at ht
  · obtain ⟨n', s₁, hdelete, hs₁, hsnapshot, -⟩ := deleteSelected_eq_ok q ht
    obtain ⟨rfl, rfl⟩ : n' = n ∧ s₁ = s' := by
      simpa using hdelete.symm.trans hs
    exact h.of_tracks ((h.tables t ht).filter _) hs₁ hsnapshot

theorem dropTable (h : Kept table s) {name : String} {x : Unit}
    (hs : Store.dropTable name s = .ok (x, s')) : Kept table s' := by
  obtain ⟨-, rfl⟩ := Store.dropTable_eq_ok.1 hs
  refine ⟨fun t ht => h.tables t ?_, h.snapshot⟩
  rw [Dict.get?_erase] at ht
  split at ht
  · cases ht
  · exact ht

end Kept

end Tracking

end SchemaMigration
