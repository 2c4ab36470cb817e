import Mathlib.Data.List.Nodup
import SchemaMigration.Proofs.Dict
import SchemaMigration.Proofs.Tracking.Table

/-!
# The operations of tracking tables

What reading, logging and deleting do on a store whose tracking table holds numbered records.
-/

namespace SchemaMigration

namespace Query

theorem mem_select_unlimited {q : Query} (hlimit : q.limit = none) (hoffset : q.offset = 0)
    (rows : List Row) (row : Row) :
    row ∈ q.select rows ↔ ∃ r ∈ rows, q.accepts r = true ∧ q.project r = row := by
  simp only [select, window, hlimit, hoffset, List.drop_zero, List.mem_map, sorted,
    List.mem_mergeSort, List.mem_filter, and_assoc]

theorem mem_of_mem_select {q : Query} {rows : List Row} {row : Row} (h : row ∈ q.select rows) :
    ∃ r ∈ rows, q.project r = row := by
  obtain ⟨r, hr, hproject⟩ := List.mem_map.1 h
  refine ⟨r, ?_, hproject⟩
  have hsorted : r ∈ q.sorted rows := by
    unfold window at hr
    split at hr
    · exact List.mem_of_mem_drop (List.mem_of_mem_take hr)
    · exact List.mem_of_mem_drop hr
  rw [sorted, List.mem_mergeSort] at hsorted
  exact (List.mem_filter.1 hsorted).1

/-- A query that sorts by no column leaves the rows in order. -/
theorem sorted_of_unordered {q : Query} (horder : q.order = []) (rows : List Row) :
    q.sorted rows = rows.filter q.accepts := by
  rw [sorted, horder]
  exact List.mergeSort_of_pairwise (List.pairwise_of_forall fun _ _ => rfl)

/-- A query without a window that shows all columns selects the rows that it accepts. -/
theorem select_perm {q : Query} (hcolumns : q.columns = []) (hlimit : q.limit = none)
    (hoffset : q.offset = 0) (rows : List Row) :
    (q.select rows).Perm (rows.filter q.accepts) := by
  have hproject : q.project = id := by
    funext row
    simp [project, hcolumns]
  simp only [select, window, hlimit, hoffset, List.drop_zero, hproject, List.map_id, sorted]
  exact List.mergeSort_perm _ _

theorem select_all_perm (order : List SortKey) (rows : List Row) :
    (({ order } : Query).select rows).Perm rows := by
  have hall : rows.filter ({ order } : Query).accepts = rows :=
    List.filter_eq_self.2 fun _ _ => rfl
  have h := select_perm (q := { order }) rfl rfl rfl rows
  rwa [hall] at h

end Query

namespace Tracking

variable {table : String} {s s' : Store} {t : Table}

/-- The records of a tracking table in the order of their numbers, none if there is no table. -/
def recorded (table : String) (s : Store) : List Record :=
  (s.rows table).map Record.ofRow

theorem tracks_of_get? (ht : s.tables.get? table = some t) (h : t.Tracks) :
    ∀ t, s.tables.get? table = some t → t.Tracks :=
  fun _ ht' => Option.some.inj (ht.symm.trans ht') ▸ h

theorem recorded_of_get? (ht : s.tables.get? table = some t) :
    recorded table s = t.rows.map Record.ofRow := by
  rw [recorded, Store.rows_of_get? ht]

theorem recorded_congr (h : s'.tables.get? table = s.tables.get? table) :
    recorded table s' = recorded table s := by
  simp only [recorded, Store.rows, h]

/-- A record is that of a row in the tracking table. -/
theorem mem_recorded {record : Record} : record ∈ recorded table s ↔
    ∃ t, s.tables.get? table = some t ∧ ∃ row ∈ t.rows, Record.ofRow row = record := by
  rcases hget : s.tables.get? table with _ | t <;> simp [recorded, Store.rows, hget]

theorem one_le_batch_of_tracks (h : ∀ t, s.tables.get? table = some t → t.Tracks)
    {record : Record} (hr : record ∈ recorded table s) : 1 ≤ record.batch.toInt := by
  obtain ⟨t, hget, row, hrow, rfl⟩ := mem_recorded.1 hr
  exact (h t hget).one_le_batch hrow

theorem select_of_get? (ht : s.tables.get? table = some t) (q : Query) :
    s.select table q = .ok (q.select t.rows) := by
  simp only [Store.select, Store.table_eq_ok.2 ht]
  rfl

theorem select_eq (ht : s.tables.get? table = some t) (q : Query) :
    select table q s = .ok ((q.select t.rows).map Record.ofRow) := by
  simp only [select, select_of_get? ht]
  rfl

theorem select_eq_ok {q : Query} {l : List Record} :
    select table q s = .ok l ↔
      ∃ t, s.tables.get? table = some t ∧ l = (q.select t.rows).map Record.ofRow := by
  constructor
  · intro h
    obtain ⟨rows, hrows, h⟩ := except_bind_eq_ok.1 h
    obtain ⟨t, ht, hrows⟩ := except_bind_eq_ok.1 hrows
    obtain rfl := Except.ok.inj hrows
    exact ⟨t, Store.table_eq_ok.1 ht, (Except.ok.inj h).symm⟩
  · rintro ⟨t, ht, rfl⟩
    exact select_eq ht q

/-- Whatever records are selected, they are recorded. -/
theorem mem_recorded_of_select {q : Query} (hq : q.columns = []) {l : List Record}
    (h : select table q s = .ok l) {record : Record} (hr : record ∈ l) :
    record ∈ recorded table s := by
  obtain ⟨t, ht, rfl⟩ := select_eq_ok.1 h
  obtain ⟨row, hrow, rfl⟩ := List.mem_map.1 hr
  obtain ⟨row', hrow', hproject⟩ := Query.mem_of_mem_select hrow
  have hshown : q.project row' = row' := by simp [Query.project, hq]
  rw [recorded_of_get? ht, ← hproject, hshown]
  exact List.mem_map_of_mem hrow'

/-- Reading a tracking table finds the records that were written. -/
theorem records_perm {l : List Record} (h : records table s = .ok l) :
    l.Perm (recorded table s) := by
  obtain ⟨t, ht, rfl⟩ := select_eq_ok.1 h
  rw [recorded, Store.rows_of_get? ht]
  exact (Query.select_all_perm _ _).map _

theorem records_eq_ok (ht : s.tables.get? table = some t) : ∃ l, records table s = .ok l :=
  ⟨_, select_eq ht _⟩

theorem ensure_eq_ok {x : Unit} :
    ensure table s = .ok (x, s') ↔
      s' = if s.hasTable table then s
        else s.withTable table { columns := (blueprint table).columns } := by
  unfold ensure
  split
  · simp [eq_comm]
  · rename_i h
    rw [Store.createTable_eq_ok, ← Store.hasTable_eq_false]
    simp [h]

/-- The store with a tracking table, an empty one if there was none. -/
def ensured (table : String) (s : Store) : Store :=
  if s.hasTable table then s else s.withTable table { columns := (blueprint table).columns }

theorem ensure_eq (table : String) (s : Store) : ensure table s = .ok ((), ensured table s) :=
  ensure_eq_ok.2 rfl

theorem ensured_of_get? (h : s.tables.get? table = some t) : ensured table s = s := by
  rw [ensured, if_pos (Store.hasTable_eq_true.2 ⟨t, h⟩)]

theorem ensured_eq (table : String) (s : Store) : ∃ tables mutations,
    ensured table s = { s with tables, mutations } := by
  unfold ensured
  split
  · exact ⟨_, _, rfl⟩
  · exact ⟨_, _, rfl⟩

/-- There is a tracking table afterwards, with the rows that there were. -/
theorem ensure_total (table : String) (s : Store) :
    ∃ s' t, ensure table s = .ok ((), s') ∧ s'.tables.get? table = some t ∧
      t.rows = s.rows table ∧ ((∀ t, s.tables.get? table = some t → t.Tracks) → t.Tracks) := by
  rcases hget : s.tables.get? table with _ | t
  · refine ⟨_, _, ensure_eq_ok.2 rfl, ?_, ?_, fun _ => .empty table⟩
    · rw [if_neg (by simp [hget])]
      exact Dict.get?_insert_self _ _ _
    · simp [Store.rows, hget]
  · refine ⟨_, t, ensure_eq_ok.2 rfl, ?_, (Store.rows_of_get? hget).symm, fun h => h t rfl⟩
    rw [if_pos (by simp [hget]), hget]

/-- A record without a batch is refused. -/
theorem log_of_reserved {record : Record} (h : record.batch.toInt < 1) :
    log table record s =
      .error (.failed (.validation (.reservedBatch record.migration record.batch.toInt))) := by
  simp only [log, h, if_true]
  rfl

theorem log_of_missing (h : s.tables.get? table = none) {record : Record}
    (hb : 1 ≤ record.batch.toInt) :
    log table record s = .error (.failed (.adapter (.noSuchTable table))) := by
  have hlt : ¬record.batch.toInt < 1 := by omega
  simp only [log, hlt, if_false, Store.insert, Store.table, h]
  rfl

/-- The row of a record with a batch is inserted, if there is a number for it. -/
theorem log_of_get? (ht : s.tables.get? table = some t) {record : Record}
    (hb : 1 ≤ record.batch.toInt) :
    log table record s = match t.insert? record.toRow with
      | some (row, t') => .ok (Record.ofRow row, s.withTable table t')
      | none => .error .overflow := by
  have hlt : ¬record.batch.toInt < 1 := by omega
  simp only [log, hlt, if_false, Store.insert, Store.table_eq_ok.2 ht, Bind.bind, Except.bind]
  rcases t.insert? record.toRow with _ | ⟨row, t'⟩ <;> rfl

/-- A record with a batch is appended, if the number after its own has 64 bits. -/
theorem log_of_tracks (ht : s.tables.get? table = some t) (h : t.Tracks) {record : Record}
    (hb : 1 ≤ record.batch.toInt) :
    log table record s = match successor? t.nextId with
      | some next => .ok ({ record with id := some t.nextId },
          s.withTable table (t.append (record.numbered t.nextId) next))
      | none => .error .overflow := by
  rw [log_of_get? ht hb, h.insert?_toRow]
  rcases successor? t.nextId with _ | next
  · rfl
  · simp only [Option.map_some, Record.ofRow_numbered]

theorem log_eq_ok (ht : s.tables.get? table = some t) (h : t.Tracks) {record x : Record}
    (hlog : log table record s = .ok (x, s')) :
    1 ≤ record.batch.toInt ∧ ∃ next, successor? t.nextId = some next ∧
      s' = s.withTable table (t.append (record.numbered t.nextId) next) := by
  have hb : 1 ≤ record.batch.toInt := by
    refine Int.not_lt.1 fun hlt => ?_
    simp [log, hlt, throw, throwThe, MonadExceptOf.throw] at hlog
  rw [log_of_tracks ht h hb] at hlog
  rcases hnext : successor? t.nextId with _ | next
  · simp [hnext] at hlog
  · simp only [hnext, Except.ok.injEq, Prod.mk.injEq] at hlog
    exact ⟨hb, next, rfl, hlog.2.symm⟩

/-- Deleting by identifying values leaves the rows that none of them identifies. -/
theorem deleteIds_eq_ok (ids : List Value) (ht : s.tables.get? table = some t) :
    ∃ n s', deleteIds table ids s = .ok (n, s') ∧
      s'.tables.get? table =
        some { t with rows := t.rows.filter (fun r => ids.all (fun id => !t.identifies id r)) } ∧
      s'.snapshot = s.snapshot ∧
      ∀ name, name ≠ table → s'.tables.get? name = s.tables.get? name := by
  induction ids generalizing s t with
  | nil =>
    refine ⟨0, s, rfl, ?_, rfl, fun _ _ => rfl⟩
    have hall : t.rows.filter (fun _ => true) = t.rows := List.filter_eq_self.2 fun _ _ => rfl
    simp only [ht, List.all_nil, hall]
  | cons id rest ih =>
    obtain ⟨found, s₁, hdelete, hs₁, hsnap, hothers⟩ : ∃ found s₁,
        Store.delete table id s = .ok (found, s₁) ∧
        s₁.tables.get? table = some (t.delete id) ∧ s₁.snapshot = s.snapshot ∧
        ∀ name, name ≠ table → s₁.tables.get? name = s.tables.get? name := by
      refine ⟨_, _, Store.delete_eq_ok.2 ⟨t, ht, rfl, rfl⟩, ?_⟩
      split
      · exact ⟨Dict.get?_insert_self _ _ _, rfl, fun _ hne => Dict.get?_insert_of_ne _ _ hne⟩
      · rename_i h
        have hall : ∀ r ∈ t.rows, t.identifies id r = false := by simpa using h
        refine ⟨?_, rfl, fun _ _ => rfl⟩
        rw [ht, Table.delete, List.filter_eq_self.2 fun r hr => by simp [hall r hr]]
    obtain ⟨n, s', hrest, hs', hsnap', hothers'⟩ := ih hs₁
    refine ⟨(if found then 1 else 0) + n, s', ?_, ?_, hsnap'.trans hsnap,
      fun name hne => (hothers' name hne).trans (hothers name hne)⟩
    · simp only [deleteIds, Bind.bind, StateT.bind, hdelete, Except.bind, hrest]
      rfl
    · rw [hs']
      simp only [Table.delete, List.filter_filter, List.all_cons]
      congr 2
      exact List.filter_congr fun _ _ => Bool.and_comm _ _

/-- The identifying values of the rows that a query selects. -/
def selectedIds (q : Query) (t : Table) : List Value :=
  (({ q with columns := ["id"] } : Query).select t.rows).filterMap (·.get? "id")

theorem mem_selectedIds {q : Query} (hlimit : q.limit = none) (hoffset : q.offset = 0)
    (id : Value) :
    id ∈ selectedIds q t ↔ ∃ row ∈ t.rows, q.accepts row = true ∧ row.get? "id" = some id := by
  let shown : Query := { q with columns := ["id"] }
  have hmem (row : Row) := Query.mem_select_unlimited (q := shown) hlimit hoffset t.rows row
  have hid (row : Row) : (shown.project row).get? "id" = row.get? "id" :=
    Dict.get?_filter_name row _ "id"
  rw [selectedIds, List.mem_filterMap]
  constructor
  · rintro ⟨_, hrow, h⟩
    obtain ⟨row, hin, haccepts, rfl⟩ := (hmem _).1 hrow
    exact ⟨row, hin, haccepts, (hid row).symm.trans h⟩
  · rintro ⟨row, hrow, haccepts, h⟩
    exact ⟨_, (hmem _).2 ⟨row, hrow, haccepts, rfl⟩, (hid row).trans h⟩

theorem deleteSelected_eq_ok (q : Query) (ht : s.tables.get? table = some t) :
    ∃ n s', deleteSelected table q s = .ok (n, s') ∧
      s'.tables.get? table = some { t with
        rows := t.rows.filter (fun r => (selectedIds q t).all (fun id => !t.identifies id r)) } ∧
      s'.snapshot = s.snapshot ∧
      ∀ name, name ≠ table → s'.tables.get? name = s.tables.get? name := by
  simp only [deleteSelected, select_of_get? ht]
  exact deleteIds_eq_ok (selectedIds q t) ht

theorem delete_of_missing (h : s.tables.get? table = none) (migration : String) :
    delete table migration s = .error (.failed (.adapter (.noSuchTable table))) := by
  simp only [delete, deleteSelected, Store.select, Store.table, h]
  rfl

/-- The operations of tracking tables preserve what those requests preserve that neither open or
close a transaction nor touch locks. -/
structure PreservedByWrites (I : Store → Prop) : Prop where
  perform : ∀ op : Operation, op.isTransactional = false → op.touchesLocks = false →
    ∀ s answer s', Store.perform op s = .ok (answer, s') → I s → I s'

namespace PreservedByWrites

variable {I : Store → Prop} (hI : PreservedByWrites I)

include hI

theorem ensure {x : Unit} (h : Tracking.ensure table s = .ok (x, s')) (hs : I s) : I s' := by
  unfold Tracking.ensure at h
  split at h
  · obtain rfl : s = s' := (Prod.mk.inj (Except.ok.inj h)).2
    exact hs
  · exact hI.perform (.createTable table _) rfl rfl s x s' h hs

theorem log {record stored : Record} (h : Tracking.log table record s = .ok (stored, s'))
    (hs : I s) : I s' := by
  unfold Tracking.log at h
  split at h
  · cases h
  · obtain ⟨⟨row, s₁⟩, hinsert, h⟩ := except_bind_eq_ok.1 h
    obtain rfl : s₁ = s' := (Prod.mk.inj (Except.ok.inj h)).2
    exact hI.perform (.insert table record.toRow) rfl rfl s row s₁ hinsert hs

theorem deleteIds {ids : List Value} {n : Nat} (h : Tracking.deleteIds table ids s = .ok (n, s'))
    (hs : I s) : I s' := by
  induction ids generalizing s n with
  | nil =>
    obtain rfl : s = s' := (Prod.mk.inj (Except.ok.inj h)).2
    exact hs
  | cons id rest ih =>
    obtain ⟨⟨found, s₁⟩, hdelete, h⟩ := except_bind_eq_ok.1 h
    obtain ⟨⟨others, s₂⟩, hrest, h⟩ := except_bind_eq_ok.1 h
    obtain rfl : s₂ = s' := (Prod.mk.inj (Except.ok.inj h)).2
    exact ih hrest (hI.perform (.delete table id) rfl rfl s found s₁ hdelete hs)

theorem delete {migration : String} {n : Nat}
    (h : Tracking.delete table migration s = .ok (n, s')) (hs : I s) : I s' := by
  obtain ⟨rows, -, h⟩ := except_bind_eq_ok.1 h
  exact hI.deleteIds h hs

end PreservedByWrites

end Tracking

namespace Table.Tracks

variable {t : Table}

theorem identifies_numbered (ht : t.Tracks) (record : Record) (n m : Int64) :
    t.identifies (.int64 m) (record.numbered n) = decide (n = m) := by
  simp only [identifies, ht.idColumn, Record.get?_numbered_id, Value.compare?, Value.compareInts?,
    Value.toInt64?]
  by_cases h : n = m
  · simp [h]
  · have hne : n.toInt ≠ m.toInt := fun he => h (Int64.toInt_inj.1 he)
    simp [h, hne]

theorem holds_numbered (record : Record) (n : Int64) (migration : String) :
    (⟨"migration", .eq, .string migration⟩ : Condition).holds (record.numbered n) =
      (record.migration == migration) := by
  have hvalue : (record.numbered n).valueAt "migration" = .string record.migration := by
    simp [Row.valueAt, Record.numbered, Dict.get?_insert, Record.get?_toRow]
  rw [Bool.eq_iff_iff]
  simp [Condition.holds, hvalue, Value.compare?, Comparison.accepts]

/-- Rows with the same number are the same. -/
theorem eq_of_id_eq (ht : t.Tracks) {a b : Row} (ha : a ∈ t.rows) (hb : b ∈ t.rows)
    (h : (Record.ofRow a).id = (Record.ofRow b).id) : a = b :=
  List.inj_on_of_nodup_map ht.distinct ha hb h

/-- A query for a migration accepts the rows of its records. -/
theorem accepts_migration (ht : t.Tracks) {q : Query} (hq : q.conditions = [])
    (migration : String) {row : Row} (hrow : row ∈ t.rows) :
    (q.whereEq "migration" (.string migration)).accepts row =
      ((Record.ofRow row).migration == migration) := by
  obtain ⟨record, n, rfl, -⟩ := ht.rows row hrow
  rw [Query.accepts, Query.whereEq, hq, Record.ofRow_numbered]
  exact (Bool.and_true _).trans (holds_numbered record n migration)

/-- The selected numbers identify just the rows that the query accepts. -/
theorem all_not_identifies_selected (ht : t.Tracks) {q : Query} (hlimit : q.limit = none)
    (hoffset : q.offset = 0) {row : Row} (hrow : row ∈ t.rows) :
    ((Tracking.selectedIds q t).all fun id => !t.identifies id row) = !q.accepts row := by
  obtain ⟨record, n, rfl, -⟩ := ht.rows row hrow
  rw [Bool.eq_iff_iff, List.all_eq_true, Bool.not_eq_true']
  constructor
  · intro h
    by_contra haccepts
    have hself := h (.int64 n) ((Tracking.mem_selectedIds hlimit hoffset _).2
      ⟨_, hrow, Bool.of_not_eq_false haccepts, Record.get?_numbered_id record n⟩)
    simp [ht.identifies_numbered] at hself
  · intro hrejects id hid
    obtain ⟨row', hrow', haccepts, hid⟩ := (Tracking.mem_selectedIds hlimit hoffset _).1 hid
    obtain ⟨record', n', rfl, -⟩ := ht.rows row' hrow'
    obtain rfl := Option.some.inj ((Record.get?_numbered_id record' n').symm.trans hid)
    rw [ht.identifies_numbered, Bool.not_eq_true', decide_eq_false_iff_not]
    rintro rfl
    have heq := ht.eq_of_id_eq hrow hrow' (by simp)
    rw [heq, haccepts] at hrejects
    cases hrejects

/-- The numbers of the records of a migration identify just these records. -/
theorem all_not_identifies (ht : t.Tracks) (migration : String) {row : Row} (hrow : row ∈ t.rows) :
    ((Tracking.selectedIds (({} : Query).whereEq "migration" (.string migration)) t).all
      fun id => !t.identifies id row) = ((Record.ofRow row).migration != migration) := by
  rw [ht.all_not_identifies_selected rfl rfl hrow, ht.accepts_migration rfl migration hrow]
  rfl

end Table.Tracks

namespace Tracking

variable {table : String} {s : Store} {t : Table}

/-- Deleting a migration takes away its records and no others. -/
theorem delete_of_tracks (ht : s.tables.get? table = some t) (h : t.Tracks) (migration : String) :
    ∃ n s', delete table migration s = .ok (n, s') ∧
      s'.tables.get? table = some { t with
        rows := t.rows.filter (fun r => (Record.ofRow r).migration != migration) } ∧
      s'.snapshot = s.snapshot := by
  obtain ⟨n, s', hdelete, hs', hsnap, -⟩ :=
    deleteSelected_eq_ok (({} : Query).whereEq "migration" (.string migration)) ht
  refine ⟨n, s', hdelete, hs'.trans ?_, hsnap⟩
  rw [List.filter_congr fun row hrow => h.all_not_identifies migration hrow]

end Tracking

end SchemaMigration
