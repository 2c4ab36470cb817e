import SchemaMigration.Proofs.Store.Changes
import SchemaMigration.Proofs.Value
import SchemaMigration.Tracking

/-!
# The contents of tracking tables

A tracking table that only the operations of this library wrote holds records under distinct
numbers, all less than the number of the next one. On such a table `log` appends a record,
`delete` takes away all records of a migration, and reading finds the records that were written.
-/

namespace SchemaMigration

namespace Record

/-- The row of a record under a number. -/
def numbered (record : Record) (n : Int64) : Row :=
  record.toRow.insert "id" (.int64 n)

theorem get?_toRow (record : Record) (column : String) :
    record.toRow.get? column =
      if column = "created_at" then some (cell .datetime record.createdAt)
      else if column = "checksum" then some (cell .string record.checksum)
      else if column = "execution_time_ms" then some (cell .int64 record.executionTime)
      else if column = "batch" then some (.int64 record.batch)
      else if column = "migration" then some (.string record.migration)
      else none := by
  simp [toRow, Dict.ofList, Dict.get?_insert]

theorem get?_numbered_id (record : Record) (n : Int64) :
    (record.numbered n).get? "id" = some (.int64 n) :=
  Dict.get?_insert_self _ _ _

/-- Reading a written row finds the record, with its number. -/
@[simp] theorem ofRow_numbered (record : Record) (n : Int64) :
    ofRow (record.numbered n) = { record with id := some n } := by
  obtain ⟨id, migration, batch, executionTime, checksum, createdAt⟩ := record
  simp only [ofRow, numbered, Dict.get?_insert, get?_toRow]
  cases executionTime <;> cases checksum <;> cases createdAt <;> rfl

end Record

/-- A table that holds records with a batch, under distinct numbers below the next one. -/
structure Table.Tracks (t : Table) : Prop where
  idColumn : t.idColumn = "id"
  rows : ∀ row ∈ t.rows, ∃ record n, row = Record.numbered record n ∧
    1 ≤ record.batch.toInt ∧ n.toInt < t.nextId.toInt
  distinct : (t.rows.map fun row => (Record.ofRow row).id).Nodup

namespace Table.Tracks

variable {t : Table}

theorem empty (name : String) : Table.Tracks { columns := (Tracking.blueprint name).columns } where
  idColumn := rfl
  rows := by simp
  distinct := List.nodup_nil

theorem one_le_batch (ht : t.Tracks) {row : Row} (h : row ∈ t.rows) :
    1 ≤ (Record.ofRow row).batch.toInt := by
  obtain ⟨record, n, rfl, hb, -⟩ := ht.rows row h
  simpa using hb

theorem filter (ht : t.Tracks) (p : Row → Bool) :
    Table.Tracks { t with rows := t.rows.filter p } where
  idColumn := ht.idColumn
  rows row h := ht.rows row ((List.mem_filter.1 h).1)
  distinct := ht.distinct.sublist (List.filter_sublist.map _)

theorem append (ht : t.Tracks) {record : Record} {next : Int64} (hb : 1 ≤ record.batch.toInt)
    (hnext : successor? t.nextId = some next) :
    (t.append (record.numbered t.nextId) next).Tracks where
  idColumn := ht.idColumn
  rows row h := by
    have hlt : t.nextId.toInt < next.toInt := by
      rw [successor?_eq_some.1 hnext]
      omega
    rcases List.mem_append.1 h with h | h
    · obtain ⟨record', n, hrow, hb', hn⟩ := ht.rows row h
      exact ⟨record', n, hrow, hb', Int.lt_trans hn hlt⟩
    · exact ⟨record, t.nextId, by simpa using h, hb, hlt⟩
  distinct := by
    have fresh : ∀ row ∈ t.rows, (Record.ofRow row).id ≠ some t.nextId := by
      intro row hrow
      obtain ⟨record', n, rfl, -, hn⟩ := ht.rows row hrow
      rw [Record.ofRow_numbered]
      rintro ⟨⟩
      exact Int.lt_irrefl _ hn
    simp only [Table.append, List.map_append, List.map_cons, List.map_nil, Record.ofRow_numbered]
    refine List.nodup_append.2 ⟨ht.distinct, by simp, fun a ha b hb => ?_⟩
    obtain ⟨row, hrow, rfl⟩ := List.mem_map.1 ha
    rw [List.mem_singleton.1 hb]
    exact fresh row hrow

/-- A record is appended under the next number. -/
theorem insert?_toRow (ht : t.Tracks) (record : Record) :
    t.insert? record.toRow = (successor? t.nextId).map fun next =>
      (record.numbered t.nextId, t.append (record.numbered t.nextId) next) := by
  have hid : t.explicitId? record.toRow = none := by
    simp [explicitId?, ht.idColumn, Record.get?_toRow]
  rw [insert?, hid, ht.idColumn]
  rcases successor? t.nextId with _ | next <;> rfl

end Table.Tracks

end SchemaMigration
