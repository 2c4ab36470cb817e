import SchemaMigration.Blueprint.Basic
import SchemaMigration.Migration.Record
import SchemaMigration.Store.Basic

/-!
# The tracking table

The tracking table has a row for each migration that was applied. Migrations that are applied
together make a batch; batches are numbered from 1, and 0 stands for no batch at all.
-/

namespace SchemaMigration

namespace Record

/-- The record that a row of the tracking table holds. -/
def ofRow (r : Row) : Record where
  id := (r.get? "id").bind Value.toInt64?
  migration := ((r.get? "migration").bind Value.toText?).getD ""
  batch := ((r.get? "batch").bind Value.toInt64?).getD 0
  executionTime := (r.get? "execution_time_ms").bind Value.toInt64?
  checksum := (r.get? "checksum").bind Value.toText?
  createdAt := (r.get? "created_at").bind Value.toInstant?

/-- A value or its absence, as a value of a row. -/
def cell {α : Type} (encode : α → Value) : Option α → Value
  | some a => encode a
  | none => .null

/-- The row of the tracking table for a record, without its number. -/
def toRow (r : Record) : Row :=
  Dict.ofList [("migration", .string r.migration), ("batch", .int64 r.batch),
    ("execution_time_ms", cell .int64 r.executionTime), ("checksum", cell .string r.checksum),
    ("created_at", cell .datetime r.createdAt)]

end Record

namespace Tracking

/-- The columns of the tracking table. -/
def blueprint (table : String) : Blueprint :=
  let b : Blueprint := { table }
  (((((b.addId).addString "migration" none [.index]).addColumn "batch" .integer
    [.index]).addColumn "execution_time_ms" .bigInteger [.nullable]).addString "checksum" (some 64)
    [.nullable]).addColumn "created_at" (.timestamp none false) [.nullable]

/-- Creates the tracking table if there is none. -/
def ensure (table : String) : Change Unit := fun s =>
  if s.hasTable table then .ok ((), s)
  else Store.createTable table (blueprint table).columns s

/-- The records that a query selects. -/
def select (table : String) (q : Query) (s : Store) : Except Fault (List Record) := do
  return (← s.select table q).map Record.ofRow

/-- The columns by which records are sorted: the batch, then the name. -/
def byBatchAndName : List SortKey := [⟨"batch", false⟩, ⟨"migration", false⟩]

/-- All records, by batch and name. -/
def records (table : String) (s : Store) : Except Fault (List Record) :=
  select table { order := byBatchAndName } s

/-- The names of the migrations that were applied, by batch and name. -/
def ran (table : String) (s : Store) : Except Fault (List String) := do
  return (← records table s).map (·.migration)

/-- The number of the last batch, 0 if there is none. -/
def lastBatch (table : String) (s : Store) : Except Fault Int64 := do
  let rows ← s.select table { columns := ["batch"], order := [⟨"batch", true⟩], limit := some 1 }
  return ((rows.head?.bind (·.get? "batch")).bind Value.toInt64?).getD 0

/-- The number after another one, which has to be in the range of 64 bits. -/
def following (batch : Int64) : Except Fault Int64 :=
  match successor? batch with
  | some next => .ok next
  | none => .error .overflow

/-- The number of the next batch. -/
def nextBatch (table : String) (s : Store) : Except Fault Int64 := do
  following (← lastBatch table s)

/-- The records of a batch, by name. -/
def ofBatch (table : String) (batch : Int64) (s : Store) : Except Fault (List Record) :=
  select table
    (({ order := [⟨"migration", false⟩] } : Query).whereEq "batch" (.int64 batch)) s

/-- The records of a batch and of those after it. -/
def fromBatch (table : String) (batch : Int64) (s : Store) : Except Fault (List Record) :=
  select table { conditions := [⟨"batch", .ge, .int64 batch⟩], order := byBatchAndName } s

/-- The greatest numbers of a list, each once, at most so many. -/
def greatest (count : Nat) (batches : List Int64) : List Int64 :=
  (batches.eraseDups.mergeSort (fun a b => b.toInt ≤ a.toInt)).take count

/-- The records of the last batches, of which there are at most so many. -/
def lastBatches (table : String) (count : Nat) (s : Store) : Except Fault (List Record) := do
  let records ← records table s
  let batches := greatest count (records.map (·.batch))
  return records.filter (fun r => batches.contains r.batch)

/-- The first record of a migration. -/
def find (table migration : String) (s : Store) : Except Fault (Option Record) := do
  let query := ({ limit := some 1 } : Query).whereEq "migration" (.string migration)
  return (← select table query s).head?

/-- Records a migration that was applied; returns the record with its number. A record has a batch,
so its number is at least 1. -/
def log (table : String) (record : Record) : Change Record := fun s => do
  if record.batch.toInt < 1 then
    throw (.failed (.validation (.reservedBatch record.migration record.batch.toInt)))
  else
    let (row, s) ← Store.insert table record.toRow s
    return (Record.ofRow row, s)

/-- Deletes the rows with some identifying values; returns for how many of them there was one. -/
def deleteIds (table : String) : List Value → Change Nat
  | [] => return 0
  | id :: rest => do
    let deleted ← Store.delete table id
    let others ← deleteIds table rest
    return (if deleted then 1 else 0) + others

/-- Deletes the rows that a query selects; returns how many. -/
def deleteSelected (table : String) (q : Query) : Change Nat := fun s => do
  let rows ← s.select table { q with columns := ["id"] }
  deleteIds table (rows.filterMap (·.get? "id")) s

/-- Deletes the records of a migration; returns how many. -/
def delete (table migration : String) : Change Nat :=
  deleteSelected table (({} : Query).whereEq "migration" (.string migration))

/-- Deletes all records; returns how many. -/
def deleteAll (table : String) : Change Nat :=
  deleteSelected table {}

end Tracking

end SchemaMigration
