import SchemaMigration.Error
import SchemaMigration.Store.Table
import SchemaMigration.Text.Pieces
import SchemaMigration.Value.Text

/-!
# Stores

A `Store` is a database in memory: tables, at most one open transaction, which is a copy of the
tables to go back to, locks, and the statements that were run. Functions from a store read it; a
`Change` also returns the store afterwards, and if it fails there is none, so the store stays as it
was.
-/

namespace SchemaMigration

open Text

/-- A database in memory. -/
structure Store where
  /-- The tables under their names. -/
  tables : Dict Table := ∅
  /-- The tables at the beginning of the open transaction. -/
  snapshot : Option (Dict Table) := none
  /-- The names of the locks that are held. -/
  locks : List String := []
  /-- The statements that were run. -/
  statements : List String := []
  /-- Parts of statements that make the store reject them. -/
  rejections : List String := []
  /-- The number of changes that were made, also those that were rolled back. -/
  mutations : Nat := 0
  /-- The number of times that a lock was taken. -/
  lockAcquisitions : Nat := 0
  /-- Whether there are transactions. -/
  transactional : Bool := true
  /-- Whether there are locks. -/
  lockable : Bool := true

/-- A function that changes a store, or fails. -/
abbrev Change (α : Type) := StateT Store (Except Fault) α

namespace Store

/-- Fails because the store refuses. -/
def refuse {α : Type} (cause : AdapterCause) : Except Fault α :=
  .error (.failed (.adapter cause))

/-- Whether there is a table with a name. -/
def hasTable (s : Store) (table : String) : Bool :=
  s.tables.contains table

/-- The table with a name. -/
def table (s : Store) (name : String) : Except Fault Table :=
  match s.tables.get? name with
  | some t => .ok t
  | none => refuse (.noSuchTable name)

/-- Whether there is a table with a column. -/
def hasColumn (s : Store) (table column : String) : Bool :=
  match s.tables.get? table with
  | some t => t.hasColumn column
  | none => false

/-- The names of the tables, ascending. -/
def listTables (s : Store) : List String :=
  s.tables.keys

/-- The rows of a table, none if there is no such table. -/
def rows (s : Store) (table : String) : List Row :=
  match s.tables.get? table with
  | some t => t.rows
  | none => []

/-- Whether a transaction is open. -/
def inTransaction (s : Store) : Bool :=
  s.snapshot.isSome

/-- Whether a lock is held. -/
def isLocked (s : Store) (name : String) : Bool :=
  s.locks.contains name

/-- What a query selects from a table. -/
def select (s : Store) (table : String) (q : Query) : Except Fault (List Row) := do
  return q.select (← s.table table).rows

/-- The store with a table under a name, after one more change. -/
def withTable (s : Store) (name : String) (t : Table) : Store :=
  { s with tables := s.tables.insert name t, mutations := s.mutations + 1 }

/-- Creates a table without rows. -/
def createTable (table : String) (columns : List Column) : Change Unit := fun s =>
  if s.hasTable table then refuse (.tableExists table)
  else .ok ((), s.withTable table { columns })

/-- Drops a table. -/
def dropTable (table : String) : Change Unit := fun s =>
  if s.hasTable table then
    .ok ((), { s with tables := s.tables.erase table, mutations := s.mutations + 1 })
  else refuse (.noSuchTable table)

/-- Inserts a row; returns it as it is stored. -/
def insert (table : String) (r : Row) : Change Row := fun s => do
  match (← s.table table).insert? r with
  | some (stored, t) => return (stored, s.withTable table t)
  | none => throw .overflow

/-- Sets values in the first row with an identifying value; returns the row. -/
def update (table : String) (id : Value) (data : Row) : Change Row := fun s => do
  let t ← s.table table
  match t.update? id data with
  | some (r, t) => return (r, s.withTable table t)
  | none => refuse (.noSuchRow table t.idColumn id.inspect)

/-- Deletes the rows with an identifying value; returns whether there was one. -/
def delete (table : String) (id : Value) : Change Bool := fun s => do
  let t ← s.table table
  if t.rows.any (t.identifies id) then return (true, s.withTable table (t.delete id))
  else return (false, s)

/-- The first part that makes the store reject a statement. -/
def rejection? (s : Store) (statement : String) : Option String :=
  s.rejections.find? (fun part => occursIn part.toList statement.toList)

/-- Runs a statement; returns how many rows it affected. -/
def raw (statement : String) : Change Nat := fun s =>
  match s.rejection? statement with
  | some part => refuse (.rejected part statement)
  | none =>
    .ok (0, { s with statements := s.statements ++ [statement], mutations := s.mutations + 1 })

/-- Makes the store reject statements that contain a part. -/
def reject (part : String) (s : Store) : Store :=
  { s with rejections := s.rejections ++ [part] }

/-- Opens a transaction. -/
def begin : Change Unit := fun s =>
  match s.snapshot with
  | some _ => refuse .transactionActive
  | none => .ok ((), { s with snapshot := some s.tables })

/-- Closes the transaction and keeps what was done in it. -/
def commit : Change Unit := fun s =>
  match s.snapshot with
  | some _ => .ok ((), { s with snapshot := none })
  | none => refuse .nothingToCommit

/-- Closes the transaction and goes back to the tables at its beginning. -/
def rollback : Change Unit := fun s =>
  match s.snapshot with
  | some tables => .ok ((), { s with tables, snapshot := none })
  | none => refuse .nothingToRollBack

/-- Takes a lock; returns whether it was free. -/
def acquire (name : String) (s : Store) : Bool × Store :=
  if s.isLocked name then (false, s)
  else (true, { s with locks := name :: s.locks, lockAcquisitions := s.lockAcquisitions + 1 })

/-- Gives a lock up. -/
def release (name : String) (s : Store) : Store :=
  { s with locks := s.locks.filter (· != name) }

/-- The milliseconds that are waited for a lock: none if it is free; otherwise it is looked at every
ten milliseconds, until the limit has passed. -/
def waitFor (s : Store) (name : String) (limit : Nat) : Nat :=
  if s.isLocked name then (limit + 9) / 10 * 10 else 0

end Store

end SchemaMigration
