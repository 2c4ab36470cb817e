import SchemaMigration.Column.Basic
import SchemaMigration.Store.Query

/-!
# Tables

A `Table` has columns, rows in the order of their insertion, and the number of the next row that is
inserted without one.
-/

namespace SchemaMigration

/-- A table with its rows. -/
structure Table where
  /-- The columns. -/
  columns : List Column
  /-- The rows, in the order of their insertion. -/
  rows : List Row := []
  /-- The number of the next row that is inserted without one. -/
  nextId : Int64 := 1

/-- Changes the first item that satisfies a test; returns it as it is then, and the list. -/
def updateFirst? {α : Type} (p : α → Bool) (f : α → α) : List α → Option (α × List α)
  | [] => none
  | a :: rest =>
    if p a then some (f a, f a :: rest)
    else (updateFirst? p f rest).map (fun (b, rest) => (b, a :: rest))

namespace Table

/-- The column that identifies rows: the one in which the table numbers them, or `id`. -/
def idColumn (t : Table) : String :=
  ((t.columns.find? (·.autoIncrement)).map (·.name)).getD "id"

/-- Whether a row has an identifying value. -/
def identifies (t : Table) (id : Value) (r : Row) : Bool :=
  match r.get? t.idColumn with
  | some value => value.compare? id == some .eq
  | none => false

/-- The number that a row brings along. -/
def explicitId? (t : Table) (r : Row) : Option Int64 :=
  (r.get? t.idColumn).bind Value.toInt64?

/-- The table with a row behind the others, and a number for the next row. -/
def append (t : Table) (r : Row) (nextId : Int64) : Table :=
  { t with rows := t.rows ++ [r], nextId }

/-- Inserts a row, which is numbered if it brings no number along. There is no result if the number
of the next row would leave its range. -/
def insert? (t : Table) (r : Row) : Option (Row × Table) :=
  match t.explicitId? r with
  | some explicit => do
    let next ← successor? explicit
    return (r, t.append r (max t.nextId next))
  | none => do
    let next ← successor? t.nextId
    let r := r.insert t.idColumn (.int64 t.nextId)
    return (r, t.append r next)

/-- Sets values in the first row with an identifying value. -/
def update? (t : Table) (id : Value) (data : Row) : Option (Row × Table) := do
  let (r, rows) ← updateFirst? (t.identifies id) (fun r => r.union data) t.rows
  return (r, { t with rows })

/-- Deletes the rows with an identifying value. -/
def delete (t : Table) (id : Value) : Table :=
  { t with rows := t.rows.filter (fun r => !t.identifies id r) }

/-- Whether there is a column with a name. -/
def hasColumn (t : Table) (column : String) : Bool :=
  t.columns.any (fun c => c.name == column)

end Table

end SchemaMigration
