import SchemaMigration.Value.Order

/-!
# Queries

A `Query` selects rows by conditions that must all hold, sorts them by columns and cuts a window out
of them. Rows that agree in all sort columns stay in their order.
-/

namespace SchemaMigration

/-- The value of a row in a column, absent if the row has none. -/
def Row.valueAt (r : Row) (column : String) : Value :=
  (r.get? column).getD .null

/-- A condition on the value in a column. -/
structure Condition where
  /-- The column. -/
  column : String
  /-- How the value in the column compares with the given one. -/
  comparison : Comparison
  /-- The given value. -/
  value : Value

/-- Whether a row meets a condition. Values that cannot be compared meet none. -/
def Condition.holds (c : Condition) (r : Row) : Bool :=
  match (r.valueAt c.column).compare? c.value with
  | some order => c.comparison.accepts order
  | none => false

/-- A column to sort by. -/
structure SortKey where
  /-- The column. -/
  column : String
  /-- Whether greater values come first. -/
  descending : Bool := false
deriving DecidableEq

/-- The order of two rows by one column. Values that cannot be compared count as equal. -/
def SortKey.compare (k : SortKey) (a b : Row) : Ordering :=
  let order := ((a.valueAt k.column).compare? (b.valueAt k.column)).getD .eq
  if k.descending then order.swap else order

/-- The order of two rows by columns, of which earlier ones count more. -/
def compareRows : List SortKey → Row → Row → Ordering
  | [], _, _ => .eq
  | k :: rest, a, b => (k.compare a b).then (compareRows rest a b)

/-- A selection of rows. -/
structure Query where
  /-- The columns to show; all if none is given. -/
  columns : List String := []
  /-- The conditions, which must all hold. -/
  conditions : List Condition := []
  /-- The columns to sort by. -/
  order : List SortKey := []
  /-- How many rows to take, if not all. -/
  limit : Option Nat := none
  /-- How many rows to pass over first. -/
  offset : Nat := 0

namespace Query

/-- Whether a row meets all conditions. -/
def accepts (q : Query) (r : Row) : Bool :=
  q.conditions.all (·.holds r)

/-- The rows that meet all conditions, in order. -/
def sorted (q : Query) (rows : List Row) : List Row :=
  (rows.filter q.accepts).mergeSort (fun a b => compareRows q.order a b != .gt)

/-- The part of a list between the offset and the limit. -/
def window {α : Type} (q : Query) (rows : List α) : List α :=
  match q.limit with
  | some limit => (rows.drop q.offset).take limit
  | none => rows.drop q.offset

/-- The shown columns of a row. -/
def project (q : Query) (r : Row) : Row :=
  if q.columns.isEmpty then r else r.filter (fun column _ => q.columns.contains column)

/-- What a query selects from rows. -/
def select (q : Query) (rows : List Row) : List Row :=
  (q.window (q.sorted rows)).map q.project

/-- The query with a condition that a column is equal to a value. -/
def whereEq (q : Query) (column : String) (value : Value) : Query :=
  { q with conditions := q.conditions ++ [⟨column, .eq, value⟩] }

end Query

end SchemaMigration
