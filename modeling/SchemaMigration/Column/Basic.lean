import SchemaMigration.Column.Kind
import SchemaMigration.Value.Basic

/-!
# Columns

A `Column` is a name, a kind and modifiers. Modifiers are set one by one and never checked against
each other.
-/

namespace SchemaMigration

/-- What a column holds in a row that gives it no value. -/
inductive ColumnDefault where
  /-- A value. -/
  | value (v : Value)
  /-- The value of an expression, which is taken as it stands. -/
  | expression (text : String)
  /-- The current time. -/
  | currentTimestamp

/-- The expression of a generated column, with where its value is kept. -/
inductive Generated where
  /-- The value is kept in the row. -/
  | stored (expression : String)
  /-- The value is computed when it is read. -/
  | virtual (expression : String)
deriving DecidableEq

/-- Where a new column goes among the others. -/
inductive Placement where
  /-- In front of them. -/
  | first
  /-- Behind the column with a name. -/
  | after (column : String)
deriving DecidableEq

/-- A column of a table. -/
structure Column where
  /-- The name. -/
  name : String
  /-- What the column holds. -/
  kind : ColumnKind
  /-- Whether a row may have no value here. -/
  nullable : Bool := false
  /-- What a row holds that gives no value. -/
  default : Option ColumnDefault := none
  /-- Whether no two rows may agree here. -/
  unique : Bool := false
  /-- Whether the column is the primary key. -/
  primary : Bool := false
  /-- Whether the store numbers the rows here. -/
  autoIncrement : Bool := false
  /-- Whether numbers are not negative. -/
  unsigned : Bool := false
  /-- Whether the column has an index of its own. -/
  index : Bool := false
  /-- A remark on the column. -/
  comment : Option String := none
  /-- Where the column goes when it is added to a table. -/
  placement : Option Placement := none
  /-- The expression that generates the column. -/
  generated : Option Generated := none
  /-- Whether the column is left out unless it is named. -/
  invisible : Bool := false
  /-- Whether a new row holds the current time here. -/
  useCurrent : Bool := false
  /-- Whether a changed row holds the time of the change here. -/
  useCurrentOnUpdate : Bool := false
  /-- The character set. -/
  charset : Option String := none
  /-- The collation. -/
  collation : Option String := none

namespace Column

/-- A modifier of a column. -/
inductive Modifier where
  /-- Rows may have no value here. -/
  | nullable
  /-- Rows must have a value here. -/
  | notNull
  /-- A row without a value here has this one. -/
  | default (v : Value)
  /-- A row without a value here has that of an expression. -/
  | defaultRaw (expression : String)
  /-- No two rows agree here. -/
  | unique
  /-- The column is the primary key. -/
  | primary
  /-- The store numbers the rows here. -/
  | autoIncrement
  /-- Numbers are not negative. -/
  | unsigned
  /-- The column has an index. -/
  | index
  /-- A remark on the column. -/
  | comment (text : String)
  /-- The column goes behind another one. -/
  | after (column : String)
  /-- The column goes in front of the others. -/
  | first
  /-- The column is generated and kept. -/
  | storedAs (expression : String)
  /-- The column is generated and not kept. -/
  | virtualAs (expression : String)
  /-- The column is left out unless it is named. -/
  | invisible
  /-- A row without a value here has the current time. -/
  | useCurrent
  /-- A changed row has the time of the change here. -/
  | useCurrentOnUpdate
  /-- The character set. -/
  | charset (name : String)
  /-- The collation. -/
  | collation (name : String)

/-- The column with a modifier set. -/
def modify (c : Column) : Modifier → Column
  | .nullable => { c with nullable := true }
  | .notNull => { c with nullable := false }
  | .default v => { c with default := some (.value v) }
  | .defaultRaw expression => { c with default := some (.expression expression) }
  | .unique => { c with unique := true }
  | .primary => { c with primary := true }
  | .autoIncrement => { c with autoIncrement := true }
  | .unsigned => { c with unsigned := true }
  | .index => { c with index := true }
  | .comment text => { c with comment := some text }
  | .after column => { c with placement := some (.after column) }
  | .first => { c with placement := some .first }
  | .storedAs expression => { c with generated := some (.stored expression) }
  | .virtualAs expression => { c with generated := some (.virtual expression) }
  | .invisible => { c with invisible := true }
  | .useCurrent => { c with useCurrent := true, default := some .currentTimestamp }
  | .useCurrentOnUpdate => { c with useCurrentOnUpdate := true }
  | .charset name => { c with charset := some name }
  | .collation name => { c with collation := some name }

/-- The column with modifiers set in order. -/
def modifyAll (c : Column) (modifiers : List Modifier) : Column :=
  modifiers.foldl modify c

end Column

end SchemaMigration
