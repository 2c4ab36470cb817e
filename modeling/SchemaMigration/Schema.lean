import SchemaMigration.Blueprint.Basic
import SchemaMigration.Program

/-!
# Schemas

Programs that create and drop the tables of a store. Of a blueprint only the columns are passed on. A
`Schema` says whether there is a store to run such programs on: one of its own or the default one.
-/

namespace SchemaMigration

/-- Where the programs that change a schema find their store. -/
structure Schema where
  /-- Whether the schema has a store of its own. -/
  attached : Bool := true
  /-- Whether there is a default store for schemas without one. -/
  fallback : Bool := false
deriving DecidableEq

namespace Schema

/-- Creates a table with the columns of a blueprint. -/
def create (table : String) (b : Blueprint) : Program Unit :=
  .request (.createTable table b.columns)

/-- Changes nothing: the changes of a blueprint are not passed on. -/
def change : Program Unit :=
  .pure ()

/-- Drops a table. -/
def drop (table : String) : Program Unit :=
  .request (.dropTable table)

/-- Whether there is a table. -/
def hasTable (table : String) : Program Bool :=
  .request (.hasTable table)

/-- Drops a table if there is one. -/
def dropIfExists (table : String) : Program Unit :=
  (hasTable table).bind (fun found => if found then drop table else .pure ())

/-- Whether there is a table with a column. -/
def hasColumn (table column : String) : Program Bool :=
  .request (.hasColumn table column)

/-- A program on the store of a schema; it fails if there is none. -/
def reach {α : Type} (s : Schema) (program : Program α) : Program α :=
  if s.attached || s.fallback then program else .fail (.configuration .noStore)

/-- The form for inspection, which shows the store of the schema itself. -/
def inspect (s : Schema) : String :=
  "Schema \x7b adapter: " ++ (if s.attached then "Some(\"memory\")" else "None") ++ " \x7d"

end Schema

end SchemaMigration
