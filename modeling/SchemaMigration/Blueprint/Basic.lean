import SchemaMigration.Blueprint.Constraint
import SchemaMigration.Column.Basic

/-!
# Blueprints

A `Blueprint` collects what is to be created in a table or changed about it: columns, keys, indexes
and checks to add, and names to drop or to change. Building one touches no database.
-/

namespace SchemaMigration

/-- What is to be created in a table or changed about it. -/
structure Blueprint where
  /-- The name of the table. -/
  table : String
  /-- The columns to create. -/
  columns : List Column := []
  /-- The indexes to create. -/
  indexes : List Index := []
  /-- The foreign keys to create. -/
  foreignKeys : List ForeignKey := []
  /-- The checks to create. -/
  checks : List Check := []
  /-- The columns of the primary key, if it is declared apart from them. -/
  primaryKey : List String := []
  /-- The columns to drop. -/
  droppedColumns : List String := []
  /-- The columns to rename, with their new names. -/
  renamedColumns : List (String × String) := []
  /-- The names of the indexes to drop. -/
  droppedIndexes : List String := []
  /-- The names of the foreign keys to drop. -/
  droppedForeignKeys : List String := []
  /-- Whether the primary key is to be dropped. -/
  dropsPrimary : Bool := false
  /-- A remark on the table. -/
  comment : Option String := none
  /-- Whether the table lasts only as long as the connection. -/
  temporary : Bool := false

namespace Blueprint

/-- Whether anything beyond columns is to be created. -/
def hasConstraints (b : Blueprint) : Bool :=
  !b.indexes.isEmpty || !b.foreignKeys.isEmpty || !b.checks.isEmpty || !b.primaryKey.isEmpty

/-- Whether anything is to be dropped or renamed. -/
def hasAlterations (b : Blueprint) : Bool :=
  !b.droppedColumns.isEmpty || !b.renamedColumns.isEmpty || !b.droppedIndexes.isEmpty ||
    !b.droppedForeignKeys.isEmpty || b.dropsPrimary

/-- Sets the remark on the table. -/
def remark (b : Blueprint) (text : String) : Blueprint :=
  { b with comment := some text }

/-- Makes the table temporary. -/
def makeTemporary (b : Blueprint) : Blueprint :=
  { b with temporary := true }

/-- Adds a column with modifiers. -/
def addColumn (b : Blueprint) (name : String) (kind : ColumnKind)
    (modifiers : List Column.Modifier := []) : Blueprint :=
  { b with columns := b.columns ++ [({ name, kind } : Column).modifyAll modifiers] }

/-- The modifiers of a primary key that the store numbers. -/
def numbered : List Column.Modifier := [.unsigned, .autoIncrement, .primary]

/-- Adds a primary key that the store numbers. -/
def addNumbered (b : Blueprint) (name : String) (kind : ColumnKind)
    (modifiers : List Column.Modifier := []) : Blueprint :=
  b.addColumn name kind (numbered ++ modifiers)

/-- Adds the primary key `id` that the store numbers. -/
def addId (b : Blueprint) (modifiers : List Column.Modifier := []) : Blueprint :=
  b.addNumbered "id" .bigInteger modifiers

/-- Adds an integer without sign. -/
def addUnsigned (b : Blueprint) (name : String) (kind : ColumnKind)
    (modifiers : List Column.Modifier := []) : Blueprint :=
  b.addColumn name kind (.unsigned :: modifiers)

/-- Adds a text of bounded length, which is 255 if none is given. -/
def addString (b : Blueprint) (name : String) (length : Option Nat := none)
    (modifiers : List Column.Modifier := []) : Blueprint :=
  b.addColumn name (.string (length.getD 255)) modifiers

/-- Adds a shape on the globe, in the reference system 4326 if none is given. -/
def addGeography (b : Blueprint) (name : String) (shape : Shape) (srid : Option Nat)
    (modifiers : List Column.Modifier := []) : Blueprint :=
  b.addColumn name (.geography shape (some (srid.getD 4326))) modifiers

/-- Adds the times of creation and of the last change, which a row need not have. -/
def timestamps (b : Blueprint) (withTimezone : Bool := false) : Blueprint :=
  (b.addColumn "created_at" (.timestamp none withTimezone) [.nullable]).addColumn "updated_at"
    (.timestamp none withTimezone) [.nullable]

/-- Adds the times of creation and of the last change, which the database keeps itself. -/
def currentTimestamps (b : Blueprint) : Blueprint :=
  (b.addColumn "created_at" (.timestamp none false) [.useCurrent]).addColumn "updated_at"
    (.timestamp none false) [.useCurrent, .useCurrentOnUpdate]

/-- Adds the time of deletion, which a row need not have. -/
def softDeletes (b : Blueprint) (withTimezone : Bool := false)
    (modifiers : List Column.Modifier := []) : Blueprint :=
  b.addColumn "deleted_at" (.timestamp none withTimezone) (.nullable :: modifiers)

/-- Adds the text by which a session is remembered. -/
def rememberToken (b : Blueprint) (modifiers : List Column.Modifier := []) : Blueprint :=
  b.addString "remember_token" (some 100) (.nullable :: modifiers)

/-- Adds an index with modifiers. -/
def addIndex (b : Blueprint) (index : Index) (modifiers : List Index.Modifier := []) : Blueprint :=
  { b with indexes := b.indexes ++ [modifiers.foldl Index.modify index] }

/-- The column for the identifier of a row in any table. -/
def morphId (name : String) : String := name ++ "_id"

/-- The column for the table of a row in any table. -/
def morphType (name : String) : String := name ++ "_type"

/-- Adds a reference to a row in any table: an identifier, the name of the table, and an index over
both. -/
def morphs (b : Blueprint) (name : String) (idKind : ColumnKind := .bigInteger)
    (modifiers : List Column.Modifier := [.unsigned]) (typeModifiers : List Column.Modifier := []) :
    Blueprint :=
  ((b.addColumn (morphId name) idKind modifiers).addString (morphType name) none
    typeModifiers).addIndex { columns := [morphType name, morphId name] }

/-- Adds a reference to a row in any table that a row need not have. -/
def nullableMorphs (b : Blueprint) (name : String) : Blueprint :=
  b.morphs name .bigInteger [.unsigned, .nullable] [.nullable]

/-- Adds a reference to a row in any table by a universally unique identifier. -/
def uuidMorphs (b : Blueprint) (name : String) : Blueprint :=
  b.morphs name .uuid []

/-- Declares the primary key. -/
def primary (b : Blueprint) (columns : List String) : Blueprint :=
  { b with primaryKey := columns }

/-- Adds a foreign key with modifiers. -/
def foreign (b : Blueprint) (columns : List String)
    (modifiers : List ForeignKey.Modifier := []) : Blueprint :=
  { b with foreignKeys :=
      b.foreignKeys ++ [modifiers.foldl ForeignKey.modify { table := b.table, columns }] }

/-- Adds a check, with a name if one is given. -/
def check (b : Blueprint) (expression : String) (name : Option String := none) : Blueprint :=
  { b with checks := b.checks ++ [{ table := b.table, expression, name }] }

/-- Drops columns. -/
def dropColumns (b : Blueprint) (names : List String) : Blueprint :=
  { b with droppedColumns := b.droppedColumns ++ names }

/-- Renames a column. -/
def renameColumn (b : Blueprint) (old new : String) : Blueprint :=
  { b with renamedColumns := b.renamedColumns ++ [(old, new)] }

/-- Drops an index. -/
def dropIndex (b : Blueprint) (name : String) : Blueprint :=
  { b with droppedIndexes := b.droppedIndexes ++ [name] }

/-- Drops the unique index over some columns that was given no name. -/
def dropUnique (b : Blueprint) (columns : List String) : Blueprint :=
  b.dropIndex (defaultName b.table columns "unique")

/-- Drops a foreign key. -/
def dropForeign (b : Blueprint) (name : String) : Blueprint :=
  { b with droppedForeignKeys := b.droppedForeignKeys ++ [name] }

/-- Drops the primary key. -/
def dropPrimary (b : Blueprint) : Blueprint :=
  { b with dropsPrimary := true }

/-- Drops the times of creation and of the last change. -/
def dropTimestamps (b : Blueprint) : Blueprint :=
  b.dropColumns ["created_at", "updated_at"]

/-- Drops the time of deletion. -/
def dropSoftDeletes (b : Blueprint) : Blueprint :=
  b.dropColumns ["deleted_at"]

/-- Drops a reference to a row in any table: its index, then its columns. -/
def dropMorphs (b : Blueprint) (name : String) : Blueprint :=
  (b.dropIndex (defaultName b.table [morphType name, morphId name] "index")).dropColumns
    [morphId name, morphType name]

end Blueprint

end SchemaMigration
