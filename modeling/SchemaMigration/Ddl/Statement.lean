import SchemaMigration.Ddl.Definition

/-!
# Statements

A `Ddl` is a statement that defines or changes a table. Blueprints are compiled to lists of them, and
`Ddl.text` writes one in a dialect.
-/

namespace SchemaMigration

/-- A part of the statement that creates a table. -/
inductive TablePart where
  /-- A column. -/
  | column (c : Column)
  /-- The primary key. -/
  | primaryKey (columns : List String)
  /-- A foreign key with the table that it refers to. -/
  | foreignKey (k : ForeignKey) (target : String)
  /-- A check. -/
  | check (c : Check)

/-- A statement that defines or changes a table. -/
inductive Ddl where
  /-- Creates a table. -/
  | createTable (temporary : Bool) (table : String) (parts : List TablePart)
    (comment : Option String)
  /-- Drops a table. -/
  | dropTable (table : String) (ifExists : Bool)
  /-- Creates an index. -/
  | createIndex (table : String) (index : Index)
  /-- Sets the remark on a table. -/
  | commentOnTable (table comment : String)
  /-- Sets the remark on a column. -/
  | commentOnColumn (table column comment : String)
  /-- Adds a column. -/
  | addColumn (table : String) (column : Column)
  /-- Renames a column. -/
  | renameColumn (table old new : String)
  /-- Drops a column. -/
  | dropColumn (table column : String)
  /-- Drops a foreign key. -/
  | dropForeignKey (table name : String)
  /-- Drops an index. -/
  | dropIndex (table name : String)
  /-- Drops the primary key. -/
  | dropPrimaryKey (table : String)
  /-- Adds a foreign key with the table that it refers to. -/
  | addForeignKey (table : String) (key : ForeignKey) (target : String)
  /-- Adds a check. -/
  | addCheck (table : String) (check : Check)

/-- The pieces of a part of a table. -/
def TablePart.pieces (d : Dialect) : TablePart → List Piece
  | column c => c.pieces d
  | primaryKey columns => .code "PRIMARY KEY (" :: (Piece.names columns ++ [.code ")"])
  | foreignKey k target => k.pieces d target
  | check c => c.pieces

/-- Where a new column goes, which only MySQL lets one choose. -/
def Placement.pieces (d : Dialect) (placement : Option Placement) : List Piece :=
  if d = .mysql then
    match placement with
    | some .first => [.code " FIRST"]
    | some (.after column) => [.code " AFTER ", .name column]
    | none => []
  else []

namespace Ddl

/-- The beginning of a statement that changes a table. -/
def altering (table words : String) : List Piece :=
  [.code "ALTER TABLE ", .name table, .code words]

/-- The pieces of a statement. -/
def pieces (d : Dialect) : Ddl → List Piece
  | createTable temporary table parts comment =>
    .code (if temporary then "CREATE TEMPORARY TABLE " else "CREATE TABLE ") :: .name table ::
      .code " (\n    " :: (Piece.separated ",\n    " (parts.map (TablePart.pieces d)) ++
        .code "\n)" :: Piece.remark " COMMENT = " comment)
  | dropTable table ifExists =>
    [.code (if ifExists then "DROP TABLE IF EXISTS " else "DROP TABLE "), .name table]
  | createIndex table index => index.pieces d table
  | commentOnTable table comment =>
    [.code "COMMENT ON TABLE ", .name table, .code " IS ", .literal comment]
  | commentOnColumn table column comment =>
    [.code "COMMENT ON COLUMN ", .name table, .code ".", .name column, .code " IS ",
      .literal comment]
  | addColumn table column =>
    altering table " ADD COLUMN " ++ column.pieces d ++ Placement.pieces d column.placement
  | renameColumn table old new =>
    altering table " RENAME COLUMN " ++ [.name old, .code " TO ", .name new]
  | dropColumn table column => altering table " DROP COLUMN " ++ [.name column]
  | dropForeignKey table name =>
    altering table (if d = .mysql then " DROP FOREIGN KEY " else " DROP CONSTRAINT ") ++
      [.name name]
  | dropIndex table name =>
    if d = .mysql then [.code "DROP INDEX ", .name name, .code " ON ", .name table]
    else [.code "DROP INDEX IF EXISTS ", .name name]
  | dropPrimaryKey table =>
    if d = .mysql then altering table " DROP PRIMARY KEY"
    else altering table " DROP CONSTRAINT " ++ [.name (table ++ "_pkey")]
  | addForeignKey table key target => altering table " ADD " ++ key.pieces d target
  | addCheck table check => altering table " ADD " ++ check.pieces

/-- The text of a statement in a dialect. -/
def text (d : Dialect) (statement : Ddl) : String :=
  Piece.render d (statement.pieces d)

end Ddl

end SchemaMigration
