import SchemaMigration.Ddl.Statement

/-!
# Compiling blueprints

A blueprint is compiled to the statements that create its table, or to those that change a table
that is there. Both fail if a foreign key does not say which table it refers to.
-/

namespace SchemaMigration

namespace Blueprint

/-- The statements that create the indexes of single columns. -/
def columnIndexes (b : Blueprint) : List Ddl :=
  (b.columns.filter (·.index)).map (fun c => .createIndex b.table { columns := [c.name] })

/-- The statements that create the indexes. -/
def indexStatements (b : Blueprint) : List Ddl :=
  b.indexes.map (.createIndex b.table)

/-- The parts of the table: columns, primary key, foreign keys and checks. -/
def parts (b : Blueprint) : Except Error (List TablePart) := do
  let keys ← b.foreignKeys.mapM (fun k => return TablePart.foreignKey k (← k.target?))
  return b.columns.map .column ++ (if b.primaryKey.isEmpty then [] else [.primaryKey b.primaryKey])
    ++ keys ++ b.checks.map .check

/-- The statements that set remarks in PostgreSQL. -/
def commentStatements (b : Blueprint) : List Ddl :=
  b.comment.toList.map (.commentOnTable b.table) ++
    b.columns.flatMap (fun c => c.comment.toList.map (.commentOnColumn b.table c.name))

/-- The statements that create the table: the table, its indexes and its remarks. -/
def create (d : Dialect) (b : Blueprint) : Except Error (List Ddl) := do
  let parts ← b.parts
  return .createTable b.temporary b.table parts (if d = .mysql then b.comment else none) ::
    (b.columnIndexes ++ b.indexStatements ++
      if d = .postgresql then b.commentStatements else [])

/-- The statements that change the table. New columns come first, then what is renamed and dropped,
then the other additions. -/
def alter (b : Blueprint) : Except Error (List Ddl) := do
  let keys ← b.foreignKeys.mapM (fun k => return Ddl.addForeignKey b.table k (← k.target?))
  return b.columns.map (.addColumn b.table)
    ++ b.columnIndexes
    ++ b.renamedColumns.map (fun (old, new) => .renameColumn b.table old new)
    ++ b.droppedColumns.map (.dropColumn b.table)
    ++ b.droppedForeignKeys.map (.dropForeignKey b.table)
    ++ b.droppedIndexes.map (.dropIndex b.table)
    ++ (if b.dropsPrimary then [.dropPrimaryKey b.table] else [])
    ++ keys
    ++ b.checks.map (.addCheck b.table)
    ++ b.indexStatements

/-- The statement that creates a table with columns only. -/
def createColumns (table : String) (columns : List Column) : Ddl :=
  .createTable false table (columns.map .column) none

end Blueprint

end SchemaMigration
