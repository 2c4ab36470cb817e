import SchemaMigration.Sql.Definition.Basic

/-!
# Statements of SQL

Queries, changes of rows and tables, and transactions, and their normal form.
-/

namespace SchemaMigration.Sql

open Text

/-- What can be dropped. -/
inductive Droppable where
  | table
  | index
  | view
  | role
  | schema
  | sequence
  | stage
deriving DecidableEq

/-- The keyword for what can be dropped. -/
def Droppable.text : Droppable → String
  | table => "TABLE"
  | index => "INDEX"
  | view => "VIEW"
  | role => "ROLE"
  | schema => "SCHEMA"
  | sequence => "SEQUENCE"
  | stage => "STAGE"

/-- Where the rows come from that are inserted. -/
inductive Insertion where
  /-- Every column has the value that it has if nothing is said. -/
  | defaults
  /-- The rows of a query, with the columns they fill if these are given. -/
  | query (columns : List Ident) (q : Query)

/-- The text of an insertion. -/
def Insertion.render : Insertion → String
  | defaults => "DEFAULT VALUES"
  | query columns q =>
    (if columns.isEmpty then "" else renderColumns columns ++ " ") ++ q.render

/-- Values that are set in rows. -/
structure Update where
  /-- The table. -/
  table : TableSource
  /-- The columns and their values. -/
  assignments : List (QualifiedName × Expr)
  /-- The condition on the rows. -/
  condition : Option Expr

/-- The text of values that are set. -/
def Update.render (u : Update) : String :=
  "UPDATE " ++ u.table.render ++ " SET "
    ++ renderList (fun (column, e) => column.render ++ " = " ++ e.render) u.assignments
    ++ behind " WHERE " Expr.render u.condition

/-- Rows that are deleted. -/
structure Deletion where
  /-- Whether the keyword `FROM` stands in front of the tables. -/
  keyword : Bool
  /-- The tables. -/
  tables : List TableSource
  /-- The condition on the rows. -/
  condition : Option Expr
  /-- The order. -/
  order : List SortItem
  /-- How many rows to delete. -/
  limit : Option Expr

/-- The text of rows that are deleted. -/
def Deletion.render (d : Deletion) : String :=
  "DELETE " ++ wordsIf d.keyword "FROM " ++ renderList TableSource.render d.tables
    ++ behind " WHERE " Expr.render d.condition ++ listBehind " ORDER BY " SortItem.render d.order
    ++ behind " LIMIT " Expr.render d.limit

/-- A new table. -/
structure TableCreation where
  /-- The keywords in front of that for the table. -/
  keywords : List String
  /-- Whether nothing happens if there is one. -/
  ifNotExists : Bool
  /-- The name. -/
  name : QualifiedName
  /-- The columns. -/
  columns : List ColumnDefinition
  /-- The rules. -/
  rules : List (Constrained TableRule)

/-- The text of a new table. -/
def TableCreation.render (t : TableCreation) : String :=
  join " " ("CREATE" :: t.keywords) ++ " TABLE " ++ wordsIf t.ifNotExists "IF NOT EXISTS "
    ++ t.name.render ++ " ("
    ++ join ", " (t.columns.map ColumnDefinition.render
      ++ t.rules.map (Constrained.render TableRule.render)) ++ ")"

/-- A new index. -/
structure IndexCreation where
  /-- Whether no two rows may agree. -/
  unique : Bool
  /-- Whether others may go on with the table. -/
  concurrently : Bool
  /-- Whether nothing happens if there is one. -/
  ifNotExists : Bool
  /-- The name. -/
  name : Option QualifiedName
  /-- The table. -/
  table : QualifiedName
  /-- The method. -/
  method : Option Ident
  /-- What is sorted. -/
  items : List SortItem
  /-- The condition on the rows. -/
  condition : Option Expr

/-- The text of a new index. -/
def IndexCreation.render (i : IndexCreation) : String :=
  "CREATE " ++ wordsIf i.unique "UNIQUE " ++ "INDEX " ++ wordsIf i.concurrently "CONCURRENTLY "
    ++ wordsIf i.ifNotExists "IF NOT EXISTS "
    ++ (match i.name with
      | some name => name.render ++ " "
      | none => "")
    ++ "ON " ++ i.table.render
    ++ (match i.method with
      | some method => " USING " ++ method.render ++ " "
      | none => "")
    ++ "(" ++ join "," (i.items.map SortItem.render) ++ ")"
    ++ behind " WHERE " Expr.render i.condition

/-- Things that are dropped. -/
structure Drop where
  /-- Whether only temporary ones are meant. -/
  temporary : Bool
  /-- What they are. -/
  kind : Droppable
  /-- Whether nothing happens if there are none. -/
  ifExists : Bool
  /-- The names. -/
  names : List QualifiedName
  /-- Whether what depends on them is dropped too. -/
  cascade : Bool
  /-- Whether nothing may depend on them. -/
  restrict : Bool
  /-- Whether their data are destroyed. -/
  purge : Bool

/-- The text of things that are dropped. -/
def Drop.render (d : Drop) : String :=
  "DROP " ++ wordsIf d.temporary "TEMPORARY " ++ d.kind.text ++ wordsIf d.ifExists " IF EXISTS"
    ++ " " ++ renderList QualifiedName.render d.names ++ wordsIf d.cascade " CASCADE"
    ++ wordsIf d.restrict " RESTRICT" ++ wordsIf d.purge " PURGE"

/-- Tables whose rows are all deleted. -/
structure Truncation where
  /-- The keywords in front of the names. -/
  keywords : List String
  /-- The tables. -/
  tables : List QualifiedName
  /-- The keywords behind the names. -/
  ending : List String

/-- The text of tables whose rows are all deleted. -/
def Truncation.render (t : Truncation) : String :=
  join " " ("TRUNCATE" :: t.keywords ++ renderList QualifiedName.render t.tables :: t.ending)

/-- A statement. -/
inductive Statement where
  /-- Show rows. -/
  | query (q : Query)
  /-- Insert rows, with the keywords in front of the table. -/
  | insert (keywords : List String) (table : QualifiedName) (rows : Insertion)
  /-- Set values in rows. -/
  | update (u : Update)
  /-- Delete rows. -/
  | delete (d : Deletion)
  /-- Create a table. -/
  | createTable (t : TableCreation)
  /-- Create an index. -/
  | createIndex (i : IndexCreation)
  /-- Drop things. -/
  | drop (d : Drop)
  /-- Change a table; only the table itself, if it is said, and none of its parts. -/
  | alterTable (ifExists only : Bool) (table : QualifiedName) (alterations : List Alteration)
  /-- Delete all rows of tables. -/
  | truncate (t : Truncation)
  /-- Begin a transaction, with these keywords. -/
  | begin (words : String)
  /-- Make the changes of a transaction last, and begin another one. -/
  | commit (chain : Bool)
  /-- Undo the changes of a transaction, perhaps only those behind a mark, and begin another one. -/
  | rollback (chain : Bool) (mark : Option Ident)
  /-- Set a mark in a transaction. -/
  | savepoint (mark : Ident)
  /-- Remove a mark. -/
  | release (mark : Ident)

/-- The text of a statement. -/
def Statement.render : Statement → String
  | query q => q.render
  | insert keywords table rows =>
    join " " ("INSERT" :: keywords ++ [table.render, rows.render])
  | update u => u.render
  | delete d => d.render
  | createTable t => t.render
  | createIndex i => i.render
  | drop d => d.render
  | alterTable ifExists only table alterations =>
    "ALTER TABLE " ++ wordsIf ifExists "IF EXISTS " ++ wordsIf only "ONLY " ++ table.render ++ " "
      ++ renderList Alteration.render alterations
  | truncate t => t.render
  | begin words => words
  | commit chain => "COMMIT" ++ wordsIf chain " AND CHAIN"
  | rollback chain mark =>
    "ROLLBACK" ++ wordsIf chain " AND CHAIN" ++ behind " TO SAVEPOINT " Ident.render mark
  | savepoint mark => "SAVEPOINT " ++ mark.render
  | release mark => "RELEASE SAVEPOINT " ++ mark.render

end SchemaMigration.Sql
