import SchemaMigration.Blueprint.Constraint
import SchemaMigration.Sql.Query.Basic

/-!
# Definitions of tables in SQL

Columns, the rules on columns and tables, changes of a table, and their normal form.
-/

namespace SchemaMigration.Sql

open Text

/-- What happens to a row when the row it refers to is deleted or changed. -/
structure ReferenceActions where
  /-- When it is deleted. -/
  onDelete : Option ReferentialAction
  /-- When it is changed. -/
  onUpdate : Option ReferentialAction
deriving DecidableEq

/-- The text of actions. -/
def ReferenceActions.render (a : ReferenceActions) : String :=
  behind " ON DELETE " ReferentialAction.sqlName a.onDelete
    ++ behind " ON UPDATE " ReferentialAction.sqlName a.onUpdate

/-- A rule on a column. -/
inductive ColumnRule where
  /-- Rows must have a value. -/
  | notNull
  /-- Rows may have no value. -/
  | null
  /-- A row without a value has this one. -/
  | default (e : Expr)
  /-- The column is the primary key. -/
  | primaryKey
  /-- No two rows agree. -/
  | unique
  /-- Values refer to rows of a table. -/
  | references (table : QualifiedName) (columns : List Ident) (actions : ReferenceActions)
  /-- A condition on the rows. -/
  | check (e : Expr)
  /-- The database numbers the rows; the keyword may have an underscore. -/
  | autoIncrement (underscore : Bool)

/-- The text of a rule. -/
def ColumnRule.render : ColumnRule → String
  | notNull => "NOT NULL"
  | null => "NULL"
  | default e => "DEFAULT " ++ e.render
  | primaryKey => "PRIMARY KEY"
  | unique => "UNIQUE"
  | references table columns actions =>
    "REFERENCES " ++ table.render ++ (if columns.isEmpty then "" else " " ++ renderColumns columns)
      ++ actions.render
  | check e => "CHECK (" ++ e.render ++ ")"
  | autoIncrement underscore => if underscore then "AUTO_INCREMENT" else "AUTOINCREMENT"

/-- Something with the name of a constraint, if it has one. -/
structure Constrained (α : Type) where
  /-- The name. -/
  name : Option Ident
  /-- What has the name. -/
  rule : α

/-- The text of something with the name of a constraint. -/
def Constrained.render {α : Type} (renderRule : α → String) (c : Constrained α) : String :=
  (match c.name with
    | some name => "CONSTRAINT " ++ name.render ++ " "
    | none => "") ++ renderRule c.rule

/-- A column of a table. -/
structure ColumnDefinition where
  /-- The name. -/
  name : Ident
  /-- The type. -/
  type : TypeName
  /-- The order of the characters of its texts. -/
  collation : Option QualifiedName
  /-- The rules. -/
  rules : List (Constrained ColumnRule)

/-- The text of a column. -/
def ColumnDefinition.render (c : ColumnDefinition) : String :=
  c.name.render ++ " " ++ c.type.render ++ behind " COLLATE " QualifiedName.render c.collation
    ++ String.join (c.rules.map (fun rule => " " ++ rule.render ColumnRule.render))

/-- A rule on a table. -/
inductive TableRule where
  /-- Columns are the primary key, whose index may have a name. -/
  | primaryKey (name : Option Ident) (columns : List Ident)
  /-- No two rows agree in columns, whose index may have a name; a keyword for it may be given. -/
  | unique (keyword : Option String) (name : Option Ident) (columns : List Ident)
  /-- Columns refer to columns of a table. -/
  | foreignKey (columns : List Ident) (table : QualifiedName) (references : List Ident)
    (actions : ReferenceActions)
  /-- A condition on the rows. -/
  | check (e : Expr)
  /-- Columns have an index, with its keywords and perhaps a name. -/
  | index (keywords : String) (name : Option Ident) (columns : List Ident)

/-- The text of a rule. -/
def TableRule.render : TableRule → String
  | primaryKey name columns =>
    "PRIMARY KEY" ++ behind " " Ident.render name ++ " " ++ renderColumns columns
  | unique keyword name columns =>
    "UNIQUE" ++ behind " " id keyword ++ behind " " Ident.render name ++ " "
      ++ renderColumns columns
  | foreignKey columns table references actions =>
    "FOREIGN KEY " ++ renderColumns columns ++ " REFERENCES " ++ table.render
      ++ renderColumns references ++ actions.render
  | check e => "CHECK (" ++ e.render ++ ")"
  | index keywords name columns =>
    keywords ++ behind " " Ident.render name ++ " " ++ renderColumns columns

/-- Where a column goes that is added to a table. -/
inductive Position where
  /-- In front of the others. -/
  | first
  /-- Behind another one. -/
  | after (column : Ident)
deriving DecidableEq

/-- The text of a place. -/
def Position.render : Position → String
  | first => "FIRST"
  | after column => "AFTER " ++ column.render

/-- A change of a table. -/
inductive Alteration where
  /-- Add a rule. -/
  | addRule (rule : Constrained TableRule)
  /-- Add a column, perhaps with the keyword and unless there is one. -/
  | addColumn (keyword ifNotExists : Bool) (column : ColumnDefinition) (position : Option Position)
  /-- Drop a column. -/
  | dropColumn (ifExists : Bool) (column : Ident) (cascade : Bool)
  /-- Drop a constraint. -/
  | dropConstraint (ifExists : Bool) (name : Ident) (cascade : Bool)
  /-- Drop the primary key. -/
  | dropPrimaryKey
  /-- Rename a column. -/
  | renameColumn (old new : Ident)
  /-- Rename the table. -/
  | renameTable (new : QualifiedName)

/-- The text of a change. -/
def Alteration.render : Alteration → String
  | addRule rule => "ADD " ++ rule.render TableRule.render
  | addColumn keyword ifNotExists column position =>
    "ADD " ++ wordsIf keyword "COLUMN " ++ wordsIf ifNotExists "IF NOT EXISTS " ++ column.render
      ++ behind " " Position.render position
  | dropColumn ifExists column cascade =>
    "DROP COLUMN " ++ wordsIf ifExists "IF EXISTS " ++ column.render ++ wordsIf cascade " CASCADE"
  | dropConstraint ifExists name cascade =>
    "DROP CONSTRAINT " ++ wordsIf ifExists "IF EXISTS " ++ name.render ++ wordsIf cascade " CASCADE"
  | dropPrimaryKey => "DROP PRIMARY KEY"
  | renameColumn old new => "RENAME COLUMN " ++ old.render ++ " TO " ++ new.render
  | renameTable new => "RENAME TO " ++ new.render

end SchemaMigration.Sql
