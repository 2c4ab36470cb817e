import SchemaMigration.Sql.Expression.Basic

/-!
# Queries of SQL

Selections of rows from tables and given rows, and their normal form. An alias stands behind `AS`.
-/

namespace SchemaMigration.Sql

open Text

/-- A text behind others, if there is one. -/
def behind {α : Type} (words : String) (render : α → String) : Option α → String
  | some a => words ++ render a
  | none => ""

/-- The text of a list behind others, if it is not empty. -/
def listBehind {α : Type} (words : String) (render : α → String) (items : List α) : String :=
  if items.isEmpty then "" else words ++ renderList render items

/-- Words, if a condition holds. -/
def wordsIf (condition : Bool) (words : String) : String :=
  if condition then words else ""

/-- Names in parentheses. -/
def renderColumns (columns : List Ident) : String :=
  "(" ++ renderList Ident.render columns ++ ")"

/-- Expressions in parentheses. -/
def renderRow (items : List Expr) : String :=
  "(" ++ renderList Expr.render items ++ ")"

/-- An item of a selection, which may have another name. -/
structure SelectItem where
  /-- What is shown. -/
  expr : Expr
  /-- The other name. -/
  otherName : Option Ident

/-- The text of an item of a selection. -/
def SelectItem.render (item : SelectItem) : String :=
  item.expr.render ++ behind " AS " Ident.render item.otherName

/-- A table that rows are taken from. -/
structure TableSource where
  /-- The name of the table, or of a function that returns rows. -/
  name : QualifiedName
  /-- The arguments of the function. -/
  arguments : Option (List Expr) := none
  /-- Another name. -/
  otherName : Option Ident := none
  /-- Other names of the columns. -/
  columns : List Ident := []

/-- The text of a table that rows are taken from. -/
def TableSource.render (t : TableSource) : String :=
  t.name.render ++ behind "" renderRow t.arguments ++ behind " AS " Ident.render t.otherName
    ++ (if t.columns.isEmpty then "" else " " ++ renderColumns t.columns)

/-- An expression to sort by. -/
structure SortItem where
  /-- The expression. -/
  expr : Expr
  /-- Whether greater values come first, if it is said. -/
  descending : Option Bool
  /-- Whether absent values come first, if it is said. -/
  nullsFirst : Option Bool

/-- The text of an expression to sort by. -/
def SortItem.render (item : SortItem) : String :=
  item.expr.render
    ++ behind "" (fun descending => if descending then " DESC" else " ASC") item.descending
    ++ behind " NULLS " (fun first => if first then "FIRST" else "LAST") item.nullsFirst

/-- Which rows of a selection are shown once. -/
inductive Distinction where
  /-- Equal ones. -/
  | rows
  /-- Those that agree in some expressions. -/
  | on (items : List Expr)

/-- The text of a distinction. -/
def Distinction.render : Distinction → String
  | rows => "DISTINCT "
  | on items => "DISTINCT ON " ++ renderRow items ++ " "

/-- A limit to the number of rows. -/
structure Top where
  /-- The number, which may be computed. -/
  quantity : Nat ⊕ Expr
  /-- Whether it is a number of hundredths. -/
  percent : Bool
  /-- Whether rows that are equal to the last one count too. -/
  withTies : Bool

/-- The text of a limit. -/
def Top.render (t : Top) : String :=
  "TOP "
    ++ (match t.quantity with
      | .inl n => toString n
      | .inr e => "(" ++ e.render ++ ")")
    ++ wordsIf t.percent " PERCENT" ++ wordsIf t.withTies " WITH TIES" ++ " "

/-- How rows are grouped. -/
inductive Grouping where
  /-- By all items that are shown. -/
  | all
  /-- By expressions, or not at all. -/
  | expressions (items : List Expr)

/-- The text of a grouping. -/
def Grouping.render : Grouping → String
  | all => " GROUP BY ALL"
  | expressions items => listBehind " GROUP BY " Expr.render items

/-- A selection of rows from tables. -/
structure Select where
  /-- Which rows are shown once. -/
  distinction : Option Distinction
  /-- How many rows are shown. -/
  top : Option Top
  /-- What is shown. -/
  items : List SelectItem
  /-- The tables. -/
  tables : List TableSource
  /-- The condition on the rows. -/
  condition : Option Expr
  /-- How rows are grouped. -/
  grouping : Grouping
  /-- The condition on the groups. -/
  groupCondition : Option Expr

/-- The text of a selection. -/
def Select.render (s : Select) : String :=
  "SELECT " ++ behind "" Distinction.render s.distinction ++ behind "" Top.render s.top
    ++ renderList SelectItem.render s.items ++ listBehind " FROM " TableSource.render s.tables
    ++ behind " WHERE " Expr.render s.condition ++ s.grouping.render
    ++ behind " HAVING " Expr.render s.groupCondition

/-- Where the rows of a query come from. -/
inductive Source where
  /-- From tables. -/
  | select (selection : Select)
  /-- They are given, perhaps with a keyword in front of each. -/
  | values (keyword : Bool) (rows : List (List Expr))

/-- The text of a source. -/
def Source.render : Source → String
  | select selection => selection.render
  | values keyword rows =>
    "VALUES " ++ renderList (fun row => wordsIf keyword "ROW" ++ renderRow row) rows

/-- How many rows of a query are taken and passed over. -/
structure Window where
  /-- How many rows to take. -/
  limit : Option Expr := none
  /-- How many rows to pass over, with the word behind the number. -/
  offset : Option (Expr × String) := none

/-- The text of a window. -/
def Window.render (w : Window) : String :=
  behind " LIMIT " Expr.render w.limit
    ++ behind " OFFSET " (fun (e, word) => e.render ++ word) w.offset

/-- Rows in an order, perhaps not all. -/
structure Query where
  /-- Where the rows come from. -/
  source : Source
  /-- The order. -/
  order : List SortItem
  /-- Which of the rows are taken. -/
  window : Window

/-- The text of a query. -/
def Query.render (q : Query) : String :=
  q.source.render ++ listBehind " ORDER BY " SortItem.render q.order ++ q.window.render

end SchemaMigration.Sql
