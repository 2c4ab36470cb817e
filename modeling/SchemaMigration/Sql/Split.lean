import SchemaMigration.Sql.Statement.Reader

/-!
# Splitting a text into statements

If a whole text can be read, its statements are written in normal form. Otherwise the text is cut at
every semicolon, also inside of literals and comments.
-/

namespace SchemaMigration.Sql

open Text

/-- The statements of a text, if all of it can be read. -/
def read? (text : List Char) : Option (List Statement) := do
  statements? (← tokens? text)

/-- The pieces of a text between semicolons, without blanks at their ends and without empty ones. -/
def splitPlainly (text : List Char) : List (List Char) :=
  ((splitAt ';' text).map trim).filter (fun piece => !piece.isEmpty)

/-- The statements of a text, each with a semicolon behind it. -/
def split (text : String) : List String :=
  match read? text.toList with
  | some statements => statements.map (fun statement => statement.render ++ ";")
  | none => (splitPlainly text.toList).map (fun piece => String.ofList piece ++ ";")

end SchemaMigration.Sql
