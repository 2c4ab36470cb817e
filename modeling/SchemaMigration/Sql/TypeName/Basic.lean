import SchemaMigration.Sql.Name

/-!
# Types of SQL

The types of columns and of literals, and how they are written.
-/

namespace SchemaMigration.Sql

open Text

/-- The type of a column. -/
inductive TypeName where
  /-- A type that has keywords, perhaps with a size in parentheses and more keywords behind it. -/
  | known (words : String) (size : Option String) (ending : String)
  /-- Any other type, with what stands in parentheses behind its name. -/
  | custom (name : QualifiedName) (modifiers : List String)
deriving DecidableEq

/-- The text of a type. -/
def TypeName.render : TypeName → String
  | known words size ending =>
    words ++ (match size with
      | some size => "(" ++ size ++ ")"
      | none => "") ++ ending
  | custom name modifiers =>
    name.render ++ (if modifiers.isEmpty then "" else "(" ++ join ", " modifiers ++ ")")

end SchemaMigration.Sql
