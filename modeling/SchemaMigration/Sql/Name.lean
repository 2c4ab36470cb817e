import SchemaMigration.Sql.Token

/-!
# Names of SQL

Names, with points or without, and literals, and how they are written: quotes stay as they were.
-/

namespace SchemaMigration.Sql

open Text

/-- The text between quotes, after a character. A quote is written twice; but two that stand side by
side stay two, and one behind a backslash stays one. -/
def quotedBody (quote last : Char) : List Char → List Char
  | [] => []
  | [c] => if c = quote ∧ last ≠ '\\' then [quote, quote] else [c]
  | c :: d :: rest =>
    if c = quote then
      if last = '\\' then quote :: quotedBody quote last (d :: rest)
      else if d = quote then quote :: quote :: quotedBody quote quote rest
      else quote :: quote :: quotedBody quote quote (d :: rest)
    else c :: quotedBody quote c (d :: rest)

/-- A text in quotes. -/
def quotedText (quote : Char) (text : List Char) : String :=
  String.ofList (quote :: (quotedBody quote '\x00' text ++ [quote]))

/-- A literal in quotes. -/
def literalText (text : List Char) : String :=
  quotedText '\'' text

/-- The text of a name. -/
def Ident.render (name : Ident) : String :=
  match name.quote with
  | some quote => quotedText quote name.text
  | none => String.ofList name.text

/-- The text of a name in its quotes, whatever is between them. -/
def Ident.asWritten (name : Ident) : String :=
  match name.quote with
  | some quote => String.ofList (quote :: (name.text ++ [quote]))
  | none => String.ofList name.text

/-- A name with points. -/
abbrev QualifiedName := List Ident

/-- The text of a name with points. -/
def QualifiedName.render (path : QualifiedName) : String :=
  join "." (path.map Ident.render)

/-- The texts of a list. -/
def renderList {α : Type} (render : α → String) (items : List α) : String :=
  join ", " (items.map render)

end SchemaMigration.Sql
