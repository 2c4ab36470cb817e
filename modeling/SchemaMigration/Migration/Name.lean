import SchemaMigration.Files.Path
import SchemaMigration.Text.DecimalDigit

/-!
# Names of migrations

The name of a migration is that of its file without the extension. By convention it is a time stamp
of fourteen digits, an underscore and words in snake case; `snakeCase` makes such words of any text.
-/

namespace SchemaMigration

open Text

/-- The name of the migration in a file. -/
def migrationName? (path : String) : Option String :=
  Path.stem? path

/-- Whether a character may stand in the words of a name. -/
def isNameChar (c : Char) : Bool :=
  ('a' ≤ c && c ≤ 'z') || ('0' ≤ c && c ≤ '9') || c == '_'

/-- Whether a name is a time stamp of fourteen digits, an underscore and at least one character of
words in snake case. -/
def followsConvention (name : String) : Bool :=
  let chars := name.toList
  let words := (chars.drop 15)
  (chars.take 14).length == 14 && (chars.take 14).all isDecimalDigit &&
    chars[14]? == some '_' && !words.isEmpty && words.all isNameChar

/-- The words of a text that follow what was written so far, in reverse. An underscore stands in
front of an upper-case letter after a lower-case one or a digit, and for other characters between
words. -/
def snakeFrom (written : List Char) (afterLower : Bool) : List Char → List Char
  | [] => (written.dropWhile (· == '_')).reverse
  | c :: rest =>
    if c.isAlphanum then
      let written := if c.isUpper && afterLower then '_' :: written else written
      snakeFrom (c.toLower :: written) (!c.isUpper) rest
    else
      let written := if written.isEmpty || written.head? == some '_' then written else '_' :: written
      snakeFrom written false rest

/-- A text as words in snake case. -/
def snakeCase (text : String) : String :=
  String.ofList (snakeFrom [] false text.toList)

end SchemaMigration
