import SchemaMigration.Error
import SchemaMigration.Text.Blank
import SchemaMigration.Text.LowerCase

/-!
# Section files

A section file holds the statements of a migration. A comment line that names a direction starts a
section for it; blank lines and other comment lines are left out, and so is what stands before the
first section.
-/

namespace SchemaMigration

open Text

/-- The directions of a migration. -/
inductive Direction where
  /-- Apply it. -/
  | up
  /-- Revert it. -/
  | down
deriving DecidableEq

/-- The word for a direction. -/
def Direction.name : Direction → String
  | up => "up"
  | down => "down"

/-- The statements of a migration in both directions. -/
structure SectionFile where
  /-- The name of the migration. -/
  name : String
  /-- The statements that apply it. -/
  up : String
  /-- The statements that revert it. -/
  down : String
deriving DecidableEq

namespace SectionFile

/-- Whether the text of a comment names a direction: its word, and then nothing, a colon or the word
for migrations. -/
def marks (comment : List Char) (direction : Direction) : Bool :=
  match dropStart? direction.name.toList comment with
  | none => false
  | some rest =>
    rest.isEmpty || rest.head? == some ':' || startsWith (trimStart rest) "migration".toList

/-- The text of a comment line in lower case, without the two hyphens and blanks. -/
def comment? (line : List Char) : Option (List Char) :=
  (dropStart? ['-', '-'] (lowerChars (trim line))).map trim

/-- The direction whose section starts at a line. -/
def marker? (line : List Char) : Option Direction :=
  match comment? line with
  | none => none
  | some comment =>
    if marks comment .up then some .up
    else if marks comment .down then some .down
    else none

/-- Whether a line has statements on it: it is neither blank nor a comment. -/
def isStatementLine (line : List Char) : Bool :=
  let trimmed := trim line
  !trimmed.isEmpty && !startsWith trimmed ['-', '-']

/-- The lines of statements, each with the direction of its section, in the order of the file. -/
def statementLines (section_ : Option Direction) :
    List (List Char) → List (Direction × List Char)
  | [] => []
  | line :: rest =>
    match marker? line with
    | some direction => statementLines (some direction) rest
    | none =>
      match section_ with
      | some direction =>
        if isStatementLine line then (direction, line) :: statementLines section_ rest
        else statementLines section_ rest
      | none => statementLines section_ rest

/-- The lines of one direction as one text, without blanks at its ends. -/
def body (direction : Direction) (lines : List (Direction × List Char)) : String :=
  let own := (lines.filter (fun line => line.1 = direction)).map (·.2)
  String.ofList (trim (joinChars ['\n'] own))

/-- Reads the file of a migration. It has to have a section that applies the migration. -/
def parse (name content : String) : Except Error SectionFile :=
  let lines := lines content.toList
  let statements := statementLines none lines
  if lines.any (fun line => marker? line == some .up) then
    .ok { name, up := body .up statements, down := body .down statements }
  else .error (.validation (.noUpSection name))

end SectionFile

end SchemaMigration
