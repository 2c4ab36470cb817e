import SchemaMigration.Migration.SectionFile
import SchemaMigration.Program
import SchemaMigration.Sql.Split

/-!
# Migrations

A migration is a pair of programs, one that changes a store and one that takes the change back. The
programs of a section file run its statements one by one.
-/

namespace SchemaMigration

/-- A change of a store that can be taken back. -/
structure Migration where
  /-- Makes the change. -/
  up : Program Unit
  /-- Takes the change back. -/
  down : Program Unit
  /-- Whether each program is run inside a transaction if the store has them. -/
  transactional : Bool := true
  /-- What the change is. -/
  description : Option String := none
  /-- The connection that the change is meant for, if it is not the usual one. -/
  connection : Option String := none
  /-- The migrations that should come first, for information only. -/
  dependencies : List String := []

namespace Migration

/-- The program of a direction. -/
def body (m : Migration) : Direction → Program Unit
  | .up => m.up
  | .down => m.down

/-- Runs statements one by one. -/
def runAll : List String → Program Unit
  | [] => .pure ()
  | statement :: rest => (Program.request (.raw statement)).bind (fun _ => runAll rest)

/-- Runs the statements of a text one by one. -/
def runText (text : String) : Program Unit :=
  if text.isEmpty then .pure () else runAll (Sql.split text)

/-- The migration of a section file. -/
def ofSections (f : SectionFile) : Migration where
  up := runText f.up
  down := runText f.down

end Migration

end SchemaMigration
