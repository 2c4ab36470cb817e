import SchemaMigration.Error
import SchemaMigration.Text.Blank

/-!
# Configurations

Where migrations and seeders lie, how the tracking table is called, and how migrations are run.
-/

namespace SchemaMigration

open Text

/-- The settings of a runner of migrations. -/
structure Config where
  /-- The directories of migrations; earlier ones count more. -/
  paths : List String := ["database/migrations"]
  /-- The name of the tracking table. -/
  table : String := "arcanox_migrations"
  /-- The extensions of migration files, without the point. -/
  extensions : List String := ["rs", "sql"]
  /-- The directory of seeders. -/
  seedersPath : Option String := none
  /-- The milliseconds that the body of a migration may take. -/
  timeout : Option Nat := none
  /-- Whether a lock is held while migrations are run. -/
  advisoryLock : Bool := false
  /-- The milliseconds that the lock is waited for. -/
  lockTimeout : Nat := 10000
  /-- Whether no status is printed. -/
  quiet : Bool := false
deriving DecidableEq

namespace Config

/-- What is wrong with a configuration, the first of several causes. -/
def flaw? (c : Config) : Option ConfigurationCause :=
  if (trim c.table.toList).isEmpty then some .emptyTableName
  else if c.paths.isEmpty then some .noPaths
  else if c.extensions.isEmpty then some .noExtensions
  else if c.timeout = some 0 then some .zeroTimeout
  else none

/-- Fails if something is wrong with a configuration. -/
def validate (c : Config) : Except Error Unit :=
  match c.flaw? with
  | some cause => .error (.configuration cause)
  | none => .ok ()

/-- The name of the lock that is held while migrations are run. -/
def lockName (c : Config) : String :=
  c.table ++ "_lock"

end Config

end SchemaMigration
