import SchemaMigration.Text.Pieces

/-!
# Errors

An `Error` is a cause: what was wrong, with the names involved. `Error.message` is its wording, and
`Error.isPreMutation` tells the kinds that are raised before anything was changed. A `Fault` is what
ends an operation early: an error, or a number that left its range.
-/

namespace SchemaMigration

open Text

/-- What is wrong with a configuration. -/
inductive ConfigurationCause where
  /-- No backend has this name. -/
  | unsupportedBackend (name : String)
  /-- A variable of the environment cannot be read as what it stands for. -/
  | invalidVariable (name value expected : String)
  /-- The name of the tracking table is blank. -/
  | emptyTableName
  /-- No directory of migrations is given. -/
  | noPaths
  /-- No extension of migration files is given. -/
  | noExtensions
  /-- The time limit is zero. -/
  | zeroTimeout
  /-- A schema is used without a store. -/
  | noStore
  /-- Seeding was asked for, but no directory of seeders is given. -/
  | noSeedersPath
  /-- A file is to be created, but no directory of migrations is given. -/
  | noDirectory
  /-- A cause in the words of its reporter. -/
  | stated (text : String)
deriving DecidableEq

/-- What is wrong with a migration, a seeder or a definition. -/
inductive ValidationCause where
  /-- No file has this name. -/
  | unknownMigration (name : String)
  /-- A migration to be rolled back is not recorded. -/
  | notRun (name : String)
  /-- A file of sections has no section for applying it. -/
  | noUpSection (name : String)
  /-- A path does not end in the name of a file. -/
  | invalidFileName (path : String)
  /-- A migration that is no file of sections has no registered body. -/
  | notRegistered (name path : String)
  /-- A name for a new migration has no letter and no digit. -/
  | unusableName (name : String)
  /-- A record would have a batch number that no batch has. -/
  | reservedBatch (migration : String) (batch : Int)
  /-- A foreign key does not say which table it refers to. -/
  | noReferencedTable (table : String) (columns : List String)
  /-- A seeder has no file. -/
  | seederNotFound (name directory : String)
  /-- A seeder has no registered body. -/
  | seederNotRegistered (name path : String)
  /-- A cause in the words of its reporter. -/
  | stated (text : String)
deriving DecidableEq

/-- What a store refuses. -/
inductive AdapterCause where
  /-- A table to be created is there. -/
  | tableExists (table : String)
  /-- A table is not there. -/
  | noSuchTable (table : String)
  /-- No row has the identifying value, which is given in its form for inspection. -/
  | noSuchRow (table column value : String)
  /-- A statement contains a part that is to be rejected. -/
  | rejected (part statement : String)
  /-- A transaction is open. -/
  | transactionActive
  /-- No transaction is open that could be committed. -/
  | nothingToCommit
  /-- No transaction is open that could be rolled back. -/
  | nothingToRollBack
  /-- A text is not the written form of what it should hold. -/
  | serialization
  /-- A cause in the words of its reporter. -/
  | stated (text : String)
deriving DecidableEq

/-- Why a lock is not taken. -/
inductive LockCause where
  /-- The lock was held elsewhere for all of the time that was waited. -/
  | held (name : String) (waited : Nat)
  /-- A cause in the words of its reporter. -/
  | stated (text : String)
deriving DecidableEq

/-- What is wrong with a file or a directory. -/
inductive FileProblem where
  /-- There is none. -/
  | missing
  /-- There is one already. -/
  | alreadyExists
  /-- Something on the way to it is not a directory. -/
  | notDirectory
  /-- It is a directory. -/
  | isDirectory
  /-- Its name is too long. -/
  | nameTooLong
  /-- Its bytes are not a text. -/
  | notText
  /-- A problem in the words of its reporter. -/
  | stated (text : String)
deriving DecidableEq

/-- Why an operation failed. -/
inductive Error where
  /-- The configuration is wrong. -/
  | configuration (cause : ConfigurationCause)
  /-- A migration, a seeder or a definition is wrong. -/
  | validation (cause : ValidationCause)
  /-- The body of a migration failed. -/
  | execution (migration : String) (source : Error)
  /-- The body of a migration took longer than its limit in milliseconds. -/
  | timeout (migration : String) (limit : Nat)
  /-- The store refused. -/
  | adapter (cause : AdapterCause)
  /-- A file could not be used. -/
  | io (path : String) (problem : FileProblem)
  /-- The lock was not taken. -/
  | lockUnavailable (cause : LockCause)
deriving DecidableEq

/-- What ends an operation early. -/
inductive Fault where
  /-- The operation failed. -/
  | failed (error : Error)
  /-- A number would have left the range of 64 bits. -/
  | overflow
deriving DecidableEq

/-- The wording of a cause. -/
def ConfigurationCause.message : ConfigurationCause → String
  | unsupportedBackend name => s!"Unsupported database type: {name}"
  | invalidVariable name value expected =>
    s!"Invalid value for {name}: '{value}', expected {expected}"
  | emptyTableName => "Migrations table name cannot be empty"
  | noPaths => "At least one migrations path must be configured"
  | noExtensions => "At least one migration file extension must be configured"
  | zeroTimeout => "Migration timeout must be greater than zero"
  | noStore =>
    "No database adapter configured for Schema; call set_adapter() or register a default adapter"
  | noSeedersPath => "Seeders path is not configured"
  | noDirectory => "No migrations directory configured"
  | stated text => text

/-- The wording of a cause. -/
def ValidationCause.message : ValidationCause → String
  | unknownMigration name => s!"Unknown migration '{name}'"
  | notRun name => s!"Migration '{name}' has not been run"
  | noUpSection name => s!"Migration '{name}' has no '-- Up migration' section"
  | invalidFileName path => s!"Invalid migration file name: {path}"
  | notRegistered name path =>
    s!"No migration registered for '{name}' ({path}); register a factory in the MigrationRegistry"
  | unusableName name => s!"Migration name '{name}' contains no usable characters"
  | reservedBatch migration batch =>
    s!"Refusing to log migration '{migration}' with reserved batch number {batch}"
  | noReferencedTable table columns =>
    "Foreign key on " ++ table ++ "(" ++ join ", " columns ++ ") has no referenced table"
  | seederNotFound name directory => s!"Seeder '{name}' not found in {directory}"
  | seederNotRegistered name path => s!"Seeder '{name}' ({path}) is not registered"
  | stated text => text

/-- The wording of a cause. -/
def AdapterCause.message : AdapterCause → String
  | tableExists table => s!"table {table} already exists"
  | noSuchTable table => s!"no such table: {table}"
  | noSuchRow table column value => s!"no row in {table} with {column} = {value}"
  | rejected part statement => s!"statement rejected ({part}): {statement}"
  | transactionActive => "transaction already active"
  | nothingToCommit => "no active transaction to commit"
  | nothingToRollBack => "no active transaction to roll back"
  | serialization => "Serialization"
  | stated text => text

/-- The wording of a cause. -/
def LockCause.message : LockCause → String
  | held name waited => s!"'{name}' is held by another process (waited {waited}ms)"
  | stated text => text

/-- The wording of a problem. -/
def FileProblem.message : FileProblem → String
  | missing => "No such file or directory (os error 2)"
  | alreadyExists => "File exists (os error 17)"
  | notDirectory => "Not a directory (os error 20)"
  | isDirectory => "Is a directory (os error 21)"
  | nameTooLong => "File name too long (os error 36)"
  | notText => "stream did not contain valid UTF-8"
  | stated text => text

namespace Error

/-- The name of the kind of an error. -/
def kind : Error → String
  | configuration _ => "Configuration"
  | validation _ => "Validation"
  | execution _ _ => "Execution"
  | timeout _ _ => "Timeout"
  | adapter _ => "Adapter"
  | io _ _ => "Io"
  | lockUnavailable _ => "LockUnavailable"

/-- The wording of an error. -/
def message : Error → String
  | configuration cause => "Configuration error: " ++ cause.message
  | validation cause => "Validation error: " ++ cause.message
  | execution migration source => s!"Migration '{migration}' failed: " ++ source.message
  | timeout migration limit => s!"Migration '{migration}' timed out after {limit}ms"
  | adapter cause => "Adapter error: " ++ cause.message
  | io path problem => s!"I/O error on {path}: " ++ problem.message
  | lockUnavailable cause => "Migration lock unavailable: " ++ cause.message

/-- The error of a migration whose body failed. An error that names its migration stays as it is. -/
def inMigration (migration : String) (error : Error) : Error :=
  match error with
  | execution _ _ => error
  | timeout _ _ => error
  | _ => execution migration error

/-- The error of a migration whose body ran out of a time given in microseconds. -/
def timedOut (migration : String) (micros : Nat) : Error :=
  timeout migration (micros / 1000)

/-- Whether an error is of a kind that is raised before any change. -/
def isPreMutation : Error → Bool
  | configuration _ => true
  | validation _ => true
  | _ => false

end Error

end SchemaMigration
