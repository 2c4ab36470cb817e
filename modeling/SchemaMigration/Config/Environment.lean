import SchemaMigration.Config.Basic
import SchemaMigration.Text.LowerCase

/-!
# Configurations from the environment

Each setting is read from a variable of the environment; where there is none the default holds.
-/

namespace SchemaMigration

open Text

/-- The variables of an environment. -/
abbrev Environment := String → Option String

/-- Reads a number of 64 bits without sign: ASCII digits, which a plus may precede. -/
def readNat64? (text : List Char) : Option Nat := do
  let n ← readNat? ((dropStart? ['+'] text).getD text)
  if n < UInt64.size then return n else none

/-- Reads a truth value in one of its spellings. -/
def readSwitch? (text : String) : Option Bool :=
  let word := lower (trimmed text)
  if ["1", "true", "yes", "on"].contains word then some true
  else if ["0", "false", "no", "off", ""].contains word then some false
  else none

/-- The paths between the colons of a text, without empty ones. -/
def splitPaths (text : String) : List String :=
  ((splitAt ':' text.toList).filter (fun path => !path.isEmpty)).map String.ofList

namespace Environment

/-- Reads a variable if there is one; fails if it cannot be read. -/
def read {α : Type} (env : Environment) (name expected : String) (reader : String → Option α) :
    Except Error (Option α) :=
  match env name with
  | none => .ok none
  | some value =>
    match reader value with
    | some a => .ok (some a)
    | none => .error (.configuration (.invalidVariable name value expected))

/-- Reads a list of paths, of which there has to be one. -/
def readPaths? (text : String) : Option (List String) :=
  let paths := splitPaths text
  if paths.isEmpty then none else some paths

/-- Reads the truth value of a variable. -/
def readFlag (env : Environment) (name : String) : Except Error (Option Bool) :=
  env.read name "a boolean (true/false)" readSwitch?

end Environment

/-- The configuration that the variables of an environment describe. -/
def Config.ofEnvironment (env : Environment) : Except Error Config := do
  let default : Config := {}
  let paths ← env.read "ARCANOX_MIGRATIONS_PATH" "at least one directory" Environment.readPaths?
  let timeout ← env.read "ARCANOX_MIGRATION_TIMEOUT_MS" "milliseconds"
    (fun value => readNat64? (trim value.toList))
  let advisoryLock ← env.readFlag "ARCANOX_ADVISORY_LOCK"
  let quiet ← env.readFlag "ARCANOX_QUIET"
  return { default with
    paths := paths.getD default.paths
    table := (env "ARCANOX_MIGRATIONS_TABLE").getD default.table
    seedersPath := env "ARCANOX_SEEDERS_PATH"
    timeout
    advisoryLock := advisoryLock.getD default.advisoryLock
    quiet := quiet.getD default.quiet }

end SchemaMigration
