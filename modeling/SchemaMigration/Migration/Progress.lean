import SchemaMigration.Dict

/-!
# Progress

A `Progress` says which migration is being run and how the earlier ones ended. It is only observed:
nothing depends on it.
-/

namespace SchemaMigration

/-- The phases of running migrations. -/
inductive Phase where
  /-- Nothing was run yet. -/
  | idle
  /-- A migration is being run. -/
  | running
  /-- The last migration succeeded. -/
  | completed
  /-- The last migration failed. -/
  | error
deriving DecidableEq

/-- The name of a phase. -/
def Phase.name : Phase → String
  | idle => "Idle"
  | running => "Running"
  | completed => "Completed"
  | error => "Error"

/-- How a migration ended. -/
structure MigrationResult where
  /-- Whether it succeeded. -/
  success : Bool
  /-- The message of the error, if there is one. -/
  error : Option String := none
deriving DecidableEq

/-- Which migration is being run, and how the earlier ones ended. -/
structure Progress where
  /-- The phase. -/
  phase : Phase := .idle
  /-- The migration that is being run. -/
  current : Option String := none
  /-- How each migration ended the last time. -/
  results : Dict MigrationResult := ∅

namespace Progress

/-- A migration begins. -/
def start (p : Progress) (migration : String) : Progress :=
  { p with phase := .running, current := some migration }

/-- The migration that is being run ends. -/
def complete (p : Progress) (result : MigrationResult) : Progress :=
  { phase := if result.success then .completed else .error
    current := none
    results :=
      match p.current with
      | some migration => p.results.insert migration result
      | none => p.results }

/-- Whether a migration is being run. -/
def isRunning (p : Progress) : Bool :=
  p.phase == .running

end Progress

end SchemaMigration
