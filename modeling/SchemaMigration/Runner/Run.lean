import SchemaMigration.Runner.Execute
import SchemaMigration.Runner.Seed

/-!
# Applying migrations

The pending migrations are those with a file and without a record. A run applies them in the order of
their names as one batch and stops at the first that fails.
-/

namespace SchemaMigration

/-- What a run is to do. -/
structure RunOptions where
  /-- Whether nothing is really done. -/
  pretend : Bool := false
  /-- Whether only the first pending migration is applied. -/
  step : Bool := false
  /-- The migrations that may be applied, if not all. -/
  only : Option (List String) := none
  /-- Whether the default seeder is run afterwards. -/
  seed : Bool := false
deriving DecidableEq

/-- What a run did. -/
structure RunResult where
  /-- The batch, if anything was pending. -/
  batch : Option Int64
  /-- The migrations that were applied. -/
  migrated : List String
  /-- Whether nothing was really done. -/
  pretend : Bool
deriving DecidableEq

/-- Whether nothing was applied. -/
def RunResult.isEmpty (result : RunResult) : Bool :=
  result.migrated.isEmpty

namespace Runner

/-- The files without a record, by name. -/
def pendingFiles (files : Dict String) (records : List Record) : List (String × String) :=
  files.entries.filter (fun file => !(records.map (·.migration)).contains file.1)

/-- The files that a run is about: the pending ones that may be applied, and only the first of them
in steps. -/
def selectFiles (o : RunOptions) (pending : List (String × String)) : List (String × String) :=
  let allowed :=
    match o.only with
    | some names => pending.filter (fun file => names.contains file.1)
    | none => pending
  if o.step then allowed.take 1 else allowed

/-- The greatest batch of records, 0 if there is none. -/
def greatestBatch (records : List Record) : Int64 :=
  match records.map (·.batch) with
  | [] => 0
  | batch :: rest => rest.foldl max batch

/-- The first of the names that no file has. -/
def unknownName? (files : Dict String) (names : List String) : Option String :=
  names.find? (fun name => !files.contains name)

/-- Fails if a migration that is to be applied has no file. -/
def checkNames (r : Runner) (o : RunOptions) : Action Unit := do
  match o.only with
  | none => return ()
  | some names =>
    match unknownName? (← r.files) names with
    | some name => Action.fail (.validation (.unknownMigration name))
    | none => return ()

/-- The records, none if there is no tracking table. A pretence does not create the table. -/
def recordsForRun (r : Runner) (pretend : Bool) : Action (List Record) := do
  if pretend then
    if (← get).store.hasTable r.config.table then Action.read (Tracking.records r.config.table)
    else return []
  else
    Action.change (Tracking.ensure r.config.table)
    Action.read (Tracking.records r.config.table)

/-- Applies files in order. -/
def applyAll (r : Runner) (batch : Int64) (pretend : Bool) : List (String × String) → Action Unit
  | [] => return ()
  | (name, path) :: rest => do
    r.execute { name, path, batch, direction := .up, pretend }
    r.applyAll batch pretend rest

/-- Applies the pending migrations without taking the lock. Records of migrations that are taken to
be reverted do not count. -/
def runPending (r : Runner) (o : RunOptions) (reverted : List String) : Action RunResult := do
  r.checkNames o
  let records := (← r.recordsForRun o.pretend).filter (fun record =>
    !reverted.contains record.migration)
  let selected := selectFiles o (pendingFiles (← r.files) records)
  if selected.isEmpty then
    r.say "Nothing to migrate."
    return { batch := none, migrated := [], pretend := o.pretend }
  else
    let batch ← Action.resume (Tracking.following (greatestBatch records))
    let names := selected.map (·.1)
    r.emit (.batchStarted batch names o.pretend)
    r.applyAll batch o.pretend selected
    r.emit (.batchCompleted batch names o.pretend)
    if o.seed && !o.pretend && r.config.seedersPath.isSome then r.seed none
    return { batch := some batch, migrated := names, pretend := o.pretend }

/-- Applies the pending migrations as one batch. -/
def run (r : Runner) (o : RunOptions) : Action RunResult :=
  r.withLock (r.runPending o [])

end Runner

end SchemaMigration
