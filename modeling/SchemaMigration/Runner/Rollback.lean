import SchemaMigration.Runner.Run

/-!
# Reverting migrations

Migrations are reverted in descending order of their names: one of them, those from a batch on, or
those of the last batches. A migration without a file is passed over. `reset` reverts all, `refresh`
then applies all again, and `fresh` drops all tables instead.
-/

namespace SchemaMigration

/-- Which migrations are to be reverted. A named one counts before a batch, and a batch before a
number of batches. -/
structure RollbackOptions where
  /-- The number of batches, 1 if there is none. -/
  steps : Option Nat := none
  /-- The first batch to be reverted. -/
  batch : Option Int64 := none
  /-- The migration to be reverted. -/
  target : Option String := none
  /-- Whether nothing is really done. -/
  pretend : Bool := false
deriving DecidableEq

/-- What a rollback did. -/
structure RollbackResult where
  /-- The migrations that were reverted, in order. -/
  rolledBack : List String := []
  /-- The migrations that have no file. -/
  skippedMissing : List String := []
  /-- Whether nothing was really done. -/
  pretend : Bool := false
deriving DecidableEq

/-- Whether nothing was reverted or passed over. -/
def RollbackResult.isEmpty (result : RollbackResult) : Bool :=
  result.rolledBack.isEmpty && result.skippedMissing.isEmpty

namespace Runner

/-- The records to be reverted. -/
def rollbackSelection (table : String) (o : RollbackOptions) (s : Store) :
    Except Fault (List Record) := do
  match o.target with
  | some target =>
    match ← Tracking.find table target s with
    | some record => return [record]
    | none => throw (.failed (.validation (.notRun target)))
  | none =>
    match o.batch with
    | some batch => Tracking.fromBatch table batch s
    | none => Tracking.lastBatches table (max 1 (o.steps.getD 1)) s

/-- The records to be reverted, in descending order of their names. -/
def rollbackTargets (table : String) (o : RollbackOptions) (s : Store) :
    Except Fault (List Record) := do
  return (← rollbackSelection table o s).mergeSort (fun a b => b.migration ≤ a.migration)

/-- Reverts records in order; those without a file are passed over. -/
def revertAll (r : Runner) (files : Dict String) (pretend : Bool) :
    List Record → Action RollbackResult
  | [] => return { pretend }
  | record :: rest => do
    match files.get? record.migration with
    | none => do
      r.say s!"Migration not found: {record.migration}"
      let result ← r.revertAll files pretend rest
      return { result with skippedMissing := record.migration :: result.skippedMissing }
    | some path => do
      r.execute { name := record.migration, path, batch := record.batch, direction := .down, pretend }
      let result ← r.revertAll files pretend rest
      return { result with rolledBack := record.migration :: result.rolledBack }

/-- Reverts nothing. -/
def nothingToRollBack (r : Runner) (pretend : Bool) : Action RollbackResult := do
  r.say "Nothing to rollback."
  return { pretend }

/-- Reverts migrations without taking the lock. -/
def rollbackRecords (r : Runner) (o : RollbackOptions) : Action RollbackResult := do
  if !(← get).store.hasTable r.config.table then r.nothingToRollBack o.pretend
  else
    let records ← Action.read (rollbackTargets r.config.table o)
    if records.isEmpty then r.nothingToRollBack o.pretend
    else
      let files ← r.files
      r.emit (.rollbackStarted (records.map (·.migration)) o.pretend)
      let result ← r.revertAll files o.pretend records
      r.emit (.rollbackCompleted result.rolledBack o.pretend)
      return result

/-- Reverts migrations. -/
def rollback (r : Runner) (o : RollbackOptions) : Action RollbackResult :=
  r.withLock (r.rollbackRecords o)

/-- Reverts all batches without taking the lock: as many as the number of the last one, which is read
without sign. -/
def resetRecords (r : Runner) (pretend : Bool) : Action RollbackResult := do
  let last ←
    if (← get).store.hasTable r.config.table then Action.read (Tracking.lastBatch r.config.table)
    else pure 0
  if last = 0 then r.nothingToRollBack pretend
  else r.rollbackRecords { steps := some last.toUInt64.toNat, pretend }

/-- Reverts all batches. -/
def reset (r : Runner) (pretend : Bool) : Action RollbackResult :=
  r.withLock (r.resetRecords pretend)

/-- Drops tables in order, as far as they are there. -/
def dropTables : List String → Action Unit
  | [] => return ()
  | table :: rest => do
    if (← get).store.hasTable table then Action.change (Store.dropTable table)
    dropTables rest

/-- Drops all tables and applies all migrations, without taking the lock. -/
def freshPending (r : Runner) (o : RunOptions) : Action RunResult := do
  if o.pretend then
    let reverted ←
      if (← get).store.hasTable r.config.table then Action.read (Tracking.ran r.config.table)
      else pure []
    r.runPending o reverted
  else
    dropTables (← get).store.listTables
    r.say "Dropped all tables successfully."
    r.runPending o []

/-- Drops all tables and applies all migrations. -/
def fresh (r : Runner) (o : RunOptions) : Action RunResult :=
  r.withLock (r.freshPending o)

/-- Reverts all batches and applies all migrations, without taking the lock. -/
def refreshPending (r : Runner) (o : RunOptions) : Action RunResult := do
  let result ← r.resetRecords o.pretend
  r.runPending o (if o.pretend then result.rolledBack else [])

/-- Reverts all batches and applies all migrations. -/
def refresh (r : Runner) (o : RunOptions) : Action RunResult :=
  r.withLock (r.refreshPending o)

end Runner

end SchemaMigration
