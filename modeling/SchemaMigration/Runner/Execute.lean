import SchemaMigration.Runner.Basic
import SchemaMigration.Tracking

/-!
# Carrying out one migration

A migration is loaded, its program is run in a transaction and under the time limit, and then the
tracking table is brought up to date. In a pretence only the events are emitted and the lines are
printed.
-/

namespace SchemaMigration

/-- One migration to be carried out. -/
structure Task where
  /-- The name of the migration. -/
  name : String
  /-- Its file. -/
  path : String
  /-- The batch that it is or was part of. -/
  batch : Int64
  /-- Whether it is applied or reverted. -/
  direction : Direction
  /-- Whether nothing is really done. -/
  pretend : Bool
deriving DecidableEq

namespace Task

/-- The event before a task. -/
def startEvent (t : Task) : Event :=
  match t.direction with
  | .up => .migrating t.name t.batch t.pretend
  | .down => .rollingBack t.name t.batch t.pretend

/-- The event after a task. -/
def endEvent (t : Task) (elapsed : Nat) : Event :=
  match t.direction with
  | .up => .migrated t.name t.batch elapsed t.pretend
  | .down => .rolledBack t.name t.batch elapsed t.pretend

/-- The line before a task. -/
def startLine (t : Task) : String :=
  match t.direction with
  | .up => "Migrating: " ++ t.name
  | .down => "Rolling back: " ++ t.name

/-- The line after a task. -/
def endLine (t : Task) (elapsed : Nat) : String :=
  (match t.direction with
    | .up => "Migrated: "
    | .down => "Rolled back: ") ++ t.name ++ s!" ({elapsed}ms)"

end Task

namespace Runner

/-- Runs the program of a migration under the time limit. -/
def runBody (r : Runner) (t : Task) (m : Migration) : Action (Except Error Unit) := do
  Action.note (.invoked t.name t.direction (r.isLocked (← get).store))
  match ← Action.runProgram r.config.timeout (m.body t.direction) with
  | .returned () => return .ok ()
  | .failed e => return .error (e.inMigration t.name)
  | .timedOut => return .error (.timeout t.name (r.config.timeout.getD 0))
  | .overflow => throw .overflow

/-- Runs the program of a migration, in a transaction if both the migration and the store allow it.
If the program fails the transaction is rolled back. -/
def invoke (r : Runner) (t : Task) (m : Migration) : Action Unit := do
  let transactional := m.transactional && (← get).store.transactional
  if transactional then Action.inMigration t.name (Action.change Store.begin)
  match ← r.runBody t m with
  | .ok () => if transactional then Action.inMigration t.name (Action.change Store.commit)
  | .error e => do
    if transactional then
      let _ ← Action.attempt (Action.change Store.rollback)
    Action.fail e

/-- The milliseconds since an instant. -/
def elapsedSince (started : Instant) : Action Nat := do
  return (← Action.now).millisSince started

/-- Brings the tracking table up to date after a task. -/
def track (r : Runner) (t : Task) (started : Instant) : Action Unit := do
  match t.direction with
  | .up => do
    let checksum := (checksum t.path (← get).files).toOption
    let elapsed ← elapsedSince started
    let record : Record := {
      migration := t.name
      batch := t.batch
      executionTime := some ((int64? elapsed).getD Int64.maxValue)
      checksum
      createdAt := some (← Action.now) }
    let _ ← Action.change (Tracking.log r.config.table record)
  | .down => do
    let _ ← Action.change (Tracking.delete r.config.table t.name)

/-- Ends a task with an error. -/
def abandon (r : Runner) (t : Task) (e : Error) : Action Unit := do
  Action.advance (·.complete ⟨false, some e.message⟩)
  r.emit (.error t.name t.direction e.message t.pretend)
  r.say s!"Failed: {t.name}: {e.message}"
  Action.fail e

/-- What a task does between its first event and its last one; returns how long it took. -/
def carryOut (r : Runner) (t : Task) : Action Nat := do
  let m ← Action.inspectFiles (Discovery.load r.migrations t.path)
  let started ← Action.now
  if !t.pretend then
    r.invoke t m
    r.track t started
  elapsedSince started

/-- Carries out one migration. -/
def execute (r : Runner) (t : Task) : Action Unit := do
  Action.advance (·.start t.name)
  r.emit t.startEvent
  r.say t.startLine
  match ← Action.attempt (r.carryOut t) with
  | .error e => r.abandon t e
  | .ok elapsed => do
    Action.advance (·.complete ⟨true, none⟩)
    r.emit (t.endEvent elapsed)
    r.say (t.endLine elapsed)

end Runner

end SchemaMigration
