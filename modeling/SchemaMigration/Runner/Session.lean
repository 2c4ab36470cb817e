import SchemaMigration.Files.Basic
import SchemaMigration.Migration.Event
import SchemaMigration.Migration.Progress
import SchemaMigration.Program

/-!
# Sessions

A `Session` is all that running migrations can change: a store, files, the clock, the progress, and a
journal of what was told to listeners, printed and run. An `Action` is a function that changes a
session and returns a result or a fault; after a fault the session is as the action left it.
-/

namespace SchemaMigration

/-- Something that was told, printed or run. -/
inductive Entry where
  /-- An event was emitted; whether the lock was held and a transaction was open. -/
  | emitted (event : Event) (locked inTransaction : Bool)
  /-- A listener heard an event. -/
  | heard (delivery : Delivery)
  /-- A line was printed. -/
  | printed (line : String)
  /-- A program of a migration was run; whether the lock was held. -/
  | invoked (migration : String) (direction : Direction) (locked : Bool)

/-- What running migrations can change. -/
structure Session where
  /-- The store. -/
  store : Store := {}
  /-- The files. -/
  files : Files := {}
  /-- What the clock will show next. -/
  clock : Instant := ⟨0, 0⟩
  /-- The progress. -/
  progress : Progress := {}
  /-- What was told, printed and run, in order. -/
  journal : List Entry := []

/-- A function that changes a session. -/
abbrev Action (α : Type) := ExceptT Fault (StateM Session) α

namespace Action

variable {α : Type}

/-- Fails. -/
def fail (e : Error) : Action α :=
  throw (.failed e)

/-- Goes on with a result, or with the fault in its place. -/
def resume : Except Fault α → Action α
  | .ok a => return a
  | .error fault => throw fault

/-- Goes on with a result, or fails with the error in its place. -/
def orFail : Except Error α → Action α
  | .ok a => return a
  | .error e => fail e

/-- Reads the store. -/
def read (f : Store → Except Fault α) : Action α := do
  resume (f (← get).store)

/-- Changes the store; it stays as it is if the change fails. -/
def change (c : Change α) : Action α := do
  match c (← get).store with
  | .ok (a, store) => do
    modify (fun session => { session with store })
    return a
  | .error fault => throw fault

/-- Runs a program on the store. -/
def runProgram (limit : Option Nat) (program : Program α) : Action (Outcome α) := do
  let (outcome, store) := program.run limit (← get).store
  modify (fun session => { session with store })
  return outcome

/-- Runs a program on the store without a limit on its time. -/
def runFully (program : Program α) : Action α := do
  let (result, store) := program.runFully (← get).store
  modify (fun session => { session with store })
  resume result

/-- Reads the files. -/
def inspectFiles (f : Files → Except Error α) : Action α := do
  orFail (f (← get).files)

/-- Changes the files at a path; they stay as they are if the change fails. -/
def changeFiles (path : String) (f : Files → Except FileProblem Files) : Action Unit := do
  match f (← get).files with
  | .ok files => modify (fun session => { session with files })
  | .error problem => fail (.io path problem)

/-- Makes a directory and those on the way to it. What was made stays if a problem arises. -/
def makeDirectories (path : String) : Action Unit := do
  let (files, problem) := (← get).files.makeDirectories path
  modify (fun session => { session with files })
  match problem with
  | none => return
  | some problem => fail (.io path problem)

/-- Reads the clock, which is one microsecond further the next time. -/
def now : Action Instant := do
  let time := (← get).clock
  modify (fun session => { session with clock := time.next })
  return time

/-- Adds an entry to the journal. -/
def note (entry : Entry) : Action Unit :=
  modify (fun session => { session with journal := session.journal ++ [entry] })

/-- Changes the progress. -/
def advance (f : Progress → Progress) : Action Unit :=
  modify (fun session => { session with progress := f session.progress })

/-- Carries out an action; an error becomes part of the result, an overflow does not. -/
def attempt (action : Action α) : Action (Except Error α) :=
  tryCatch (do return .ok (← action)) (fun
    | .failed e => return .error e
    | .overflow => throw .overflow)

/-- Carries out an action; its error is that of a migration whose body failed. -/
def inMigration (migration : String) (action : Action α) : Action α := do
  match ← attempt action with
  | .ok a => return a
  | .error e => fail (e.inMigration migration)

end Action

end SchemaMigration
