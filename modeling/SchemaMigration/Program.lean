import SchemaMigration.Store.Basic

/-!
# Programs

An `Operation` is one request to a store, and a `Program` is a run of requests in which each may
depend on the answers to those before. The bodies of migrations and seeders are programs.
`Program.run` carries a program out, under a limit on the time that it sleeps or waits for locks.
-/

namespace SchemaMigration

/-- A request to a store. -/
inductive Operation where
  /-- Create a table. -/
  | createTable (table : String) (columns : List Column)
  /-- Drop a table. -/
  | dropTable (table : String)
  /-- Is there a table? -/
  | hasTable (table : String)
  /-- Is there a table with a column? -/
  | hasColumn (table column : String)
  /-- Name the tables. -/
  | listTables
  /-- Select rows. -/
  | select (table : String) (query : Query)
  /-- Insert a row. -/
  | insert (table : String) (row : Row)
  /-- Set values in a row. -/
  | update (table : String) (id : Value) (data : Row)
  /-- Delete rows. -/
  | delete (table : String) (id : Value)
  /-- Run a statement. -/
  | raw (statement : String)
  /-- Reject statements that contain a part. -/
  | reject (part : String)
  /-- Open a transaction. -/
  | begin
  /-- Close the transaction and keep what was done in it. -/
  | commit
  /-- Close the transaction and go back. -/
  | rollback
  /-- Take a lock, waiting up to a limit in milliseconds. -/
  | acquire (lock : String) (limit : Nat)
  /-- Give a lock up. -/
  | release (lock : String)

/-- What a store answers to a request. To a request that not every store serves, the answer is
nothing if this one does not. -/
@[reducible] def Operation.Answer : Operation → Type
  | createTable _ _ | dropTable _ | reject _ => Unit
  | hasTable _ | hasColumn _ _ | delete _ _ => Bool
  | listTables => List String
  | select _ _ => List Row
  | insert _ _ | update _ _ _ => Row
  | raw _ => Nat
  | begin | commit | rollback | release _ => Option Unit
  | acquire _ _ => Option Bool

namespace Store

/-- A change that is made only if the store serves it. -/
def served {α : Type} (serves : Store → Bool) (change : Change α) : Change (Option α) := fun s =>
  if serves s then do
    let (a, s) ← change s
    return (some a, s)
  else return (none, s)

/-- Carries out a request. -/
def perform : (op : Operation) → Change op.Answer
  | .createTable table columns => createTable table columns
  | .dropTable table => dropTable table
  | .hasTable table => fun s => .ok (s.hasTable table, s)
  | .hasColumn table column => fun s => .ok (s.hasColumn table column, s)
  | .listTables => fun s => .ok (s.listTables, s)
  | .select table query => fun s => do return (← s.select table query, s)
  | .insert table row => insert table row
  | .update table id data => update table id data
  | .delete table id => delete table id
  | .raw statement => raw statement
  | .reject part => fun s => .ok ((), s.reject part)
  | .begin => served transactional begin
  | .commit => served transactional commit
  | .rollback => served transactional rollback
  | .acquire lock _ => served lockable (fun s => .ok (s.acquire lock))
  | .release lock => served lockable (fun s => .ok ((), s.release lock))

/-- The milliseconds that pass while a request is carried out. -/
def delay (s : Store) : Operation → Nat
  | .acquire lock limit => if s.lockable then s.waitFor lock limit else 0
  | _ => 0

end Store

/-- A run of requests to a store, which ends with a result or fails. -/
inductive Program (α : Type) where
  /-- Ends with a result. -/
  | pure (result : α)
  /-- Fails. -/
  | fail (error : Error)
  /-- Makes a request and goes on with the answer or the error. -/
  | perform (op : Operation) (next : Except Error op.Answer → Program α)
  /-- Lets some milliseconds pass and goes on. -/
  | sleep (millis : Nat) (next : Program α)

/-- How a program ends. -/
inductive Outcome (α : Type) where
  /-- With a result. -/
  | returned (result : α)
  /-- With an error. -/
  | failed (error : Error)
  /-- Because a number would have left its range. -/
  | overflow
  /-- Because its time was over. -/
  | timedOut

/-- The end of a program that has no limit on its time. -/
def Outcome.ofExcept {α : Type} : Except Fault α → Outcome α
  | .ok result => .returned result
  | .error (.failed error) => .failed error
  | .error .overflow => .overflow

namespace Program

variable {α β : Type}

/-- Goes on with the result of a program. -/
def bind : Program α → (α → Program β) → Program β
  | pure result, f => f result
  | fail error, _ => fail error
  | perform op next, f => perform op (fun answer => (next answer).bind f)
  | sleep millis next, f => sleep millis (next.bind f)

instance : Monad Program where
  pure := pure
  bind := bind

/-- Makes a request; fails if the request does. -/
def request (op : Operation) : Program op.Answer :=
  perform op (fun
    | .ok answer => pure answer
    | .error error => fail error)

/-- What is left of a limit on time after some milliseconds; nothing if the limit is passed. -/
def left? (limit : Option Nat) (millis : Nat) : Option (Option Nat) :=
  match limit with
  | none => some none
  | some limit => if limit < millis then none else some (some (limit - millis))

/-- Carries out a program under a limit on the time that passes; without one there is no limit. -/
def run (limit : Option Nat) : Program α → Store → Outcome α × Store
  | pure result, s => (.returned result, s)
  | fail error, s => (.failed error, s)
  | sleep millis next, s =>
    match left? limit millis with
    | some limit => next.run limit s
    | none => (.timedOut, s)
  | perform op next, s =>
    match left? limit (s.delay op) with
    | none => (.timedOut, s)
    | some limit =>
      match Store.perform op s with
      | .ok (answer, s) => (next (.ok answer)).run limit s
      | .error (.failed error) => (next (.error error)).run limit s
      | .error .overflow => (.overflow, s)

/-- Carries out a program without a limit on its time. -/
def runFully : Program α → Store → Except Fault α × Store
  | pure result, s => (.ok result, s)
  | fail error, s => (.error (.failed error), s)
  | sleep _ next, s => next.runFully s
  | perform op next, s =>
    match Store.perform op s with
    | .ok (answer, s) => (next (.ok answer)).runFully s
    | .error (.failed error) => (next (.error error)).runFully s
    | .error .overflow => (.error .overflow, s)

/-- A program without a limit on its time ends in the same way as under no limit. -/
theorem run_none (p : Program α) (s : Store) :
    p.run none s = (Outcome.ofExcept (p.runFully s).1, (p.runFully s).2) := by
  induction p generalizing s with
  | pure result => rfl
  | fail error => rfl
  | sleep millis next ih => simpa [run, runFully, left?] using ih s
  | perform op next ih =>
    simp only [run, runFully, left?]
    split
    · exact ih _ _
    · exact ih _ _
    · rfl

end Program

end SchemaMigration
