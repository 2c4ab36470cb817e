import Mathlib
import SchemaMigration.Proofs.Store.Sequence

/-!
# Transactions

A transaction is a copy of the tables at its beginning, kept beside them until its end. Requests
neither look at the copy nor write it, so between the two ends they do what they would do without a
transaction; at the end the tables of the beginning are put back, or the copy is dropped.
-/

namespace SchemaMigration

namespace Store

/-- A store with another copy of the tables beside them, or with none. -/
def keeping (s : Store) (snapshot : Option (Dict Table)) : Store :=
  { s with snapshot }

@[simp] theorem lockable_keeping (s : Store) (snapshot : Option (Dict Table)) :
    (s.keeping snapshot).lockable = s.lockable := rfl

theorem keeping_of_snapshot {s : Store} {snapshot : Option (Dict Table)}
    (h : s.snapshot = snapshot) : s.keeping snapshot = s := by
  rw [← h]
  rfl

theorem acquire_keeping (s : Store) (lock : String) (snapshot : Option (Dict Table)) :
    (s.keeping snapshot).acquire lock =
      ((s.acquire lock).1, (s.acquire lock).2.keeping snapshot) := by
  have hsame : (s.keeping snapshot).isLocked lock = s.isLocked lock := rfl
  cases h : s.isLocked lock <;> simp only [acquire, hsame, h] <;> rfl

/-- Requests that neither open nor close a transaction do the same whatever copy is kept. -/
theorem perform_keeping {op : Operation} (h : op.isTransactional = false) (s : Store)
    (snapshot : Option (Dict Table)) :
    perform op (s.keeping snapshot) =
      (perform op s).map fun result => (result.1, result.2.keeping snapshot) := by
  have hhas (name : String) : (s.keeping snapshot).hasTable name = s.hasTable name := rfl
  have htable (name : String) : (s.keeping snapshot).table name = s.table name := rfl
  cases op with
  | createTable name columns =>
    cases h : s.hasTable name <;> simp only [perform, createTable, hhas, h] <;> rfl
  | dropTable name =>
    cases h : s.hasTable name <;> simp only [perform, dropTable, hhas, h] <;> rfl
  | hasTable | hasColumn | listTables | reject => rfl
  | select name query =>
    cases h : s.table name <;> simp only [perform, select, htable, h] <;> rfl
  | insert name row =>
    simp only [perform, insert, htable]
    cases s.table name with
    | error => rfl
    | ok t => cases h : t.insert? row <;> simp only [bind, Except.bind, h] <;> rfl
  | update name id data =>
    simp only [perform, update, htable]
    cases s.table name with
    | error => rfl
    | ok t => cases h : t.update? id data <;> simp only [bind, Except.bind, h] <;> rfl
  | delete name id =>
    simp only [perform, delete, htable]
    cases s.table name with
    | error => rfl
    | ok t => cases h : t.rows.any (t.identifies id) <;> simp only [bind, Except.bind, h] <;> rfl
  | raw statement =>
    have hsame : (s.keeping snapshot).rejection? statement = s.rejection? statement := rfl
    cases h : s.rejection? statement <;> simp only [perform, raw, hsame, h] <;> rfl
  | begin | commit | rollback => cases h
  | acquire lock limit =>
    simp only [perform, served, lockable_keeping, acquire_keeping]
    split <;> rfl
  | release lock =>
    cases h : s.lockable <;> simp only [perform, served, lockable_keeping, h] <;> rfl

theorem exec_perform_keeping {op : Operation} (h : op.isTransactional = false) (s : Store)
    (snapshot : Option (Dict Table)) :
    Change.exec (perform op) (s.keeping snapshot) =
      ((Change.exec (perform op) s).1, (s.after op).keeping snapshot) := by
  rw [after, Change.exec, perform_keeping h, Change.exec]
  cases perform op s <;> rfl

theorem snapshot_after {op : Operation} (h : op.isTransactional = false) (s : Store) :
    (s.after op).snapshot = s.snapshot :=
  congrArg (fun result => result.2.snapshot) (exec_perform_keeping h s s.snapshot)

end Store

/-- A call that is made while a transaction is open: a request that has nothing to do with
transactions, or an attempt to open one more. -/
inductive InnerCall where
  | request (op : Operation) (h : op.isTransactional = false)
  | begin

namespace InnerCall

/-- The store after a call. -/
def make : InnerCall → Store → Store
  | request op _, s => s.after op
  | begin, s => (Change.exec Store.begin s).2

/-- The store after calls. -/
def makeAll (calls : List InnerCall) (s : Store) : Store :=
  calls.foldl (fun s call => call.make s) s

/-- What is requested, if anything. -/
def request? : InnerCall → Option Operation
  | request op _ => some op
  | begin => none

/-- The requests among calls. -/
def requests (calls : List InnerCall) : List Operation :=
  calls.filterMap request?

theorem begin_of_open {s : Store} {tables : Dict Table} (h : s.snapshot = some tables) :
    Store.begin s = Store.refuse .transactionActive := by
  rw [Store.begin, h]

/-- Calls in a transaction do what the requests among them do without one. -/
theorem makeAll_keeping (calls : List InnerCall) (s : Store) (tables : Dict Table) :
    makeAll calls (s.keeping (some tables)) =
      (s.afterAll (requests calls)).keeping (some tables) := by
  induction calls generalizing s with
  | nil => rfl
  | cons call rest ih =>
    cases call with
    | request op h =>
      have hmake : make (request op h) (s.keeping (some tables)) =
          (s.after op).keeping (some tables) :=
        congrArg Prod.snd (Store.exec_perform_keeping h s (some tables))
      exact (congrArg (makeAll rest) hmake).trans (ih (s.after op))
    | begin =>
      have hmake : make begin (s.keeping (some tables)) = s.keeping (some tables) :=
        congrArg Prod.snd (Change.exec_of_error (begin_of_open rfl))
      exact (congrArg (makeAll rest) hmake).trans (ih s)

theorem snapshot_afterAll_requests (calls : List InnerCall) (s : Store) :
    (s.afterAll (requests calls)).snapshot = s.snapshot := by
  induction calls generalizing s with
  | nil => rfl
  | cons call rest ih =>
    cases call with
    | request op h => exact (ih (s.after op)).trans (Store.snapshot_after h s)
    | begin => exact ih s

end InnerCall

namespace Store

/-- A transaction is rolled back to the tables at its beginning, or what the requests in it would
have done without it is kept; of all else a rollback takes nothing back. As long as it is open no
other one can be opened, and each request is answered as it would be without it. -/
theorem transaction_is_all_or_nothing {s : Store} (h : s.snapshot = none) :
    ∃ opened, begin s = .ok ((), opened) ∧ ∀ calls : List InnerCall,
      let inside := InnerCall.makeAll calls opened
      let alone := s.afterAll (InnerCall.requests calls)
      alone.snapshot = none ∧
        rollback inside = .ok ((), { alone with tables := s.tables }) ∧
        commit inside = .ok ((), alone) ∧
        begin inside = refuse .transactionActive ∧
        ∀ op : Operation, op.isTransactional = false →
          (Change.exec (perform op) inside).1 = (Change.exec (perform op) alone).1 := by
  refine ⟨s.keeping (some s.tables), begin_eq_ok.2 ⟨h, rfl⟩, fun calls => ?_⟩
  intro inside alone
  have halone : alone.snapshot = none := (InnerCall.snapshot_afterAll_requests calls s).trans h
  have hinside : inside = alone.keeping (some s.tables) :=
    InnerCall.makeAll_keeping calls s s.tables
  rw [hinside]
  refine ⟨halone, rollback_eq_ok.2 ⟨s.tables, rfl, ?_⟩, commit_eq_ok.2 ⟨⟨s.tables, rfl⟩, ?_⟩,
    InnerCall.begin_of_open rfl, fun op hop => ?_⟩
  · rw [← keeping_of_snapshot halone]
    rfl
  · rw [← keeping_of_snapshot halone]
    rfl
  · rw [exec_perform_keeping hop]

/-- A table that was written and dropped in a transaction comes back with its only row; the
statement that was run and the number of changes stay. -/
theorem dropped_table_comes_back :
    let users : Table := { columns := [], rows := [Dict.ofList [("id", .int64 1)]], nextId := 2 }
    let s : Store := { tables := Dict.ofList [("users", users)] }
    let calls : List InnerCall := [.request (.insert "users" ∅) rfl, .begin,
      .request (.dropTable "users") rfl, .request (.dropTable "users") rfl,
      .request (.raw "vacuum") rfl]
    s.snapshot = none ∧ ∃ opened closed, begin s = .ok ((), opened) ∧
      rollback (InnerCall.makeAll calls opened) = .ok ((), closed) ∧ closed.snapshot = none ∧
      closed.tables = s.tables ∧ closed.statements = ["vacuum"] ∧ closed.mutations = 3 := by
  intro users s calls
  obtain ⟨opened, hopened, hcalls⟩ := transaction_is_all_or_nothing (s := s) rfl
  obtain ⟨halone, hrollback, -⟩ := hcalls calls
  have hstatements : (s.afterAll (InnerCall.requests calls)).statements = ["vacuum"] := by cbv
  have hmutations : (s.afterAll (InnerCall.requests calls)).mutations = 3 := by cbv
  generalize s.afterAll (InnerCall.requests calls) = alone at *
  exact ⟨rfl, opened, _, hopened, hrollback, halone, rfl, hstatements, hmutations⟩

end Store

end SchemaMigration
