import SchemaMigration.Proofs.Runner.Narration
import SchemaMigration.Proofs.Store.Changes
import SchemaMigration.Runner.Execute

/-!
# Running the program of a migration

The program is run on the store with the transaction opened, and the transaction is closed again
however the program ends. So a program that spares the tracking table leaves it as it was.
-/

namespace SchemaMigration

namespace Migration

/-- Whether a transaction is opened for the programs of a migration. -/
def opensTransaction (m : Migration) (s : Store) : Bool :=
  m.transactional && s.transactional

/-- No open transaction stands in the way of the one that is to be opened. -/
def CanStart (m : Migration) (s : Store) : Prop :=
  m.opensTransaction s = true → s.snapshot = none

/-- The store on which a program is started. -/
def opened (m : Migration) (s : Store) : Store :=
  if m.opensTransaction s then { s with snapshot := some s.tables } else s

/-- The store after the transaction of a program that was started on another store. -/
def closed (m : Migration) (start s : Store) : Store :=
  if m.opensTransaction start then { s with snapshot := none } else s

@[simp] theorem tables_opened (m : Migration) (s : Store) : (m.opened s).tables = s.tables := by
  unfold opened
  split <;> rfl

@[simp] theorem tables_closed (m : Migration) (start s : Store) :
    (m.closed start s).tables = s.tables := by
  unfold closed
  split <;> rfl

/-- The store after a program that was started on another store: its transaction is closed, back at
its beginning if the program failed or its time was over. -/
def settled (m : Migration) (start : Store) : Outcome Unit × Store → Store
  | (.returned (), s) => m.closed start s
  | (.overflow, s) => s
  | (.failed _, s) | (.timedOut, s) =>
    if m.opensTransaction start then { s with tables := start.tables, snapshot := none } else s

theorem snapshot_opened (m : Migration) {s : Store} (h : m.opensTransaction s = true) :
    (m.opened s).snapshot = some s.tables := by
  simp [opened, h]

theorem settled_of_returned (m : Migration) (start : Store) {outcome : Outcome Unit × Store}
    (h : outcome.1 = .returned ()) : m.settled start outcome = m.closed start outcome.2 := by
  obtain ⟨result, s⟩ := outcome
  obtain rfl : result = .returned () := h
  rfl

/-- A table that a program left alone is what it was, also if the transaction went back. -/
theorem get?_settled (m : Migration) (start : Store) {outcome : Outcome Unit × Store}
    {table : String} (h : outcome.2.tables.get? table = start.tables.get? table) :
    (m.settled start outcome).tables.get? table = start.tables.get? table := by
  obtain ⟨result, s⟩ := outcome
  cases result with
  | returned => rwa [settled, tables_closed]
  | overflow => exact h
  | failed | timedOut =>
    simp only [settled]
    split
    · rfl
    · exact h

end Migration

namespace Runner

variable {table : String} {r : Runner} {t : Task} {m : Migration} {s : Session}

/-- How a started program ends, as the result of its task. -/
def verdict (r : Runner) (t : Task) : Outcome Unit → Except Fault Unit
  | .returned () => .ok ()
  | .failed e => .error (.failed (e.inMigration t.name))
  | .timedOut => .error (.failed (.timeout t.name (r.config.timeout.getD 0)))
  | .overflow => .error .overflow

theorem exec_runBody (r : Runner) (t : Task) (m : Migration) (s : Session) :
    (r.runBody t m).exec s =
      let outcome := (m.body t.direction).run r.config.timeout s.store
      let s' := { s.journaled [.invoked t.name t.direction (r.isLocked s.store)] with
        store := outcome.2 }
      match r.verdict t outcome.1 with
      | .ok () => (.ok (.ok ()), s')
      | .error (.failed e) => (.ok (.error e), s')
      | .error .overflow => (.error .overflow, s') := by
  simp only [runBody, Action.exec_bind, Action.exec_get, Action.exec_note,
    Action.exec_runProgram, Session.store_journaled]
  rcases (m.body t.direction).run r.config.timeout s.store with ⟨_ | _ | _ | _, store⟩ <;> rfl

theorem exec_invoke_of_not_canStart (h : ¬m.CanStart s.store) :
    (r.invoke t m).exec s =
      (.error (.failed (.execution t.name (.adapter .transactionActive))), s) := by
  obtain ⟨hopens, hsnapshot⟩ : m.opensTransaction s.store = true ∧ s.store.snapshot ≠ none := by
    simpa [Migration.CanStart] using h
  obtain ⟨tables, hsnapshot⟩ := Option.ne_none_iff_exists'.1 hsnapshot
  have hbegin : Store.begin s.store = .error (.failed (.adapter .transactionActive)) := by
    simp [Store.begin, hsnapshot, Store.refuse]
  have hopens' : (m.transactional && s.store.transactional) = true := hopens
  simp only [invoke, Action.exec_bind, Action.exec_get, hopens', if_true,
    Action.exec_inMigration, Action.exec_change, hbegin]
  rfl

/-- The part of `invoke` that follows the opening of the transaction. -/
def invokeOpened (r : Runner) (t : Task) (m : Migration) (transactional : Bool) : Action Unit := do
  match ← r.runBody t m with
  | .ok () => if transactional then Action.inMigration t.name (Action.change Store.commit)
  | .error e => do
    if transactional then
      let _ ← Action.attempt (Action.change Store.rollback)
    Action.fail e

theorem invoke_eq (r : Runner) (t : Task) (m : Migration) :
    r.invoke t m = (do
      let transactional := m.opensTransaction (← get).store
      if transactional then Action.inMigration t.name (Action.change Store.begin)
      r.invokeOpened t m transactional) :=
  rfl

/-- A transaction that is still open when the program ends is closed, back at its beginning unless
the program returned. -/
theorem exec_invokeOpened (start : Store)
    (h : m.opensTransaction start = true →
      ((m.body t.direction).run r.config.timeout s.store).2.snapshot = some start.tables) :
    let outcome := (m.body t.direction).run r.config.timeout s.store
    (r.invokeOpened t m (m.opensTransaction start)).exec s =
      (r.verdict t outcome.1,
        { s.journaled [.invoked t.name t.direction (r.isLocked s.store)] with
          store := m.settled start outcome }) := by
  rw [invokeOpened, Action.exec_bind, exec_runBody]
  generalize (m.body t.direction).run r.config.timeout s.store = outcome at h ⊢
  obtain ⟨result, store⟩ := outcome
  rcases hopens : m.opensTransaction start with _ | _
  · cases result <;> simp [verdict, Migration.settled, Migration.closed, hopens]
  · have hcommit : Store.commit store = .ok ((), { store with snapshot := none }) :=
      Store.commit_eq_ok.2 ⟨⟨_, h hopens⟩, rfl⟩
    have hrollback : Store.rollback store =
        .ok ((), { store with tables := start.tables, snapshot := none }) :=
      Store.rollback_eq_ok.2 ⟨_, h hopens, rfl⟩
    cases result with
    | returned => simp [verdict, Migration.settled, Migration.closed, hopens, hcommit]
    | failed | timedOut => simp [verdict, Migration.settled, hopens, hrollback]
    | overflow => simp [verdict, Migration.settled]

theorem exec_invoke_of_canStart (h : m.CanStart s.store) :
    (r.invoke t m).exec s =
      (r.invokeOpened t m (m.opensTransaction s.store)).exec
        { s with store := m.opened s.store } := by
  rw [invoke_eq, Action.exec_bind, Action.exec_get]
  rcases hopens : m.opensTransaction s.store with _ | _
  · simp only [Migration.opened, hopens, Bool.false_eq_true, if_false]
  · have hbegin : Store.begin s.store = .ok ((), m.opened s.store) :=
      Store.begin_eq_ok.2 ⟨h hopens, by simp [Migration.opened, hopens]⟩
    simp only [if_true, hopens, Action.exec_bind, Action.exec_inMigration, Action.exec_change,
      hbegin]

/-- The program of a migration is run on the opened store, and then its transaction is closed if the
program left it open. -/
theorem exec_invoke_of_left_open (h : m.CanStart s.store)
    (hopen : m.opensTransaction s.store = true →
      ((m.body t.direction).run r.config.timeout (m.opened s.store)).2.snapshot =
        (m.opened s.store).snapshot) :
    let outcome := (m.body t.direction).run r.config.timeout (m.opened s.store)
    (r.invoke t m).exec s =
      (r.verdict t outcome.1,
        { s.journaled [.invoked t.name t.direction (r.isLocked s.store)] with
          store := m.settled s.store outcome }) := by
  have hlocked : r.isLocked (m.opened s.store) = r.isLocked s.store := by
    unfold Migration.opened
    split <;> rfl
  rw [exec_invoke_of_canStart h]
  refine (exec_invokeOpened (s := { s with store := m.opened s.store }) s.store fun hopens => ?_).trans
    (by simp only [hlocked]; rfl)
  rw [hopen hopens, m.snapshot_opened hopens]

/-- The program of a migration is run on the opened store. If it returns, the transaction is closed;
however it ends, the tracking table is as it was. -/
theorem exec_invoke (hm : (m.body t.direction).Requests (Operation.Spares table))
    (h : m.CanStart s.store) :
    let outcome := (m.body t.direction).run r.config.timeout (m.opened s.store)
    ∃ s', (r.invoke t m).exec s = (r.verdict t outcome.1, s') ∧ s'.files = s.files ∧
      s'.events = s.events ∧
      s'.store.tables.get? table = s.store.tables.get? table ∧
      (outcome.1 = .returned () → s'.store = m.closed s.store outcome.2) := by
  intro outcome
  obtain ⟨htables, hsnapshot⟩ := hm.run_spares r.config.timeout (m.opened s.store)
  rw [Migration.tables_opened] at htables
  refine ⟨_, exec_invoke_of_left_open h fun _ => hsnapshot, rfl, ?_, ?_, ?_⟩
  · simp [Session.events, Session.journaled, Entry.event?]
  · exact m.get?_settled s.store htables
  · intro hreturned
    exact m.settled_of_returned s.store hreturned

end Runner

end SchemaMigration
