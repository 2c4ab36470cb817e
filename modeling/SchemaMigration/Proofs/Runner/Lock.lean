import SchemaMigration.Proofs.Runner.Narration

/-!
# Calls under the lock

If the lock is free, a call goes as it would go without one, on the session in which the lock is
taken; afterwards only the lock differs. If the lock is held elsewhere, the call changes nothing.
-/

namespace SchemaMigration

/-- The session with other locks. -/
def Session.relocked (s : Session) (locks : List String) : Session :=
  { s with store := { s.store with locks } }

@[simp] theorem Session.tables_relocked (s : Session) (locks : List String) :
    (s.relocked locks).store.tables = s.store.tables := rfl

namespace Runner

/-- No lock stands in the way of calls: it is free if one is to be taken. -/
def IsFree (r : Runner) (s : Store) : Prop :=
  r.config.advisoryLock = true → s.lockable = true → r.isLocked s = false

instance (r : Runner) (s : Store) : Decidable (r.IsFree s) :=
  inferInstanceAs (Decidable (_ → _))

/-- The session in which the lock is taken if it is to be taken. -/
def locked (r : Runner) (s : Session) : Session :=
  if r.config.advisoryLock && s.store.lockable then
    { s with store := (s.store.acquire r.config.lockName).2 }
  else s

variable {α : Type} {r : Runner} {s : Session}

theorem locked_eq (r : Runner) (s : Session) : ∃ locks lockAcquisitions,
    r.locked s = { s with store := { s.store with locks, lockAcquisitions } } := by
  unfold locked
  split
  · rw [Store.acquire]
    split
    · exact ⟨_, _, rfl⟩
    · exact ⟨_, _, rfl⟩
  · exact ⟨_, _, rfl⟩

@[simp] theorem tables_locked (r : Runner) (s : Session) :
    (r.locked s).store.tables = s.store.tables := by
  obtain ⟨locks, n, h⟩ := r.locked_eq s
  rw [h]

@[simp] theorem snapshot_locked (r : Runner) (s : Session) :
    (r.locked s).store.snapshot = s.store.snapshot := by
  obtain ⟨locks, n, h⟩ := r.locked_eq s
  rw [h]

@[simp] theorem files_locked (r : Runner) (s : Session) : (r.locked s).files = s.files := by
  obtain ⟨locks, n, h⟩ := r.locked_eq s
  rw [h]

@[simp] theorem journal_locked (r : Runner) (s : Session) : (r.locked s).journal = s.journal := by
  obtain ⟨locks, n, h⟩ := r.locked_eq s
  rw [h]

theorem store_locked (hlock : r.config.advisoryLock = true) (hlockable : s.store.lockable = true)
    (hfree : r.isLocked s.store = false) :
    (r.locked s).store = { s.store with
      locks := r.config.lockName :: s.store.locks
      lockAcquisitions := s.store.lockAcquisitions + 1 } := by
  have hfree' : s.store.isLocked r.config.lockName = false := hfree
  simp [locked, hlock, hlockable, Store.acquire, hfree']

theorem exec_acquireLock_of_isFree (h : r.IsFree s.store) :
    r.acquireLock.exec s =
      (.ok (r.config.advisoryLock && s.store.lockable), r.locked s) := by
  rcases hl : r.config.advisoryLock && s.store.lockable with _ | _
  · simp only [acquireLock, Action.exec_bind, Action.exec_get, locked, hl]
    rfl
  · obtain ⟨hlock, hlockable⟩ : r.config.advisoryLock = true ∧ s.store.lockable = true := by
      simpa using hl
    have hfree : s.store.isLocked r.config.lockName = false := h hlock hlockable
    simp [acquireLock, locked, hlock, hlockable, Store.acquire, hfree]

/-- The session in which the lock is given up if it was taken. -/
def released (r : Runner) (held : Bool) (s : Session) : Session :=
  if held then { s with store := s.store.release r.config.lockName } else s

theorem released_eq (r : Runner) (held : Bool) (s : Session) :
    ∃ locks, r.released held s = s.relocked locks := by
  cases held with
  | false => exact ⟨s.store.locks, rfl⟩
  | true => exact ⟨_, rfl⟩

@[simp] theorem tables_released (r : Runner) (held : Bool) (s : Session) :
    (r.released held s).store.tables = s.store.tables := by
  obtain ⟨locks, h⟩ := r.released_eq held s
  rw [h, Session.tables_relocked]

@[simp] theorem invocations_released (r : Runner) (held : Bool) (s : Session) :
    (r.released held s).invocations = s.invocations := by
  obtain ⟨locks, h⟩ := r.released_eq held s
  rw [h]
  rfl

theorem exec_releaseLock (r : Runner) (held : Bool) (s : Session) :
    (r.releaseLock held).exec s = (.ok (), r.released held s) := by
  cases held <;> rfl

/-- What becomes of an outcome when the lock is given up, which is not done any more if a number has
left its range. -/
def unlocked (r : Runner) (held : Bool) : Except Fault α × Session → Except Fault α × Session
  | (.error .overflow, u) => (.error .overflow, u)
  | (result, u) => (result, r.released held u)

theorem unlocked_eq (r : Runner) (held : Bool) (outcome : Except Fault α × Session) :
    ∃ locks, r.unlocked held outcome = (outcome.1, outcome.2.relocked locks) := by
  obtain ⟨(e | _) | x, u⟩ := outcome
  · obtain ⟨locks, h⟩ := r.released_eq held u
    exact ⟨locks, by rw [unlocked, h]; nofun⟩
  · exact ⟨u.store.locks, rfl⟩
  · obtain ⟨locks, h⟩ := r.released_eq held u
    exact ⟨locks, by rw [unlocked, h]; nofun⟩

@[simp] theorem unlocked_fst (r : Runner) (held : Bool) (outcome : Except Fault α × Session) :
    (r.unlocked held outcome).1 = outcome.1 := by
  obtain ⟨locks, h⟩ := r.unlocked_eq held outcome
  rw [h]

/-- With a free lock, a call goes as its action does on the session in which the lock is taken, and
then gives the lock up. -/
theorem exec_withLock (h : r.IsFree s.store) (action : Action α) :
    (r.withLock action).exec s =
      r.unlocked (r.config.advisoryLock && s.store.lockable) (action.exec (r.locked s)) := by
  rw [withLock, Action.exec_bind, exec_acquireLock_of_isFree h]
  simp only [Action.exec_bind, Action.exec_attempt]
  rcases action.exec (r.locked s) with ⟨(e | _) | x, u⟩
  · simp only [exec_releaseLock]
    rfl
  · rfl
  · simp only [exec_releaseLock]
    rfl

/-- With a free lock, a call goes as its action does, and then only the locks change. -/
theorem exec_withLock_of_isFree (h : r.IsFree s.store) (action : Action α) :
    ∃ locks, (r.withLock action).exec s =
      ((action.exec (r.locked s)).1, (action.exec (r.locked s)).2.relocked locks) := by
  rw [exec_withLock h]
  exact r.unlocked_eq _ _

/-- Without a configured lock, a call goes as its action does. -/
theorem exec_withLock_of_unlocked (h : r.config.advisoryLock = false) (action : Action α) :
    (r.withLock action).exec s = action.exec s := by
  have hnone : r.acquireLock.exec s = (.ok false, s) := by
    simp only [acquireLock, Action.exec_bind, Action.exec_get, h]
    rfl
  simp only [withLock, Action.exec_bind, hnone, Action.exec_attempt]
  rcases action.exec s with ⟨(e | _) | x, u⟩ <;> rfl

/-- A call that does not get the lock changes nothing. -/
theorem exec_withLock_of_not_isFree (h : ¬r.IsFree s.store) (action : Action α) :
    (r.withLock action).exec s =
      (.error (.failed (.lockUnavailable (.held r.config.lockName r.config.lockTimeout))), s) := by
  have hlocked : r.config.advisoryLock = true ∧ s.store.lockable = true ∧
      s.store.isLocked r.config.lockName = true := by
    simpa [IsFree, isLocked] using h
  simp [withLock, acquireLock, hlocked, Store.acquire]

/-- A lock that was given up is free. -/
theorem isFree_released {u : Session} (h : u.store.lockable = s.store.lockable) :
    r.IsFree (r.released (r.config.advisoryLock && s.store.lockable) u).store := by
  intro hlock hlockable
  cases hheld : r.config.advisoryLock && s.store.lockable with
  | true => simp [released, isLocked, Store.isLocked, Store.release]
  | false =>
    rw [hheld] at hlockable
    have hkept : u.store.lockable = true := hlockable
    rw [hlock, ← h, hkept] at hheld
    cases hheld

/-- To give the lock up and to take it again changes nothing but how often it was taken. -/
theorem locked_released
    (hheld : (r.config.advisoryLock && s.store.lockable) = true → r.isLocked s.store = true) :
    ∃ locks lockAcquisitions,
      r.locked (r.released (r.config.advisoryLock && s.store.lockable) s) =
        { s with store := { s.store with locks, lockAcquisitions } } ∧
      ∀ lock, locks.contains lock = s.store.isLocked lock := by
  cases hl : r.config.advisoryLock && s.store.lockable with
  | false => exact ⟨_, s.store.lockAcquisitions, by simp [locked, released, hl], fun _ => rfl⟩
  | true =>
    have hfree : (s.store.release r.config.lockName).isLocked r.config.lockName = false := by
      simp [Store.isLocked, Store.release]
    refine ⟨r.config.lockName :: s.store.locks.filter (· != r.config.lockName),
      s.store.lockAcquisitions + 1, ?_, fun lock => ?_⟩
    · have hserves : (r.config.advisoryLock &&
          (s.store.release r.config.lockName).lockable) = true := hl
      simp only [released, if_true, locked, hserves, Store.acquire, hfree]
      rfl
    · have hown : s.store.locks.contains r.config.lockName = true := hheld hl
      by_cases heq : lock = r.config.lockName
      · subst heq
        simpa [Store.isLocked] using hown
      · simp [Store.isLocked, heq]

/-- Once a call has returned, the lock is free again. -/
theorem withLock_eq_ok {action : Action α} {x : α} {s' : Session}
    (h : (r.withLock action).exec s = (.ok x, s')) :
    ∃ u locks, action.exec (r.locked s) = (.ok x, u) ∧ s' = u.relocked locks ∧
      (u.store.lockable = s.store.lockable → r.IsFree s'.store) := by
  by_cases hfree : r.IsFree s.store
  · rw [exec_withLock hfree] at h
    generalize action.exec (r.locked s) = outcome at h ⊢
    obtain ⟨(e | _) | y, u⟩ := outcome
    · cases h
    · cases h
    · obtain ⟨hx, rfl⟩ := Prod.mk.inj h
      obtain rfl := Except.ok.inj hx
      obtain ⟨locks, hlocks⟩ := r.released_eq (r.config.advisoryLock && s.store.lockable) u
      exact ⟨u, locks, rfl, hlocks, isFree_released⟩
  · rw [exec_withLock_of_not_isFree hfree] at h
    cases h

/-- Actions that go the same way on the session with the lock go the same way under the lock. -/
theorem exec_withLock_congr {first second : Action α}
    (h : first.exec (r.locked s) = second.exec (r.locked s)) :
    (r.withLock first).exec s = (r.withLock second).exec s := by
  by_cases hfree : r.IsFree s.store
  · simp only [withLock, Action.exec_bind, exec_acquireLock_of_isFree hfree, Action.exec_attempt, h]
  · rw [exec_withLock_of_not_isFree hfree, exec_withLock_of_not_isFree hfree]

end Runner

end SchemaMigration
