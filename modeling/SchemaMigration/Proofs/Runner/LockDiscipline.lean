import SchemaMigration.Proofs.Runner.Announcement
import SchemaMigration.Proofs.Runner.History
import SchemaMigration.Proofs.Runner.Preparation

/-!
# Lock discipline

A call takes the lock once, also if it is made of several others, holds it whenever it tells an
event or runs the program of a migration, and gives it up whether it returns or fails. While the
lock is held elsewhere, no call does anything.
-/

namespace SchemaMigration

/-- If an entry tells of an event or of the run of a program, then the lock was held. -/
def Entry.UnderLock : Entry → Prop
  | emitted _ locked _ | invoked _ _ locked => locked = true
  | heard _ | printed _ => True

/-- The same locks are held, and locks were taken as often. -/
structure Store.SameLocks (origin s : Store) : Prop where
  locks : s.locks = origin.locks
  lockAcquisitions : s.lockAcquisitions = origin.lockAcquisitions

theorem Store.SameLocks.perform {origin s s' : Store} (h : origin.SameLocks s) {op : Operation}
    (hop : op.touchesLocks = false) {answer : op.Answer}
    (hmade : Store.perform op s = .ok (answer, s')) : origin.SameLocks s' := by
  obtain ⟨hlocks, hcount⟩ := (Store.perform_features_locks hmade).2 hop
  exact ⟨hlocks.trans h.locks, hcount.trans h.lockAcquisitions⟩

namespace Session

/-- Since a session, events were emitted and programs run only under the lock. -/
def ToldUnderLock (origin s : Session) : Prop :=
  ∃ entries, s.journal = origin.journal ++ entries ∧ ∀ entry ∈ entries, entry.UnderLock

/-- Since a session, events were emitted and programs run only under the lock, and no lock changed
hands. -/
structure Guarded (origin s : Session) : Prop where
  told : ToldUnderLock origin s
  locks : origin.store.SameLocks s.store

variable {origin s : Session}

theorem guarded_refl (s : Session) : Guarded s s :=
  ⟨⟨[], by simp, nofun⟩, ⟨rfl, rfl⟩⟩

theorem ToldUnderLock.journaled (h : ToldUnderLock origin s) {entries : List Entry}
    (hentries : ∀ entry ∈ entries, entry.UnderLock) :
    ToldUnderLock origin (s.journaled entries) := by
  obtain ⟨told, hjournal, htold⟩ := h
  refine ⟨told ++ entries, by simp [hjournal], fun entry hentry => ?_⟩
  rcases List.mem_append.1 hentry with h | h
  · exact htold entry h
  · exact hentries entry h

end Session

namespace Runner

open Session

/-- What a call that gets the lock does with it. The lock stays held if a number leaves its range,
because then nothing at all is done any more. -/
structure TakesLockOnce {α : Type} (r : Runner) (s : Session)
    (outcome : Except Fault α × Session) : Prop where
  told : ToldUnderLock s outcome.2
  released : outcome.1 ≠ .error .overflow → r.isLocked outcome.2.store = false
  once : r.SeedersRequest (·.touchesLocks = false) →
    outcome.2.store.lockAcquisitions = s.store.lockAcquisitions + 1
  others : r.SeedersRequest (·.touchesLocks = false) → outcome.1 ≠ .error .overflow →
    outcome.2.store.locks = s.store.locks

variable {α β : Type} {r : Runner} {c : Command} {o : RunOptions} {origin s : Session}

theorem toldUnderLock_now : Action.now.Preserves (ToldUnderLock origin) := by
  rintro s ⟨entries, hentries⟩
  rw [Action.exec_now]
  exact ⟨entries, hentries⟩

theorem toldUnderLock_say (line : String) :
    (r.say line).Preserves (ToldUnderLock origin) := by
  intro s hs
  rw [exec_say]
  refine hs.journaled fun entry hentry => ?_
  unfold printout at hentry
  split at hentry
  · cases hentry
  · obtain rfl := List.mem_singleton.1 hentry
    trivial

section Held

variable (hheld : r.isLocked origin.store = true)

include hheld

theorem Guarded.isLocked (hs : Guarded origin s) : r.isLocked s.store = true := by
  rw [Runner.isLocked, Store.isLocked, hs.locks.locks]
  exact hheld

/-- Narration is under the lock as long as the lock is held. -/
theorem tolerates_guarded : r.Tolerates (Guarded origin) where
  emit event s hs := by
    rw [exec_emit]
    refine ⟨hs.told.journaled fun entry hentry => ?_, hs.locks⟩
    obtain rfl | hheard := List.mem_cons.1 hentry
    · exact Guarded.isLocked hheld hs
    · obtain ⟨delivery, -, rfl⟩ := List.mem_map.1 hheard
      trivial
  say line s hs := by
    have htold := toldUnderLock_say (r := r) line s hs.told
    rw [exec_say] at htold ⊢
    exact ⟨htold, hs.locks⟩
  advance f s hs := by
    obtain ⟨⟨entries, hentries⟩, hlocks⟩ := hs
    exact ⟨⟨entries, hentries⟩, hlocks⟩
  now s hs := by
    have htold := toldUnderLock_now s hs.told
    rw [Action.exec_now] at htold ⊢
    exact ⟨htold, hs.locks⟩

variable (hbodies : r.BodiesRequest (·.touchesLocks = false))

include hbodies

theorem sustainsUnseeded_guarded : r.SustainsUnseeded (Guarded origin) := by
  have hlocks : r.SustainsUnseeded fun s => origin.store.SameLocks s.store :=
    sustainsUnseeded_of_requests (fun _ hop _ _ _ hmade h => h.perform hop hmade) (fun _ _ h => h)
      (fun _ _ _ h => ⟨h.locks, h.lockAcquisitions⟩) hbodies
  constructor
  case invoked =>
    intro s migration direction hs
    refine ⟨hs.told.journaled fun entry hentry => ?_, hs.locks⟩
    obtain rfl := List.mem_singleton.1 hentry
    exact Guarded.isLocked hheld hs
  case body => exact fun s m direction hm hs => ⟨hs.told, hlocks.body s m direction hm hs.locks⟩
  case begin => exact fun s store hs h => ⟨hs.told, hlocks.begin s store hs.locks h⟩
  case commit => exact fun s store hs h => ⟨hs.told, hlocks.commit s store hs.locks h⟩
  case rollback => exact fun s store hs h => ⟨hs.told, hlocks.rollback s store hs.locks h⟩
  case ensure => exact fun s store hs h => ⟨hs.told, hlocks.ensure s store hs.locks h⟩
  case log => exact fun s record x store hs h => ⟨hs.told, hlocks.log s record x store hs.locks h⟩
  case delete =>
    exact fun s migration n store hs h => ⟨hs.told, hlocks.delete s migration n store hs.locks h⟩
  case dropTable =>
    exact fun s table store hs h => ⟨hs.told, hlocks.dropTable s table store hs.locks h⟩

theorem guarded_execute (t : Task) : (r.execute t).Preserves (Guarded origin) :=
  preserves_execute r (tolerates_guarded hheld)
    (fun _ => sustainsUnseeded_guarded hheld hbodies) rfl

theorem guarded_resetRecords (pretend : Bool) :
    (r.resetRecords pretend).Preserves (Guarded origin) :=
  preserves_resetRecords r (tolerates_guarded hheld) fun t _ _ => guarded_execute hheld hbodies t

theorem guarded_prepare (c : Command) : (r.prepare c).Preserves (Guarded origin) :=
  preserves_prepare r (guarded_resetRecords hheld hbodies)
    (preserves_dropTables r (sustainsUnseeded_guarded hheld hbodies)) (tolerates_guarded hheld) c

theorem sustains_guarded (hseeders : r.SeedersRequest (·.touchesLocks = false)) :
    r.Sustains (Guarded origin) where
  toSustainsUnseeded := sustainsUnseeded_guarded hheld hbodies
  seeder _ name program hget hs := ⟨hs.told,
    (hseeders name program hget).runFully_preserves (fun _ hop _ _ _ hmade h => h.perform hop hmade)
      hs.locks⟩

/-- A run tells and runs everything under the lock. A seeder may do with the lock what it wants,
because it comes last. -/
theorem toldUnderLock_runPending (o : RunOptions) (reverted : List String)
    (hs : Guarded origin s) : ToldUnderLock origin ((r.runPending o reverted).exec s).2 := by
  have hI := tolerates_guarded hheld
  have hreal := sustainsUnseeded_guarded hheld hbodies
  have hseed : (r.seed none).Preserves (ToldUnderLock origin) :=
    preserves_seed r toldUnderLock_now toldUnderLock_say (fun _ _ _ _ h => h) none
  have hannounced := preserves_announce r hI (o := o) (fun _ => hreal.ensure) reverted s hs
  rw [runPending_eq_announce, Action.exec_bind]
  generalize (r.announce o reverted).exec s = outcome at hannounced ⊢
  rcases outcome with ⟨fault | (_ | ⟨batch, selected⟩), u⟩
  · exact hannounced.told
  · exact (Action.Preserves.bind (hI.say _) (fun _ => Action.preserves_pure _) u hannounced).told
  · have happlied := preserves_applyAll r hI (fun _ : o.pretend = false => hreal) batch selected u
      hannounced
    simp only [applyAnnounced, Action.exec_bind]
    generalize (r.applyAll batch o.pretend selected).exec u = outcome at happlied ⊢
    rcases outcome with ⟨fault | _, v⟩
    · exact happlied.told
    · have htold := hI.emit (.batchCompleted batch (selected.map (·.1)) o.pretend) v happlied
      simp only [exec_emit] at htold ⊢
      refine Action.Preserves.ite (fun _ => ?_) (fun _ => Action.preserves_pure _) _ htold.told
      exact .bind hseed fun _ => Action.preserves_pure _

end Held

section Free

variable (hlock : r.config.advisoryLock = true) (hlockable : s.store.lockable = true)
  (hfree : r.isLocked s.store = false)

include hlock hlockable hfree

theorem exec_withLock_of_free (action : Action α) :
    (r.withLock action).exec s =
      match action.exec (r.locked s) with
      | (.error .overflow, u) => (.error .overflow, u)
      | (result, u) => (result, { u with store := u.store.release r.config.lockName }) := by
  rw [exec_withLock fun _ _ => hfree, hlock, hlockable]
  rfl

omit hlock hlockable hfree in
theorem TakesLockOnce.map {outcome : Except Fault α × Session} (h : r.TakesLockOnce s outcome)
    (f : α → β) : r.TakesLockOnce s (outcome.1.map f, outcome.2) := by
  have hmap : outcome.1.map f ≠ .error .overflow → outcome.1 ≠ .error .overflow := by
    rintro hne heq
    exact hne (by rw [heq]; rfl)
  exact ⟨h.told, fun hne => h.released (hmap hne), h.once, fun hs hne => h.others hs (hmap hne)⟩

/-- Under the lock, an action takes it once if it leaves the locks alone itself. -/
theorem takesLockOnce_withLock {action : Action α}
    (htold : ToldUnderLock (r.locked s) (action.exec (r.locked s)).2)
    (hguarded : r.SeedersRequest (·.touchesLocks = false) →
      Guarded (r.locked s) (action.exec (r.locked s)).2) :
    r.TakesLockOnce s ((r.withLock action).exec s) := by
  have htaken : (r.locked s).store.locks = r.config.lockName :: s.store.locks ∧
      (r.locked s).store.lockAcquisitions = s.store.lockAcquisitions + 1 := by
    rw [store_locked hlock hlockable hfree]
    exact ⟨rfl, rfl⟩
  -- All entries of this name go when the lock is released, so it must have been free before.
  have hgiven : (r.config.lockName :: s.store.locks).filter (· != r.config.lockName) =
      s.store.locks := by
    have hnot : r.config.lockName ∉ s.store.locks := by
      simpa [isLocked, Store.isLocked] using hfree
    rw [List.filter_cons_of_neg (by simp), List.filter_eq_self]
    intro lock hmem
    have hne : lock ≠ r.config.lockName := fun heq => hnot (heq ▸ hmem)
    simpa using hne
  have hjournal : ToldUnderLock s (action.exec (r.locked s)).2 := by
    obtain ⟨entries, hentries⟩ := htold
    exact ⟨entries, by rwa [journal_locked] at hentries⟩
  rw [exec_withLock_of_free hlock hlockable hfree]
  generalize action.exec (r.locked s) = outcome at hjournal hguarded ⊢
  have hcount (hs : r.SeedersRequest (·.touchesLocks = false)) :
      outcome.2.store.lockAcquisitions = s.store.lockAcquisitions + 1 :=
    (hguarded hs).locks.lockAcquisitions.trans htaken.2
  have hrelease (result : Except Fault α) : r.TakesLockOnce s
      (result, { outcome.2 with store := outcome.2.store.release r.config.lockName }) := by
    refine ⟨hjournal, fun _ => by simp [isLocked, Store.isLocked, Store.release], hcount, ?_⟩
    intro hs _
    have hlocks : outcome.2.store.locks = r.config.lockName :: s.store.locks :=
      (hguarded hs).locks.locks.trans htaken.1
    exact (congrArg (List.filter (· != r.config.lockName)) hlocks).trans hgiven
  rcases outcome with ⟨(e | _) | x, u⟩
  · exact hrelease _
  · exact ⟨hjournal, fun hne => absurd rfl hne, hcount, fun _ hne => absurd rfl hne⟩
  · exact hrelease _

end Free

/-- A call under a configured lock. If the lock is free, the call takes it once, holds it at every
event and at every program of a migration that it runs, and gives it up whether it returns or
fails. If the lock is held elsewhere, the call reports just this and changes nothing. -/
theorem call_holds_lock (hlock : r.config.advisoryLock = true)
    (hlockable : s.store.lockable = true) (hbodies : r.BodiesRequest (·.touchesLocks = false)) :
    (r.isLocked s.store = false → r.TakesLockOnce s ((r.call c).exec s)) ∧
      (r.isLocked s.store = true → (r.call c).exec s =
        (.error (.failed (.lockUnavailable (.held r.config.lockName r.config.lockTimeout))), s)) := by
  constructor
  · intro hfree
    have hheld : r.isLocked (r.locked s).store = true := by
      rw [store_locked hlock hlockable hfree]
      simp [isLocked, Store.isLocked]
    have hstart := guarded_refl (r.locked s)
    have hlocked {α : Type} {action : Action α} (f : α → Report)
        (htold : ToldUnderLock (r.locked s) (action.exec (r.locked s)).2)
        (hguarded : r.SeedersRequest (·.touchesLocks = false) →
          Guarded (r.locked s) (action.exec (r.locked s)).2) :
        r.TakesLockOnce s ((f <$> r.withLock action).exec s) := by
      rw [Action.exec_map]
      exact (takesLockOnce_withLock hlock hlockable hfree htold hguarded).map f
    cases ho : c.options? with
    | some o =>
      rw [call_eq_prepare ho]
      have hprepared := guarded_prepare hheld hbodies c
      refine hlocked _ ?_ fun hseeders => ?_
      · have hu := hprepared (r.locked s) hstart
        rw [Action.exec_bind]
        generalize (r.prepare c).exec (r.locked s) = outcome at hu ⊢
        rcases outcome with ⟨fault | reverted, u⟩
        · exact hu.told
        · exact toldUnderLock_runPending hheld hbodies o reverted hu
      · have hreal := sustains_guarded hheld hbodies hseeders
        exact hprepared.bind (preserves_runPending r (tolerates_guarded hheld) (fun _ => hreal) rfl)
          (r.locked s) hstart
    | none =>
      cases c with
      | run | refresh | fresh => cases ho
      | rollback o =>
        have hreverted := preserves_rollbackRecords r (tolerates_guarded hheld)
          (fun t _ _ => guarded_execute hheld hbodies t) (rfl : o.pretend = _) (r.locked s) hstart
        exact hlocked _ hreverted.told fun _ => hreverted
      | reset pretend =>
        have hreverted := guarded_resetRecords hheld hbodies pretend (r.locked s) hstart
        exact hlocked _ hreverted.told fun _ => hreverted
  · intro hheld
    have hnot : ¬r.IsFree s.store := fun hfree => by
      rw [hfree hlock hlockable] at hheld
      cases hheld
    cases c <;>
      simp only [call, run, rollback, reset, refresh, fresh, Action.exec_map,
        exec_withLock_of_not_isFree hnot] <;>
      rfl

/-- A refresh that fails because the migration cannot be reverted: it has taken the lock a second
time, after the run, and has given it up. While the lock is held, it is not even tried. -/
theorem failing_refresh_gives_lock_up :
    let a : Migration :=
      { up := .request (.createTable "users" []), down := .request (.dropTable "posts") }
    let r : Runner := {
      config := { paths := ["m"], table := "t", advisoryLock := true }
      migrations := Dict.ofList [("a", a)] }
    let nodes := [(["m"], .directory), (["m", "a.rs"], .file [])]
    let s := ((r.call (.run {})).exec { files := { nodes } }).2
    let held : Session := { store := { locks := ["t_lock"] }, files := { nodes } }
    let outcome := (r.call (.refresh {})).exec s
    s.store.lockable = true ∧ r.BodiesRequest (·.touchesLocks = false) ∧
      r.isLocked s.store = false ∧ s.store.lockAcquisitions = 1 ∧
      outcome.1 = .error (.failed (.execution "a" (.adapter (.noSuchTable "posts")))) ∧
      r.TakesLockOnce s outcome ∧ outcome.2.store.lockAcquisitions = 2 ∧
      outcome.2.store.locks = [] ∧
      (r.call (.refresh {})).exec held =
        (.error (.failed (.lockUnavailable (.held "t_lock" r.config.lockTimeout))), held) := by
  intro a r nodes s held outcome
  have hruns : s.store.lockable = true ∧ r.isLocked s.store = false ∧ s.store.locks = [] ∧
      s.store.lockAcquisitions = 1 ∧ r.isLocked held.store = true ∧
      outcome.1 = .error (.failed (.execution "a" (.adapter (.noSuchTable "posts")))) := by
    decide +kernel +revert
  obtain ⟨hlockable, hfree, hnone, hcount, hheld, hresult⟩ := hruns
  have hbodies : r.BodiesRequest (·.touchesLocks = false) := by
    apply BodiesRequest.of_ofList rfl
    intro entry h
    obtain rfl := List.mem_singleton.1 h
    exact ⟨Program.requests_request rfl, Program.requests_request rfl⟩
  have honce : r.TakesLockOnce s outcome :=
    (call_holds_lock (c := .refresh {}) rfl hlockable hbodies).1 hfree
  have hseeders : r.SeedersRequest (·.touchesLocks = false) := .of_empty rfl
  have hcount' : outcome.2.store.lockAcquisitions = 2 := by
    rw [honce.once hseeders, hcount]
  have hnone' : outcome.2.store.locks = [] := by
    rw [honce.others hseeders (by simp [hresult]), hnone]
  exact ⟨hlockable, hbodies, hfree, hcount, hresult, honce, hcount', hnone',
    (call_holds_lock (c := .refresh {}) rfl rfl hbodies).2 hheld⟩

end Runner

end SchemaMigration
