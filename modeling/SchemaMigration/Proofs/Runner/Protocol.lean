import SchemaMigration.Proofs.Runner.EventGrammar
import SchemaMigration.Proofs.Runner.Pending

/-!
# The protocol of events

The events of a call follow a grammar: a run announces a batch, tells of each of its migrations in
order up to the first that fails, and says that the batch is over if none does; a rollback does the
same with what is to be reverted, and a refresh is a rollback and then a run. All listeners hear just
these events, and the call goes the same way whoever listens. The progress can be read off the
events.
-/

namespace SchemaMigration

namespace Runner

open SchemaMigration.Action

variable {r : Runner} {f : Files} {origin : Session} {listeners : List Listener}

section Quiet

theorem quiet_elapsedSince (started : Instant) :
    InStep (Session.Quiet r f origin) Eq (elapsedSince started) (elapsedSince started) :=
  quiet_now.bind_eq fun _ => inStep_pure rfl

theorem quiet_runBody (t : Task) (m : Migration) :
    InStep (Session.Quiet r f origin) Eq (r.runBody t m) (r.runBody t m) := by
  apply inStep_get_bind
  intro s s' hs
  rw [hs.store]
  apply (quiet_note rfl fun _ => rfl).bind_eq
  intro _
  apply (quiet_runProgram _ _).bind_eq
  intro outcome
  cases outcome with
  | returned | failed | timedOut => exact inStep_pure rfl
  | overflow => exact fun _ _ hs => ⟨.error _, hs⟩

theorem quiet_invoke (t : Task) (m : Migration) :
    InStep (Session.Quiet r f origin) Eq (r.invoke t m) (r.invoke t m) := by
  have opened (transactional : Bool) : InStep (Session.Quiet r f origin) Eq
      (r.invokeOpened t m transactional) (r.invokeOpened t m transactional) := by
    apply (quiet_runBody t m).bind_eq
    intro outcome
    cases outcome with
    | ok => exact .ite (fun _ => (quiet_change _).inMigration _) fun _ => inStep_pure rfl
    | error e =>
      apply InStep.ite
      · exact fun _ => (quiet_change _).attempt.bind fun _ _ _ => inStep_fail e
      · exact fun _ => inStep_fail e
  rw [invoke_eq]
  apply inStep_get_bind
  intro s s' hs
  rw [Migration.opensTransaction, Migration.opensTransaction, hs.store]
  apply InStep.ite
  · exact fun _ => ((quiet_change _).inMigration _).bind_eq fun _ => opened _
  · exact fun _ => opened _

theorem quiet_track (t : Task) (started : Instant) :
    InStep (Session.Quiet r f origin) Eq (r.track t started) (r.track t started) := by
  unfold track
  cases t.direction with
  | up =>
    apply inStep_get_bind
    intro s s' hs
    rw [hs.files, hs.files']
    apply (quiet_elapsedSince _).bind_eq
    intro elapsed
    apply quiet_now.bind_eq
    intro now
    exact (quiet_change _).bind_eq fun _ => inStep_pure rfl
  | down => exact (quiet_change _).bind_eq fun _ => inStep_pure rfl

theorem files_eq_of_quiet (s s' : Session) (h : Session.Quiet r f origin s s') :
    s.files = s'.files :=
  h.files.trans h.files'.symm

theorem quiet_carryOut (t : Task) :
    InStep (Session.Quiet r f origin) Eq (r.carryOut t) (r.carryOut t) := by
  apply inStep_inspectFiles_bind files_eq_of_quiet
  intro _ m _
  apply quiet_now.bind_eq
  intro started
  apply InStep.ite
  · intro _
    apply (quiet_invoke t m).bind_eq
    intro _
    exact (quiet_track t started).bind_eq fun _ => quiet_elapsedSince started
  · exact fun _ => quiet_elapsedSince started

theorem quiet_recordsForRun (pretend : Bool) :
    InStep (Session.Quiet r f origin) Eq (r.recordsForRun pretend) (r.recordsForRun pretend) := by
  apply InStep.ite
  · intro _
    apply inStep_get_bind
    intro s s' hs
    rw [hs.store]
    exact .ite (fun _ => quiet_read _) fun _ => inStep_pure rfl
  · exact fun _ => (quiet_change _).bind_eq fun _ => quiet_read _

theorem quiet_seed (name : Option String) :
    InStep (Session.Quiet r f origin) Eq (r.seed name) (r.seed name) := by
  apply inStep_inspectFiles_bind files_eq_of_quiet
  intro _ program _
  apply quiet_now.bind_eq
  intro started
  apply (quiet_say _).bind_eq
  intro _
  exact (quiet_runFully _).bind_eq fun _ => quiet_now.bind_eq fun _ => quiet_say _

theorem quiet_dropTables (tables : List String) :
    InStep (Session.Quiet r f origin) Eq (dropTables tables) (dropTables tables) := by
  induction tables with
  | nil => exact inStep_pure rfl
  | cons table rest ih =>
    apply inStep_get_bind
    intro s s' hs
    rw [hs.store]
    exact .ite (fun _ => (quiet_change _).bind_eq fun _ => ih) fun _ => ih

end Quiet

theorem begun_eq (r : Runner) (t : Task) (s : Session) :
    r.begun t s = r.telling t.startEvent t.startLine s := by
  have hstart : s.progress.follow t.startEvent = s.progress.start t.name := by
    simp [Progress.follow]
  rw [telling, hstart, begun]

theorem finished_eq (r : Runner) (t : Task) (elapsed : Nat) (s : Session) :
    r.finished t elapsed s = r.telling (t.endEvent elapsed) (t.endLine elapsed) s := by
  have hend : s.progress.follow (t.endEvent elapsed) = s.progress.complete ⟨true, none⟩ := by
    simp [Progress.follow]
  rw [telling, hend, finished]

theorem abandoned_eq (r : Runner) (t : Task) (e : Error) (s : Session) :
    r.abandoned t e s = r.telling (.error t.name t.direction e.message t.pretend)
      s!"Failed: {t.name}: {e.message}" s := rfl

section Tells

/-- A task tells that it begins, nothing while it is carried out, and then how it ends. -/
theorem execute_tells (t : Task) :
    Tells r f (r.execute t) ((r.withListeners listeners).execute t) t.Recounts := by
  intro s s' hs
  have hbegun := emitted_telling r t.startEvent t.startLine s
  have hstarted := unheard_telling (r := r) listeners hs t.startEvent t.startLine
  have hcarried := quiet_carryOut (r := r) t _ _ ⟨hstarted, .refl _⟩
  have hsame : (r.withListeners listeners).carryOut t = r.carryOut t := rfl
  rw [exec_execute, exec_execute, begun_eq, begun_eq, hsame]
  generalize (r.carryOut t).exec (r.telling _ _ s) = first at hcarried ⊢
  generalize (r.carryOut t).exec ((r.withListeners listeners).telling _ _ s') = second
    at hcarried ⊢
  obtain ⟨x, u⟩ := first
  obtain ⟨y, u'⟩ := second
  obtain ⟨hend, hquiet⟩ := hcarried
  obtain rfl : x = y := hend.eq
  have hemitted := hbegun.trans hquiet.emitted
  rcases x with (e | _) | elapsed
  · dsimp only
    rw [abandoned_eq, abandoned_eq]
    exact ⟨rfl, unheard_telling listeners hquiet.toUnheard _ _, _,
      hemitted.trans (emitted_telling _ _ _ u), .failed e⟩
  · exact ⟨rfl, hquiet.toUnheard, _, hemitted, .overflown⟩
  · dsimp only
    rw [finished_eq, finished_eq]
    exact ⟨rfl, unheard_telling listeners hquiet.toUnheard _ _, _,
      hemitted.trans (emitted_telling _ _ _ u), .completed elapsed⟩

theorem applyAll_tells (batch : Int64) (pretend : Bool) (selected : List (String × String)) :
    Tells r f (r.applyAll batch pretend selected)
      ((r.withListeners listeners).applyAll batch pretend selected)
      (RecountsAll (upTasks batch pretend selected)) := by
  induction selected with
  | nil => exact .pure _ .nil
  | cons file rest ih =>
    apply (execute_tells _).bind
    · intro _ word hword
      exact ih.mono fun _ _ hrest => .cons hword hrest
    · exact fun fault word hword => .stopped hword

/-- A run announces what it selects, applies it and says that it is over. -/
theorem runPending_tells (o : RunOptions) (reverted : List String) :
    Tells r f (r.runPending o reverted) ((r.withListeners listeners).runPending o reverted)
      (RunTells o) := by
  apply Tells.quiet_bind (fun _ => inStep_checkNames files_eq_of_quiet o) _ .refused
  intro _
  apply Tells.quiet_bind (fun _ => quiet_recordsForRun o.pretend) _ .refused
  intro read
  apply Tells.inspectFiles_bind _ .refused
  intro files _
  dsimp only
  generalize selectFiles o _ = selected
  apply Tells.ite
  · intro _
    apply Tells.say_bind
    exact .pure _ (.nothing fun report hreport => (Except.ok.inj hreport).symm)
  · intro hsome
    have hdue : selected ≠ [] := by simpa using hsome
    apply Tells.quiet_bind (fun _ => inStep_resume _) _ .refused
    intro batch
    apply Tells.emit_bind rfl rfl
    apply (applyAll_tells batch o.pretend _).bind
    · intro _ word hword
      apply Tells.emit_bind rfl rfl
      let names := selected.map (·.1)
      have hreported : Tells r f (pure ⟨some batch, names, o.pretend⟩)
          (pure ⟨some batch, names, o.pretend⟩) fun result later =>
            RunTells o result (.batchStarted batch names o.pretend ::
              (word ++ (.batchCompleted batch names o.pretend :: later))) := by
        apply Tells.pure
        apply RunTells.completed hdue hword
        · intro report hreport
          exact (Except.ok.inj hreport).symm
        · intro fault hfault
          cases hfault
      apply Tells.ite
      · intro hseed
        apply Tells.quiet_bind (fun _ => quiet_seed none) fun _ => hreported
        intro fault
        apply RunTells.completed hdue hword
        · intro report hreport
          cases hreport
        · intro _ _
          simp only [Bool.and_eq_true, Bool.not_eq_true'] at hseed
          exact hseed.1
      · exact fun _ => hreported
    · exact fun fault word hword => .stopped hword

theorem revertAll_tells (files : Dict String) (pretend : Bool) (records : List Record) :
    Tells r f (r.revertAll files pretend records)
      ((r.withListeners listeners).revertAll files pretend records)
      (RecountsReverts files pretend records) := by
  induction records with
  | nil => exact .pure _ ⟨.ok (), .nil, rfl⟩
  | cons record rest ih =>
    unfold revertAll
    simp only [bind_pure_comp]
    cases hfile : files.get? record.migration with
    | none =>
      apply Tells.say_bind
      apply Tells.map
      exact ih.mono fun _ _ hrest => hrest.passOver hfile
    | some path =>
      apply (execute_tells _).bind
      · intro _ first hfirst
        apply Tells.map
        exact ih.mono fun _ _ hrest => hrest.afterTask hfile hfirst
      · exact fun fault word hword => .stopped hfile hword

theorem nothingToRollBack_tells (found : Except Error (Dict String)) (pretend : Bool) :
    Tells r f (r.nothingToRollBack pretend) ((r.withListeners listeners).nothingToRollBack pretend)
      (RollbackTells found pretend) := by
  apply Tells.say_bind
  exact .pure _ (.nothing fun report hreport => (Except.ok.inj hreport).symm)

/-- A rollback announces what it selects, reverts what has a file and says that it is over. -/
theorem rollbackRecords_tells (o : RollbackOptions) :
    Tells r f (r.rollbackRecords o) ((r.withListeners listeners).rollbackRecords o)
      (RollbackTells (Discovery.discover r.config f) o.pretend) := by
  apply Tells.get_bind
  intro s s' hs
  rw [hs.store]
  apply Tells.ite
  · exact fun _ => nothingToRollBack_tells _ _
  · intro _
    apply Tells.quiet_bind (fun _ => quiet_read _) _ .refused
    intro records
    apply Tells.ite
    · exact fun _ => nothingToRollBack_tells _ _
    · intro hsome
      have hchosen : records ≠ [] := by simpa using hsome
      apply Tells.inspectFiles_bind _ .refused
      intro files hfiles
      apply Tells.emit_bind rfl rfl
      apply (revertAll_tells files o.pretend records).bind
      · intro report word hword
        obtain ⟨rfl, hdone⟩ := hword.of_ok
        apply Tells.emit_bind rfl rfl
        exact .pure _ (.completed hfiles hchosen hdone)
      · exact fun fault word hword => .stopped hfiles hword.of_error

/-- A reset is a rollback of as many batches as there can be, if any. -/
theorem resetRecords_tells (pretend : Bool) :
    Tells r f (r.resetRecords pretend) ((r.withListeners listeners).resetRecords pretend)
      (RollbackTells (Discovery.discover r.config f) pretend) := by
  apply Tells.get_bind
  intro s s' hs
  rw [hs.store]
  have hreset (last : Int64) : Tells r f
      (if last = 0 then r.nothingToRollBack pretend
        else r.rollbackRecords { steps := some last.toUInt64.toNat, pretend })
      (if last = 0 then (r.withListeners listeners).nothingToRollBack pretend
        else (r.withListeners listeners).rollbackRecords
          { steps := some last.toUInt64.toNat, pretend })
      (RollbackTells (Discovery.discover r.config f) pretend) := by
    apply Tells.ite
    · exact fun _ => nothingToRollBack_tells _ _
    · exact fun _ => rollbackRecords_tells _
  apply Tells.ite
  · exact fun _ => .quiet_bind (fun _ => quiet_read _) hreset .refused
  · exact fun _ => hreset 0

theorem freshPending_tells (o : RunOptions) :
    Tells r f (r.freshPending o) ((r.withListeners listeners).freshPending o) (RunTells o) := by
  apply Tells.ite
  · intro _
    apply Tells.get_bind
    intro s s' hs
    rw [hs.store]
    apply Tells.ite
    · exact fun _ => .quiet_bind (fun _ => quiet_read _) (runPending_tells o) .refused
    · exact fun _ => runPending_tells o []
  · intro _
    apply Tells.get_bind
    intro s s' hs
    rw [hs.store]
    apply Tells.quiet_bind (fun _ => quiet_dropTables _) _ .refused
    intro _
    exact .say_bind (runPending_tells o [])

/-- What a call emits follows the grammar, and listeners do not change how it goes. -/
theorem call_tells (r : Runner) (f : Files) (listeners : List Listener) (c : Command) :
    Tells r f (r.call c) ((r.withListeners listeners).call c)
      (c.Tells (Discovery.discover r.config f)) := by
  cases c with
  | run o =>
    apply Tells.map
    apply Tells.withLock ((runPending_tells o []).mono fun _ _ => .run)
    exact fun fault => .run (.refused fault)
  | rollback o =>
    apply Tells.map
    apply Tells.withLock ((rollbackRecords_tells o).mono fun _ _ => .rollback)
    exact fun fault => .rollback (.refused fault)
  | reset pretend =>
    apply Tells.map
    apply Tells.withLock ((resetRecords_tells pretend).mono fun _ _ => .reset)
    exact fun fault => .reset (.refused fault)
  | refresh o =>
    apply Tells.map
    apply Tells.withLock _ fun fault => .unreverted (.refused fault)
    apply (resetRecords_tells o.pretend).bind
    · intro report word hword
      exact (runPending_tells o _).mono fun _ _ => .refresh hword
    · exact fun fault word => .unreverted
  | fresh o =>
    apply Tells.map
    apply Tells.withLock ((freshPending_tells o).mono fun _ _ => .fresh)
    exact fun fault => .fresh (.refused fault)

end Tells

/-- What a call emits is a word of the grammar and has the pretence of the call. All listeners hear
just this word, and with other listeners, whatever they return, the call ends the same way and
changes all the rest alike. If it returns, the progress keeps what was told. -/
theorem call_follows_protocol (r : Runner) (c : Command) (s : Session) :
    let result := ((r.call c).exec s).1
    let after := ((r.call c).exec s).2
    (∃ word, Session.Emitted r s word after ∧
      c.Tells (Discovery.discover r.config s.files) result word ∧
      (∀ event ∈ word, event.pretend = c.pretend) ∧
      (result ≠ .error .overflow → s.progress.Keeps word after.progress)) ∧
    ∀ listeners, let other := ((r.withListeners listeners).call c).exec s
      other.1 = result ∧ after.Unheard s.files other.2 := by
  intro result after
  have htells (listeners : List Listener) := call_tells r s.files listeners c s s (.refl s)
  constructor
  · obtain ⟨-, -, word, hemitted, htold⟩ := htells []
    refine ⟨word, hemitted, htold, htold.pretend, fun hreturns => ?_⟩
    rw [hemitted.progress]
    exact (htold.paired hreturns).keeps _
  · intro listeners
    obtain ⟨hresult, hafter, -⟩ := htells listeners
    exact ⟨hresult.symm, hafter⟩

end Runner

end SchemaMigration
