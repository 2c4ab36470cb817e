import SchemaMigration.Proofs.Action.Frame
import SchemaMigration.Runner.Basic

/-!
# Narration

While migrations are run, events are emitted and lines are printed. `Session.events` and
`Session.invocations` read a journal back as the events that were emitted and the programs that were
run. An assertion that ignores narration is preserved by everything that only narrates.
-/

namespace SchemaMigration

/-- The event of an entry, if it is the emission of one. -/
def Entry.event? : Entry → Option Event
  | .emitted event _ _ => some event
  | _ => none

/-- The migration and the direction of an entry, if it is the run of a program. -/
def Entry.invocation? : Entry → Option (String × Direction)
  | .invoked migration direction _ => some (migration, direction)
  | _ => none

namespace Session

/-- The events that were emitted, in order. -/
def events (s : Session) : List Event :=
  s.journal.filterMap Entry.event?

/-- The programs of migrations that were run, in order. -/
def invocations (s : Session) : List (String × Direction) :=
  s.journal.filterMap Entry.invocation?

@[simp] theorem events_journaled (s : Session) (entries : List Entry) :
    (s.journaled entries).events = s.events ++ entries.filterMap Entry.event? := by
  simp [events]

@[simp] theorem invocations_journaled (s : Session) (entries : List Entry) :
    (s.journaled entries).invocations =
      s.invocations ++ entries.filterMap Entry.invocation? := by
  simp [invocations]

/-- Events are read off the journal alone. -/
theorem events_of_journal {s s' : Session} (h : s'.journal = s.journal) : s'.events = s.events := by
  rw [events, h, events]

@[simp] theorem events_progress (s : Session) (progress : Progress) :
    ({ s with progress } : Session).events = s.events :=
  events_of_journal rfl

@[simp] theorem events_store (s : Session) (store : Store) :
    ({ s with store } : Session).events = s.events :=
  events_of_journal rfl

@[simp] theorem events_clock (s : Session) (clock : Instant) :
    ({ s with clock } : Session).events = s.events :=
  events_of_journal rfl

/-- An assertion on sessions that depends neither on what is told, printed or observed, nor on the
clock, nor on who holds a lock. -/
structure IgnoresNarration (I : Session → Prop) : Prop where
  journaled : ∀ s entries, entries.filterMap Entry.invocation? = [] → I s → I (s.journaled entries)
  progress : ∀ s progress, I s → I { s with progress }
  clock : ∀ s clock, I s → I { s with clock }
  locks : ∀ (s : Session) locks lockAcquisitions, I s →
    I { s with store := { s.store with locks, lockAcquisitions } }

theorem ignoresNarration_tables (tables : Dict Table) :
    IgnoresNarration fun s => s.store.tables = tables :=
  ⟨fun _ _ _ h => h, fun _ _ h => h, fun _ _ h => h, fun _ _ _ h => h⟩

theorem IgnoresNarration.and {I J : Session → Prop} (hI : IgnoresNarration I)
    (hJ : IgnoresNarration J) : IgnoresNarration fun s => I s ∧ J s where
  journaled s entries h hs := ⟨hI.journaled s entries h hs.1, hJ.journaled s entries h hs.2⟩
  progress s progress hs := ⟨hI.progress s progress hs.1, hJ.progress s progress hs.2⟩
  clock s clock hs := ⟨hI.clock s clock hs.1, hJ.clock s clock hs.2⟩
  locks s locks n hs := ⟨hI.locks s locks n hs.1, hJ.locks s locks n hs.2⟩

theorem ignoresNarration_hasTable (table : String) :
    IgnoresNarration fun s => s.store.hasTable table = true :=
  ⟨fun _ _ _ h => h, fun _ _ h => h, fun _ _ h => h, fun _ _ _ h => h⟩

theorem ignoresNarration_files (f : Files) : IgnoresNarration fun s => s.files = f :=
  ⟨fun _ _ _ h => h, fun _ _ h => h, fun _ _ h => h, fun _ _ _ h => h⟩

end Session

namespace Runner

/-- The entries that an event adds to the journal. -/
def announcement (r : Runner) (event : Event) (s : Store) : List Entry :=
  .emitted event (r.isLocked s) s.inTransaction ::
    (deliver r.listeners event).map fun delivery => .heard delivery

/-- The entries that a line adds to the journal. -/
def printout (r : Runner) (line : String) : List Entry :=
  if r.config.quiet then [] else [.printed line]

@[simp] theorem exec_emit (r : Runner) (event : Event) (s : Session) :
    (r.emit event).exec s = (.ok (), s.journaled (r.announcement event s.store)) := by
  simp [emit, announcement]

@[simp] theorem exec_say (r : Runner) (line : String) (s : Session) :
    (r.say line).exec s = (.ok (), s.journaled (r.printout line)) := by
  unfold say printout
  split <;> simp

@[simp] theorem exec_files (r : Runner) (s : Session) :
    r.files.exec s = ((Discovery.discover r.config s.files).mapError .failed, s) :=
  Action.exec_inspectFiles _ _

theorem files_eq_ok {r : Runner} {s s' : Session} {files : Dict String} :
    r.files.exec s = (.ok files, s') ↔
      Discovery.discover r.config s.files = .ok files ∧ s' = s := by
  rw [exec_files]
  rcases Discovery.discover r.config s.files with e | found <;>
    simp [mapError_ok, mapError_error, eq_comm]

@[simp] theorem filterMap_event?_announcement (r : Runner) (event : Event) (s : Store) :
    (r.announcement event s).filterMap Entry.event? = [event] := by
  simp [announcement, Entry.event?, Function.comp_def]

@[simp] theorem filterMap_invocation?_announcement (r : Runner) (event : Event) (s : Store) :
    (r.announcement event s).filterMap Entry.invocation? = [] := by
  simp [announcement, Entry.invocation?]

@[simp] theorem filterMap_event?_printout (r : Runner) (line : String) :
    (r.printout line).filterMap Entry.event? = [] := by
  unfold printout
  split <;> simp [Entry.event?]

@[simp] theorem filterMap_invocation?_printout (r : Runner) (line : String) :
    (r.printout line).filterMap Entry.invocation? = [] := by
  unfold printout
  split <;> simp [Entry.invocation?]

/-- An assertion on sessions that a runner preserves when it only narrates: when it tells or prints
something, keeps the progress or reads the clock. -/
structure Tolerates (r : Runner) (I : Session → Prop) : Prop where
  emit : ∀ event, (r.emit event).Preserves I
  say : ∀ line, (r.say line).Preserves I
  advance : ∀ f, (Action.advance f).Preserves I
  now : Action.now.Preserves I

/-- To narrate does nothing to the store. -/
theorem tolerates_store (r : Runner) (J : Store → Prop) : r.Tolerates fun s => J s.store where
  emit event s hs := by
    rw [exec_emit]
    exact hs
  say line s hs := by
    rw [exec_say]
    exact hs
  advance f s hs := by
    rw [Action.exec_advance]
    exact hs
  now s hs := by
    rw [Action.exec_now]
    exact hs

variable {α : Type} {I : Session → Prop} (hI : Session.IgnoresNarration I) (r : Runner)

include hI

theorem preserves_emit (event : Event) : (r.emit event).Preserves I := by
  intro s hs
  rw [exec_emit]
  exact hI.journaled s _ (filterMap_invocation?_announcement r event s.store) hs

theorem preserves_say (line : String) : (r.say line).Preserves I := by
  intro s hs
  rw [exec_say]
  exact hI.journaled s _ (filterMap_invocation?_printout r line) hs

theorem preserves_advance (f : Progress → Progress) : (Action.advance f).Preserves I := by
  intro s hs
  rw [Action.exec_advance]
  exact hI.progress s _ hs

theorem preserves_now : Action.now.Preserves I := by
  intro s hs
  rw [Action.exec_now]
  exact hI.clock s _ hs

theorem tolerates : r.Tolerates I :=
  ⟨preserves_emit hI r, preserves_say hI r, preserves_advance hI, preserves_now hI⟩

theorem preserves_acquireLock : r.acquireLock.Preserves I := by
  unfold acquireLock
  refine .bind Action.preserves_get fun _ => .ite (fun _ => ?_) fun _ => Action.preserves_pure _
  refine .bind (Action.preserves_change fun s taken store hs h => ?_) fun _ =>
    .ite (fun _ => Action.preserves_pure _) fun _ => Action.preserves_fail _
  have hstore : (s.store.acquire r.config.lockName).2 = store :=
    congrArg Prod.snd (Except.ok.inj h)
  rw [← hstore, Store.acquire]
  split
  · exact hs
  · exact hI.locks s _ _ hs

theorem preserves_releaseLock (held : Bool) : (r.releaseLock held).Preserves I := by
  refine .ite (fun _ => Action.preserves_change fun s _ store hs h => ?_) fun _ =>
    Action.preserves_pure _
  obtain rfl : s.store.release r.config.lockName = store := (Prod.mk.inj (Except.ok.inj h)).2
  exact hI.locks s _ _ hs

/-- An action preserves such an assertion under the lock if it does without. -/
theorem preserves_withLock {action : Action α} (h : action.Preserves I) :
    (r.withLock action).Preserves I := by
  refine .bind (preserves_acquireLock hI r) fun held => .bind h.attempt fun _ => ?_
  exact .bind (preserves_releaseLock hI r held) fun _ => Action.preserves_orFail _

end Runner

end SchemaMigration
