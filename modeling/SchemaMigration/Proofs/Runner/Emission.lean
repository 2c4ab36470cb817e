import SchemaMigration.Proofs.Action.InStep
import SchemaMigration.Proofs.Runner.Lock
import SchemaMigration.Proofs.Runner.Narration
import SchemaMigration.Runner.Run

/-!
# Emission

What is emitted can be read off the journal, and so can what each listener hears; the progress
follows what is emitted. `Action.Tells` says which events an action emits and how it then ends. It
compares the action with the same one for other listeners, which ends the same way: what listeners
hear and return is noted, but never looked at.
-/

namespace SchemaMigration

/-- The event of an entry, if it is what a listener heard. -/
def Entry.heardBy? (listener : Nat) : Entry → Option Event
  | .heard delivery => if delivery.listener = listener then some delivery.event else none
  | _ => none

/-- Whether an entry is what some listener heard. -/
def Entry.isHeard : Entry → Bool
  | .heard _ => true
  | _ => false

/-- The migration that is about to be run, if an event says so. -/
def Event.attempt? : Event → Option String
  | migrating migration _ _ | rollingBack migration _ _ => some migration
  | _ => none

/-- The migration that was run and how this ended, if an event says so. -/
def Event.outcome? : Event → Option (String × MigrationResult)
  | migrated migration _ _ _ | rolledBack migration _ _ _ => some (migration, ⟨true, none⟩)
  | error migration _ message _ => some (migration, ⟨false, some message⟩)
  | _ => none

/-- The progress after an event. -/
def Progress.follow (p : Progress) (event : Event) : Progress :=
  match event.attempt?, event.outcome? with
  | some migration, _ => p.start migration
  | none, some outcome => p.complete outcome.2
  | none, none => p

theorem Progress.follow_of_none {event : Event} (hattempt : event.attempt? = none)
    (houtcome : event.outcome? = none) (p : Progress) : p.follow event = p := by
  rw [follow, hattempt, houtcome]

namespace Session

/-- The events that a listener heard, in order. -/
def heardBy (s : Session) (listener : Nat) : List Event :=
  s.journal.filterMap (Entry.heardBy? listener)

@[simp] theorem heardBy_journaled (s : Session) (entries : List Entry) (listener : Nat) :
    (s.journaled entries).heardBy listener =
      s.heardBy listener ++ entries.filterMap (Entry.heardBy? listener) := by
  simp [heardBy]

/-- Since a session, some events were emitted: all listeners heard them, in this order, and the
progress followed them. -/
structure Emitted (r : Runner) (origin : Session) (word : List Event) (s : Session) : Prop where
  events : s.events = origin.events ++ word
  heard : ∀ listener < r.listeners.length,
    s.heardBy listener = origin.heardBy listener ++ word
  progress : s.progress = word.foldl Progress.follow origin.progress

/-- Two sessions with some files are the same but for what listeners heard. -/
structure Unheard (f : Files) (s s' : Session) : Prop where
  files : s.files = f
  files' : s'.files = f
  store : s.store = s'.store
  clock : s.clock = s'.clock
  progress : s.progress = s'.progress
  journal : (s.journal.filter fun entry => !entry.isHeard) =
    s'.journal.filter fun entry => !entry.isHeard

/-- Two sessions are the same but for what listeners heard, and nothing was emitted. -/
structure Quiet (r : Runner) (f : Files) (origin s s' : Session) : Prop
    extends Unheard f s s' where
  emitted : Emitted r origin [] s

variable {r : Runner} {f : Files} {origin s s' u : Session} {word rest : List Event}

theorem Emitted.refl (s : Session) : Emitted r s [] s where
  events := (List.append_nil _).symm
  heard _ _ := (List.append_nil _).symm
  progress := rfl

theorem Emitted.trans (h : Emitted r origin word s) (h' : Emitted r s rest u) :
    Emitted r origin (word ++ rest) u where
  events := by rw [h'.events, h.events, List.append_assoc]
  heard listener hlistener := by
    rw [h'.heard listener hlistener, h.heard listener hlistener, List.append_assoc]
  progress := by rw [h'.progress, h.progress, List.foldl_append]

/-- Events are read off the journal, and the progress by itself. -/
theorem Emitted.of_journal (h : Emitted r origin word s) (hjournal : u.journal = s.journal)
    (hprogress : u.progress = s.progress) : Emitted r origin word u where
  events := by rw [events_of_journal hjournal, h.events]
  heard listener hlistener := by
    rw [heardBy, hjournal]
    exact h.heard listener hlistener
  progress := hprogress.trans h.progress

/-- Entries that are neither emitted nor heard do not count. -/
theorem Emitted.journaled (h : Emitted r origin word s) {entries : List Entry}
    (hevents : entries.filterMap Entry.event? = [])
    (hheard : ∀ listener, entries.filterMap (Entry.heardBy? listener) = []) :
    Emitted r origin word (s.journaled entries) where
  events := by rw [events_journaled, hevents, List.append_nil, h.events]
  heard listener hlistener := by
    rw [heardBy_journaled, hheard, List.append_nil, h.heard listener hlistener]
  progress := h.progress

namespace Unheard

theorem refl (s : Session) : Unheard s.files s s :=
  ⟨rfl, rfl, rfl, rfl, rfl, rfl⟩

theorem journaled (h : Unheard f s s') {entries entries' : List Entry}
    (hentries : (entries.filter fun entry => !entry.isHeard) =
      entries'.filter fun entry => !entry.isHeard) :
    Unheard f (s.journaled entries) (s'.journaled entries') where
  files := h.files
  files' := h.files'
  store := h.store
  clock := h.clock
  progress := h.progress
  journal := by
    simp only [journal_journaled, List.filter_append, h.journal, hentries]

theorem withStore (h : Unheard f s s') (store : Store) :
    Unheard f { s with store } { s' with store } :=
  ⟨h.files, h.files', rfl, h.clock, h.progress, h.journal⟩

theorem withProgress (h : Unheard f s s') (progress : Progress) :
    Unheard f { s with progress } { s' with progress } :=
  ⟨h.files, h.files', h.store, h.clock, rfl, h.journal⟩

theorem withClock (h : Unheard f s s') (clock : Instant) :
    Unheard f { s with clock } { s' with clock } :=
  ⟨h.files, h.files', h.store, rfl, h.progress, h.journal⟩

end Unheard

namespace Quiet

theorem withStore (h : Quiet r f origin s s') (store : Store) :
    Quiet r f origin { s with store } { s' with store } :=
  ⟨h.toUnheard.withStore store, h.emitted.of_journal rfl rfl⟩

theorem withClock (h : Quiet r f origin s s') (clock : Instant) :
    Quiet r f origin { s with clock } { s' with clock } :=
  ⟨h.toUnheard.withClock clock, h.emitted.of_journal rfl rfl⟩

theorem journaled (h : Quiet r f origin s s') {entries : List Entry}
    (hevents : entries.filterMap Entry.event? = [])
    (hheard : ∀ listener, entries.filterMap (Entry.heardBy? listener) = []) :
    Quiet r f origin (s.journaled entries) (s'.journaled entries) :=
  ⟨h.toUnheard.journaled rfl, h.emitted.journaled hevents hheard⟩

end Quiet

end Session

namespace Runner

/-- Each listener hears an event once. -/
theorem filterMap_heardBy?_deliverFrom (event : Event) (listeners : List Listener)
    (index listener : Nat) :
    ((deliverFrom index event listeners).map Entry.heard).filterMap (Entry.heardBy? listener) =
      if index ≤ listener ∧ listener < index + listeners.length then [event] else [] := by
  induction listeners generalizing index with
  | nil =>
    rw [if_neg (by rw [List.length_nil]; omega)]
    rfl
  | cons first rest ih =>
    rw [deliverFrom, List.map_cons, List.filterMap_cons, ih, Entry.heardBy?, List.length_cons]
    dsimp only
    by_cases h : index = listener
    · rw [if_pos h, if_neg (by omega), if_pos (by omega)]
    · have hlater : index + 1 ≤ listener ∧ listener < index + 1 + rest.length ↔
          index ≤ listener ∧ listener < index + (rest.length + 1) := by omega
      rw [if_neg h]
      simp only [hlater]

theorem filterMap_heardBy?_announcement (r : Runner) (event : Event) (s : Store) {listener : Nat}
    (h : listener < r.listeners.length) :
    (r.announcement event s).filterMap (Entry.heardBy? listener) = [event] := by
  have hdelivered := filterMap_heardBy?_deliverFrom event r.listeners 0 listener
  rw [if_pos (by omega)] at hdelivered
  exact hdelivered

theorem filterMap_heardBy?_printout (r : Runner) (line : String) (listener : Nat) :
    (r.printout line).filterMap (Entry.heardBy? listener) = [] := by
  unfold printout
  split <;> rfl

/-- An event leaves the same entry whoever listens. -/
theorem filter_unheard_announcement (r : Runner) (event : Event) (s : Store) :
    ((r.announcement event s).filter fun entry => !entry.isHeard) =
      [.emitted event (r.isLocked s) s.inTransaction] := by
  have hnone : (((deliver r.listeners event).map Entry.heard).filter fun entry =>
      !entry.isHeard) = [] := by
    simp [Entry.isHeard]
  rw [announcement, List.filter_cons_of_pos rfl, hnone]

/-- The same runner with other listeners. -/
def withListeners (r : Runner) (listeners : List Listener) : Runner :=
  { r with listeners }

variable {r : Runner} {f : Files} {s s' : Session}

/-- The session in which an event is emitted, the progress follows it and a line is printed. -/
def telling (r : Runner) (event : Event) (line : String) (s : Session) : Session :=
  Session.journaled { s with progress := s.progress.follow event }
    (r.announcement event s.store ++ r.printout line)

theorem emitted_telling (r : Runner) (event : Event) (line : String) (s : Session) :
    Session.Emitted r s [event] (r.telling event line s) where
  events := by simp [telling]
  heard listener hlistener := by
    rw [telling, Session.heardBy_journaled, List.filterMap_append, filterMap_heardBy?_printout,
      filterMap_heardBy?_announcement r event s.store hlistener]
    rfl
  progress := rfl

theorem unheard_telling (listeners : List Listener) (h : s.Unheard f s') (event : Event)
    (line : String) :
    (r.telling event line s).Unheard f ((r.withListeners listeners).telling event line s') := by
  unfold telling
  rw [h.progress]
  apply (h.withProgress _).journaled
  rw [List.filter_append, List.filter_append, filter_unheard_announcement,
    filter_unheard_announcement, h.store]
  rfl

/-- Names are checked alike where there are the same files. -/
theorem inStep_checkNames {P : Session → Session → Prop}
    (hfiles : ∀ s s', P s s' → s.files = s'.files) (o : RunOptions) :
    Action.InStep P Eq (r.checkNames o) (r.checkNames o) := by
  unfold checkNames
  cases o.only with
  | none => exact Action.inStep_pure rfl
  | some names =>
    refine Action.inStep_inspectFiles_bind hfiles fun _ files _ => ?_
    split
    · exact Action.inStep_fail _
    · exact Action.inStep_pure rfl

end Runner

namespace Action

open Runner

variable {α β : Type} {r : Runner} {f : Files}

/-- From sessions that are the same but for what listeners heard, two actions end the same way and
leave such sessions. The first one emits events that go with the way it ends. -/
def Tells (r : Runner) (f : Files) (a b : Action α) (P : Except Fault α → List Event → Prop) :
    Prop :=
  ∀ s s', s.Unheard f s' → (a.exec s).1 = (b.exec s').1 ∧ (a.exec s).2.Unheard f (b.exec s').2 ∧
    ∃ word, Session.Emitted r s word (a.exec s).2 ∧ P (a.exec s).1 word

namespace Tells

variable {a b : Action α} {P P' : Except Fault α → List Event → Prop}
  {Q : Except Fault β → List Event → Prop} {g k : α → Action β}

theorem mono (h : Tells r f a b P) (hP : ∀ result word, P result word → P' result word) :
    Tells r f a b P' := by
  intro s s' hs
  obtain ⟨hresult, hafter, word, hemitted, hword⟩ := h s s' hs
  exact ⟨hresult, hafter, word, hemitted, hP _ _ hword⟩

theorem of_quiet (h : ∀ origin, InStep (Session.Quiet r f origin) Eq a b)
    (hP : ∀ result, P result []) : Tells r f a b P := by
  intro s s' hs
  obtain ⟨hend, hafter⟩ := h s s s' ⟨hs, .refl s⟩
  exact ⟨hend.eq, hafter.toUnheard, [], hafter.emitted, hP _⟩

theorem pure (x : α) (h : P (.ok x) []) : Tells r f (Pure.pure x) (Pure.pure x) P :=
  fun s _ hs => ⟨rfl, hs, [], .refl s, h⟩

/-- The first events go with a value or an error, and only with a value there are more. -/
theorem bind (h : Tells r f a b P)
    (hok : ∀ x first, P (.ok x) first →
      Tells r f (g x) (k x) fun result later => Q result (first ++ later))
    (herror : ∀ fault word, P (.error fault) word → Q (.error fault) word) :
    Tells r f (a >>= g) (b >>= k) Q := by
  intro s s' hs
  have hboth := h s s' hs
  rw [exec_bind, exec_bind]
  generalize a.exec s = first at hboth ⊢
  generalize b.exec s' = second at hboth ⊢
  obtain ⟨x, u⟩ := first
  obtain ⟨y, u'⟩ := second
  obtain ⟨rfl, hu, word, hemitted, hword⟩ := hboth
  cases x with
  | error fault => exact ⟨rfl, hu, word, hemitted, herror fault word hword⟩
  | ok x =>
    obtain ⟨hresult, hafter, later, hlater, hQ⟩ := hok x word hword u u' hu
    exact ⟨hresult, hafter, word ++ later, hemitted.trans hlater, hQ⟩

theorem quiet_bind (h : ∀ origin, InStep (Session.Quiet r f origin) Eq a b)
    (hok : ∀ x, Tells r f (g x) (k x) Q) (herror : ∀ fault, Q (.error fault) []) :
    Tells r f (a >>= g) (b >>= k) Q := by
  apply bind (of_quiet h (P := fun _ word => word = []) fun _ => rfl)
  · rintro x - rfl
    exact hok x
  · rintro fault - rfl
    exact herror fault

theorem map (q : α → β) (h : Tells r f a b fun result word => Q (result.map q) word) :
    Tells r f (q <$> a) (q <$> b) Q := by
  intro s s' hs
  obtain ⟨hresult, hafter, word, hemitted, hword⟩ := h s s' hs
  rw [exec_map, exec_map]
  exact ⟨congrArg (Except.map q) hresult, hafter, word, hemitted, hword⟩

theorem ite {c : Prop} [Decidable c] {a' b' : Action α} (h : c → Tells r f a b P)
    (h' : ¬c → Tells r f a' b' P) : Tells r f (if c then a else a') (if c then b else b') P := by
  by_cases hc : c
  · rw [if_pos hc, if_pos hc]
    exact h hc
  · rw [if_neg hc, if_neg hc]
    exact h' hc

theorem get_bind {g k : Session → Action β}
    (h : ∀ s s', s.Unheard f s' → Tells r f (g s) (k s') Q) :
    Tells r f (get >>= g) (get >>= k) Q := by
  intro s s' hs
  exact h s s' hs s s' hs

/-- What follows an inspection of the files may rely on what was found in them. -/
theorem inspectFiles_bind {look : Files → Except Error α}
    (hok : ∀ x, look f = .ok x → Tells r f (g x) (k x) Q)
    (herror : ∀ fault, Q (.error fault) []) :
    Tells r f (inspectFiles look >>= g) (inspectFiles look >>= k) Q := by
  intro s s' hs
  rw [exec_bind, exec_bind, exec_inspectFiles, exec_inspectFiles, hs.files, hs.files']
  cases hlook : look f with
  | error e => exact ⟨rfl, hs, [], .refl s, herror _⟩
  | ok x => exact hok x hlook s s' hs

/-- What follows an action that cannot fail tells the rest. -/
theorem bind_unit {a b : Action Unit} {g k : Unit → Action β} {first : List Event}
    (h : Tells r f a b fun result word => result = .ok () ∧ word = first)
    (hlater : Tells r f (g ()) (k ()) fun result later => Q result (first ++ later)) :
    Tells r f (a >>= g) (b >>= k) Q := by
  apply h.bind
  · rintro _ _ ⟨-, rfl⟩
    exact hlater
  · rintro fault word ⟨hfault, -⟩
    cases hfault

/-- An event that is not about a single migration comes before what follows it. -/
theorem emit_bind {listeners : List Listener} {event : Event} {g k : Unit → Action β}
    (hattempt : event.attempt? = none) (houtcome : event.outcome? = none)
    (h : Tells r f (g ()) (k ()) fun result later => Q result (event :: later)) :
    Tells r f (r.emit event >>= g) ((r.withListeners listeners).emit event >>= k) Q := by
  have hemit : Tells r f (r.emit event) ((r.withListeners listeners).emit event)
      fun result word => result = .ok () ∧ word = [event] := by
    intro s s' hs
    rw [exec_emit, exec_emit]
    refine ⟨rfl, ?_, [event], ?_, rfl, rfl⟩
    · apply hs.journaled
      rw [filter_unheard_announcement, filter_unheard_announcement, hs.store]
      rfl
    · refine ⟨by simp, fun listener hlistener => ?_, ?_⟩
      · rw [Session.heardBy_journaled, filterMap_heardBy?_announcement r event s.store hlistener]
      · exact (Progress.follow_of_none hattempt houtcome _).symm
  exact hemit.bind_unit h

/-- An error that is caught went with the events before it. -/
theorem attempt (h : Tells r f a b P) :
    Tells r f (Action.attempt a) (Action.attempt b) fun result word =>
      match result with
      | .ok outcome => P (outcome.mapError .failed) word
      | .error fault => P (.error fault) word := by
  intro s s' hs
  have hboth := h s s' hs
  rw [exec_attempt, exec_attempt]
  generalize a.exec s = first at hboth ⊢
  generalize b.exec s' = second at hboth ⊢
  obtain ⟨x, u⟩ := first
  obtain ⟨y, u'⟩ := second
  obtain ⟨rfl, hu, word, hemitted, hword⟩ := hboth
  rcases x with (e | _) | x
  · exact ⟨rfl, hu, word, hemitted, hword⟩
  · exact ⟨rfl, hu, word, hemitted, hword⟩
  · exact ⟨rfl, hu, word, hemitted, hword⟩

end Tells

/-! Actions that emit nothing. -/

section Quiet

variable {α β : Type} {r : Runner} {f : Files} {origin : Session}

theorem inStep_get_bind {P : Session → Session → Prop} {Q : α → β → Prop}
    {g : Session → Action α} {k : Session → Action β}
    (h : ∀ s s', P s s' → InStep P Q (g s) (k s')) : InStep P Q (get >>= g) (get >>= k) :=
  fun s s' hs => h s s' hs s s' hs

/-- Actions that end the same way may go on with what they return. -/
theorem InStep.bind_eq {P : Session → Session → Prop} {γ : Type} {Q : β → γ → Prop}
    {a b : Action α} {g : α → Action β} {k : α → Action γ} (h : InStep P Eq a b)
    (hg : ∀ x, InStep P Q (g x) (k x)) : InStep P Q (a >>= g) (b >>= k) := by
  apply h.bind
  rintro x _ rfl
  exact hg x

theorem quiet_now : InStep (Session.Quiet r f origin) Eq now now := by
  intro s s' hs
  rw [exec_now, exec_now, hs.clock]
  exact ⟨.ok rfl, hs.withClock _⟩

theorem quiet_read (c : Store → Except Fault α) :
    InStep (Session.Quiet r f origin) Eq (read c) (read c) := by
  intro s s' hs
  rw [exec_read, exec_read, hs.store]
  exact ⟨.refl _, hs⟩

theorem quiet_change (c : Change α) :
    InStep (Session.Quiet r f origin) Eq (change c) (change c) := by
  intro s s' hs
  rw [exec_change, exec_change, hs.store]
  cases c s'.store with
  | error fault => exact ⟨.error fault, hs⟩
  | ok changed => exact ⟨.ok rfl, hs.withStore changed.2⟩

theorem quiet_runProgram (limit : Option Nat) (program : Program α) :
    InStep (Session.Quiet r f origin) Eq (runProgram limit program) (runProgram limit program) := by
  intro s s' hs
  rw [exec_runProgram, exec_runProgram, hs.store]
  exact ⟨.ok rfl, hs.withStore _⟩

theorem quiet_runFully (program : Program α) :
    InStep (Session.Quiet r f origin) Eq (runFully program) (runFully program) := by
  intro s s' hs
  rw [exec_runFully, exec_runFully, hs.store]
  exact ⟨.refl _, hs.withStore _⟩

theorem quiet_note {entry : Entry} (hevent : entry.event? = none)
    (hheard : ∀ listener, entry.heardBy? listener = none) :
    InStep (Session.Quiet r f origin) Eq (note entry) (note entry) := by
  intro s s' hs
  rw [exec_note, exec_note]
  exact ⟨.ok rfl, hs.journaled (by simp [hevent]) fun listener => by simp [hheard]⟩

theorem quiet_say (line : String) :
    InStep (Session.Quiet r f origin) Eq (r.say line) (r.say line) := by
  unfold Runner.say
  apply InStep.ite
  · exact fun _ => inStep_pure rfl
  · exact fun _ => quiet_note rfl fun _ => rfl

theorem quiet_acquireLock :
    InStep (Session.Quiet r f origin) Eq r.acquireLock r.acquireLock := by
  apply inStep_get_bind
  intro s s' hs
  rw [hs.store]
  apply InStep.ite
  · intro _
    apply (quiet_change _).bind_eq
    intro taken
    exact .ite (fun _ => inStep_pure rfl) fun _ => inStep_fail _
  · exact fun _ => inStep_pure rfl

theorem quiet_releaseLock (held : Bool) :
    InStep (Session.Quiet r f origin) Eq (r.releaseLock held) (r.releaseLock held) :=
  .ite (fun _ => quiet_change _) fun _ => inStep_pure rfl

end Quiet

/-- To print a line tells nothing, and it cannot fail. -/
theorem Tells.say_bind {α : Type} {r : Runner} {f : Files} {line : String}
    {Q : Except Fault α → List Event → Prop} {g k : Unit → Action α}
    (h : Tells r f (g ()) (k ()) Q) : Tells r f (r.say line >>= g) (r.say line >>= k) Q := by
  have hsay : Tells r f (r.say line) (r.say line) fun result word =>
      result = .ok () ∧ word = [] := by
    intro s s' hs
    have hquiet : Session.Quiet r f s s s' := ⟨hs, .refl s⟩
    have hsaid := (quiet_say line s s' hquiet).2
    rw [exec_say, exec_say] at hsaid ⊢
    exact ⟨rfl, hsaid.toUnheard, [], hsaid.emitted, rfl, rfl⟩
  exact hsay.bind_unit h

/-- A call under the lock tells what it tells without, or nothing if the lock is held elsewhere. -/
theorem Tells.withLock {α : Type} {r : Runner} {f : Files} {a b : Action α}
    {P : Except Fault α → List Event → Prop} (h : Tells r f a b P)
    (hrefused : ∀ fault, P (.error fault) []) : Tells r f (r.withLock a) (r.withLock b) P := by
  apply quiet_bind (fun _ => quiet_acquireLock) _ hrefused
  intro held
  apply h.attempt.bind
  · intro outcome word hword s s' hs
    have hquiet : Session.Quiet r f s s s' := ⟨hs, .refl s⟩
    have hreleased := (quiet_releaseLock held s s' hquiet).2
    rw [exec_releaseLock, exec_releaseLock] at hreleased
    rw [exec_bind, exec_bind, exec_releaseLock, exec_releaseLock]
    dsimp only
    rw [exec_orFail, exec_orFail]
    exact ⟨rfl, hreleased.toUnheard, [], hreleased.emitted, by rwa [List.append_nil]⟩
  · exact fun fault word hword => hword

end Action

end SchemaMigration
