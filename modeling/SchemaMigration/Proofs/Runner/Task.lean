import SchemaMigration.Proofs.Runner.History

/-!
# How tasks end

A task that is really carried out either completes, which brings the tracking table up to date, or
it fails for one of a few causes and leaves the tracking table as it was. This holds as long as no
program writes the tracking table or opens and closes transactions by itself.
-/

namespace SchemaMigration

namespace Task

/-- A task completes: its program returns, and then the tracking table is brought up to date. -/
inductive Completes (t : Task) (r : Runner) (f : Files) (s : Store) : Store → Prop where
  /-- A record is logged. -/
  | logged {m : Migration} {store s' : Store} {record stored : Record} (up : t.direction = .up)
      (loaded : Discovery.load r.migrations t.path f = .ok m) (started : m.CanStart s)
      (returned : (m.body t.direction).run r.config.timeout (m.opened s) = (.returned (), store))
      (migration : record.migration = t.name) (batch : record.batch = t.batch)
      (checksum : record.checksum = (Runner.checksum t.path f).toOption)
      (logged : Tracking.log r.config.table record (m.closed s store) = .ok (stored, s')) :
      Completes t r f s s'
  /-- The records of the migration are deleted. -/
  | deleted {m : Migration} {store s' : Store} {n : Nat} (down : t.direction = .down)
      (loaded : Discovery.load r.migrations t.path f = .ok m) (started : m.CanStart s)
      (returned : (m.body t.direction).run r.config.timeout (m.opened s) = (.returned (), store))
      (deleted : Tracking.delete r.config.table t.name (m.closed s store) = .ok (n, s')) :
      Completes t r f s s'

/-- A task fails on a store, with a fault for each cause. -/
inductive Fails (t : Task) (r : Runner) (f : Files) (s : Store) : Fault → Prop where
  /-- Its migration cannot be loaded. -/
  | load {e : Error} (unloaded : Discovery.load r.migrations t.path f = .error e) :
      Fails t r f s (.failed e)
  /-- The transaction of the program cannot be opened. -/
  | begin {m : Migration} (loaded : Discovery.load r.migrations t.path f = .ok m)
      (blocked : ¬m.CanStart s) :
      Fails t r f s (.failed (.execution t.name (.adapter .transactionActive)))
  /-- The program fails. -/
  | body {m : Migration} {e : Error} {store : Store}
      (loaded : Discovery.load r.migrations t.path f = .ok m) (started : m.CanStart s)
      (failed : (m.body t.direction).run r.config.timeout (m.opened s) = (.failed e, store)) :
      Fails t r f s (.failed (e.inMigration t.name))
  /-- The time of the program is over. -/
  | timeout {m : Migration} {store : Store}
      (loaded : Discovery.load r.migrations t.path f = .ok m) (started : m.CanStart s)
      (timedOut : (m.body t.direction).run r.config.timeout (m.opened s) = (.timedOut, store)) :
      Fails t r f s (.failed (.timeout t.name (r.config.timeout.getD 0)))
  /-- A number leaves its range in the program. -/
  | overflow {m : Migration} {store : Store}
      (loaded : Discovery.load r.migrations t.path f = .ok m) (started : m.CanStart s)
      (overflown : (m.body t.direction).run r.config.timeout (m.opened s) = (.overflow, store)) :
      Fails t r f s .overflow
  /-- The program returns, but there is no number left for its record. -/
  | unnumbered {m : Migration} {store : Store} (up : t.direction = .up)
      (loaded : Discovery.load r.migrations t.path f = .ok m) (started : m.CanStart s)
      (returned : (m.body t.direction).run r.config.timeout (m.opened s) = (.returned (), store))
      (full : ∀ tracking, s.tables.get? r.config.table = some tracking →
        successor? tracking.nextId = none) :
      Fails t r f s .overflow

/-- A task ends on a store: it completes, or it fails and the tracking table is as it was. -/
def Ends {α : Type} (t : Task) (r : Runner) (f : Files) (s : Store) : Except Fault α → Store → Prop
  | .ok _, s' => t.Completes r f s s'
  | .error fault, s' =>
    t.Fails r f s fault ∧ s'.tables.get? r.config.table = s.tables.get? r.config.table

end Task

namespace Runner

/-- The task of applying a file as part of a batch. -/
def applying (batch : Int64) (file : String × String) : Task where
  name := file.1
  path := file.2
  batch := batch
  direction := .up
  pretend := false

/-- The task of reverting a record whose migration has a file. -/
def reverting (record : Record) (path : String) : Task where
  name := record.migration
  path := path
  batch := record.batch
  direction := .down
  pretend := false

/-- Files are applied one after the other. -/
theorem applyAll_cons (r : Runner) (batch : Int64) (file : String × String)
    (rest : List (String × String)) :
    r.applyAll batch false (file :: rest) =
      r.execute (applying batch file) >>= fun _ => r.applyAll batch false rest := rfl

variable {r : Runner} {t : Task} {s : Session}

theorem exec_elapsedSince (started : Instant) (s : Session) :
    (elapsedSince started).exec s =
      (.ok (s.clock.millisSince started), { s with clock := s.clock.next }) := rfl

/-- The record of a task whose program returned. -/
def recordOf (t : Task) (started : Instant) (s : Session) : Record where
  migration := t.name
  batch := t.batch
  executionTime := some ((int64? (s.clock.millisSince started)).getD Int64.maxValue)
  checksum := (checksum t.path s.files).toOption
  createdAt := some s.clock.next

theorem exec_track_up (ht : t.direction = .up) (started : Instant) :
    (r.track t started).exec s =
      match Tracking.log r.config.table (recordOf t started s) s.store with
      | .ok (_, store) => (.ok (), { s with store, clock := s.clock.next.next })
      | .error fault => (.error fault, { s with clock := s.clock.next.next }) := by
  simp only [track, ht, Action.exec_bind, Action.exec_get, exec_elapsedSince, Action.exec_now,
    Action.exec_change, recordOf]
  generalize Tracking.log r.config.table _ s.store = outcome
  rcases outcome with fault | ⟨record, store⟩ <;> rfl

theorem exec_track_down (ht : t.direction = .down) (started : Instant) :
    (r.track t started).exec s =
      match Tracking.delete r.config.table t.name s.store with
      | .ok (_, store) => (.ok (), { s with store })
      | .error fault => (.error fault, s) := by
  simp only [track, ht, Action.exec_bind, Action.exec_change]
  rcases Tracking.delete r.config.table t.name s.store with fault | ⟨n, store⟩ <;> rfl

variable {tracking : Table}

/-- With a tracking table, the task of a program that returned is tracked unless numbers run out. -/
theorem exec_track (hget : s.store.tables.get? r.config.table = some tracking)
    (htracks : tracking.Tracks) (hb : t.direction = .up → 1 ≤ t.batch.toInt) (started : Instant) :
    ∃ result s', (r.track t started).exec s = (result, s') ∧ s'.files = s.files ∧
      s'.journal = s.journal ∧
      match result with
      | .ok () => (∃ stored, t.direction = .up ∧ Tracking.log r.config.table
            (recordOf t started s) s.store = .ok (stored, s'.store)) ∨
          ∃ n, t.direction = .down ∧
            Tracking.delete r.config.table t.name s.store = .ok (n, s'.store)
      | .error fault => t.direction = .up ∧ fault = .overflow ∧
          successor? tracking.nextId = none ∧ s'.store = s.store := by
  rcases hdirection : t.direction with _ | _
  · rw [exec_track_up hdirection, Tracking.log_of_tracks hget htracks (hb hdirection)]
    rcases hnext : successor? tracking.nextId with _ | next
    · exact ⟨.error .overflow, _, rfl, rfl, rfl, rfl, rfl, rfl, rfl⟩
    · refine ⟨.ok (), _, rfl, rfl, rfl, ?_⟩
      exact .inl ⟨_, rfl, rfl⟩
  · obtain ⟨n, store, hdelete, -⟩ := Tracking.delete_of_tracks hget htracks t.name
    rw [exec_track_down hdirection, hdelete]
    exact ⟨.ok (), _, rfl, rfl, rfl, .inr ⟨n, rfl, rfl⟩⟩

/-- The session in which a task begins, after its first event. -/
def begun (r : Runner) (t : Task) (s : Session) : Session :=
  Session.journaled { s with progress := s.progress.start t.name }
    (r.announcement t.startEvent s.store ++ r.printout t.startLine)

/-- The session in which the program of a task is started. -/
def launched (r : Runner) (t : Task) (s : Session) : Session :=
  { r.begun t s with clock := s.clock.next }

/-- The session with the last event of a task. -/
def finished (r : Runner) (t : Task) (elapsed : Nat) (s : Session) : Session :=
  Session.journaled { s with progress := s.progress.complete ⟨true, none⟩ }
    (r.announcement (t.endEvent elapsed) s.store ++ r.printout (t.endLine elapsed))

/-- The session with the event of an error that ended a task. -/
def abandoned (r : Runner) (t : Task) (e : Error) (s : Session) : Session :=
  Session.journaled { s with progress := s.progress.complete ⟨false, some e.message⟩ }
    (r.announcement (.error t.name t.direction e.message t.pretend) s.store ++
      r.printout s!"Failed: {t.name}: {e.message}")

@[simp] theorem store_begun (r : Runner) (t : Task) (s : Session) :
    (r.begun t s).store = s.store := rfl

@[simp] theorem clock_begun (r : Runner) (t : Task) (s : Session) :
    (r.begun t s).clock = s.clock := rfl

@[simp] theorem files_begun (r : Runner) (t : Task) (s : Session) :
    (r.begun t s).files = s.files := rfl

@[simp] theorem store_launched (r : Runner) (t : Task) (s : Session) :
    (r.launched t s).store = s.store := by
  simp only [launched, store_begun]

@[simp] theorem files_launched (r : Runner) (t : Task) (s : Session) :
    (r.launched t s).files = s.files := by
  simp only [launched, files_begun]

@[simp] theorem store_finished (r : Runner) (t : Task) (elapsed : Nat) (s : Session) :
    (r.finished t elapsed s).store = s.store := rfl

@[simp] theorem files_finished (r : Runner) (t : Task) (elapsed : Nat) (s : Session) :
    (r.finished t elapsed s).files = s.files := rfl

@[simp] theorem store_abandoned (r : Runner) (t : Task) (e : Error) (s : Session) :
    (r.abandoned t e s).store = s.store := rfl

theorem events_begun (r : Runner) (t : Task) (s : Session) :
    (r.begun t s).events = s.events ++ [t.startEvent] := by
  simp [begun]

theorem events_finished (r : Runner) (t : Task) (elapsed : Nat) (s : Session) :
    (r.finished t elapsed s).events = s.events ++ [t.endEvent elapsed] := by
  simp [finished]

theorem exec_execute (r : Runner) (t : Task) (s : Session) :
    (r.execute t).exec s =
      match (r.carryOut t).exec (r.begun t s) with
      | (.ok elapsed, s') => (.ok (), r.finished t elapsed s')
      | (.error (.failed e), s') => (.error (.failed e), r.abandoned t e s')
      | (.error .overflow, s') => (.error .overflow, s') := by
  have hbegun : (Session.journaled { s with progress := s.progress.start t.name }
      (r.announcement t.startEvent s.store)).journaled (r.printout t.startLine) =
      r.begun t s := Session.journaled_journaled _ _ _
  simp only [execute, Action.exec_bind, Action.exec_advance, exec_emit, exec_say,
    Action.exec_attempt, hbegun]
  rcases (r.carryOut t).exec (r.begun t s) with ⟨(e | _) | elapsed, s'⟩
  · simp [abandon, abandoned]
  · rfl
  · simp [finished]

section Load

variable {m : Migration} (hreal : t.pretend = false)
  (hload : Discovery.load r.migrations t.path s.files = .ok m)

include hreal hload

/-- A task whose migration is loaded runs the program and then brings the tracking table up to
date. -/
theorem exec_carryOut_of_load :
    (r.carryOut t).exec s =
      match (r.invoke t m).exec { s with clock := s.clock.next } with
      | (.error fault, s₁) => (.error fault, s₁)
      | (.ok (), s₁) =>
        match (r.track t s.clock).exec s₁ with
        | (.error fault, s₂) => (.error fault, s₂)
        | (.ok (), s₂) =>
          (.ok (s₂.clock.millisSince s.clock), { s₂ with clock := s₂.clock.next }) := by
  simp only [carryOut, Action.exec_bind, Action.exec_inspectFiles, hload, mapError_ok,
    Action.exec_now, hreal, Bool.not_false, if_true]
  rcases (r.invoke t m).exec _ with ⟨fault | ⟨⟩, s₁⟩
  · rfl
  · dsimp only
    rcases (r.track t s.clock).exec s₁ with ⟨fault | ⟨⟩, s₂⟩
    · rfl
    · exact exec_elapsedSince _ _

/-- The fault of a program is that of its task. -/
theorem exec_execute_of_invoke_error {fault : Fault} {s₁ : Session}
    (hinvoke : (r.invoke t m).exec (r.launched t s) = (.error fault, s₁)) :
    ∃ s', (r.execute t).exec s = (.error fault, s') ∧ s'.store = s₁.store := by
  have hcarry : (r.carryOut t).exec (r.begun t s) = (.error fault, s₁) := by
    rw [exec_carryOut_of_load (s := r.begun t s) hreal hload]
    simp only [launched] at hinvoke
    simp only [hinvoke, clock_begun]
  rw [exec_execute, hcarry]
  cases fault with
  | failed e => exact ⟨_, rfl, store_abandoned r t e s₁⟩
  | overflow => exact ⟨_, rfl, rfl⟩

/-- A task whose program returned ends as it is tracked. -/
theorem exec_execute_of_track {result : Except Fault Unit} {s₁ s₂ : Session}
    (hinvoke : (r.invoke t m).exec (r.launched t s) = (.ok (), s₁))
    (htrack : (r.track t s.clock).exec s₁ = (result, s₂)) :
    ∃ s', (r.execute t).exec s = (result, s') ∧ s'.store = s₂.store := by
  have hcarry := exec_carryOut_of_load (s := r.begun t s) hreal hload
  rw [launched] at hinvoke
  simp only [clock_begun, hinvoke, htrack] at hcarry
  rw [exec_execute, hcarry]
  rcases result with (e | _) | ⟨⟩
  · exact ⟨_, rfl, store_abandoned r t e s₂⟩
  · exact ⟨_, rfl, rfl⟩
  · exact ⟨_, rfl, store_finished r t _ _⟩

end Load

variable (hbodies : r.BodiesRequest (Operation.Spares r.config.table)) (hreal : t.pretend = false)
  (hget : s.store.tables.get? r.config.table = some tracking) (htracks : tracking.Tracks)
  (hb : t.direction = .up → 1 ≤ t.batch.toInt)

include hbodies hreal hget htracks hb

/-- What a task does between its events ends in one of the ways that there are. -/
theorem exec_carryOut :
    ∃ result s', (r.carryOut t).exec s = (result, s') ∧ s'.files = s.files ∧
      s'.events = s.events ∧ t.Ends r s.files s.store result s'.store := by
  rcases hload : Discovery.load r.migrations t.path s.files with e | m
  · rw [carryOut, Action.exec_bind, Action.exec_inspectFiles, hload]
    exact ⟨.error (.failed e), s, rfl, rfl, rfl, .load hload, rfl⟩
  rw [exec_carryOut_of_load hreal hload]
  have hm := hbodies.of_canLoad (fun _ => ⟨rfl, rfl⟩) ⟨t.path, s.files, hload⟩ t.direction
  by_cases hstart : m.CanStart s.store
  · obtain ⟨s₁, hinvoke, hfiles, hevents, htable, hclosed⟩ :=
      exec_invoke (r := r) (s := { s with clock := s.clock.next }) hm hstart
    replace hevents := hevents.trans (Session.events_of_journal (s := s) rfl)
    rw [hinvoke]
    rcases houtcome : (m.body t.direction).run r.config.timeout (m.opened s.store) with
      ⟨outcome, store⟩
    simp only [houtcome] at hclosed ⊢
    cases outcome with
    | returned =>
      obtain ⟨result, s₂, htrack, hfiles', hjournal, hresult⟩ :=
        exec_track (s := s₁) (htable.trans hget) htracks hb s.clock
      have hs₁ : s₁.store = m.closed s.store store := hclosed rfl
      replace hjournal := (Session.events_of_journal hjournal).trans hevents
      simp only [verdict, htrack]
      rcases result with fault | ⟨⟩
      · obtain ⟨hup, rfl, hfull, hs₂⟩ := hresult
        refine ⟨_, _, rfl, hfiles'.trans hfiles, hjournal,
          .unnumbered hup hload hstart houtcome ?_, ?_⟩
        · intro tracking' hget'
          rw [← hfull, Option.some.inj (hget.symm.trans hget')]
        · rw [hs₂]
          exact htable
      · dsimp only
        refine ⟨.ok _, _, rfl, hfiles'.trans hfiles, ?_, ?_⟩
        · rw [Session.events_clock, hjournal]
        · rw [hs₁] at hresult
          rcases hresult with ⟨stored, hup, hlog⟩ | ⟨n, hdown, hdelete⟩
          · refine .logged hup hload hstart houtcome rfl rfl ?_ hlog
            exact congrArg (fun f => (checksum t.path f).toOption) hfiles
          · exact .deleted hdown hload hstart houtcome hdelete
    | failed e => exact ⟨_, _, rfl, hfiles, hevents, .body hload hstart houtcome, htable⟩
    | timedOut => exact ⟨_, _, rfl, hfiles, hevents, .timeout hload hstart houtcome, htable⟩
    | overflow => exact ⟨_, _, rfl, hfiles, hevents, .overflow hload hstart houtcome, htable⟩
  · rw [exec_invoke_of_not_canStart (s := { s with clock := s.clock.next }) hstart]
    exact ⟨_, _, rfl, rfl, Session.events_of_journal rfl, .begin hload hstart, rfl⟩

/-- A task ends in one of the ways that there are; if it completes, just its two events were
emitted. -/
theorem execute_ends :
    ∃ result s', (r.execute t).exec s = (result, s') ∧ s'.files = s.files ∧
      t.Ends r s.files s.store result s'.store ∧
      (result = .ok () →
        ∃ elapsed, s'.events = s.events ++ [t.startEvent, t.endEvent elapsed]) := by
  obtain ⟨result, s₁, hcarry, hfiles, hevents, hends⟩ :=
    exec_carryOut (s := r.begun t s) hbodies hreal hget htracks hb
  rw [exec_execute, hcarry]
  rcases result with (e | _) | elapsed
  · exact ⟨_, _, rfl, hfiles, hends, nofun⟩
  · exact ⟨_, _, rfl, hfiles, hends, nofun⟩
  · refine ⟨_, _, rfl, hfiles, hends, fun _ => ⟨elapsed, ?_⟩⟩
    rw [events_finished, hevents, events_begun, List.append_assoc]
    rfl

end Runner

/-- The programs of the migrations that can be loaded from some files leave the tracking table as it
is, however they do so. -/
def Runner.KeepsTracking (r : Runner) (f : Files) : Prop :=
  ∀ path m, Discovery.load r.migrations path f = .ok m → ∀ direction s,
    ((m.body direction).run r.config.timeout s).2.tables.get? r.config.table =
      s.tables.get? r.config.table

theorem Runner.BodiesRequest.keepsTracking_of {r : Runner} {kind : Operation → Prop}
    (h : r.BodiesRequest kind) (hraw : ∀ statement, kind (.raw statement))
    (hkept : ∀ op, kind op → ∀ s answer s', Store.perform op s = .ok (answer, s') →
      s'.tables.get? r.config.table = s.tables.get? r.config.table) (f : Files) :
    r.KeepsTracking f := by
  intro path m hload direction s
  have hm := h.of_canLoad hraw ⟨path, f, hload⟩ direction
  exact hm.run_preserves
    (I := fun s' => s'.tables.get? r.config.table = s.tables.get? r.config.table)
    (fun op hop v answer v' hv hs => (hkept op hop v answer v' hv).trans hs) r.config.timeout rfl

theorem Runner.BodiesRequest.keepsTracking {r : Runner}
    (h : r.BodiesRequest (Operation.Spares r.config.table)) (f : Files) : r.KeepsTracking f :=
  h.keepsTracking_of (fun _ => ⟨rfl, rfl⟩)
    (fun _ hop _ _ _ hs => (Store.perform_spares hop hs).1) f

namespace Task.Completes

variable {r : Runner} {t : Task} {f : Files} {s s' : Store} {tracking : Table}

/-- What a completed task makes of the tracking table: it adds a row, or it takes away the rows of
its migration. -/
theorem updates (hkeeps : r.KeepsTracking f) (hget : s.tables.get? r.config.table = some tracking)
    (htracks : tracking.Tracks) (h : t.Completes r f s s') :
    ∃ tracking', s'.tables.get? r.config.table = some tracking' ∧ tracking'.Tracks ∧
      match t.direction with
      | .up => ∃ row, (Record.ofRow row).migration = t.name ∧ (Record.ofRow row).batch = t.batch ∧
          (Record.ofRow row).checksum = (Runner.checksum t.path f).toOption ∧
          tracking'.rows = tracking.rows ++ [row]
      | .down => tracking'.rows =
          tracking.rows.filter fun row => (Record.ofRow row).migration != t.name := by
  have kept {m : Migration} {store : Store}
      (loaded : Discovery.load r.migrations t.path f = .ok m)
      (returned : (m.body t.direction).run r.config.timeout (m.opened s) = (.returned (), store)) :
      (m.closed s store).tables.get? r.config.table = some tracking := by
    have hrun := hkeeps t.path m loaded t.direction (m.opened s)
    rwa [returned, Migration.tables_opened, hget, ← m.tables_closed s] at hrun
  cases h with
  | logged up loaded _ returned migration batch checksum logged =>
    obtain ⟨hb, next, hnext, rfl⟩ := Tracking.log_eq_ok (kept loaded returned) htracks logged
    refine ⟨_, Dict.get?_insert_self _ _ _, htracks.append hb hnext, ?_⟩
    simp only [up]
    refine ⟨_, ?_, ?_, ?_, rfl⟩
    · rw [Record.ofRow_numbered]
      exact migration
    · rw [Record.ofRow_numbered]
      exact batch
    · rw [Record.ofRow_numbered]
      exact checksum
  | deleted down loaded _ returned deleted =>
    obtain ⟨n, s₁, hdelete, hs₁, -⟩ :=
      Tracking.delete_of_tracks (kept loaded returned) htracks t.name
    obtain rfl : s₁ = s' := by
      rw [deleted] at hdelete
      exact (Prod.mk.inj (Except.ok.inj hdelete)).2.symm
    refine ⟨_, hs₁, htracks.filter _, ?_⟩
    simp only [down]

/-- What a completed task makes of the tracking table if no program touches it. -/
theorem table (hbodies : r.BodiesRequest (Operation.Spares r.config.table))
    (hget : s.tables.get? r.config.table = some tracking) (htracks : tracking.Tracks)
    (h : t.Completes r f s s') :
    ∃ tracking', s'.tables.get? r.config.table = some tracking' ∧ tracking'.Tracks ∧
      match t.direction with
      | .up => ∃ record : Record, record.migration = t.name ∧ record.batch = t.batch ∧
          tracking'.rows.map Record.ofRow = tracking.rows.map Record.ofRow ++ [record]
      | .down => tracking'.rows =
          tracking.rows.filter fun row => (Record.ofRow row).migration != t.name := by
  obtain ⟨tracking', hget', htracks', hrows⟩ := h.updates (hbodies.keepsTracking f) hget htracks
  refine ⟨tracking', hget', htracks', ?_⟩
  cases hdirection : t.direction with
  | up =>
    simp only [hdirection] at hrows
    obtain ⟨row, hname, hbatch, -, hrows⟩ := hrows
    refine ⟨_, hname, hbatch, ?_⟩
    rw [hrows, List.map_append, List.map_singleton]
  | down => simpa only [hdirection] using hrows

/-- A completed task that applies a migration adds its record. -/
theorem recorded (hbodies : r.BodiesRequest (Operation.Spares r.config.table))
    (hup : t.direction = .up) (hget : s.tables.get? r.config.table = some tracking)
    (htracks : tracking.Tracks) (h : t.Completes r f s s') :
    ∃ tracking' record, s'.tables.get? r.config.table = some tracking' ∧ tracking'.Tracks ∧
      record.migration = t.name ∧ record.batch = t.batch ∧
      Tracking.recorded r.config.table s' = Tracking.recorded r.config.table s ++ [record] := by
  obtain ⟨tracking', hget', htracks', hrows⟩ := h.table hbodies hget htracks
  simp only [hup] at hrows
  obtain ⟨record, hname, hbatch, hrows⟩ := hrows
  refine ⟨tracking', record, hget', htracks', hname, hbatch, ?_⟩
  rw [Tracking.recorded_of_get? hget', hrows, Tracking.recorded_of_get? hget]

end Task.Completes

end SchemaMigration
