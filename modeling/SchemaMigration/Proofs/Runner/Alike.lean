import SchemaMigration.Proofs.Runner.Announcement
import SchemaMigration.Proofs.Runner.Invocations
import SchemaMigration.Proofs.Tracking.BlindSpot

/-!
# Runs that go alike

Two sessions are alike if they differ only in what a blind spot hides and in what was told. If the
programs of the migrations overlook the blind spot, applying the same files goes the same way from
sessions that are alike: it ends the same, runs the same programs and leaves sessions that are
alike, also if what it records is not the same, as long as only the blind spot shows it.
-/

namespace SchemaMigration

namespace BlindSpot

/-- Whether no recorded time is seen. -/
def HidesTimes (b : BlindSpot) : Prop :=
  "execution_time_ms" ∈ b.columns ∧ "created_at" ∈ b.columns

/-- Clocks show the same time, unless no recorded time is seen. -/
def AlikeClocks (b : BlindSpot) (time time' : Instant) : Prop :=
  b.HidesTimes ∨ time = time'

/-- Batches are the same, unless no recorded batch is seen. -/
def AlikeBatches (b : BlindSpot) (batch batch' : Int64) : Prop :=
  batch = batch' ∨ "batch" ∈ b.columns ∧ 1 ≤ batch.toInt ∧ 1 ≤ batch'.toInt

/-- Sessions that differ only in what the blind spot hides and in what was told, and in which the
same programs were run since others had been run in each of them. -/
structure AlikeSessions (b : BlindSpot) (ran ran' : List (String × Direction))
    (s s' : Session) : Prop where
  files : s.files = s'.files
  store : b.AlikeStores s.store s'.store
  clock : b.AlikeClocks s.clock s'.clock
  invocations : ∃ since, s.invocations = ran ++ since ∧ s'.invocations = ran' ++ since

theorem AlikeClocks.next {b : BlindSpot} {time time' : Instant} (h : b.AlikeClocks time time') :
    b.AlikeClocks time.next time'.next :=
  h.imp_right fun heq => by rw [heq]

namespace AlikeSessions

variable {b : BlindSpot} {ran ran' : List (String × Direction)} {s s' : Session}

theorem withStore (h : b.AlikeSessions ran ran' s s') {store store' : Store}
    (hstore : b.AlikeStores store store') :
    b.AlikeSessions ran ran' { s with store } { s' with store := store' } :=
  ⟨h.files, hstore, h.clock, h.invocations⟩

theorem withClock (h : b.AlikeSessions ran ran' s s') {clock clock' : Instant}
    (hclock : b.AlikeClocks clock clock') :
    b.AlikeSessions ran ran' { s with clock } { s' with clock := clock' } :=
  ⟨h.files, h.store, hclock, h.invocations⟩

/-- What is told makes no difference, nor does the run of the same program. -/
theorem journaled (h : b.AlikeSessions ran ran' s s') {entries entries' : List Entry}
    (hentries : entries.filterMap Entry.invocation? = entries'.filterMap Entry.invocation?) :
    b.AlikeSessions ran ran' (s.journaled entries) (s'.journaled entries') := by
  obtain ⟨since, hs, hs'⟩ := h.invocations
  refine ⟨h.files, h.store, h.clock, since ++ entries.filterMap Entry.invocation?, ?_, ?_⟩
  · rw [Session.invocations_journaled, hs, List.append_assoc]
  · rw [Session.invocations_journaled, hs', hentries, List.append_assoc]

theorem told (h : b.AlikeSessions ran ran' s s') {entries : List Entry}
    (hentries : entries.filterMap Entry.invocation? = []) :
    b.AlikeSessions ran ran' s (s'.journaled entries) := by
  have htold : b.AlikeSessions ran ran' (s.journaled []) (s'.journaled entries) :=
    h.journaled (List.filterMap_nil.trans hentries.symm)
  rwa [Session.journaled_nil] at htold

/-- To give the lock up and to take it again makes no difference. -/
theorem relocked (h : b.AlikeSessions ran ran' s s') {r : Runner}
    (hheld : (r.config.advisoryLock && s'.store.lockable) = true →
      r.isLocked s'.store = true) :
    b.AlikeSessions ran ran' s
      (r.locked (r.released (r.config.advisoryLock && s'.store.lockable) s')) := by
  obtain ⟨locks, n, hsession, hlocks⟩ := Runner.locked_released hheld
  rw [hsession]
  refine ⟨h.files, ⟨h.store.tables, h.store.snapshot, fun lock => ?_, h.store.rejections,
    h.store.features⟩, h.clock, h.invocations⟩
  rw [h.store.isLocked, ← hlocks, Store.isLocked]

theorem locked (h : b.AlikeSessions ran ran' s s') (r : Runner) :
    b.AlikeSessions ran ran' (r.locked s) (r.locked s') := by
  unfold Runner.locked
  rw [h.store.lockable]
  split
  · exact h.withStore (h.store.acquire _).2
  · exact h

end AlikeSessions

theorem AlikeStores.isFree {b : BlindSpot} {s s' : Store} (h : b.AlikeStores s s') {r : Runner}
    (hfree : r.IsFree s) : r.IsFree s' := by
  intro hlock hlockable
  rw [Runner.isLocked, ← h.isLocked]
  exact hfree hlock (h.lockable.trans hlockable)

end BlindSpot

namespace Runner

/-- The programs of the registered migrations overlook a blind spot when they are applied. -/
def UpsOverlook (r : Runner) (b : BlindSpot) : Prop :=
  ∀ name m, r.migrations.get? name = some m → m.up.Overlooks b

/-- Section files only run statements, which overlook everything. -/
theorem UpsOverlook.of_canLoad {r : Runner} {b : BlindSpot} (h : r.UpsOverlook b) {m : Migration}
    (hm : r.CanLoad m) : m.up.Overlooks b := by
  obtain ⟨name, hget⟩ | ⟨sections, rfl⟩ := hm.cases
  · exact h name m hget
  · exact (Migration.requests_runText (fun _ => trivial) _).overlooks

/-- Programs overlook a blind spot if all their requests do. -/
theorem BodiesRequest.upsOverlook {r : Runner} {b : BlindSpot}
    (h : r.BodiesRequest (Operation.Overlooks b)) : r.UpsOverlook b :=
  fun name m hget => (h name m hget .up).overlooks

theorem upsOverlook_of_nil {b : BlindSpot} (h : b.columns = []) (r : Runner) : r.UpsOverlook b :=
  fun _ m _ => Program.overlooks_of_nil h m.up

open BlindSpot

/-- Two calls end the same way, leave tables that are alike and run the same programs. -/
structure GoAlike {α : Type} (b : BlindSpot) (s s' : Session)
    (outcome outcome' : Except Fault α × Session) : Prop where
  result : outcome.1 = outcome'.1
  tables : b.AlikeTables outcome.2.store.tables outcome'.2.store.tables
  invocations : ∃ since, outcome.2.invocations = s.invocations ++ since ∧
    outcome'.2.invocations = s'.invocations ++ since

variable {r : Runner} {b : BlindSpot} {ran ran' : List (String × Direction)} {m : Migration}
  {batch batch' : Int64} {o : RunOptions}

section Narration

theorem inStep_emit (event event' : Event) :
    Action.InStep (b.AlikeSessions ran ran') Eq (r.emit event) (r.emit event') := by
  intro s s' hs
  rw [exec_emit, exec_emit]
  exact ⟨.ok rfl, hs.journaled (by simp only [filterMap_invocation?_announcement])⟩

theorem inStep_say (line line' : String) :
    Action.InStep (b.AlikeSessions ran ran') Eq (r.say line) (r.say line') := by
  intro s s' hs
  rw [exec_say, exec_say]
  exact ⟨.ok rfl, hs.journaled (by simp only [filterMap_invocation?_printout])⟩

theorem inStep_advance (f f' : Progress → Progress) :
    Action.InStep (b.AlikeSessions ran ran') Eq (Action.advance f) (Action.advance f') :=
  fun _ _ hs => ⟨.ok rfl, hs.files, hs.store, hs.clock, hs.invocations⟩

theorem inStep_now :
    Action.InStep (b.AlikeSessions ran ran') b.AlikeClocks Action.now Action.now := by
  intro s s' hs
  rw [Action.exec_now, Action.exec_now]
  exact ⟨.ok hs.clock, hs.withClock hs.clock.next⟩

theorem inStep_elapsedSince (started started' : Instant) :
    Action.InStep (b.AlikeSessions ran ran') (fun _ _ => True) (elapsedSince started)
      (elapsedSince started') :=
  inStep_now.bind fun _ _ _ => Action.inStep_pure trivial

theorem inStep_sameChange {α β : Type} {R : α → β → Prop} {c : Change α} {d : Change β}
    (h : ∀ s s', b.AlikeStores s s' → b.SameChange R (c s) (d s')) :
    Action.InStep (b.AlikeSessions ran ran') R (Action.change c) (Action.change d) :=
  Action.inStep_change fun s s' hs => (h s.store s'.store hs.store).mono fun _ _ hxy =>
    ⟨hxy.1, hs.withStore hxy.2⟩

end Narration

section Tasks

variable (file : String × String)

theorem inStep_runBody (hm : m.up.Overlooks b) :
    Action.InStep (b.AlikeSessions ran ran') Eq (r.runBody (applying batch file) m)
      (r.runBody (applying batch' file) m) := by
  intro s s' hs
  obtain ⟨hend, hstore⟩ := hm r.config.timeout s.store s'.store hs.store
  rw [exec_runBody, exec_runBody]
  have hbody : m.body (applying batch file).direction = m.up := rfl
  have hbody' : m.body (applying batch' file).direction = m.up := rfl
  have hverdict : r.verdict (applying batch file) = r.verdict (applying batch' file) := rfl
  have hnoted : b.AlikeSessions ran ran'
      (s.journaled [.invoked file.1 .up (r.isLocked s.store)])
      (s'.journaled [.invoked file.1 .up (r.isLocked s'.store)]) := hs.journaled rfl
  have hrun := hnoted.withStore hstore
  simp only [hbody, hbody', hend, hverdict]
  rcases r.verdict (applying batch' file) (m.up.run r.config.timeout s'.store).1 with
    (e | _) | _
  · exact ⟨.ok rfl, hrun⟩
  · exact ⟨.error Fault.overflow, hrun⟩
  · exact ⟨.ok rfl, hrun⟩

theorem inStep_invoke (hm : m.up.Overlooks b) :
    Action.InStep (b.AlikeSessions ran ran') Eq (r.invoke (applying batch file) m)
      (r.invoke (applying batch' file) m) := by
  have opened (transactional : Bool) : Action.InStep (b.AlikeSessions ran ran') Eq
      (r.invokeOpened (applying batch file) m transactional)
      (r.invokeOpened (applying batch' file) m transactional) := by
    refine (inStep_runBody file hm).bind fun outcome _ heq => ?_
    subst heq
    cases outcome with
    | ok =>
      exact .ite (fun _ => (inStep_sameChange fun _ _ h => h.commit).inMigration _)
        fun _ => Action.inStep_pure rfl
    | error e =>
      refine .ite (fun _ => ?_) fun _ => Action.inStep_fail e
      exact (inStep_sameChange fun _ _ h => h.rollback).attempt.bind fun _ _ _ =>
        Action.inStep_fail e
  intro s s' hs
  have hopens : m.opensTransaction s.store = m.opensTransaction s'.store := by
    rw [Migration.opensTransaction, hs.store.transactional, Migration.opensTransaction]
  rw [invoke_eq, invoke_eq, Action.exec_bind, Action.exec_bind, Action.exec_get, Action.exec_get]
  dsimp only
  rw [hopens]
  refine Action.InStep.ite (fun _ => ?_) (fun _ => opened _) s s' hs
  exact ((inStep_sameChange fun _ _ h => h.begin).inMigration _).bind fun _ _ _ => opened _

variable (htable : r.config.table = b.table) (hbatch : b.AlikeBatches batch batch')

include htable hbatch

theorem inStep_track {started started' : Instant} (hstarted : b.AlikeClocks started started') :
    Action.InStep (b.AlikeSessions ran ran') Eq (r.track (applying batch file) started)
      (r.track (applying batch' file) started') := by
  intro s s' hs
  have hrow : b.row b.table (recordOf (applying batch file) started s).toRow =
      b.row b.table (recordOf (applying batch' file) started' s').toRow := by
    refine row_toRow rfl (fun hshown => ?_) (fun hshown => ?_) ?_ fun hshown => ?_
    · exact hbatch.resolve_right fun h => hshown h.1
    · obtain rfl := hstarted.resolve_left fun h => hshown h.1
      have hclock := hs.clock.resolve_left fun h => hshown h.1
      simp only [recordOf, hclock]
    · simp only [recordOf, hs.files]
      rfl
    · have hclock := hs.clock.resolve_left fun h => hshown h.2
      simp only [recordOf, hclock]
  have hlog := hs.store.log hrow (hbatch.imp_right And.right)
  rw [exec_track_up rfl, exec_track_up rfl, htable]
  generalize Tracking.log b.table (recordOf (applying batch file) started s) s.store = x at hlog ⊢
  generalize Tracking.log b.table (recordOf (applying batch' file) started' s') s'.store = y
    at hlog ⊢
  have hclock := hs.withClock hs.clock.next.next
  cases hlog with
  | @ok x y related =>
    obtain ⟨stored, store⟩ := x
    obtain ⟨stored', store'⟩ := y
    have hlogged := hclock.withStore related.2
    dsimp only at hlogged ⊢
    exact ⟨.ok rfl, hlogged⟩
  | error fault => exact ⟨.error fault, hclock⟩

variable (hups : r.UpsOverlook b)

include hups

/-- Applying a file goes alike, whatever the batch is, if it is not seen. -/
theorem inStep_execute : Action.InStep (b.AlikeSessions ran ran') Eq
    (r.execute (applying batch file)) (r.execute (applying batch' file)) := by
  have hcarry : Action.InStep (b.AlikeSessions ran ran') (fun _ _ => True)
      (r.carryOut (applying batch file)) (r.carryOut (applying batch' file)) := by
    refine Action.inStep_inspectFiles_bind (fun _ _ hs => hs.files) fun files m hload => ?_
    have hm := hups.of_canLoad ⟨_, files, hload⟩
    refine inStep_now.bind fun started started' hstarted => ?_
    exact (inStep_invoke file hm).bind fun _ _ _ =>
      (inStep_track file htable hbatch hstarted).bind fun _ _ _ => inStep_elapsedSince _ _
  refine (inStep_advance _ _).bind fun _ _ _ => (inStep_emit _ _).bind fun _ _ _ => ?_
  refine (inStep_say _ _).bind fun _ _ _ => hcarry.attempt.bind fun x y hxy => ?_
  cases hxy with
  | ok =>
    exact (inStep_advance _ _).bind fun _ _ _ => (inStep_emit _ _).bind fun _ _ _ =>
      inStep_say _ _
  | error e =>
    exact (inStep_advance _ _).bind fun _ _ _ => (inStep_emit _ _).bind fun _ _ _ =>
      (inStep_say _ _).bind fun _ _ _ => Action.inStep_fail e

omit file in
/-- So does applying files one after the other. -/
theorem inStep_applyAll (selected : List (String × String)) :
    Action.InStep (b.AlikeSessions ran ran') Eq (r.applyAll batch false selected)
      (r.applyAll batch' false selected) := by
  induction selected with
  | nil => exact Action.inStep_pure rfl
  | cons file rest ih => exact (inStep_execute file htable hbatch hups).bind fun _ _ _ => ih

end Tasks

/-- Seeding goes alike if the seeder overlooks the blind spot. -/
theorem inStep_seed {name : Option String}
    (hseeder : ∀ program, r.seeders.get? (name.getD defaultSeeder) = some program →
      program.Overlooks b) :
    Action.InStep (b.AlikeSessions ran ran') Eq (r.seed name) (r.seed name) := by
  refine Action.inStep_inspectFiles_bind (fun _ _ hs => hs.files) fun files program hload => ?_
  have hprogram := hseeder program (seeders_get?_of_loadSeeder hload)
  refine inStep_now.bind fun _ _ _ => (inStep_say _ _).bind fun _ _ _ => ?_
  have hrun : Action.InStep (b.AlikeSessions ran ran') Eq (Action.runFully program)
      (Action.runFully program) := by
    intro s s' hs
    obtain ⟨hend, hstore⟩ := hprogram.runFully hs.store
    rw [Action.exec_runFully, Action.exec_runFully, hend]
    exact ⟨.refl _, hs.withStore hstore⟩
  exact hrun.bind fun _ _ _ => inStep_now.bind fun _ _ _ => inStep_say _ _

/-- What was announced is applied alike. -/
theorem inStep_applyAnnounced (htable : r.config.table = b.table) (hups : r.UpsOverlook b)
    (hseeder : ∀ program, r.seeders.get? defaultSeeder = some program → program.Overlooks b)
    (hreal : o.pretend = false) (announced : Option (Int64 × List (String × String))) :
    Action.InStep (b.AlikeSessions ran ran') Eq (r.applyAnnounced o announced)
      (r.applyAnnounced o announced) := by
  cases announced with
  | none => exact (inStep_say _ _).bind fun _ _ _ => Action.inStep_pure rfl
  | some announced =>
    obtain ⟨batch, selected⟩ := announced
    simp only [applyAnnounced, hreal]
    refine (inStep_applyAll htable (.inl rfl) hups selected).bind fun _ _ _ => ?_
    refine (inStep_emit _ _).bind fun _ _ _ => .ite (fun _ => ?_) fun _ => Action.inStep_pure rfl
    exact (inStep_seed hseeder).bind fun _ _ _ => Action.inStep_pure rfl

end Runner

end SchemaMigration
