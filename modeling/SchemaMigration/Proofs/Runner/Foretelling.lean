import SchemaMigration.Proofs.Runner.Revert
import SchemaMigration.Proofs.Action.Frame
import SchemaMigration.Runner.Run

/-!
# What pretences foretell

A task or a list of tasks that is really carried out, and its pretence, go alike on sessions that
look alike: if the first one succeeds then so does the second one, with the same events but for the
times. The pretence leaves the store alone, so the sessions are alike in what they tell, not in their
stores.
-/

namespace SchemaMigration

/-- The same event of a pretence, without how long it took. -/
def Event.pretence : Event → Event
  | batchStarted batch migrations _ => batchStarted batch migrations true
  | migrating migration batch _ => migrating migration batch true
  | migrated migration batch _ _ => migrated migration batch 0 true
  | rollbackStarted migrations _ => rollbackStarted migrations true
  | rollingBack migration batch _ => rollingBack migration batch true
  | rolledBack migration batch _ _ => rolledBack migration batch 0 true
  | rollbackCompleted migrations _ => rollbackCompleted migrations true
  | error migration direction message _ => error migration direction message true
  | batchCompleted batch migrations _ => batchCompleted batch migrations true

/-- The same task, in which nothing is really done. -/
def Task.pretence (t : Task) : Task :=
  { t with pretend := true }

theorem Task.pretence_startEvent (t : Task) :
    t.pretence.startEvent.pretence = t.startEvent.pretence := by
  obtain ⟨name, path, batch, direction, pretend⟩ := t
  cases direction <;> rfl

theorem Task.pretence_endEvent (t : Task) (elapsed pretended : Nat) :
    (t.pretence.endEvent pretended).pretence = (t.endEvent elapsed).pretence := by
  obtain ⟨name, path, batch, direction, pretend⟩ := t
  cases direction <;> rfl

/-- The events that were emitted, as those of a pretence. -/
def Session.told (s : Session) : List Event :=
  s.events.map Event.pretence

/-- Two sessions have the same files, and the same was told in both. -/
structure Session.Alike (s u : Session) : Prop where
  files : u.files = s.files
  told : u.told = s.told

namespace Session.Alike

variable {s u s' u' : Session}

theorem refl (s : Session) : s.Alike s := ⟨rfl, rfl⟩

/-- Sessions stay alike when the same is told. -/
theorem append (h : s.Alike u) {real pretended : List Event} (hs : s'.files = s.files)
    (hu : u'.files = u.files) (hreal : s'.events = s.events ++ real)
    (hpretended : u'.events = u.events ++ pretended)
    (heq : pretended.map Event.pretence = real.map Event.pretence) : s'.Alike u' where
  files := by rw [hu, h.files, hs]
  told := by
    have htold := h.told
    unfold Session.told at htold ⊢
    rw [hreal, hpretended, List.map_append, List.map_append, heq, htold]

theorem journaled (h : s.Alike u) {real pretended : List Entry}
    (heq : (pretended.filterMap Entry.event?).map Event.pretence =
      (real.filterMap Entry.event?).map Event.pretence) :
    (s.journaled real).Alike (u.journaled pretended) :=
  h.append rfl rfl (events_journaled s real) (events_journaled u pretended) heq

theorem announced (h : s.Alike u) (r : Runner) {event pretended : Event}
    (heq : pretended.pretence = event.pretence) (store store' : Store) :
    (s.journaled (r.announcement event store)).Alike
      (u.journaled (r.announcement pretended store')) :=
  h.journaled (by simp [heq])

end Session.Alike

/-- From a session, an action succeeds with a result, leaves the store alone, and then the same was
told as in another session. -/
def Action.Foretells {α : Type} (a : Action α) (u : Session) (x : α) (s' : Session) : Prop :=
  ∃ u', a.exec u = (.ok x, u') ∧ s'.Alike u' ∧ u'.store = u.store

namespace Runner

variable {r : Runner} {t : Task} {s u s' : Session}

/-- A pretended task succeeds if its migration can be loaded. -/
theorem exec_execute_of_pretend (ht : t.pretend = true) {m : Migration}
    (hload : Discovery.load r.migrations t.path u.files = .ok m) :
    ∃ u' elapsed, (r.execute t).exec u = (.ok (), u') ∧ u'.files = u.files ∧
      u'.store = u.store ∧ u'.events = u.events ++ [t.startEvent, t.endEvent elapsed] := by
  let elapsed := u.clock.next.millisSince u.clock
  have hcarry : (r.carryOut t).exec (r.begun t u) =
      (.ok elapsed, { r.begun t u with clock := u.clock.next.next }) := by
    have hload' : Discovery.load r.migrations t.path (r.begun t u).files = .ok m := hload
    simp only [carryOut, Action.exec_bind, Action.exec_inspectFiles, hload', mapError_ok,
      Action.exec_now, ht, Bool.not_true, Bool.false_eq_true, if_false, exec_elapsedSince]
    rfl
  refine ⟨r.finished t elapsed { r.begun t u with clock := u.clock.next.next }, elapsed, ?_, ?_⟩
  · rw [exec_execute, hcarry]
  refine ⟨by simp only [finished, begun, Session.files_journaled], ?_, ?_⟩
  · simp only [finished, begun, Session.store_journaled]
  rw [events_finished, Session.events_clock, events_begun, List.append_assoc]
  rfl

section

variable {tracking : Table} (hbodies : r.BodiesRequest (Operation.Spares r.config.table))
  (hget : s.store.tables.get? r.config.table = some tracking) (htracks : tracking.Tracks)

include hbodies hget htracks

/-- If a task succeeds, its pretence does so too and tells the same. -/
theorem execute_foretold (halike : s.Alike u) (hreal : t.pretend = false)
    (hb : t.direction = .up → 1 ≤ t.batch.toInt) (h : (r.execute t).exec s = (.ok (), s')) :
    t.Completes r s.files s.store s'.store ∧ (r.execute t.pretence).Foretells u () s' := by
  obtain ⟨result, s₁, hexec, hfiles, hends, hevents⟩ :=
    execute_ends hbodies hreal hget htracks hb
  obtain ⟨rfl, rfl⟩ := Prod.mk.inj (hexec.symm.trans h)
  obtain ⟨elapsed, hevents⟩ := hevents rfl
  obtain ⟨m, hload⟩ : ∃ m, Discovery.load r.migrations t.path s.files = .ok m := by
    cases hends with
    | logged _ loaded => exact ⟨_, loaded⟩
    | deleted _ loaded => exact ⟨_, loaded⟩
  rw [← halike.files] at hload
  obtain ⟨u', pretended, hexec', hfiles', hstore, hevents'⟩ :=
    exec_execute_of_pretend (t := t.pretence) rfl hload
  refine ⟨hends, u', hexec', ?_, hstore⟩
  refine halike.append hfiles hfiles' hevents hevents' ?_
  simp only [List.map_cons, List.map_nil, t.pretence_startEvent,
    t.pretence_endEvent elapsed pretended]

/-- If files are applied, the pretence of it succeeds too and tells the same. -/
theorem applyAll_foretold {batch : Int64} (hb : 1 ≤ batch.toInt) (halike : s.Alike u)
    (selected : List (String × String))
    (h : (r.applyAll batch false selected).exec s = (.ok (), s')) :
    (r.applyAll batch true selected).Foretells u () s' := by
  induction selected generalizing s u tracking with
  | nil =>
    obtain rfl : s = s' := congrArg Prod.snd h
    exact ⟨u, rfl, halike, rfl⟩
  | cons file rest ih =>
    have hpretended : r.applyAll batch true (file :: rest) =
        r.execute (applying batch file).pretence >>= fun _ => r.applyAll batch true rest := rfl
    rw [applyAll_cons] at h
    obtain ⟨⟨⟩, s₁, hexec, hrest⟩ := Action.exec_bind_eq_ok.1 h
    obtain ⟨hcompletes, u₁, hexec', halike₁, hstore₁⟩ :=
      execute_foretold hbodies hget htracks halike rfl (fun _ => hb) hexec
    obtain ⟨tracking₁, hget₁, htracks₁, -⟩ := hcompletes.table hbodies hget htracks
    obtain ⟨u', hrest', halike', hstore'⟩ := ih hget₁ htracks₁ halike₁ hrest
    refine ⟨u', ?_, halike', hstore'.trans hstore₁⟩
    rw [hpretended]
    exact Action.exec_bind_eq_ok.2 ⟨(), u₁, hexec', hrest'⟩

/-- If records are reverted, the pretence succeeds too, reports the same and tells the same. -/
theorem revertAll_foretold {files : Dict String} {report : RollbackResult} (halike : s.Alike u)
    (records : List Record)
    (h : (r.revertAll files false records).exec s = (.ok report, s')) :
    (r.revertAll files true records).Foretells u { report with pretend := true } s' := by
  induction records generalizing s u tracking report with
  | nil =>
    obtain ⟨rfl, rfl⟩ : report = { pretend := false } ∧ s = s' := by
      obtain ⟨hreport, hs⟩ := Prod.mk.inj h
      exact ⟨(Except.ok.inj hreport).symm, hs⟩
    exact ⟨u, rfl, halike, rfl⟩
  | cons record rest ih =>
    rcases hfile : files.get? record.migration with _ | path
    · obtain ⟨others, hrest, rfl⟩ := (revertAll_eq_ok_of_none hfile).1 h
      obtain ⟨u', hrest', halike', hstore'⟩ := ih (s := s.journaled _) (u := u.journaled _) hget
        htracks (halike.journaled rfl) hrest
      exact ⟨u', (revertAll_eq_ok_of_none hfile).2 ⟨_, hrest', rfl⟩, halike', hstore'⟩
    · obtain ⟨s₁, others, hexec, hrest, rfl⟩ := (revertAll_eq_ok_of_some hfile).1 h
      have hdown : (reverting record path).direction = .up → 1 ≤ record.batch.toInt := nofun
      obtain ⟨hcompletes, u₁, hexec', halike₁, hstore₁⟩ :=
        execute_foretold hbodies hget htracks halike rfl hdown hexec
      obtain ⟨tracking₁, hget₁, htracks₁, -⟩ := hcompletes.table hbodies hget htracks
      obtain ⟨u', hrest', halike', hstore'⟩ := ih hget₁ htracks₁ halike₁ hrest
      refine ⟨u', ?_, halike', hstore'.trans hstore₁⟩
      exact (revertAll_eq_ok_of_some hfile).2 ⟨u₁, _, hexec', hrest', rfl⟩

end

/-- A seeder is run without any event. -/
theorem seed_alike {name : Option String} (h : (r.seed name).exec s = (.ok (), s'))
    (halike : s.Alike u) : s'.Alike u := by
  let I : Session → Prop := fun session => session.files = s.files ∧ session.events = s.events
  have now : Action.now.Preserves I := fun session hs => by
    rw [Action.exec_now]
    exact ⟨hs.1, (Session.events_clock _ _).trans hs.2⟩
  have say (line : String) : (r.say line).Preserves I := fun session hs => by
    rw [exec_say]
    exact ⟨hs.1, by rw [Session.events_journaled, hs.2, filterMap_event?_printout, List.append_nil]⟩
  have seed : (r.seed name).Preserves I := by
    refine .bind (Action.preserves_inspectFiles _) fun program => .bind now fun _ => ?_
    refine .bind (say _) fun _ => .bind (Action.preserves_runFully fun session hs => ?_) fun _ =>
      .bind now fun _ => say _
    exact ⟨hs.1, (Session.events_store _ _).trans hs.2⟩
  have hs' : I s' := by
    have hseed := seed s ⟨rfl, rfl⟩
    rwa [h] at hseed
  exact halike.append hs'.1 rfl (hs'.2.trans (List.append_nil _).symm)
    (List.append_nil _).symm rfl

end Runner

end SchemaMigration
