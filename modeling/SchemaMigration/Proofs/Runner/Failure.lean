import SchemaMigration.Proofs.Runner.Task
import SchemaMigration.Proofs.Tracking.Failure
import SchemaMigration.Runner.Rollback

/-!
# What reverting fails with

A run of names without a file is rejected with an error of its own. Nothing that carries out or
reverts migrations fails with such an error, so whoever meets it knows that a run was rejected.
-/

namespace SchemaMigration

/-- The error of a run of names of which one has no file. -/
def Error.IsRejection (e : Error) : Prop :=
  ∃ name, e = .validation (.unknownMigration name)

theorem Error.IsRefusal.not_isRejection {e : Error} (h : e.IsRefusal) : ¬e.IsRejection := by
  rintro ⟨name, rfl⟩
  obtain ⟨cause, h⟩ := h
  cases h

/-- The error of a migration: it names the migration, or it ran out of time. -/
def Error.IsOf (migration : String) (e : Error) : Prop :=
  ∃ cause : Error, e = cause.inMigration migration

theorem Error.IsOf.not_isRejection {migration : String} {e : Error} (h : e.IsOf migration) :
    ¬e.IsRejection := by
  rintro ⟨name, rfl⟩
  obtain ⟨cause, h⟩ := h
  cases cause <;> cases h

theorem SectionFile.eq_of_parse {name content : String} {e : Error}
    (h : parse name content = .error e) : e = .validation (.noUpSection name) := by
  unfold parse at h
  dsimp only at h
  split at h
  · cases h
  · exact (Except.error.inj h).symm

namespace Discovery

theorem not_isRejection_of_load {registry : Dict Migration} {path : String} {f : Files} {e : Error}
    (h : load registry path f = .error e) : ¬e.IsRejection := by
  rintro ⟨name, rfl⟩
  unfold load at h
  rcases hname : migrationName? path with _ | migration
  · simp [hname] at h
  rcases hget : registry.get? migration with _ | registered
  · simp only [hname, hget] at h
    split at h
    · rcases hread : f.readText path with problem | content
      · simp [hread] at h
      · simp only [hread] at h
        rcases hparse : SectionFile.parse migration content with e | sections
        · rw [hparse] at h
          obtain rfl := Except.error.inj h
          cases SectionFile.eq_of_parse hparse
        · rw [hparse] at h
          cases h
    · simp at h
  · simp [hname, hget] at h

/-- Files are not found only if a directory cannot be read. -/
theorem isIo_of_filesIn {f : Files} {extensions : List String} {directory : String} {e : Error}
    (h : filesIn f extensions directory = .error e) : ∃ path problem, e = .io path problem := by
  unfold filesIn at h
  split at h
  · cases h
  · split at h
    · exact ⟨directory, _, (Except.error.inj h).symm⟩
    · cases h

theorem isIo_of_discover {c : Config} {f : Files} {e : Error} (h : discover c f = .error e) :
    ∃ path problem, e = .io path problem := by
  unfold discover at h
  generalize c.paths = paths at h
  generalize (∅ : Dict String) = known at h
  induction paths generalizing known with
  | nil => cases h
  | cons directory rest ih =>
    rw [List.foldlM_cons] at h
    rcases except_bind_eq_error.1 h with h | ⟨found, -, h⟩
    · rcases except_bind_eq_error.1 h with h | ⟨paths, -, h⟩
      · exact isIo_of_filesIn h
      · cases h
    · exact ih found h

end Discovery

namespace Runner

variable (r : Runner)

theorem failsWith_emit {kind : Error → Prop} (event : Event) : (r.emit event).FailsWith kind :=
  Action.failsWith_of_ok fun s => ⟨_, _, exec_emit r event s⟩

theorem failsWith_say {kind : Error → Prop} (line : String) : (r.say line).FailsWith kind :=
  Action.failsWith_of_ok fun s => ⟨_, _, exec_say r line s⟩

theorem failsWith_elapsedSince {kind : Error → Prop} (started : Instant) :
    (elapsedSince started).FailsWith kind :=
  Action.failsWith_of_ok fun s => ⟨_, _, exec_elapsedSince started s⟩

theorem failsWith_files : r.files.FailsWith (¬·.IsRejection) := by
  apply Action.failsWith_inspectFiles
  rintro files e h ⟨name, rfl⟩
  obtain ⟨path, problem, hio⟩ := Discovery.isIo_of_discover h
  cases hio

theorem failsWith_runBody {kind : Error → Prop} (t : Task) (m : Migration) :
    (r.runBody t m).FailsWith kind := by
  intro s fault s' h
  rw [exec_runBody] at h
  dsimp only at h
  split at h
  · cases h
  · cases h
  · obtain rfl := Except.error.inj (Prod.mk.inj h).1
    trivial

/-- The error of a program is that of its migration. -/
theorem isOf_of_runBody {r : Runner} {t : Task} {m : Migration} {s s' : Session} {e : Error}
    (h : (r.runBody t m).exec s = (.ok (.error e), s')) : e.IsOf t.name := by
  have hverdict (outcome : Outcome Unit)
      (h : r.verdict t outcome = .error (.failed e)) : e.IsOf t.name := by
    cases outcome with
    | returned => cases h
    | failed cause => exact ⟨cause, (Fault.failed.inj (Except.error.inj h)).symm⟩
    | timedOut => exact ⟨e, by cases h; rfl⟩
    | overflow => cases h
  rw [exec_runBody] at h
  dsimp only at h
  split at h
  · cases h
  · rename_i e' hfailed
    obtain rfl := Except.error.inj (Except.ok.inj (Prod.mk.inj h).1)
    exact hverdict _ hfailed
  · cases h

theorem failsWith_invokeOpened (t : Task) (m : Migration) (transactional : Bool) :
    (r.invokeOpened t m transactional).FailsWith (·.IsOf t.name) := by
  refine .bind_of_ok (failsWith_runBody r t m) fun s result s' h => ?_
  cases result with
  | ok =>
    exact .ite (Action.failsWith_inMigration (fun e => ⟨e, rfl⟩) _) (Action.failsWith_pure _)
  | error e =>
    have hfail : (Action.fail e : Action Unit).FailsWith (·.IsOf t.name) :=
      Action.failsWith_fail (isOf_of_runBody h)
    have hrollback : (Action.change Store.rollback).FailsWith Error.IsRefusal :=
      Action.failsWith_change fun s fault h => Store.rollback_refuses h
    exact .ite (hrollback.attempt_bind (fun _ => hfail) fun _ _ => hfail) hfail

/-- Whatever goes wrong around a program, the error is that of its migration. -/
theorem failsWith_invoke (t : Task) (m : Migration) :
    (r.invoke t m).FailsWith (·.IsOf t.name) := by
  rw [invoke_eq]
  refine .bind Action.failsWith_get fun s => .ite (.bind ?_ fun _ => ?_) ?_
  · exact Action.failsWith_inMigration (fun e => ⟨e, rfl⟩) _
  · exact failsWith_invokeOpened r t m _
  · exact failsWith_invokeOpened r t m _

theorem failsWith_track (t : Task) (started : Instant) :
    (r.track t started).FailsWith (¬·.IsRejection) := by
  unfold track
  cases t.direction with
  | up =>
    refine .bind Action.failsWith_get fun _ => .bind (failsWith_elapsedSince _) fun _ => ?_
    refine .bind Action.failsWith_now fun _ => .bind ?_ fun _ => Action.failsWith_pure _
    refine Action.failsWith_change fun s fault h => (Tracking.log_fails h).mono fun e he => ?_
    rcases he with he | rfl
    · exact he.not_isRejection
    · exact nofun
  | down =>
    refine .bind ?_ fun _ => Action.failsWith_pure _
    exact Action.failsWith_change fun s fault h =>
      (Tracking.delete_refuses h).mono fun _ => Error.IsRefusal.not_isRejection

theorem failsWith_carryOut (t : Task) : (r.carryOut t).FailsWith (¬·.IsRejection) := by
  refine .bind (Action.failsWith_inspectFiles fun _ _ => Discovery.not_isRejection_of_load) ?_
  refine fun m => .bind Action.failsWith_now fun started => .ite ?_ (failsWith_elapsedSince _)
  exact .bind ((failsWith_invoke r t m).mono fun _ => Error.IsOf.not_isRejection) fun _ =>
    .bind (failsWith_track r t started) fun _ => failsWith_elapsedSince _

theorem failsWith_execute (t : Task) : (r.execute t).FailsWith (¬·.IsRejection) := by
  refine .bind (Action.failsWith_advance _) fun _ => .bind (failsWith_emit r _) fun _ => ?_
  refine .bind (failsWith_say r _) fun _ => .attempt_bind (failsWith_carryOut r t) ?_ ?_
  · exact fun elapsed => .bind (Action.failsWith_advance _) fun _ =>
      .bind (failsWith_emit r _) fun _ => failsWith_say r _
  · exact fun e he => .bind (Action.failsWith_advance _) fun _ =>
      .bind (failsWith_emit r _) fun _ => .bind (failsWith_say r _) fun _ =>
        Action.failsWith_fail he

theorem failsWith_revertAll (files : Dict String) (pretend : Bool) (records : List Record) :
    (r.revertAll files pretend records).FailsWith (¬·.IsRejection) := by
  induction records with
  | nil => exact Action.failsWith_pure _
  | cons record rest ih =>
    unfold revertAll
    split
    · exact .bind (failsWith_say r _) fun _ => .bind ih fun _ => Action.failsWith_pure _
    · exact .bind (failsWith_execute r _) fun _ => .bind ih fun _ => Action.failsWith_pure _

/-- The records to be reverted are not found if the store refuses, or the named migration has no
record. -/
theorem rollbackTargets_eq_error {table : String} {o : RollbackOptions} {s : Store}
    {fault : Fault} (h : rollbackTargets table o s = .error fault) :
    fault.Is Error.IsRefusal ∨ ∃ target, o.target = some target ∧
      Tracking.find table target s = .ok none ∧
      fault = .failed (.validation (.notRun target)) := by
  rcases except_bind_eq_error.1 h with h | ⟨records, -, h⟩
  · unfold rollbackSelection at h
    split at h
    · rename_i target htarget
      rcases except_bind_eq_error.1 h with h | ⟨found, hfind, h⟩
      · exact .inl (Tracking.find_refuses h)
      · split at h
        · cases h
        · exact .inr ⟨target, htarget, hfind, (Except.error.inj h).symm⟩
    · split at h
      · exact .inl (Tracking.select_refuses h)
      · exact .inl (Tracking.lastBatches_refuses h)
  · cases h

theorem not_isRejection_of_rollbackTargets {table : String} {o : RollbackOptions} {s : Store}
    {fault : Fault} (h : rollbackTargets table o s = .error fault) :
    fault.Is (¬·.IsRejection) := by
  rcases rollbackTargets_eq_error h with hrefusal | ⟨target, -, -, rfl⟩
  · exact hrefusal.mono fun _ => Error.IsRefusal.not_isRejection
  · exact nofun

theorem failsWith_rollbackRecords (o : RollbackOptions) :
    (r.rollbackRecords o).FailsWith (¬·.IsRejection) := by
  have hnothing : (r.nothingToRollBack o.pretend).FailsWith (¬·.IsRejection) :=
    .bind (failsWith_say r _) fun _ => Action.failsWith_pure _
  refine .bind Action.failsWith_get fun _ => .ite hnothing (.bind ?_ fun records => ?_)
  · exact Action.failsWith_read fun _ _ => not_isRejection_of_rollbackTargets
  · refine .ite hnothing (.bind (failsWith_files r) fun files => .bind (failsWith_emit r _) ?_)
    exact fun _ => .bind (failsWith_revertAll r files _ _) fun _ =>
      .bind (failsWith_emit r _) fun _ => Action.failsWith_pure _

/-- A reset does not fail because of unknown names. -/
theorem failsWith_resetRecords (pretend : Bool) :
    (r.resetRecords pretend).FailsWith (¬·.IsRejection) := by
  have hreverting (last : Int64) : (if last = 0 then r.nothingToRollBack pretend
      else r.rollbackRecords { steps := some last.toUInt64.toNat, pretend }).FailsWith
        (¬·.IsRejection) :=
    .ite (.bind (failsWith_say r _) fun _ => Action.failsWith_pure _)
      (failsWith_rollbackRecords r _)
  refine .bind Action.failsWith_get fun _ => .ite (.bind ?_ hreverting) ?_
  · exact Action.failsWith_read fun s fault h =>
      (Tracking.lastBatch_refuses h).mono fun _ => Error.IsRefusal.not_isRejection
  · exact .bind (Action.failsWith_pure _) hreverting

end Runner

end SchemaMigration
