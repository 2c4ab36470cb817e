import SchemaMigration.Proofs.Runner.Command
import SchemaMigration.Proofs.Runner.Invoke

/-!
# Invariants of calls

Whatever way a call goes, all that it does to a session is narration and, unless it pretends, a few
changes of the store. So an assertion that ignores narration is preserved by every pretended call,
and by every other call if those changes preserve it.
-/

namespace SchemaMigration

namespace Runner

/-- A migration that some file and the registry describe. -/
def CanLoad (r : Runner) (m : Migration) : Prop :=
  ∃ path f, Discovery.load r.migrations path f = .ok m

/-- The changes that calls make unless they pretend preserve an assertion, except for seeding. -/
structure SustainsUnseeded (r : Runner) (I : Session → Prop) : Prop where
  invoked : ∀ s migration direction, I s →
    I (s.journaled [.invoked migration direction (r.isLocked s.store)])
  body : ∀ s m direction, r.CanLoad m → I s →
    I { s with store := ((m.body direction).run r.config.timeout s.store).2 }
  begin : ∀ s store, I s → Store.begin s.store = .ok ((), store) → I { s with store }
  commit : ∀ s store, I s → Store.commit s.store = .ok ((), store) → I { s with store }
  rollback : ∀ s store, I s → Store.rollback s.store = .ok ((), store) → I { s with store }
  ensure : ∀ s store, I s → Tracking.ensure r.config.table s.store = .ok ((), store) →
    I { s with store }
  log : ∀ s record stored store, I s →
    Tracking.log r.config.table record s.store = .ok (stored, store) → I { s with store }
  delete : ∀ s migration count store, I s →
    Tracking.delete r.config.table migration s.store = .ok (count, store) → I { s with store }
  dropTable : ∀ s table store, I s → Store.dropTable table s.store = .ok ((), store) →
    I { s with store }

/-- The changes that calls make unless they pretend preserve an assertion. -/
structure Sustains (r : Runner) (I : Session → Prop) : Prop extends r.SustainsUnseeded I where
  seeder : ∀ s name program, r.seeders.get? name = some program → I s →
    I { s with store := (program.runFully s.store).2 }

theorem sustains_files (r : Runner) (f : Files) : r.Sustains fun s => s.files = f :=
  ⟨⟨fun _ _ _ h => h, fun _ _ _ _ h => h, fun _ _ h _ => h, fun _ _ h _ => h, fun _ _ h _ => h,
    fun _ _ h _ => h, fun _ _ _ _ h _ => h, fun _ _ _ _ h _ => h, fun _ _ _ h _ => h⟩,
    fun _ _ _ _ h => h⟩

/-- A seeder that can be loaded is registered. -/
theorem seeders_get?_of_loadSeeder {r : Runner} {name : String} {f : Files}
    {program : Program Unit} (h : r.loadSeeder name f = .ok program) :
    r.seeders.get? name = some program := by
  unfold loadSeeder at h
  split at h
  · cases h
  · obtain ⟨path, -, h⟩ := except_bind_eq_ok.1 h
    split at h
    · rename_i hget
      exact hget.trans (congrArg some (Except.ok.inj h))
    · cases h

variable {I : Session → Prop} (r : Runner)

theorem preserves_checkNames (o : RunOptions) : (r.checkNames o).Preserves I := by
  unfold checkNames
  cases o.only with
  | none => exact Action.preserves_pure _
  | some names =>
    refine .bind (Action.preserves_inspectFiles _) fun files => ?_
    split
    · exact Action.preserves_fail _
    · exact Action.preserves_pure _

section Real

variable (hreal : r.SustainsUnseeded I)

include hreal

theorem preserves_runBody (t : Task) {m : Migration} (hm : r.CanLoad m) :
    (r.runBody t m).Preserves I := by
  intro s hs
  -- The entry tells whether the lock is held in the very session that it is added to.
  have hnoted : I ((Action.note (.invoked t.name t.direction (r.isLocked s.store))).exec s).2 :=
    hreal.invoked s _ _ hs
  rw [runBody, Action.exec_bind, Action.exec_get]
  refine Action.Preserves.exec_bind_of hnoted fun _ => ?_
  refine .bind (Action.preserves_runProgram fun s hs => hreal.body s m _ hm hs) fun outcome => ?_
  cases outcome with
  | returned | failed | timedOut => exact Action.preserves_pure _
  | overflow => exact Action.preserves_throw _

theorem preserves_invokeOpened (t : Task) {m : Migration} (hm : r.CanLoad m)
    (transactional : Bool) : (r.invokeOpened t m transactional).Preserves I := by
  have commit : (Action.change Store.commit).Preserves I :=
    Action.preserves_change fun s _ store hs h => hreal.commit s store hs h
  have rollback : (Action.change Store.rollback).Preserves I :=
    Action.preserves_change fun s _ store hs h => hreal.rollback s store hs h
  refine .bind (preserves_runBody r hreal t hm) fun outcome => ?_
  cases outcome with
  | ok => exact .ite (fun _ => commit.inMigration _) fun _ => Action.preserves_pure _
  | error e =>
    exact .ite (fun _ => .bind rollback.attempt fun _ => Action.preserves_fail e) fun _ =>
      Action.preserves_fail e

theorem preserves_invoke (t : Task) {m : Migration} (hm : r.CanLoad m) :
    (r.invoke t m).Preserves I := by
  have begin : (Action.change Store.begin).Preserves I :=
    Action.preserves_change fun s _ store hs h => hreal.begin s store hs h
  have opened (transactional : Bool) := preserves_invokeOpened r hreal t hm transactional
  rw [invoke_eq]
  refine .bind Action.preserves_get fun s => .ite (fun _ => ?_) fun _ => opened _
  exact .bind (begin.inMigration _) fun _ => opened _

theorem preserves_dropTables (tables : List String) : (dropTables tables).Preserves I := by
  induction tables with
  | nil => exact Action.preserves_pure _
  | cons table rest ih =>
    refine .bind Action.preserves_get fun _ => .ite (fun _ => .bind ?_ fun _ => ih) fun _ => ih
    exact Action.preserves_change fun s _ store hs h => hreal.dropTable s table store hs h

end Real

section

variable (hI : r.Tolerates I)

include hI

theorem preserves_elapsedSince (started : Instant) : (elapsedSince started).Preserves I :=
  .bind hI.now fun _ => Action.preserves_pure _

theorem preserves_abandon (t : Task) (e : Error) : (r.abandon t e).Preserves I :=
  .bind (hI.advance _) fun _ => .bind (hI.emit _) fun _ => .bind (hI.say _) fun _ =>
    Action.preserves_fail e

theorem preserves_nothingToRollBack (pretend : Bool) :
    (r.nothingToRollBack pretend).Preserves I :=
  .bind (hI.say _) fun _ => Action.preserves_pure _

theorem preserves_track (hreal : r.SustainsUnseeded I) (t : Task) (started : Instant) :
    (r.track t started).Preserves I := by
  unfold track
  cases t.direction with
  | up =>
    refine .bind Action.preserves_get fun _ => .bind (preserves_elapsedSince r hI _) fun _ => ?_
    refine .bind hI.now fun _ => .bind ?_ fun _ => Action.preserves_pure _
    exact Action.preserves_change fun s _ store hs h => hreal.log s _ _ store hs h
  | down =>
    refine .bind ?_ fun _ => Action.preserves_pure _
    exact Action.preserves_change fun s _ store hs h => hreal.delete s _ _ store hs h

end

/-- Seeding runs a program, reads the clock and prints; it emits nothing. -/
theorem preserves_seed (hnow : Action.now.Preserves I) (hsay : ∀ line, (r.say line).Preserves I)
    (hseeder : ∀ s name program, r.seeders.get? name = some program → I s →
      I { s with store := (program.runFully s.store).2 }) (name : Option String) :
    (r.seed name).Preserves I := by
  refine Action.preserves_inspectFiles_bind fun files program hload => ?_
  have hregistered := seeders_get?_of_loadSeeder hload
  refine .bind hnow fun _ => .bind (hsay _) fun _ => ?_
  refine .bind (Action.preserves_runFully fun s hs => hseeder s _ _ hregistered hs) fun _ => ?_
  exact .bind hnow fun _ => hsay _

theorem preserves_recordsForRun {pretend : Bool}
    (hensure : pretend = false → ∀ s store, I s →
      Tracking.ensure r.config.table s.store = .ok ((), store) → I { s with store }) :
    (r.recordsForRun pretend).Preserves I := by
  refine .ite (fun _ => .bind Action.preserves_get fun _ => ?_) fun h => ?_
  · exact .ite (fun _ => Action.preserves_read _) fun _ => Action.preserves_pure _
  · refine .bind (Action.preserves_change fun s _ store hs hc => ?_) fun _ =>
      Action.preserves_read _
    exact hensure (Bool.eq_false_iff.2 h) s store hs hc

section

variable (hI : r.Tolerates I) {pretend : Bool}
  (hreal : pretend = false → r.SustainsUnseeded I)

include hI hreal

theorem preserves_carryOut {t : Task} (ht : t.pretend = pretend) :
    (r.carryOut t).Preserves I := by
  refine Action.preserves_inspectFiles_bind fun files m hload => ?_
  refine .bind hI.now fun started => .ite (fun h => ?_) fun _ => preserves_elapsedSince r hI _
  have hr : r.SustainsUnseeded I := hreal (by simpa [ht] using h)
  exact .bind (preserves_invoke r hr t ⟨t.path, files, hload⟩) fun _ =>
    .bind (preserves_track r hI hr t started) fun _ => preserves_elapsedSince r hI _

theorem preserves_execute {t : Task} (ht : t.pretend = pretend) : (r.execute t).Preserves I := by
  refine .bind (hI.advance _) fun _ => .bind (hI.emit _) fun _ => ?_
  refine .bind (hI.say _) fun _ => ?_
  refine .bind (preserves_carryOut r hI hreal ht).attempt fun outcome => ?_
  cases outcome with
  | error e => exact preserves_abandon r hI t e
  | ok elapsed =>
    exact .bind (hI.advance _) fun _ => .bind (hI.emit _) fun _ => hI.say _

theorem preserves_applyAll (batch : Int64) (selected : List (String × String)) :
    (r.applyAll batch pretend selected).Preserves I := by
  induction selected with
  | nil => exact Action.preserves_pure _
  | cons file rest ih => exact .bind (preserves_execute r hI hreal rfl) fun _ => ih

end

theorem preserves_runPending (hI : r.Tolerates I) {pretend : Bool}
    (hreal : pretend = false → r.Sustains I) {o : RunOptions} (ho : o.pretend = pretend)
    (reverted : List String) : (r.runPending o reverted).Preserves I := by
  have hunseeded (h : pretend = false) : r.SustainsUnseeded I := (hreal h).toSustainsUnseeded
  unfold runPending
  refine .bind (preserves_checkNames r o) fun _ => ?_
  rw [ho]
  refine .bind (preserves_recordsForRun r fun h => (hunseeded h).ensure) fun _ => ?_
  refine .bind (Action.preserves_inspectFiles _) fun _ => .ite (fun _ => ?_) fun _ => ?_
  · exact .bind (hI.say _) fun _ => Action.preserves_pure _
  · refine .bind (Action.preserves_resume _) fun batch => .bind (hI.emit _) fun _ => ?_
    refine .bind (preserves_applyAll r hI hunseeded batch _) fun _ => ?_
    refine .bind (hI.emit _) fun _ => .ite (fun hseed => ?_) fun _ => Action.preserves_pure _
    have hpretend : pretend = false := by
      cases pretend <;> simp_all
    exact .bind (preserves_seed r hI.now hI.say (hreal hpretend).seeder none) fun _ =>
      Action.preserves_pure _

section

variable (hI : r.Tolerates I) {pretend : Bool}
  (hexecute : ∀ t : Task, t.direction = .down → t.pretend = pretend → (r.execute t).Preserves I)

include hI hexecute

theorem preserves_revertAll (files : Dict String) (records : List Record) :
    (r.revertAll files pretend records).Preserves I := by
  induction records with
  | nil => exact Action.preserves_pure _
  | cons record rest ih =>
    unfold revertAll
    split
    · exact .bind (hI.say _) fun _ => .bind ih fun _ => Action.preserves_pure _
    · exact .bind (hexecute _ rfl rfl) fun _ => .bind ih fun _ => Action.preserves_pure _

theorem preserves_rollbackRecords {o : RollbackOptions} (ho : o.pretend = pretend) :
    (r.rollbackRecords o).Preserves I := by
  unfold rollbackRecords
  rw [ho]
  refine .bind Action.preserves_get fun _ =>
    .ite (fun _ => preserves_nothingToRollBack r hI _) fun _ => ?_
  refine .bind (Action.preserves_read _) fun records => ?_
  refine .ite (fun _ => preserves_nothingToRollBack r hI _) fun _ => ?_
  refine .bind (Action.preserves_inspectFiles _) fun files => ?_
  refine .bind (hI.emit _) fun _ => ?_
  exact .bind (preserves_revertAll r hI hexecute files records) fun _ =>
    .bind (hI.emit _) fun _ => Action.preserves_pure _

/-- A reset preserves what the tasks of reverting preserve. -/
theorem preserves_resetRecords : (r.resetRecords pretend).Preserves I := by
  have reverting (last : Int64) : (if last = 0 then r.nothingToRollBack pretend
      else r.rollbackRecords { steps := some last.toUInt64.toNat, pretend }).Preserves I :=
    .ite (fun _ => preserves_nothingToRollBack r hI pretend) fun _ =>
      preserves_rollbackRecords r hI hexecute rfl
  refine .bind Action.preserves_get fun _ => .ite (fun _ => ?_) fun _ => ?_
  · exact .bind (Action.preserves_read _) reverting
  · exact .bind (Action.preserves_pure _) reverting

end

section

variable (hI : r.Tolerates I) {pretend : Bool}
  (hreal : pretend = false → r.Sustains I)

include hI hreal

theorem preserves_freshPending {o : RunOptions} (ho : o.pretend = pretend) :
    (r.freshPending o).Preserves I := by
  refine .ite (fun _ => .bind Action.preserves_get fun _ => .ite (fun _ => ?_) fun _ => ?_)
    fun h => .bind Action.preserves_get fun _ => .bind ?_ fun _ => ?_
  · exact .bind (Action.preserves_read _) (preserves_runPending r hI hreal ho)
  · exact .bind (Action.preserves_pure _) (preserves_runPending r hI hreal ho)
  · exact preserves_dropTables r (hreal (ho ▸ Bool.eq_false_iff.2 h)).toSustainsUnseeded _
  · exact .bind (hI.say _) fun _ => preserves_runPending r hI hreal ho []

theorem preserves_refreshPending {o : RunOptions} (ho : o.pretend = pretend) :
    (r.refreshPending o).Preserves I := by
  unfold refreshPending
  rw [ho]
  have hexecute (t : Task) (_ : t.direction = .down) (ht : t.pretend = pretend) :
      (r.execute t).Preserves I :=
    preserves_execute r hI (fun h => (hreal h).toSustainsUnseeded) ht
  exact .bind (preserves_resetRecords r hI hexecute) fun _ => preserves_runPending r hI hreal ho _

end

theorem files_execute (t : Task) (s : Session) : ((r.execute t).exec s).2.files = s.files :=
  preserves_execute r (tolerates (Session.ignoresNarration_files s.files) r)
    (fun _ => (r.sustains_files s.files).toSustainsUnseeded) rfl s rfl

/-- A call preserves an assertion that ignores narration if it pretends, or else if all changes that
calls make preserve it. -/
theorem preserves_call (hI : Session.IgnoresNarration I) {c : Command}
    (hreal : c.pretend = false → r.Sustains I) : (r.call c).Preserves I := by
  have htold := tolerates hI r
  have hexecute (t : Task) (_ : t.direction = .down) (ht : t.pretend = c.pretend) :
      (r.execute t).Preserves I :=
    preserves_execute r htold (fun h => (hreal h).toSustainsUnseeded) ht
  cases c with
  | run o => exact .map _ (preserves_withLock hI r (preserves_runPending r htold hreal rfl []))
  | rollback o =>
    exact .map _ (preserves_withLock hI r (preserves_rollbackRecords r htold hexecute rfl))
  | reset pretend =>
    exact .map _ (preserves_withLock hI r (preserves_resetRecords r htold hexecute))
  | refresh o =>
    exact .map _ (preserves_withLock hI r (preserves_refreshPending r htold hreal rfl))
  | fresh o => exact .map _ (preserves_withLock hI r (preserves_freshPending r htold hreal rfl))

theorem files_call (c : Command) (s : Session) : ((r.call c).exec s).2.files = s.files :=
  preserves_call r (Session.ignoresNarration_files s.files) (fun _ => r.sustains_files s.files) s rfl

end Runner

end SchemaMigration
