import SchemaMigration.Proofs.Runner.Alike
import SchemaMigration.Proofs.Runner.Run

/-!
# Step by step

To apply the pending migrations one by one, each in a run of its own, goes like applying all of them
in one run: the same programs are run, with the same end, and they leave the same tables. Only the
recorded batches differ, because every step is a batch of its own. So the programs must not depend
on the batches, and as the lock is given up between steps, they must leave it alone.
-/

namespace SchemaMigration

/-- The recorded batches are hidden. -/
def BlindSpot.batches (table : String) : BlindSpot where
  table := table
  columns := ["batch"]

/-- Tables that are alike up to batches hold the same records up to these. -/
theorem BlindSpot.AlikeTables.recorded {table : String} {s s' : Store}
    (h : (batches table).AlikeTables s.tables s'.tables) :
    (Tracking.recorded table s).map (fun record => { record with batch := 0 }) =
      (Tracking.recorded table s').map fun record => { record with batch := 0 } := by
  have hrow (row : Row) : { Record.ofRow row with batch := 0 } =
      { Record.ofRow ((batches table).row table row) with batch := 0 } := by
    simp [Record.ofRow, get?_row, Shows, batches]
  have hrows (rows : List Row) :
      (rows.map Record.ofRow).map (fun record => { record with batch := 0 }) =
        (rows.map ((batches table).row table)).map fun row =>
          { Record.ofRow row with batch := 0 } := by
    rw [List.map_map, List.map_map]
    exact List.map_congr_left fun row _ => hrow row
  have htable := h table
  rw [Tracking.recorded, Tracking.recorded, Store.rows, Store.rows]
  generalize s.tables.get? table = t at htable ⊢
  generalize s'.tables.get? table = t' at htable ⊢
  cases htable with
  | none => rfl
  | some halike => exact (hrows _).trans ((congrArg _ halike.rows).trans (hrows _).symm)

theorem BlindSpot.AlikeTables.names {table : String} {s s' : Store}
    (h : (batches table).AlikeTables s.tables s'.tables) :
    (Tracking.batched table s).map (·.1) = (Tracking.batched table s').map (·.1) := by
  have hmigrations := congrArg (List.map (·.migration)) h.recorded
  rw [List.map_map, List.map_map] at hmigrations
  rw [Tracking.batched_fst, Tracking.batched_fst]
  exact hmigrations

namespace Runner

open BlindSpot

/-- Runs of one file each, until nothing is pending or one of them fails: which migrations were
applied in which batches, and how it ended. -/
inductive Stepping (r : Runner) :
    Session → List (String × Int64) → Except Fault Unit → Session → Prop where
  /-- Nothing is pending. -/
  | done {s s' : Session} {report : RunResult}
      (ran : (r.run { step := true }).exec s = (.ok report, s')) (nothing : report.migrated = []) :
      Stepping r s [] (.ok ()) s'
  /-- A step fails. -/
  | failed {s s' : Session} {fault : Fault}
      (ran : (r.run { step := true }).exec s = (.error fault, s')) :
      Stepping r s [] (.error fault) s'
  /-- A migration is applied, and then others are. -/
  | next {s s₁ s' : Session} {report : RunResult} {name : String} {batch : Int64}
      {steps : List (String × Int64)} {result : Except Fault Unit}
      (ran : (r.run { step := true }).exec s = (.ok report, s₁))
      (applied : report.migrated = [name])
      (numbered : report.batch = some batch) (others : Stepping r s₁ steps result s') :
      Stepping r s ((name, batch) :: steps) result s'

/-- How steps end is determined by where they start. -/
theorem Stepping.unique {r : Runner} {s after after' : Session}
    {steps steps' : List (String × Int64)} {result result' : Except Fault Unit}
    (h : r.Stepping s steps result after)
    (h' : r.Stepping s steps' result' after') :
    steps = steps' ∧ result = result' ∧ after = after' := by
  induction h generalizing steps' result' after' with
  | done ran nothing =>
    cases h' with
    | done ran' =>
      obtain ⟨-, rfl⟩ := Prod.mk.inj (ran.symm.trans ran')
      exact ⟨rfl, rfl, rfl⟩
    | failed ran' => cases ran.symm.trans ran'
    | next ran' applied' =>
      obtain ⟨hreport, -⟩ := Prod.mk.inj (ran.symm.trans ran')
      rw [Except.ok.inj hreport, applied'] at nothing
      cases nothing
  | failed ran =>
    cases h' with
    | done ran' => cases ran.symm.trans ran'
    | failed ran' =>
      obtain ⟨hfault, rfl⟩ := Prod.mk.inj (ran.symm.trans ran')
      exact ⟨rfl, by rw [Except.error.inj hfault], rfl⟩
    | next ran' => cases ran.symm.trans ran'
  | next ran applied numbered others ih =>
    cases h' with
    | done ran' nothing' =>
      obtain ⟨hreport, -⟩ := Prod.mk.inj (ran.symm.trans ran')
      rw [Except.ok.inj hreport, nothing'] at applied
      cases applied
    | failed ran' => cases ran.symm.trans ran'
    | next ran' applied' numbered' others' =>
      obtain ⟨hreport, rfl⟩ := Prod.mk.inj (ran.symm.trans ran')
      obtain rfl := Except.ok.inj hreport
      obtain ⟨rfl, rfl, rfl⟩ := ih others'
      obtain rfl := Option.some.inj (numbered.symm.trans numbered')
      obtain rfl := List.head_eq_of_cons_eq (applied.symm.trans applied')
      exact ⟨rfl, rfl, rfl⟩

section Steps

variable {r : Runner} {u v v' w : Session} {ran : List (String × Direction)} {files : Dict String}
  {batch number : Int64} {file : String × String} {rest waiting : List (String × String)}

/-- A session in which a step is under way is abreast of one in which a run is, before the same
files: what it finds is like what the run finds, and there are numbers for all that follow. -/
structure Abreast (r : Runner) (ran : List (String × Direction)) (files : Dict String)
    (waiting : List (String × String)) (u w : Session) : Prop where
  alike : (batches r.config.table).AlikeSessions ran ran u w
  held : (r.config.advisoryLock && w.store.lockable) = true → r.isLocked w.store = true
  undisturbed : (r.config.advisoryLock && w.store.lockable) = true →
    r.BodiesRequest (·.touchesLock r.config.lockName = false)
  discovered : Discovery.discover r.config w.files = .ok files
  tracked : ∃ t, w.store.tables.get? r.config.table = some t ∧ t.Tracks
  pending : pendingFiles files (Tracking.recorded r.config.table w.store) = waiting
  numbers : Tracking.lastNumber (Tracking.recorded r.config.table w.store) + waiting.length ≤
    Int64.maxValue.toInt

/-- A session between steps, from which the next step will be abreast of the run. -/
structure Ready (r : Runner) (ran : List (String × Direction)) (files : Dict String)
    (waiting : List (String × String)) (u v : Session) : Prop where
  free : r.IsFree v.store
  abreast : r.Abreast ran files waiting u (r.readied (r.locked v))

theorem Abreast.told (h : r.Abreast ran files waiting u w) {entries : List Entry}
    (hentries : entries.filterMap Entry.invocation? = []) :
    r.Abreast ran files waiting u (w.journaled entries) :=
  ⟨h.alike.told hentries, h.held, h.undisturbed, h.discovered, h.tracked, h.pending, h.numbers⟩

/-- To end a step and to begin the next one makes no difference. -/
theorem Abreast.ready (h : r.Abreast ran files waiting u w) :
    r.Ready ran files waiting u (r.released (r.config.advisoryLock && w.store.lockable) w) := by
  refine ⟨isFree_released rfl, ?_⟩
  -- The next step takes the lock that was given up, so only the list of locks may be another one.
  obtain ⟨t, hget, -⟩ := h.tracked
  obtain ⟨locks, n, hsession, hlocks⟩ := locked_released h.held
  have halike := h.alike.relocked h.held
  rw [hsession] at halike ⊢
  rw [readied_of_get? (t := t)]
  · refine ⟨halike, fun hheld => ?_, h.undisturbed, h.discovered, h.tracked, h.pending, h.numbers⟩
    exact (hlocks r.config.lockName).trans (h.held hheld)
  · exact hget

namespace Ready

theorem recorded (r : Runner) (v : Session) :
    Tracking.recorded r.config.table (r.readied (r.locked v)).store =
      Tracking.recorded r.config.table v.store := by
  rw [recorded_readied, recorded_locked]

theorem discovered (h : r.Ready ran files waiting u v) :
    Discovery.discover r.config v.files = .ok files := by
  simpa using h.abreast.discovered

theorem pending (h : r.Ready ran files waiting u v) :
    pendingFiles files (Tracking.recorded r.config.table v.store) = waiting := by
  rw [← recorded]
  exact h.abreast.pending

/-- If nothing is left, the next step does nothing. -/
theorem exec_run_of_nil (h : r.Ready ran files [] u v) :
    (r.run { step := true }).exec v = r.unlocked (r.config.advisoryLock && v.store.lockable)
      (.ok { batch := none, migrated := [], pretend := false },
        (r.readied (r.locked v)).journaled (r.printout "Nothing to migrate.")) :=
  Runner.exec_run_of_nil h.free rfl rfl h.discovered (congrArg (List.take 1) h.pending)

/-- The next step applies the first of the files that are left. -/
theorem exec_run_of_cons (h : r.Ready ran files (file :: rest) u v) :
    ∃ (number : Int64) (started : List Entry), number.toInt =
        Tracking.lastNumber (Tracking.recorded r.config.table v.store) + 1 ∧
      started.filterMap Entry.invocation? = [] ∧
      (r.run { step := true }).exec v = r.unlocked (r.config.advisoryLock && v.store.lockable)
        (r.reported number [file.1] ((r.execute (applying number file)).exec
          ((r.readied (r.locked v)).journaled started))) := by
  obtain ⟨t, hget, htracks⟩ := h.abreast.tracked
  have hpos : ∀ record ∈ Tracking.recorded r.config.table v.store, 1 ≤ record.batch.toInt := by
    rw [← recorded]
    exact fun _ => Tracking.one_le_batch_of_tracks (Tracking.tracks_of_get? hget htracks)
  have hnumbers := h.abreast.numbers
  rw [recorded, List.length_cons] at hnumbers
  have hselected : selectFiles { step := true } (pendingFiles files
      (Tracking.recorded r.config.table v.store)) = [file] := by
    rw [h.pending]
    rfl
  obtain ⟨number, hnumber, hrun⟩ := exec_run_of_ne_nil h.free rfl rfl h.discovered rfl hselected
    (List.cons_ne_nil _ _) hpos (by omega)
  rw [applyAll_singleton] at hrun
  exact ⟨number, _, hnumber, filterMap_invocation?_announcement r _ _, hrun⟩

end Ready

section OneStep

variable (hbodies : r.BodiesRequest (Operation.Spares r.config.table))
  (hups : r.UpsOverlook (batches r.config.table)) (hb : 1 ≤ batch.toInt)

include hbodies hups hb

/-- Whether a file is applied by a run or by a step, it goes alike. -/
theorem Abreast.execute (h : r.Abreast ran files (file :: rest) u w) (hnumber : number.toInt =
      Tracking.lastNumber (Tracking.recorded r.config.table w.store) + 1) :
    ∃ result u' w', (r.execute (applying batch file)).exec u = (result, u') ∧
      (r.execute (applying number file)).exec w = (result, w') ∧
      w'.store.lockable = w.store.lockable ∧
      match result with
      | .error _ => (batches r.config.table).AlikeSessions ran ran u' w' ∧
          Tracking.recorded r.config.table w'.store = Tracking.recorded r.config.table w.store
      | .ok () => r.Abreast ran files rest u' w' ∧ ∃ record : Record,
          record.migration = file.1 ∧ record.batch = number ∧
            Tracking.recorded r.config.table w'.store =
              Tracking.recorded r.config.table w.store ++ [record] := by
  have hpos : 1 ≤ number.toInt := by
    have hnonneg := Tracking.lastNumber_nonneg (Tracking.recorded r.config.table w.store)
    omega
  obtain ⟨tracking, hget, htracks⟩ := h.tracked
  obtain ⟨hend, halike⟩ :=
    inStep_execute file rfl (.inr ⟨by simp [batches], hb, hpos⟩) hups u w h.alike
  obtain ⟨result, w', hexec, hfiles, hends, -⟩ := execute_ends (t := applying number file)
    hbodies rfl hget htracks fun _ => hpos
  have hlockable : w'.store.lockable = w.store.lockable := by
    have hfeatures := features_execute r (applying number file) w
    rw [hexec] at hfeatures
    exact congrArg Prod.snd hfeatures
  have hlock (hheld : (r.config.advisoryLock && w.store.lockable) = true) :=
    isLocked_execute (h.undisturbed hheld) (applying number file) w
  rw [hexec] at hend halike hlock
  generalize hran : (r.execute (applying batch file)).exec u = outcome at hend halike
  obtain ⟨result', u'⟩ := outcome
  obtain rfl : result' = result := hend.eq
  refine ⟨result', u', w', rfl, hexec, hlockable, ?_⟩
  cases result' with
  | error fault => exact ⟨halike, Tracking.recorded_congr hends.2⟩
  | ok =>
    obtain ⟨tracking', record, hget', htracks', hname, hbatch, hrecorded⟩ :=
      hends.recorded hbodies rfl hget htracks
    have hlast : Tracking.lastNumber (Tracking.recorded r.config.table w'.store) =
        Tracking.lastNumber (Tracking.recorded r.config.table w.store) + 1 := by
      rw [hrecorded]
      exact Tracking.lastNumber_concat ((congrArg Int64.toInt hbatch).trans hnumber)
    have hnumbers := h.numbers
    rw [List.length_cons] at hnumbers
    refine ⟨⟨halike, ?_, ?_, ?_, ⟨tracking', hget', htracks'⟩, ?_, by omega⟩, record, hname, hbatch,
      hrecorded⟩
    · rw [hlockable]
      exact fun hheld => (hlock hheld).trans (h.held hheld)
    · rw [hlockable]
      exact h.undisturbed
    · rw [hfiles]
      exact h.discovered
    · rw [hrecorded]
      exact pendingFiles_concat h.pending hname

/-- The next step fails as the run fails at this file, or applies the file as the run does, and is
ready for those that are left then. -/
theorem Ready.step (h : r.Ready ran files (file :: rest) u v) :
    ∃ result u' v', (r.execute (applying batch file)).exec u = (result, u') ∧
      match result with
      | .error fault => (r.run { step := true }).exec v = (.error fault, v') ∧
          (batches r.config.table).AlikeTables u'.store.tables v'.store.tables ∧
          (∃ since, u'.invocations = ran ++ since ∧ v'.invocations = ran ++ since) ∧
          Tracking.recorded r.config.table v'.store = Tracking.recorded r.config.table v.store
      | .ok () => r.Ready ran files rest u' v' ∧ ∃ record : Record,
          record.migration = file.1 ∧ record.batch.toInt =
            Tracking.lastNumber (Tracking.recorded r.config.table v.store) + 1 ∧
          (r.run { step := true }).exec v =
            (.ok { batch := some record.batch, migrated := [file.1], pretend := false }, v') ∧
          Tracking.recorded r.config.table v'.store =
            Tracking.recorded r.config.table v.store ++ [record] := by
  obtain ⟨number, started, hnumber, hstarted, hrun⟩ := h.exec_run_of_cons
  rw [← Ready.recorded r v] at hnumber ⊢
  obtain ⟨result, u', w, hexec, hstep, hlockable, hresult⟩ :=
    (h.abreast.told hstarted).execute hbodies hups hb hnumber
  rw [hstep] at hrun
  cases result with
  | error fault =>
    obtain ⟨halike, hrecorded⟩ := hresult
    obtain ⟨locks, hunlocked⟩ := r.unlocked_eq (r.config.advisoryLock && v.store.lockable)
      (r.reported number [file.1] (.error fault, w))
    exact ⟨_, u', _, hexec, hrun.trans hunlocked, halike.store.tables, halike.invocations,
      hrecorded⟩
  | ok =>
    obtain ⟨habreast, record, hname, rfl, hrecorded⟩ := hresult
    have hready := (habreast.told (filterMap_invocation?_announcement r
      (.batchCompleted record.batch [file.1] false) w.store)).ready
    have hsame : w.store.lockable = v.store.lockable := by
      have hfeatures : (r.readied (r.locked v)).store.features = v.store.features := by
        rw [features_readied, features_locked]
      exact hlockable.trans (congrArg Prod.snd hfeatures)
    rw [Session.store_journaled, hsame] at hready
    refine ⟨_, u', _, hexec, hready, record, hname, hnumber, hrun, ?_⟩
    refine Eq.trans ?_ hrecorded
    exact Tracking.recorded_congr (by rw [tables_released, Session.store_journaled])

end OneStep

/-- Steps that go like the rest of a run. -/
structure Follow (r : Runner) (ran : List (String × Direction)) (v : Session)
    (outcome : Except Fault Unit × Session) (steps : List (String × Int64)) (after : Session) :
    Prop where
  stepping : r.Stepping v steps outcome.1 after
  tables : (batches r.config.table).AlikeTables outcome.2.store.tables after.store.tables
  invocations : ∃ since, outcome.2.invocations = ran ++ since ∧ after.invocations = ran ++ since
  apart : Tracking.batched r.config.table after.store =
    Tracking.batched r.config.table v.store ++ steps.map fun step => (step.1, step.2.toInt)
  consecutive : ∀ (i : Nat) (h : i < steps.length), steps[i].2.toInt =
    Tracking.lastNumber (Tracking.recorded r.config.table v.store) + 1 + i

theorem Follow.next {outcome : Except Fault Unit × Session} {steps : List (String × Int64)}
    {after : Session} {record : Record} {report : RunResult}
    (h : r.Follow ran v' outcome steps after)
    (hrun : (r.run { step := true }).exec v = (.ok report, v'))
    (hmigrated : report.migrated = [record.migration]) (hbatch : report.batch = some record.batch)
    (hvalue : record.batch.toInt =
      Tracking.lastNumber (Tracking.recorded r.config.table v.store) + 1)
    (hrecorded : Tracking.recorded r.config.table v'.store =
      Tracking.recorded r.config.table v.store ++ [record]) :
    r.Follow ran v outcome ((record.migration, record.batch) :: steps) after where
  stepping := .next hrun hmigrated hbatch h.stepping
  tables := h.tables
  invocations := h.invocations
  apart := by
    rw [h.apart, Tracking.batched, hrecorded, List.map_append, List.append_assoc]
    rfl
  consecutive i hi := by
    have hlater := h.consecutive
    rw [hrecorded, Tracking.lastNumber_concat hvalue] at hlater
    cases i with
    | zero => simpa using hvalue
    | succ i =>
      rw [List.getElem_cons_succ, hlater i (by simpa using hi)]
      omega

variable (hbodies : r.BodiesRequest (Operation.Spares r.config.table))
  (hups : r.UpsOverlook (batches r.config.table)) (hb : 1 ≤ batch.toInt)

include hbodies hups hb

/-- Where steps are ready, they go like the rest of the run, file by file. -/
theorem Ready.steps (h : r.Ready ran files waiting u v) :
    ∃ result u' steps after, (r.applyAll batch false waiting).exec u = (result, u') ∧
      r.Follow ran v (result, u') steps after ∧
      (result = .ok () → steps.map (·.1) = waiting.map (·.1)) := by
  -- By induction on the files that are left: what `Ready` says is handed on by each step.
  induction waiting generalizing u v with
  | nil =>
    have halike := (h.abreast.alike.told
      (filterMap_invocation?_printout r "Nothing to migrate."))
    refine ⟨.ok (), u, [], _, rfl, ⟨.done h.exec_run_of_nil rfl, ?_, ?_, ?_,
      fun i hi => absurd hi i.not_lt_zero⟩, fun _ => rfl⟩
    · rw [tables_released]
      exact halike.store.tables
    · rw [invocations_released]
      exact halike.invocations
    · rw [List.map_nil, List.append_nil, Tracking.batched, Tracking.batched, ← Ready.recorded r v]
      exact congrArg _ (Tracking.recorded_congr (by rw [tables_released, Session.store_journaled]))
  | cons file rest ih =>
    obtain ⟨result, u₁, v', hexec, hresult⟩ := h.step hbodies hups hb
    rw [applyAll_cons, Action.exec_bind, hexec]
    cases result with
    | error fault =>
      obtain ⟨hrun, htables, hinvocations, hrecorded⟩ := hresult
      refine ⟨_, _, [], v', rfl, ⟨.failed hrun, htables, hinvocations, ?_,
        fun i hi => absurd hi i.not_lt_zero⟩, fun hok => by cases hok⟩
      rw [List.map_nil, List.append_nil, Tracking.batched, hrecorded, Tracking.batched]
    | ok =>
      obtain ⟨hready, record, hname, hvalue, hrun, hrecorded⟩ := hresult
      obtain ⟨result, u', steps, after, happlied, hfollow, hall⟩ := ih hready
      rw [← hname] at hrun
      refine ⟨result, u', _, after, happlied, hfollow.next hrun rfl rfl hvalue hrecorded,
        fun hok => ?_⟩
      rw [List.map_cons, hall hok, List.map_cons, hname]

end Steps

section Whole

variable {r : Runner} {s : Session}

section Found

variable {files : Dict String} (hfree : r.IsFree s.store)
  (hkept : Tracking.Kept r.config.table s.store)
  (hlock : (r.config.advisoryLock && s.store.lockable) = true →
    r.BodiesRequest (·.touchesLock r.config.lockName = false))
  (hfiles : Discovery.discover r.config s.files = .ok files)
  (hnumbers : Tracking.lastNumber (Tracking.recorded r.config.table s.store) +
    (pendingFiles files (Tracking.recorded r.config.table s.store)).length ≤ Int64.maxValue.toInt)

include hfree hkept hlock hfiles hnumbers

end Found

end Whole

end Runner

end SchemaMigration
