import SchemaMigration.Proofs.Action.Overflow
import SchemaMigration.Proofs.Runner.Completion
import SchemaMigration.Proofs.Runner.Run
import SchemaMigration.Proofs.Store.Exhaustion

/-!
# Runs that overflow

A run overflows for one of three causes: a record already has the greatest batch, the program of a
migration or of the default seeder comes to an insertion for which there is no number left, or there
is none left for the record of a migration whose program returned. Numbers that are brought along
are not bounded by anything, so each cause may arise.
-/

namespace SchemaMigration

namespace Runner

variable {r : Runner} {o : RunOptions} {s : Session} {records read : List Record}

section Batch

/-- A fold to the greatest number ends with one of the numbers, and none is greater. -/
theorem foldl_max_spec (batches : List Int64) (first : Int64) :
    batches.foldl max first ∈ first :: batches ∧
      ∀ batch ∈ first :: batches, batch.toInt ≤ (batches.foldl max first).toInt := by
  induction batches generalizing first with
  | nil => simp
  | cons batch rest ih =>
    obtain ⟨hmem, hle⟩ := ih (max first batch)
    have hmax : max first batch = first ∨ max first batch = batch :=
      (ite_eq_or_eq _ _ _).symm
    have hfirst := hle _ List.mem_cons_self
    rw [toInt_max] at hfirst
    rw [List.foldl_cons]
    refine ⟨?_, fun other hother => ?_⟩
    · rcases List.mem_cons.1 hmem with heq | hrest
      · rw [heq]
        rcases hmax with h | h <;> simp [h]
      · simp [hrest]
    · rcases List.mem_cons.1 hother with rfl | hother
      · omega
      rcases List.mem_cons.1 hother with rfl | hrest
      · omega
      · exact hle _ (List.mem_cons_of_mem _ hrest)

/-- The batch from which a run counts is that of a record, and none is greater. -/
theorem greatestBatch_spec (hne : records ≠ []) :
    (∃ record ∈ records, record.batch = greatestBatch records) ∧
      ∀ record ∈ records, record.batch.toInt ≤ (greatestBatch records).toInt := by
  cases records with
  | nil => cases hne rfl
  | cons record rest =>
    obtain ⟨hmem, hle⟩ := foldl_max_spec (rest.map (·.batch)) record.batch
    rw [← List.map_cons] at hmem hle
    exact ⟨List.mem_map.1 hmem, fun other hother => hle _ (List.mem_map_of_mem hother)⟩

/-- The order in which records are read does not matter for the greatest batch. -/
theorem greatestBatch_eq_of_mem_iff (h : ∀ record, record ∈ read ↔ record ∈ records) :
    greatestBatch read = greatestBatch records := by
  by_cases hne : records = []
  · subst hne
    rw [List.eq_nil_iff_forall_not_mem.2 fun record hr => List.not_mem_nil ((h record).1 hr)]
  · have hread : read ≠ [] := by
      obtain ⟨record, hrecord⟩ := List.exists_mem_of_ne_nil records hne
      exact List.ne_nil_of_mem ((h record).2 hrecord)
    obtain ⟨⟨record, hmem, hbatch⟩, hle⟩ := greatestBatch_spec hread
    obtain ⟨⟨record', hmem', hbatch'⟩, hle'⟩ := greatestBatch_spec hne
    have hge := hle' record ((h record).1 hmem)
    have hge' := hle record' ((h record').2 hmem')
    rw [hbatch] at hge
    rw [hbatch'] at hge'
    exact Int64.toInt_inj.1 (Int.le_antisymm hge hge')

theorem greatestBatch_eq_maxValue : greatestBatch records = Int64.maxValue ↔
    ∃ record ∈ records, record.batch = Int64.maxValue := by
  by_cases hne : records = []
  · subst hne
    refine ⟨fun h => ?_, by simp⟩
    cases h
  obtain ⟨⟨greatest, hmem, hbatch⟩, hle⟩ := greatestBatch_spec hne
  refine ⟨fun h => ⟨greatest, hmem, hbatch.trans h⟩, ?_⟩
  rintro ⟨record, hrecord, hmax⟩
  have hge := hle record hrecord
  rw [hmax] at hge
  exact Int64.toInt_inj.1 (Int.le_antisymm (greatestBatch records).toInt_le hge)

end Batch

section Task

variable {t : Task} {m : Migration}

theorem overflows_runBody : (r.runBody t m).Overflows s ↔
    Program.RunsOut r.config.timeout (m.body t.direction) s.store := by
  rw [← Program.run_eq_overflow, Action.Overflows, exec_runBody]
  dsimp only
  rcases (m.body t.direction).run r.config.timeout s.store with ⟨_ | _ | _ | _, store⟩ <;>
    simp [verdict]

theorem overflows_invokeOpened {transactional : Bool} :
    (r.invokeOpened t m transactional).Overflows s ↔
      Program.RunsOut r.config.timeout (m.body t.direction) s.store := by
  rw [invokeOpened, Action.overflows_bind, overflows_runBody, or_iff_left]
  have hcommit (s : Session) : ¬(Action.change Store.commit).Overflows s := by
    rw [Action.overflows_change, Store.commit]
    split <;> rintro ⟨⟩
  have hrollback (s : Session) : ¬(Action.attempt (Action.change Store.rollback)).Overflows s := by
    rw [Action.overflows_attempt, Action.overflows_change, Store.rollback]
    split <;> rintro ⟨⟩
  rintro ⟨result, s₁, -, hend⟩
  cases result with
  | ok =>
    cases transactional with
    | false => exact Action.not_overflows_pure _ hend
    | true => exact hcommit _ (Action.overflows_inMigration.1 hend)
  | error e =>
    cases transactional with
    | false => exact Action.not_overflows_fail _ hend
    | true =>
      rcases Action.overflows_bind.1 hend with hend | ⟨_, _, -, hend⟩
      · exact hrollback _ hend
      · exact Action.not_overflows_fail _ hend

/-- What is done around a program does not overflow. -/
theorem overflows_invoke : (r.invoke t m).Overflows s ↔ m.CanStart s.store ∧
    Program.RunsOut r.config.timeout (m.body t.direction) (m.opened s.store) := by
  by_cases hstart : m.CanStart s.store
  · rw [Action.Overflows, exec_invoke_of_canStart hstart, and_iff_right hstart]
    exact overflows_invokeOpened
  · rw [Action.Overflows, exec_invoke_of_not_canStart hstart]
    simp [hstart]

theorem overflows_track {started : Instant} : (r.track t started).Overflows s ↔
    t.direction = .up ∧ 1 ≤ t.batch.toInt ∧
      s.store.RunsOut r.config.table (recordOf t started s).toRow := by
  rw [Action.Overflows]
  cases hdirection : t.direction with
  | up =>
    rw [exec_track_up hdirection, ← show (recordOf t started s).batch = t.batch from rfl,
      ← Tracking.log_eq_overflow]
    rcases Tracking.log r.config.table (recordOf t started s) s.store with fault | ⟨x, store⟩ <;>
      simp
  | down =>
    rw [exec_track_down hdirection]
    simp only [reduceCtorEq, false_and, iff_false]
    have hdelete := Tracking.delete_ne_overflow (s := s.store) r.config.table t.name
    rcases hdeleted : Tracking.delete r.config.table t.name s.store with fault | ⟨n, store⟩
    · rw [hdeleted] at hdelete
      simpa using hdelete
    · rintro ⟨⟩

end Task

end Runner

/-- A task runs out of numbers on a session. -/
inductive Task.RunsOut (t : Task) (r : Runner) (s : Session) : Prop where
  /-- Its program comes to an insertion for which there is no number left. -/
  | program {m : Migration} (loaded : Discovery.load r.migrations t.path s.files = .ok m)
      (started : m.CanStart s.store)
      (last : Program.RunsOut r.config.timeout (m.body t.direction) (m.opened s.store))
  /-- Its program returns, but there is no number left for its record. -/
  | record {m : Migration} {s₁ : Session} (up : t.direction = .up)
      (loaded : Discovery.load r.migrations t.path s.files = .ok m)
      (returned : (r.invoke t m).exec (r.launched t s) = (.ok (), s₁))
      (batch : 1 ≤ t.batch.toInt)
      (last : s₁.store.RunsOut r.config.table (Runner.recordOf t s.clock s₁).toRow)

namespace Runner

variable {r : Runner} {o : RunOptions} {s : Session} {t : Task}

theorem overflows_execute : (r.execute t).Overflows s ↔ (r.carryOut t).Overflows (r.begun t s) := by
  rw [Action.Overflows, Action.Overflows, exec_execute]
  rcases (r.carryOut t).exec (r.begun t s) with ⟨(e | _) | elapsed, s'⟩ <;> simp

/-- A task whose migration is loaded overflows with its program, or when it is tracked. -/
theorem overflows_carryOut_of_load (hreal : t.pretend = false) {m : Migration}
    (hload : Discovery.load r.migrations t.path s.files = .ok m) :
    (r.carryOut t).Overflows (r.begun t s) ↔ (r.invoke t m).Overflows (r.launched t s) ∨
      ∃ s₁, (r.invoke t m).exec (r.launched t s) = (.ok (), s₁) ∧
        (r.track t s.clock).Overflows s₁ := by
  have hlaunched : { r.begun t s with clock := (r.begun t s).clock.next } = r.launched t s := rfl
  rw [Action.Overflows, Action.Overflows, exec_carryOut_of_load (s := r.begun t s) hreal hload,
    hlaunched]
  rcases (r.invoke t m).exec (r.launched t s) with ⟨fault | ⟨⟩, s₁⟩
  · simp
  · simp only [Action.Overflows, clock_begun]
    rcases htrack : (r.track t s.clock).exec s₁ with ⟨fault | ⟨⟩, s₂⟩ <;> simp [htrack]

/-- A task overflows just if it runs out of numbers. -/
theorem overflows_execute_of_real (hreal : t.pretend = false) :
    (r.execute t).Overflows s ↔ t.RunsOut r s := by
  rw [overflows_execute]
  constructor
  · intro h
    cases hload : Discovery.load r.migrations t.path s.files with
    | error e =>
      rw [Action.Overflows, carryOut, Action.exec_bind, Action.exec_inspectFiles, files_begun,
        hload] at h
      cases h
    | ok m =>
      rcases (overflows_carryOut_of_load hreal hload).1 h with hprogram | ⟨s₁, hreturned, htrack⟩
      · obtain ⟨hstart, hlast⟩ := overflows_invoke.1 hprogram
        rw [store_launched] at hstart hlast
        exact .program hload hstart hlast
      · obtain ⟨hup, hbatch, hlast⟩ := overflows_track.1 htrack
        exact .record hup hload hreturned hbatch hlast
  · intro h
    cases h with
    | program loaded started last =>
      refine (overflows_carryOut_of_load hreal loaded).2 (.inl (overflows_invoke.2 ?_))
      rw [store_launched]
      exact ⟨started, last⟩
    | record up loaded returned batch last =>
      exact (overflows_carryOut_of_load hreal loaded).2
        (.inr ⟨_, returned, overflows_track.2 ⟨up, batch, last⟩⟩)

/-- A task that is pretended does not overflow. -/
theorem not_overflows_execute_of_pretend (hpretend : t.pretend = true) :
    ¬(r.execute t).Overflows s := by
  rw [overflows_execute, Action.Overflows]
  simp only [carryOut, hpretend, Action.exec_bind, Action.exec_inspectFiles, Action.exec_now]
  rcases Discovery.load r.migrations t.path (r.begun t s).files with e | m <;>
    simp [mapError_error, mapError_ok, exec_elapsedSince]

/-- A run finds its files and is to apply some of them. -/
structure Selects (r : Runner) (o : RunOptions) (s : Session)
    (selected : List (String × String)) : Prop where
  /-- The files are found, and some of them are due. -/
  found : ∃ files, Discovery.discover r.config s.files = .ok files ∧ unknown? o files = none ∧
    due o files (Tracking.recorded r.config.table s.store) = selected
  /-- There is something to apply. -/
  some : selected ≠ []

/-- The session in which a run has announced its batch. -/
def setOut (r : Runner) (batch : Int64) (selected : List (String × String)) (s : Session) :
    Session :=
  (r.readied s).journaled
    (r.announcement (.batchStarted batch (selected.map (·.1)) false) (r.readied s).store)

/-- A run that has taken the lock runs out of numbers. -/
inductive RunsOut (r : Runner) (o : RunOptions) (s : Session) : Prop where
  /-- It is to apply something, but a record has the last batch. -/
  | batch {selected : List (String × String)} {record : Record} (selects : r.Selects o s selected)
      (recorded : record ∈ Tracking.recorded r.config.table s.store)
      (last : record.batch = Int64.maxValue)
  /-- It has applied some of its files, and the task of the next one runs out of numbers. -/
  | task {done later : List (String × String)} {file : String × String} {batch : Int64}
      {s₁ : Session} (real : o.pretend = false) (selects : r.Selects o s (done ++ file :: later))
      (numbered : Tracking.following (greatestBatch (Tracking.recorded r.config.table s.store)) =
        .ok batch)
      (applied : (r.applyAll batch false done).exec (r.setOut batch (done ++ file :: later) s) =
        (.ok (), s₁))
      (last : (applying batch file).RunsOut r s₁)
  /-- It has applied all of its files, and the program of the default seeder comes to an insertion
  for which there is no number left. -/
  | seeder {selected : List (String × String)} {batch : Int64} {s₁ : Session}
      {program : Program Unit} (real : o.pretend = false) (seeds : o.seed = true)
      (selects : r.Selects o s selected)
      (numbered : Tracking.following (greatestBatch (Tracking.recorded r.config.table s.store)) =
        .ok batch)
      (applied : (r.applyAll batch false selected).exec (r.setOut batch selected s) = (.ok (), s₁))
      (loaded : r.loadSeeder defaultSeeder s.files = .ok program)
      (last : Program.RunsOut none program s₁.store)

/-- Files overflow just if one of them does after those before it were applied. -/
theorem overflows_applyAll {batch : Int64} {selected : List (String × String)} :
    (r.applyAll batch false selected).Overflows s ↔
      ∃ done file later s₁, selected = done ++ file :: later ∧
        (r.applyAll batch false done).exec s = (.ok (), s₁) ∧
        (applying batch file).RunsOut r s₁ := by
  induction selected generalizing s with
  | nil => simp [applyAll]
  | cons file rest ih =>
    rw [applyAll_cons, Action.overflows_bind, overflows_execute_of_real rfl]
    constructor
    · rintro (hlast | ⟨⟨⟩, s', hexec, hrest⟩)
      · exact ⟨[], file, rest, s, rfl, rfl, hlast⟩
      · obtain ⟨done, next, later, s₁, rfl, hdone, hlast⟩ := ih.1 hrest
        refine ⟨file :: done, next, later, s₁, rfl, ?_, hlast⟩
        rw [applyAll_cons, Action.exec_bind, hexec]
        exact hdone
    · rintro ⟨done, next, later, s₁, hsplit, hdone, hlast⟩
      cases done with
      | nil =>
        obtain ⟨rfl, rfl⟩ := List.cons.inj hsplit
        obtain ⟨-, rfl⟩ := Prod.mk.inj hdone
        exact .inl hlast
      | cons first others =>
        obtain ⟨rfl, rfl⟩ := List.cons.inj hsplit
        obtain ⟨⟨⟩, s', hexec, hrest⟩ := Action.exec_bind_eq_ok.1 hdone
        exact .inr ⟨(), s', hexec, ih.2 ⟨others, next, later, s₁, rfl, hrest, hlast⟩⟩

theorem not_overflows_applyAll_of_pretend (batch : Int64) (selected : List (String × String)) :
    ¬(r.applyAll batch true selected).Overflows s := by
  induction selected generalizing s with
  | nil => exact Action.not_overflows_pure _
  | cons file rest ih =>
    intro h
    rcases Action.overflows_bind.1 h with h | ⟨⟨⟩, s', -, h⟩
    · exact not_overflows_execute_of_pretend rfl h
    · exact ih h

theorem overflows_seed {name : Option String} : (r.seed name).Overflows s ↔
    ∃ program, r.loadSeeder (name.getD defaultSeeder) s.files = .ok program ∧
      Program.RunsOut none program s.store := by
  rw [Action.Overflows, seed, Action.exec_bind, Action.exec_inspectFiles]
  cases r.loadSeeder (name.getD defaultSeeder) s.files with
  | error e => simp [mapError_error]
  | ok program =>
    simp only [mapError_ok, Action.exec_bind, Action.exec_now, exec_say, Action.exec_runFully,
      Session.store_journaled, Except.ok.injEq, exists_eq_left', ← Program.runFully_eq_overflow]
    rcases program.runFully s.store with ⟨(e | _) | x, store⟩ <;> simp

/-- Reading the records does not fail, and a real run is then on the session with a tracking
table. -/
theorem exec_recordsForRun (r : Runner) (o : RunOptions) (s : Session) :
    ∃ read s₁, (r.recordsForRun o.pretend).exec s = (.ok read, s₁) ∧ s₁.files = s.files ∧
      (o.pretend = false → s₁ = r.readied s) ∧
      ∀ record, record ∈ read ↔ record ∈ Tracking.recorded r.config.table s.store := by
  cases hpretend : o.pretend with
  | true =>
    obtain ⟨read, hread, hmem⟩ := exec_currentRecords r s
    exact ⟨read, s, hread, rfl, nofun, hmem⟩
  | false =>
    obtain ⟨read, hread, hmem⟩ := exec_recordsForRun_readied r s
    exact ⟨read, _, hread, files_readied r s, fun _ => rfl, hmem⟩

section Pending

variable {files : Dict String} {batch : Int64} {read : List Record}
  {selected : List (String × String)}

/-- If a seeder is loaded there is a directory of seeders. -/
theorem isSome_seedersPath {name : String} {f : Files} {program : Program Unit}
    (h : r.loadSeeder name f = .ok program) : r.config.seedersPath.isSome = true := by
  unfold loadSeeder at h
  cases hpath : r.config.seedersPath with
  | none => simp [hpath, throw, throwThe, MonadExceptOf.throw] at h
  | some directory => rfl

/-- A batch overflows when it is applied, or after that when the default seeder is run. -/
theorem overflows_applyPending
    (hselected : selectFiles o (pendingFiles files read) = selected) (hne : selected ≠ [])
    (hbatch : Tracking.following (greatestBatch read) = .ok batch) :
    let announced := s.journaled
      (r.announcement (.batchStarted batch (selected.map (·.1)) o.pretend) s.store)
    (r.applyPending o files read).Overflows s ↔
      (r.applyAll batch o.pretend selected).Overflows announced ∨
        ∃ s₁, (r.applyAll batch o.pretend selected).exec announced = (.ok (), s₁) ∧
          o.seed = true ∧ o.pretend = false ∧
          ∃ program, r.loadSeeder defaultSeeder s₁.files = .ok program ∧
            Program.RunsOut none program s₁.store := by
  intro announced
  rw [Action.Overflows, exec_applyPending_of_ne_nil hselected hne hbatch, Action.Overflows]
  rcases happlied : (r.applyAll batch o.pretend selected).exec announced with ⟨fault | ⟨⟩, s₁⟩
  · simp
  simp only [reduceCtorEq, Prod.mk.injEq, true_and, exists_eq_left', false_or]
  split
  · next hseeds =>
    simp only [Bool.and_eq_true, Bool.not_eq_true'] at hseeds
    rw [and_iff_right hseeds.1.1, and_iff_right hseeds.1.2]
    have hseed : (r.seed none).Overflows (s₁.journaled
        (r.announcement (.batchCompleted batch (selected.map (·.1)) o.pretend) s₁.store)) ↔
        ∃ program, r.loadSeeder defaultSeeder s₁.files = .ok program ∧
          Program.RunsOut none program s₁.store := overflows_seed
    rw [← hseed, Action.Overflows]
    rcases (r.seed none).exec _ with ⟨fault | ⟨⟩, s₂⟩ <;> simp
  · next hseeds =>
    refine ⟨by rintro ⟨⟩, ?_⟩
    rintro ⟨hseed, hreal, program, hload, -⟩
    simp [hseed, hreal, isSome_seedersPath hload] at hseeds

theorem files_applyAll_of_ok {s₁ : Session}
    (h : (r.applyAll batch false selected).exec s = (.ok (), s₁)) : s₁.files = s.files := by
  obtain ⟨done, later, s₂, -, hfiles, -, hend⟩ := applyAll_cases h
  cases later with
  | nil => rw [hend.2, hfiles]
  | cons file rest =>
    obtain ⟨fault, hfault, -⟩ := hend
    cases hfault

/-- The files and the options determine what a run selects. -/
theorem Selects.unique {selected' : List (String × String)} (h : r.Selects o s selected)
    (h' : r.Selects o s selected') : selected = selected' := by
  obtain ⟨⟨files, hfiles, -, rfl⟩, -⟩ := h
  obtain ⟨⟨files', hfiles', -, rfl⟩, -⟩ := h'
  rw [Except.ok.inj (hfiles.symm.trans hfiles')]

/-- Only a run that selects something can run out of numbers. -/
theorem RunsOut.exists_selects (h : r.RunsOut o s) : ∃ selected, r.Selects o s selected := by
  cases h with
  | batch selects => exact ⟨_, selects⟩
  | task _ selects => exact ⟨_, selects⟩
  | seeder _ _ selects => exact ⟨_, selects⟩

/-- A run that selects something comes to apply it. -/
theorem Selects.overflows_iff (h : r.Selects o s selected) : ∃ read s₁,
    (∀ record, record ∈ read ↔ record ∈ Tracking.recorded r.config.table s.store) ∧
      (∃ files, selectFiles o (pendingFiles files read) = selected ∧
        ((r.runPending o []).Overflows s ↔ (r.applyPending o files read).Overflows s₁)) ∧
      s₁.files = s.files ∧ (o.pretend = false → s₁ = r.readied s) := by
  obtain ⟨⟨files, hfiles, hknown, hdue⟩, hne⟩ := h
  obtain ⟨read, s₁, hread, hs₁, hreadied, hmem⟩ := exec_recordsForRun r o s
  refine ⟨read, s₁, hmem, ⟨files, by rw [selectFiles_pendingFiles o hmem, hdue], ?_⟩, hs₁, hreadied⟩
  rw [Action.Overflows, Action.Overflows, exec_runPending_of_known [] hfiles hknown hread hs₁,
    filter_not_reverted_nil]

/-- If a record has the last batch, there is none for a run that selects something. -/
theorem overflows_runPending_of_last (h : r.Selects o s selected)
    (hlast : greatestBatch (Tracking.recorded r.config.table s.store) = Int64.maxValue) :
    (r.runPending o []).Overflows s := by
  obtain ⟨read, s₁, hmem, ⟨files, hselected, hrun⟩, -⟩ := h.overflows_iff
  have hempty : selected.isEmpty = false := by simpa using h.some
  rw [hrun, applyPending, hselected, greatestBatch_eq_of_mem_iff hmem, Action.Overflows]
  simp only [hempty, Bool.false_eq_true, if_false, Action.exec_bind, Action.exec_resume,
    Tracking.following_eq_overflow.2 hlast]

/-- A run that has a batch for what it selects overflows when the files are applied, or after that
when the default seeder is run. -/
theorem overflows_runPending_of_numbered (h : r.Selects o s selected)
    (hnumbered : Tracking.following (greatestBatch (Tracking.recorded r.config.table s.store)) =
      .ok batch) :
    (r.runPending o []).Overflows s ↔ o.pretend = false ∧
      ((r.applyAll batch false selected).Overflows (r.setOut batch selected s) ∨
        o.seed = true ∧ ∃ s₁ program,
          (r.applyAll batch false selected).exec (r.setOut batch selected s) = (.ok (), s₁) ∧
          r.loadSeeder defaultSeeder s.files = .ok program ∧
          Program.RunsOut none program s₁.store) := by
  obtain ⟨read, s₁, hmem, ⟨files, hselected, hrun⟩, hfiles, hreadied⟩ := h.overflows_iff
  rw [← greatestBatch_eq_of_mem_iff hmem] at hnumbered
  refine hrun.trans ((overflows_applyPending hselected h.some hnumbered).trans ?_)
  cases hpretend : o.pretend with
  | true => simp [not_overflows_applyAll_of_pretend]
  | false =>
    rw [hreadied hpretend, and_iff_right rfl]
    refine or_congr_right ?_
    constructor
    · rintro ⟨s₂, happlied, hseed, -, program, hload, hlast⟩
      rw [files_applyAll_of_ok happlied, Session.files_journaled, files_readied] at hload
      exact ⟨hseed, s₂, program, happlied, hload, hlast⟩
    · rintro ⟨hseed, s₂, program, happlied, hload, hlast⟩
      refine ⟨s₂, happlied, hseed, rfl, program, ?_, hlast⟩
      rwa [files_applyAll_of_ok happlied, setOut, Session.files_journaled, files_readied]

/-- A run that selects something overflows just if it runs out of numbers. -/
theorem overflows_runPending_of_selects (h : r.Selects o s selected) :
    (r.runPending o []).Overflows s ↔ r.RunsOut o s := by
  by_cases hlast : greatestBatch (Tracking.recorded r.config.table s.store) = Int64.maxValue
  · obtain ⟨record, hrecord, hbatch⟩ := greatestBatch_eq_maxValue.1 hlast
    exact iff_of_true (overflows_runPending_of_last h hlast) (.batch h hrecord hbatch)
  obtain ⟨batch, hnumbered⟩ := Tracking.exists_following hlast
  rw [overflows_runPending_of_numbered h hnumbered, overflows_applyAll]
  constructor
  · rintro ⟨hreal, ⟨done, file, later, s₁, rfl, hdone, hlast⟩ |
      ⟨hseed, s₁, program, happlied, hload, hlast⟩⟩
    · exact .task hreal h hnumbered hdone hlast
    · exact .seeder hreal hseed h hnumbered happlied hload hlast
  · intro hout
    cases hout with
    | batch _ recorded last => exact absurd (greatestBatch_eq_maxValue.2 ⟨_, recorded, last⟩) hlast
    | task real selects numbered applied last =>
      obtain rfl := Except.ok.inj (hnumbered.symm.trans numbered)
      obtain rfl := selects.unique h
      exact ⟨real, .inl ⟨_, _, _, _, rfl, applied, last⟩⟩
    | seeder real seeds selects numbered applied loaded last =>
      obtain rfl := Except.ok.inj (hnumbered.symm.trans numbered)
      obtain rfl := selects.unique h
      exact ⟨real, .inr ⟨seeds, _, _, applied, loaded, last⟩⟩

/-- Without the lock, a run overflows just if it runs out of numbers. -/
theorem overflows_runPending : (r.runPending o []).Overflows s ↔ r.RunsOut o s := by
  by_cases hselects : ∃ selected, r.Selects o s selected
  · obtain ⟨selected, h⟩ := hselects
    exact overflows_runPending_of_selects h
  refine ⟨fun h => ?_, fun h => absurd h.exists_selects hselects⟩
  exfalso
  obtain ⟨read, s₁, hread, hs₁, -, hmem⟩ := exec_recordsForRun r o s
  cases hfiles : Discovery.discover r.config s.files with
  | error e =>
    rw [Action.Overflows, runPending_eq, checkNames] at h
    cases honly : o.only <;>
      simp [honly, Action.exec_bind, hread, exec_files, hs₁, hfiles, mapError_error] at h
  | ok files =>
    cases hknown : unknown? o files with
    | some name =>
      rw [Action.Overflows, runPending_eq, Action.exec_bind, exec_checkNames hfiles, hknown] at h
      cases h
    | none =>
      rw [Action.Overflows, exec_runPending_of_known [] hfiles hknown hread hs₁,
        filter_not_reverted_nil] at h
      by_cases hne : due o files (Tracking.recorded r.config.table s.store) = []
      · rw [exec_applyPending_of_nil (by rw [selectFiles_pendingFiles o hmem, hne])] at h
        cases h
      · exact hselects ⟨_, ⟨files, hfiles, hknown, rfl⟩, hne⟩

end Pending

/-- A run overflows just if it takes the lock and then runs out of numbers. -/
theorem overflows_run : (r.run o).Overflows s ↔ r.IsFree s.store ∧ r.RunsOut o (r.locked s) := by
  by_cases hfree : r.IsFree s.store
  · rw [and_iff_right hfree, ← overflows_runPending, Action.Overflows, Action.Overflows, run,
      exec_withLock hfree, unlocked_fst]
  · rw [Action.Overflows, run, exec_withLock_of_not_isFree hfree]
    simp [hfree]

/-- Just these overflow: the insertion of a row into a table that has no number left behind the one
of the row, the logging of a record that has a batch but is such a row, the next batch behind the
greatest one, and a run that takes the lock and then runs out of numbers in one of these ways. All
else ends with a result or an error. -/
theorem overflows_at_last_number (r : Runner) (o : RunOptions) :
    (∀ s name row, Store.insert name row s = .error .overflow ↔ s.RunsOut name row) ∧
    (∀ s table record, Tracking.log table record s = .error .overflow ↔
      1 ≤ record.batch.toInt ∧ s.RunsOut table record.toRow) ∧
    (∀ s table, Tracking.nextBatch table s = .error .overflow ↔
      Tracking.lastBatch table s = .ok Int64.maxValue) ∧
    ∀ s, (r.run o).Overflows s ↔ r.IsFree s.store ∧ r.RunsOut o (r.locked s) :=
  ⟨fun _ _ _ => Store.insert_eq_overflow, fun _ _ _ => Tracking.log_eq_overflow,
    fun _ _ => Tracking.nextBatch_eq_overflow, fun _ => overflows_run⟩

/-- Once a record of the greatest batch is logged, there is no next batch, and a run of a file
overflows; so does the insertion of a row with the greatest number. -/
theorem nothing_after_greatest_batch :
    let r : Runner := { config := { paths := ["m"] } }
    let table := r.config.table
    let files : Files := { nodes := [(["m"], .directory), (["m", "b.rs"], .file [])] }
    let record : Record := { migration := "a", batch := Int64.maxValue }
    let row : Row := Dict.ofList [("id", .int64 Int64.maxValue)]
    let t : Table := { columns := (Tracking.blueprint table).columns }
    let s := (({} : Store).withTable table t).withTable table (t.append (record.numbered 1) 2)
    Tracking.Reached table s ∧ Tracking.nextBatch table s = .error .overflow ∧
      Store.insert table row s = .error .overflow ∧ (r.run {}).Overflows { store := s, files } := by
  intro r table files record row t s
  have hreached : Tracking.Reached table s := Tracking.reached_logged table (by decide)
  have ht : s.tables.get? table = some (t.append (record.numbered 1) 2) :=
    Dict.get?_insert_self _ _ _
  have hrecorded : Tracking.recorded table s = [{ record with id := some 1 }] := by
    rw [Tracking.recorded_of_get? ht]
    simp [t, Table.append]
  have hlast : Tracking.lastBatch table s = .ok Int64.maxValue := by
    obtain ⟨last, hlast, hnumber⟩ := Tracking.lastBatch_of_tracks ht (hreached.kept.tables _ ht)
    have hgreatest : Tracking.lastNumber [{ record with id := some 1 }] = Int64.maxValue.toInt := by
      decide
    rw [hrecorded, hgreatest] at hnumber
    rw [hlast, Int64.toInt_inj.1 hnumber]
  have hlocked : Tracking.recorded table (r.locked { store := s, files }).store =
      [{ record with id := some 1 }] := by
    rw [recorded_locked, hrecorded]
  have hselects : r.Selects {} (r.locked { store := s, files }) [("b", "m/b.rs")] := by
    refine ⟨⟨Dict.ofList [("b", "m/b.rs")], by cbv, rfl, ?_⟩, List.cons_ne_nil _ _⟩
    rw [hlocked]
    decide
  have hlogged : { record with id := some 1 } ∈
      Tracking.recorded table (r.locked { store := s, files }).store := by
    rw [hlocked]
    exact List.mem_singleton_self _
  have hfree : r.IsFree s := by rintro ⟨⟩
  obtain ⟨hinsert, -, hnext, hrun⟩ := overflows_at_last_number r {}
  exact ⟨hreached, (hnext _ _).2 hlast, (hinsert _ _ _).2 ⟨_, ht, by cbv⟩,
    (hrun _).2 ⟨hfree, .batch hselects hlogged rfl⟩⟩

end Runner

end SchemaMigration
