import SchemaMigration.Proofs.Runner.Command
import SchemaMigration.Proofs.Runner.Completion
import SchemaMigration.Proofs.Runner.Lock
import SchemaMigration.Proofs.Runner.Pretence

/-!
# Errors that should come before any change

Some kinds of errors are meant to be raised before anything is changed. But a migration is loaded
only when its turn comes, and seeders are run last. So a run or a rollback that ends with such an
error may have created the tracking table and carried out migrations before. The tables are what
they were just if it had done neither.
-/

namespace SchemaMigration

namespace Runner

/-- A run or a rollback on a store is interrupted by an error that is raised before any change:
whether it had created the tracking table by then, which migrations it had carried out, and which
tables it leaves. -/
inductive Interrupted (r : Runner) (f : Files) (s : Store) :
    Command → Error → Bool → List String → Dict Table → Prop where
  /-- Nothing is really done. -/
  | pretended {c : Command} {e : Error} (pretend : c.pretend = true) :
      Interrupted r f s c e false [] s.tables
  /-- A name has no file. -/
  | unknown {o : RunOptions} {files : Dict String} {name : String}
      (discovered : Discovery.discover r.config f = .ok files)
      (unknown : unknown? o files = some name) :
      Interrupted r f s (.run o) (.validation (.unknownMigration name)) false [] s.tables
  /-- A file that is due does not come through, after those before it were applied. -/
  | applying {o : RunOptions} {files : Dict String} {read : List Record} {batch : Int64}
      {prepared reached : Store} {done later : List (String × String)} {file : String × String}
      {e : Error} {tables : Dict Table}
      (discovered : Discovery.discover r.config f = .ok files)
      (ensured : Tracking.ensure r.config.table s = .ok ((), prepared))
      (recorded : ∀ record, record ∈ read ↔ record ∈ Tracking.recorded r.config.table s)
      (numbered : Tracking.following (greatestBatch read) = .ok batch)
      (selected : due o files (Tracking.recorded r.config.table s) = done ++ file :: later)
      (applied : AppliesAll r f batch done prepared reached)
      (stopped : (applying batch file).Stops r f reached e tables) :
      Interrupted r f s (.run o) e (!s.hasTable r.config.table) (done.map (·.1)) tables
  /-- Seeding does not come through, after all files that are due were applied. -/
  | seeding {o : RunOptions} {files : Dict String} {batch : Int64} {prepared reached : Store}
      {e : Error} {tables : Dict Table}
      (discovered : Discovery.discover r.config f = .ok files)
      (ensured : Tracking.ensure r.config.table s = .ok ((), prepared))
      (nonempty : due o files (Tracking.recorded r.config.table s) ≠ [])
      (applied : AppliesAll r f batch (due o files (Tracking.recorded r.config.table s))
        prepared reached)
      (seed : o.seed = true)
      (stopped : r.SeedStops defaultSeeder f reached e tables) :
      Interrupted r f s (.run o) e (!s.hasTable r.config.table)
        ((due o files (Tracking.recorded r.config.table s)).map (·.1)) tables
  /-- The migration to be reverted is not recorded. -/
  | notRun {o : RollbackOptions} {target : String} (named : o.target = some target)
      (absent : Tracking.find r.config.table target s = .ok none) :
      Interrupted r f s (.rollback o) (.validation (.notRun target)) false [] s.tables
  /-- A record does not come through, after those before it were reverted. -/
  | reverting {o : RollbackOptions} {files : Dict String} {targets done later : List Record}
      {record : Record} {path : String} {reached : Store} {e : Error} {tables : Dict Table}
      (discovered : Discovery.discover r.config f = .ok files)
      (chosen : rollbackTargets r.config.table o s = .ok targets)
      (split : targets = done ++ record :: later)
      (found : files.get? record.migration = some path)
      (reverted : RevertsAll r f files done s reached)
      (stopped : (reverting record path).Stops r f reached e tables) :
      Interrupted r f s (.rollback o) e false
        ((done.map (·.migration)).filter files.contains) tables

variable {r : Runner} {s s' : Session} {e : Error}

theorem not_discover_eq_error {f : Files} (he : e.isPreMutation = true) :
    Discovery.discover r.config f ≠ .error e := by
  intro h
  obtain ⟨path, problem, rfl⟩ := Discovery.isIo_of_discover h
  cases he

theorem applyPending_stops {o : RunOptions} {files : Dict String} {read : List Record}
    (hreal : o.pretend = false)
    (h : (r.applyPending o files read).exec s = (.error (.failed e), s')) :
    ∃ batch done later s₁, Tracking.following (greatestBatch read) = .ok batch ∧
      selectFiles o (pendingFiles files read) = done ++ later ∧ s₁.files = s.files ∧
      AppliesAll r s.files batch done s.store s₁.store ∧
      match later with
      | [] => done ≠ [] ∧ o.seed = true ∧
          r.SeedStops defaultSeeder s.files s₁.store e s'.store.tables
      | file :: _ => (r.execute (applying batch file)).exec s₁ = (.error (.failed e), s') := by
  cases hselected : selectFiles o (pendingFiles files read) with
  | nil =>
    rw [exec_applyPending_of_nil hselected] at h
    cases h
  | cons first rest =>
    have hne : first :: rest ≠ [] := List.cons_ne_nil _ _
    cases hbatch : Tracking.following (greatestBatch read) with
    | error fault =>
      have hoverflow : fault = .overflow := by
        unfold Tracking.following at hbatch
        split at hbatch <;> cases hbatch
        rfl
      simp [applyPending, hselected, hbatch, hoverflow] at h
    | ok batch =>
      rw [exec_applyPending_of_ne_nil hselected hne hbatch, hreal] at h
      cases happly : (r.applyAll batch false (first :: rest)).exec (s.journaled
          (r.announcement (.batchStarted batch ((first :: rest).map (·.1)) false) s.store)) with
      | mk applied s₁ =>
        obtain ⟨done, later, s₂, hsplit, hfiles, happlies, hend⟩ := applyAll_cases happly
        rw [happly] at h
        cases later with
        | cons file later =>
          obtain ⟨fault, rfl, hstop⟩ := hend
          obtain ⟨hfault, rfl⟩ := Prod.mk.inj h
          obtain rfl := Except.error.inj hfault
          exact ⟨batch, done, file :: later, s₂, rfl, hsplit, hfiles, happlies, hstop⟩
        | nil =>
          obtain ⟨rfl, rfl⟩ := hend
          dsimp only at h
          split at h
          · rename_i hseed
            have hseed : o.seed = true := by
              cases hs : o.seed <;> simp [hs] at hseed ⊢
            have hdone : done ≠ [] := by
              rw [List.append_nil] at hsplit
              exact hsplit ▸ hne
            cases hexec : (r.seed none).exec (s₁.journaled (r.announcement (.batchCompleted batch
                ((first :: rest).map (·.1)) false) s₁.store)) with
            | mk seeded s₃ =>
              rw [hexec] at h
              cases seeded with
              | ok => cases h
              | error fault =>
                obtain ⟨hfault, rfl⟩ := Prod.mk.inj h
                obtain rfl := Except.error.inj hfault
                have hstops := seed_stops hexec
                rw [Session.files_journaled, hfiles] at hstops
                exact ⟨batch, done, [], s₁, rfl, hsplit, hfiles, happlies, hdone, hseed, hstops⟩
          · cases h

/-- A run without the lock that ends with such an error was interrupted at a name, at a file or in
seeding. -/
theorem runPending_interrupted {o : RunOptions} (hreal : o.pretend = false)
    (he : e.isPreMutation = true)
    (h : (r.runPending o []).exec s = (.error (.failed e), s')) :
    ∃ created done, r.Interrupted s.files s.store (.run o) e created done s'.store.tables := by
  obtain ⟨prepared, tracking, read, hensure, -, -, -, hread, hmem⟩ := exec_recordsForRun_false r s
  cases hfiles : Discovery.discover r.config s.files with
  | error problem =>
    have hproblem : problem = e := by
      cases honly : o.only with
      | none =>
        simp [runPending_eq, checkNames, honly, hreal, hread, hfiles, mapError_error] at h
        exact h.1
      | some names =>
        simp [runPending_eq, checkNames, honly, hfiles, mapError_error] at h
        exact h.1
    exact absurd (hproblem ▸ hfiles) (not_discover_eq_error he)
  | ok files =>
    cases hunknown : unknown? o files with
    | some name =>
      rw [runPending_eq, Action.exec_bind, exec_checkNames hfiles, hunknown] at h
      obtain ⟨hfault, rfl⟩ := Prod.mk.inj h
      obtain rfl := Fault.failed.inj (Except.error.inj hfault)
      exact ⟨_, _, .unknown hfiles hunknown⟩
    | none =>
      rw [← hreal] at hread
      rw [exec_runPending_of_known [] hfiles hunknown hread rfl, filter_not_reverted_nil] at h
      obtain ⟨batch, done, later, s₁, hbatch, hselected, hfiles₁, happlies, hend⟩ :=
        applyPending_stops hreal h
      rw [selectFiles_pendingFiles o hmem] at hselected
      cases later with
      | nil =>
        obtain ⟨hdone, hseed, hstops⟩ := hend
        rw [List.append_nil] at hselected
        subst hselected
        exact ⟨_, _, .seeding hfiles hensure hdone happlies hseed hstops⟩
      | cons file later =>
        have hstops := execute_stops rfl he hend
        rw [hfiles₁] at hstops
        exact ⟨_, _, .applying hfiles hensure hmem hbatch hselected happlies hstops⟩

/-- A rollback without the lock that ends with such an error was interrupted at the name or at a
record. -/
theorem rollbackRecords_interrupted {o : RollbackOptions} (hreal : o.pretend = false)
    (he : e.isPreMutation = true)
    (h : (r.rollbackRecords o).exec s = (.error (.failed e), s')) :
    ∃ created done, r.Interrupted s.files s.store (.rollback o) e created done s'.store.tables := by
  cases hget : s.store.tables.get? r.config.table with
  | none =>
    rw [exec_rollbackRecords_of_no_table hget] at h
    cases h
  | some tracking =>
    rw [exec_rollbackRecords hget, hreal] at h
    cases htargets : rollbackTargets r.config.table o s.store with
    | error fault =>
      rw [htargets] at h
      obtain ⟨hfault, rfl⟩ := Prod.mk.inj h
      obtain rfl := Except.error.inj hfault
      rcases rollbackTargets_eq_error htargets with hrefusal | ⟨target, htarget, hfind, hnotRun⟩
      · obtain ⟨cause, rfl⟩ := hrefusal
        cases he
      · obtain rfl := Fault.failed.inj hnotRun
        exact ⟨_, _, .notRun htarget hfind⟩
    | ok targets =>
      simp only [htargets] at h
      cases hfiles : Discovery.discover r.config s.files with
      | error problem =>
        rw [exec_revertSelected_of_error hfiles] at h
        split at h
        · rw [exec_nothingToRollBack] at h
          cases h
        · obtain rfl := Fault.failed.inj (Except.error.inj (Prod.mk.inj h).1)
          exact absurd hfiles (not_discover_eq_error he)
      | ok files =>
        obtain ⟨done, later, s₁, hsplit, hfiles₁, hreverts, -, hend⟩ := revertSelected_cases hfiles h
        cases later with
        | nil => cases hend.1
        | cons record later =>
          obtain ⟨path, fault, hfound, hfault, hstop⟩ := hend
          obtain rfl := Except.error.inj hfault
          have hstops := execute_stops rfl he hstop
          rw [hfiles₁] at hstops
          exact ⟨_, _, .reverting hfiles htargets hsplit hfound hreverts hstops⟩

/-- A call under the lock that ends with such an error got the lock, and its action ends so. -/
theorem withLock_interrupted {α : Type} {f : α → Report} {action : Action α}
    (he : e.isPreMutation = true)
    (h : (f <$> r.withLock action).exec s = (.error (.failed e), s')) :
    ∃ s₁, action.exec (r.locked s) = (.error (.failed e), s₁) ∧
      s'.store.tables = s₁.store.tables := by
  rw [Action.exec_map] at h
  by_cases hfree : r.IsFree s.store
  · obtain ⟨locks, hlocks⟩ := exec_withLock_of_isFree hfree action
    rw [hlocks] at h
    cases hexec : action.exec (r.locked s) with
    | mk result s₁ =>
      rw [hexec] at h
      obtain ⟨hresult, rfl⟩ := Prod.mk.inj h
      cases result with
      | ok => cases hresult
      | error fault =>
        obtain rfl := Except.error.inj hresult
        exact ⟨s₁, rfl, rfl⟩
  · rw [exec_withLock_of_not_isFree hfree] at h
    obtain rfl := Fault.failed.inj (Except.error.inj (Prod.mk.inj h).1)
    cases he

/-- Seeding that stops leaves the tracking table as it was, whether the seeder could not be loaded
or its program, which spares the table, failed. -/
theorem SeedStops.get?_eq {name : String} {f : Files} {store : Store} {tables : Dict Table}
    (hseeders : r.SeedersRequest (Operation.Spares r.config.table))
    (h : r.SeedStops name f store e tables) :
    tables.get? r.config.table = store.tables.get? r.config.table := by
  cases h with
  | load => rfl
  | program loaded failed =>
    have hspared := (hseeders _ _ (seeders_get?_of_loadSeeder loaded)).runFully_spares store
    rwa [failed] at hspared

/-- Whatever is applied to a store leaves its mark on the tracking table, which is created if there
is none. -/
theorem AppliesAll.get?_eq_iff {f : Files} {store prepared reached : Store} {batch : Int64}
    {files : List (String × String)}
    (htracks : ∀ t, store.tables.get? r.config.table = some t → t.Tracks)
    (hbodies : r.BodiesRequest (Operation.Spares r.config.table))
    (hensure : Tracking.ensure r.config.table store = .ok ((), prepared))
    (h : AppliesAll r f batch files prepared reached) :
    reached.tables.get? r.config.table = store.tables.get? r.config.table ↔
      store.hasTable r.config.table = true ∧ files = [] := by
  constructor
  · intro hsame
    obtain ⟨tracking, added, hget, -, hrecorded, hadded⟩ := h.recorded hbodies htracks hensure
    have hnone : added = [] := by
      rw [Tracking.recorded_congr hsame] at hrecorded
      simpa using hrecorded
    rw [hnone] at hadded
    exact ⟨Store.hasTable_eq_true.2 ⟨tracking, hsame ▸ hget⟩, List.map_eq_nil_iff.1 hadded.symm⟩
  · rintro ⟨htable, rfl⟩
    cases h
    rw [Tracking.ensure_eq_ok.1 hensure, if_pos htable]

/-- Whatever is reverted leaves its mark on the tables, since its record is taken away. -/
theorem RevertsAll.tables_eq_iff {f : Files} {files : Dict String} {store reached : Store}
    {records : List Record}
    (htracks : ∀ t, store.tables.get? r.config.table = some t → t.Tracks)
    (hkeeps : r.KeepsTracking f)
    (hrecorded : ∀ record ∈ records, record ∈ Tracking.recorded r.config.table store)
    (h : RevertsAll r f files records store reached) :
    reached.tables = store.tables ↔ (records.map (·.migration)).filter files.contains = [] := by
  constructor
  · intro htables
    refine List.filter_eq_nil_iff.2 fun name hname hcontains => ?_
    obtain ⟨record, hr, rfl⟩ := List.mem_map.1 hname
    obtain ⟨tracking, hget, row, hrow, rfl⟩ := Tracking.mem_recorded.1 (hrecorded record hr)
    obtain ⟨tracking', hget', -, hrows⟩ := h.table hkeeps hget (htracks _ hget)
    rw [htables, hget] at hget'
    obtain rfl := Option.some.inj hget'
    have hkept := List.filter_eq_self.1 hrows.symm row hrow
    have hgone : (Record.ofRow row).migration ∈
        (records.map (·.migration)).filter files.contains := List.mem_filter.2 ⟨hname, hcontains⟩
    simp [hgone] at hkept
  · intro hnone
    have hmissing : ∀ record ∈ records, files.contains record.migration = false := by
      intro record hr
      have hnot := List.filter_eq_nil_iff.1 hnone _ (List.mem_map_of_mem hr)
      exact Bool.eq_false_iff.2 hnot
    rw [h.eq_of_missing hmissing]

/-- The tables are what they were just if the tracking table was not created and no migration was
carried out. -/
theorem Interrupted.tables_eq_iff {f : Files} {store : Store} {c : Command} {created : Bool}
    {done : List String} {tables : Dict Table}
    (htracks : ∀ t, store.tables.get? r.config.table = some t → t.Tracks)
    (hbodies : r.BodiesRequest (Operation.Spares r.config.table))
    (hseeders : r.SeedersRequest (Operation.Spares r.config.table))
    (h : r.Interrupted f store c e created done tables) :
    tables = store.tables ↔ created = false ∧ done = [] := by
  cases h with
  | pretended | unknown | notRun => simp
  | applying discovered ensured recorded numbered selected applied stopped =>
    have hmark := applied.get?_eq_iff htracks hbodies ensured
    have hbatch := one_le_following (fun record hr =>
      Tracking.one_le_batch_of_tracks htracks ((recorded record).1 hr)) numbered
    rw [stopped.tables_eq fun _ => hbatch, Bool.not_eq_false', List.map_eq_nil_iff, ← hmark]
    constructor
    · intro htables
      rw [htables]
    · intro hsame
      obtain ⟨htable, rfl⟩ := hmark.1 hsame
      cases applied
      rw [Tracking.ensure_eq_ok.1 ensured, if_pos htable]
  | seeding discovered ensured nonempty applied seed stopped =>
    have hmark := applied.get?_eq_iff htracks hbodies ensured
    rw [← stopped.get?_eq hseeders] at hmark
    constructor
    · intro htables
      exact absurd (hmark.1 (by rw [htables])).2 nonempty
    · rintro ⟨-, hdone⟩
      exact absurd (List.map_eq_nil_iff.1 hdone) nonempty
  | reverting discovered chosen split found reverted stopped =>
    rw [stopped.tables_eq nofun, reverted.tables_eq_iff htracks (hbodies.keepsTracking f)
      fun record hr => mem_recorded_of_rollbackTargets chosen (split ▸ List.mem_append_left _ hr)]
    exact (and_iff_right rfl).symm

/-- A run or a rollback that ends with an error of a kind that is raised before any change was
interrupted in one of the ways that there are, which say what it had done by then and which tables
it leaves. Where only runners wrote the tracking table and no program does, the tables are what they
were just if nothing was done: no tracking table created, no migration applied or reverted. -/
theorem interrupted_of_isPreMutation {c : Command}
    (hc : (∃ o, c = .run o) ∨ ∃ o, c = .rollback o)
    (hcall : (r.call c).exec s = (.error (.failed e), s')) (he : e.isPreMutation = true) :
    ∃ created done,
      r.Interrupted s.files (r.locked s).store c e created done s'.store.tables ∧
      (Tracking.Tracked r.config.table s.store →
        r.BodiesRequest (Operation.Spares r.config.table) →
        r.SeedersRequest (Operation.Spares r.config.table) →
        (s'.store.tables = s.store.tables ↔ created = false ∧ done = [])) := by
  obtain ⟨created, done, hinterrupted⟩ : ∃ created done,
      r.Interrupted s.files (r.locked s).store c e created done s'.store.tables := by
    cases hpretend : c.pretend with
    | true =>
      have htables := preserves_call_of_pretend r
        (Session.ignoresNarration_tables (r.locked s).store.tables) hpretend s
        (tables_locked r s).symm
      rw [hcall] at htables
      rw [show s'.store.tables = (r.locked s).store.tables from htables]
      exact ⟨_, _, .pretended hpretend⟩
    | false =>
      rw [← files_locked r s]
      rcases hc with ⟨o, rfl⟩ | ⟨o, rfl⟩
      · obtain ⟨s₁, hexec, htables⟩ := withLock_interrupted he hcall
        exact htables ▸ runPending_interrupted hpretend he hexec
      · obtain ⟨s₁, hexec, htables⟩ := withLock_interrupted he hcall
        exact htables ▸ rollbackRecords_interrupted hpretend he hexec
  refine ⟨created, done, hinterrupted, fun hs hbodies hseeders => ?_⟩
  rw [← tables_locked r s]
  apply hinterrupted.tables_eq_iff _ hbodies hseeders
  intro t ht
  rw [tables_locked] at ht
  exact hs.tracks ht

/-- A run of one file for which no migration is registered, in a store without a tracking table. -/
theorem unregistered_file_leaves_table :
    let r : Runner := { config := { paths := ["m"] } }
    let nodes := [(["m"], .directory), (["m", "a.rs"], .file [])]
    let s : Session := { files := { nodes } }
    let e : Error := .validation (.notRegistered "a" "m/a.rs")
    let s' := ((r.call (.run {})).exec s).2
    (r.call (.run {})).exec s = (.error (.failed e), s') ∧ e.isPreMutation = true ∧
      Tracking.Tracked r.config.table s.store ∧
      r.BodiesRequest (Operation.Spares r.config.table) ∧
      r.SeedersRequest (Operation.Spares r.config.table) ∧
      s'.store.tables ≠ s.store.tables := by
  intro r nodes s e s'
  have hbodies : r.BodiesRequest (Operation.Spares r.config.table) := .of_entries nofun
  have hseeders : r.SeedersRequest (Operation.Spares r.config.table) := .of_empty rfl
  have hfiles : Discovery.discover r.config s.files = .ok (Dict.ofList [("a", "m/a.rs")]) := by cbv
  have hname : migrationName? "m/a.rs" = some "a" := by cbv
  have hextension : Path.extension? "m/a.rs" = some "rs" := by cbv
  have hload : Discovery.load r.migrations "m/a.rs" s.files = .error e := by
    simp [Discovery.load, hname, hextension, r, e]
  have hcall : (r.call (.run {})).exec s = (.error (.failed e), s') := by
    obtain ⟨locks, hlocks⟩ := exec_withLock_of_isFree (r := r) (s := s) (by decide)
      (r.runPending {} [])
    obtain ⟨batch, done, later, added, prepared, reached, result, s₁, -, hdue, -, hexec, -,
      happlies, -, -, hresult⟩ := exec_runPending (o := {}) (s := s) (r := r)
        (fun _ => Tracking.Tracked.tracks (.inl rfl)) (List.forall_mem_nil _) hbodies rfl rfl
        hfiles rfl
    have hfirst : due {} (Dict.ofList [("a", "m/a.rs")])
        (Tracking.recorded r.config.table s.store) = [("a", "m/a.rs")] :=
      (selectFiles_pendingFiles {} fun _ => Iff.rfl).symm.trans (by cbv)
    have hfailed : result = .error (.failed e) := by
      rw [hfirst] at hdue
      cases done with
      | nil =>
        obtain rfl : later = [("a", "m/a.rs")] := hdue.symm
        obtain ⟨fault, hfails, rfl⟩ := hresult
        cases hfails with
        | load unloaded => rw [Except.error.inj (hload.symm.trans unloaded)]
        | begin loaded | body loaded | timeout loaded | overflow loaded | unnumbered _ loaded =>
          cases hload.symm.trans loaded
      | cons file rest =>
        obtain rfl : ("a", "m/a.rs") = file := (List.cons.inj hdue).1
        cases happlies with
        | cons first =>
          cases first with
          | logged _ loaded | deleted _ loaded => cases hload.symm.trans loaded
    have hrun : (r.run {}).exec s = (.error (.failed e), s₁.relocked locks) := by
      rw [run, hlocks, show r.locked s = s from rfl, hexec, hfailed]
    have hfst : ((r.call (.run {})).exec s).1 = .error (.failed e) := by
      rw [call, Action.exec_map, hrun]
      rfl
    exact Prod.ext hfst rfl
  obtain ⟨created, done, hinterrupted, htables⟩ :=
    interrupted_of_isPreMutation (.inl ⟨{}, rfl⟩) hcall rfl
  refine ⟨hcall, rfl, .inl rfl, hbodies, hseeders, fun hsame => ?_⟩
  have hcreates {store : Store} {error : Error} {created : Bool} {tables : Dict Table}
      (h : r.Interrupted s.files store (.run {}) error created done tables) (herror : error = e) :
      created = !store.hasTable r.config.table := by
    cases h with
    | pretended pretend => cases pretend
    | unknown => simp [e] at herror
    | applying | seeding => rfl
  have hcreated := hcreates hinterrupted rfl
  rw [((htables (.inl rfl) hbodies hseeders).1 hsame).1] at hcreated
  cases hcreated

end Runner

end SchemaMigration
