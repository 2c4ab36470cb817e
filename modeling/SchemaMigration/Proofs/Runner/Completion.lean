import SchemaMigration.Proofs.Runner.Batch
import SchemaMigration.Proofs.Runner.Failure
import SchemaMigration.Proofs.Runner.Invocations
import SchemaMigration.Proofs.Runner.Revert
import SchemaMigration.Proofs.Runner.Transaction

/-!
# What was done when an action ended

Read backwards, without any assumption on programs or tables: a task that returned has completed,
and an action over several files or records that failed has completed those before the one that
failed. An error of a kind that is raised before any change does not come from a program, so it
tells how far its task has got.
-/

namespace SchemaMigration

theorem Error.IsOf.isPreMutation {migration : String} {e : Error} (h : e.IsOf migration) :
    e.isPreMutation = false := by
  obtain ⟨cause, rfl⟩ := h
  cases cause <;> rfl

/-- A task ends early, with an error that is raised before any change, and leaves tables. -/
inductive Task.Stops (t : Task) (r : Runner) (f : Files) (s : Store) :
    Error → Dict Table → Prop where
  /-- Its migration cannot be loaded. -/
  | load {e : Error} (unloaded : Discovery.load r.migrations t.path f = .error e) :
      Stops t r f s e s.tables
  /-- Its program has returned, but its batch is not one that batches have. -/
  | reserved {m : Migration} {store : Store} (up : t.direction = .up)
      (loaded : Discovery.load r.migrations t.path f = .ok m) (started : m.CanStart s)
      (returned : (m.body t.direction).run r.config.timeout (m.opened s) = (.returned (), store))
      (batch : t.batch.toInt < 1) :
      Stops t r f s (.validation (.reservedBatch t.name t.batch.toInt)) store.tables

/-- With a batch that batches have, a task that ends so leaves the tables as they were. -/
theorem Task.Stops.tables_eq {t : Task} {r : Runner} {f : Files} {s : Store} {e : Error}
    {tables : Dict Table} (h : t.Stops r f s e tables)
    (hbatch : t.direction = .up → 1 ≤ t.batch.toInt) : tables = s.tables := by
  cases h with
  | load => rfl
  | reserved up _ _ _ batch => exact absurd batch (Int.not_lt.2 (hbatch up))

namespace Runner

variable {r : Runner} {t : Task} {m : Migration} {s s' : Session}

theorem runBody_returned (h : (r.runBody t m).exec s = (.ok (.ok ()), s')) :
    (m.body t.direction).run r.config.timeout s.store = (.returned (), s'.store) := by
  rw [exec_runBody] at h
  generalize (m.body t.direction).run r.config.timeout s.store = outcome at h ⊢
  obtain ⟨result, store⟩ := outcome
  cases result with
  | returned =>
    obtain rfl := (Prod.mk.inj h).2
    rfl
  | failed | timedOut | overflow => simp [verdict] at h

theorem invokeOpened_eq_ok {transactional : Bool}
    (h : (r.invokeOpened t m transactional).exec s = (.ok (), s')) :
    ∃ store, (m.body t.direction).run r.config.timeout s.store = (.returned (), store) ∧
      (transactional = true → store.inTransaction = true) ∧
      s'.store = if transactional then { store with snapshot := none } else store := by
  obtain ⟨result, s₁, hbody, hend⟩ := Action.exec_bind_eq_ok.1 h
  cases result with
  | ok =>
    refine ⟨s₁.store, runBody_returned hbody, ?_⟩
    cases transactional with
    | false =>
      obtain rfl := (Prod.mk.inj hend).2
      exact ⟨nofun, rfl⟩
    | true =>
      rw [if_pos rfl, Action.exec_inMigration, Action.exec_change] at hend
      cases hcommit : Store.commit s₁.store with
      | error fault => cases fault <;> simp [hcommit] at hend
      | ok committed =>
        rw [hcommit] at hend
        obtain rfl := (Prod.mk.inj hend).2
        obtain ⟨⟨tables, hopen⟩, hclosed⟩ := Store.commit_eq_ok.1 hcommit
        exact ⟨fun _ => by simp [Store.inTransaction, hopen], hclosed⟩
  | error e =>
    cases transactional with
    | false => cases hend
    | true =>
      obtain ⟨_, s₂, -, hfail⟩ := Action.exec_bind_eq_ok.1 hend
      cases hfail

/-- Around a program that returned, the transaction was opened and committed. -/
theorem invoke_eq_ok (h : (r.invoke t m).exec s = (.ok (), s')) :
    m.CanStart s.store ∧ ∃ store, (m.body t.direction).run r.config.timeout (m.opened s.store) =
      (.returned (), store) ∧
      (m.opensTransaction s.store = true → store.inTransaction = true) ∧
      s'.store = m.closed s.store store := by
  by_cases hstart : m.CanStart s.store
  · rw [exec_invoke_of_canStart hstart] at h
    exact ⟨hstart, invokeOpened_eq_ok h⟩
  · rw [exec_invoke_of_not_canStart hstart] at h
    cases h

theorem track_eq_ok {started : Instant} (h : (r.track t started).exec s = (.ok (), s')) :
    (∃ stored, t.direction = .up ∧ Tracking.log r.config.table (recordOf t started s) s.store =
        .ok (stored, s'.store)) ∨
      ∃ n, t.direction = .down ∧
        Tracking.delete r.config.table t.name s.store = .ok (n, s'.store) := by
  cases hdirection : t.direction with
  | up =>
    rw [exec_track_up hdirection] at h
    cases hlog : Tracking.log r.config.table (recordOf t started s) s.store with
    | error fault => simp [hlog] at h
    | ok logged =>
      rw [hlog] at h
      obtain rfl := (Prod.mk.inj h).2
      exact .inl ⟨logged.1, rfl, rfl⟩
  | down =>
    rw [exec_track_down hdirection] at h
    cases hdelete : Tracking.delete r.config.table t.name s.store with
    | error fault => simp [hdelete] at h
    | ok deleted =>
      rw [hdelete] at h
      obtain rfl := (Prod.mk.inj h).2
      exact .inr ⟨deleted.1, rfl, rfl⟩

/-- How a task that is really carried out goes: its migration is not loaded, its program does not
return, or it ends as it is tracked. -/
theorem execute_cases (hreal : t.pretend = false) {result : Except Fault Unit}
    (h : (r.execute t).exec s = (result, s')) :
    (∃ e, Discovery.load r.migrations t.path s.files = .error e ∧ result = .error (.failed e) ∧
      s'.store = s.store) ∨
    ∃ m, Discovery.load r.migrations t.path s.files = .ok m ∧
      ((∃ fault, result = .error fault ∧ fault.Is (·.IsOf t.name)) ∨
        ∃ s₁ s₂, (r.invoke t m).exec (r.launched t s) = (.ok (), s₁) ∧
          (r.track t s.clock).exec s₁ = (result, s₂) ∧ s'.store = s₂.store) := by
  cases hload : Discovery.load r.migrations t.path s.files with
  | error e =>
    have hcarry : (r.carryOut t).exec (r.begun t s) = (.error (.failed e), r.begun t s) := by
      simp [carryOut, hload, mapError_error]
    rw [exec_execute, hcarry] at h
    obtain ⟨rfl, rfl⟩ := Prod.mk.inj h
    exact .inl ⟨e, rfl, rfl, rfl⟩
  | ok m =>
    refine .inr ⟨m, rfl, ?_⟩
    cases hinvoke : (r.invoke t m).exec (r.launched t s) with
    | mk invoked s₁ =>
      cases invoked with
      | error fault =>
        obtain ⟨s'', hexec, -⟩ := exec_execute_of_invoke_error hreal hload hinvoke
        obtain ⟨rfl, rfl⟩ := Prod.mk.inj (h.symm.trans hexec)
        exact .inl ⟨fault, rfl, failsWith_invoke r t m _ _ _ hinvoke⟩
      | ok =>
        obtain ⟨s'', hexec, hstore⟩ := exec_execute_of_track hreal hload hinvoke rfl
        obtain ⟨rfl, rfl⟩ := Prod.mk.inj (h.symm.trans hexec)
        exact .inr ⟨s₁, _, rfl, rfl, hstore⟩

/-- If a task returned, its migration was loaded and invoked, and the tracking table was brought up to
date. -/
theorem execute_returned (hreal : t.pretend = false) (h : (r.execute t).exec s = (.ok (), s')) :
    ∃ m s₁ s₂, Discovery.load r.migrations t.path s.files = .ok m ∧
      (r.invoke t m).exec (r.launched t s) = (.ok (), s₁) ∧
      (r.track t s.clock).exec s₁ = (.ok (), s₂) ∧ s'.store = s₂.store := by
  rcases execute_cases hreal h with ⟨e, -, hresult, -⟩ | ⟨m, hload, hcase⟩
  · cases hresult
  rcases hcase with ⟨fault, hresult, -⟩ | ⟨s₁, s₂, hinvoke, htrack, hstore⟩
  · cases hresult
  · exact ⟨m, s₁, s₂, hload, hinvoke, htrack, hstore⟩

/-- A task that returned has completed. -/
theorem execute_eq_ok (hreal : t.pretend = false)
    (h : (r.execute t).exec s = (.ok (), s')) : t.Completes r s.files s.store s'.store := by
  obtain ⟨m, s₁, s₂, hload, hinvoke, htrack, hstore⟩ := execute_returned hreal h
  have hfiles : s₁.files = s.files := by
    have hkept := preserves_invoke r (r.sustains_files s.files).toSustainsUnseeded t
      ⟨t.path, s.files, hload⟩ (r.launched t s) (files_launched r t s)
    rwa [hinvoke] at hkept
  obtain ⟨hstart, store, hrun, -, hclosed⟩ := invoke_eq_ok hinvoke
  rw [store_launched] at hstart hrun hclosed
  rw [hstore]
  rcases track_eq_ok htrack with ⟨stored, hup, hlog⟩ | ⟨n, hdown, hdelete⟩
  · rw [hclosed] at hlog
    refine .logged hup hload hstart hrun rfl rfl ?_ hlog
    simp only [recordOf, hfiles]
  · rw [hclosed] at hdelete
    exact .deleted hdown hload hstart hrun hdelete

/-- An error that is raised before any change stopped the task before its program was started, or
after it returned. -/
theorem execute_stops (hreal : t.pretend = false) {e : Error} (he : e.isPreMutation = true)
    (h : (r.execute t).exec s = (.error (.failed e), s')) :
    t.Stops r s.files s.store e s'.store.tables := by
  rcases execute_cases hreal h with ⟨e', hload, hresult, hstore⟩ | ⟨m, hload, hcase⟩
  · obtain rfl := Fault.failed.inj (Except.error.inj hresult)
    rw [hstore]
    exact .load hload
  rcases hcase with ⟨fault, hresult, hfault⟩ | ⟨s₁, s₂, hinvoke, htrack, hstore⟩
  · obtain rfl := Except.error.inj hresult
    rw [Error.IsOf.isPreMutation hfault] at he
    cases he
  obtain ⟨result, s₃, htrack', hresult⟩ := exec_track_total r t s.clock s₁
  obtain ⟨rfl, rfl⟩ := Prod.mk.inj (htrack'.symm.trans htrack)
  obtain ⟨hstart, store, hrun, -, hclosed⟩ := invoke_eq_ok hinvoke
  rw [store_launched] at hstart hrun hclosed
  rw [hstore, hresult.1, hclosed, Migration.tables_closed]
  cases hresult.2 with
  | reserved up batch => exact .reserved up hload hstart hrun batch
  | missing => cases he

section Several

variable {batch : Int64} {files : Dict String}

/-- Files of which all were applied, or those up to the one that failed. -/
theorem applyAll_cases {selected : List (String × String)} {result : Except Fault Unit}
    (h : (r.applyAll batch false selected).exec s = (result, s')) :
    ∃ done later s₁, selected = done ++ later ∧ s₁.files = s.files ∧
      AppliesAll r s.files batch done s.store s₁.store ∧
      match later with
      | [] => result = .ok () ∧ s' = s₁
      | file :: _ => ∃ fault, result = .error fault ∧
          (r.execute (applying batch file)).exec s₁ = (.error fault, s') := by
  induction selected generalizing s with
  | nil =>
    obtain ⟨rfl, rfl⟩ := Prod.mk.inj h
    exact ⟨[], [], s, rfl, rfl, .nil, rfl, rfl⟩
  | cons file rest ih =>
    rw [applyAll_cons, Action.exec_bind] at h
    cases hexec : (r.execute (applying batch file)).exec s with
    | mk executed s₁ =>
      rw [hexec] at h
      cases executed with
      | error fault =>
        obtain ⟨rfl, rfl⟩ := Prod.mk.inj h
        exact ⟨[], file :: rest, s, rfl, rfl, .nil, fault, rfl, hexec⟩
      | ok =>
        have hfiles : s₁.files = s.files := by
          rw [← files_execute r (applying batch file) s, hexec]
        obtain ⟨done, later, s₂, rfl, hfiles₂, happlies, hend⟩ := ih h
        rw [hfiles] at hfiles₂ happlies
        exact ⟨file :: done, later, s₂, rfl, hfiles₂, .cons (execute_eq_ok rfl hexec) happlies,
          hend⟩

/-- The records that have a file are reverted one after the other. -/
inductive RevertsAll (r : Runner) (f : Files) (files : Dict String) :
    List Record → Store → Store → Prop where
  /-- Nothing is to be reverted. -/
  | nil {s : Store} : RevertsAll r f files [] s s
  /-- A record without a file is passed over. -/
  | missing {record : Record} {rest : List Record} {s s' : Store}
      (absent : files.get? record.migration = none) (others : RevertsAll r f files rest s s') :
      RevertsAll r f files (record :: rest) s s'
  /-- A record is reverted, and then the others are. -/
  | cons {record : Record} {rest : List Record} {path : String} {s s₁ s' : Store}
      (found : files.get? record.migration = some path)
      (first : (reverting record path).Completes r f s s₁)
      (others : RevertsAll r f files rest s₁ s') :
      RevertsAll r f files (record :: rest) s s'

/-- Records without a file change nothing. -/
theorem RevertsAll.eq_of_missing {f : Files} {records : List Record} {s s' : Store}
    (h : RevertsAll r f files records s s')
    (hmissing : ∀ record ∈ records, files.contains record.migration = false) : s' = s := by
  induction h with
  | nil => rfl
  | missing _ _ ih => exact ih fun record hr => hmissing record (List.mem_cons_of_mem _ hr)
  | cons found _ _ _ =>
    have hcontains := hmissing _ List.mem_cons_self
    rw [Dict.contains_of_get?_eq_some found] at hcontains
    cases hcontains

/-- Reverting takes away the records of the migrations that have a file. -/
theorem RevertsAll.table {f : Files} {records : List Record} {s s' : Store} {tracking : Table}
    (hkeeps : r.KeepsTracking f)
    (hget : s.tables.get? r.config.table = some tracking) (htracks : tracking.Tracks)
    (h : RevertsAll r f files records s s') :
    ∃ tracking', s'.tables.get? r.config.table = some tracking' ∧ tracking'.Tracks ∧
      tracking'.rows = tracking.rows.filter fun row =>
        !((records.map (·.migration)).filter files.contains).contains
          (Record.ofRow row).migration := by
  induction h generalizing tracking with
  | nil => exact ⟨tracking, hget, htracks, (List.filter_eq_self.2 fun _ _ => rfl).symm⟩
  | @missing record rest _ _ absent others ih =>
    obtain ⟨tracking', hget', htracks', hrows⟩ := ih hget htracks
    refine ⟨tracking', hget', htracks', ?_⟩
    simpa [Dict.contains_eq_false.2 absent] using hrows
  | @cons record rest path _ _ _ found first others ih =>
    obtain ⟨tracking₁, hget₁, htracks₁, hrows₁⟩ := first.updates hkeeps hget htracks
    obtain ⟨tracking', hget', htracks', hrows'⟩ := ih hget₁ htracks₁
    refine ⟨tracking', hget', htracks', ?_⟩
    have hcontains := Dict.contains_of_get?_eq_some found
    rw [hrows', hrows₁, List.filter_filter]
    refine List.filter_congr fun row _ => ?_
    rw [List.map_cons, List.filter_cons_of_pos hcontains, List.contains_cons, Bool.not_or,
      Bool.and_comm]
    rfl

/-- The programs that are run to revert records: those of the migrations that have a file. -/
def downs (files : Dict String) (records : List Record) : List (String × Direction) :=
  (revertReport files false records).rolledBack.map fun name => (name, .down)

theorem downs_cons_of_none {record : Record} (h : files.get? record.migration = none)
    (rest : List Record) : downs files (record :: rest) = downs files rest := by
  simp only [downs, revertReport_of_none h]

theorem downs_cons_of_some {record : Record} {path : String}
    (h : files.get? record.migration = some path) (rest : List Record) :
    downs files (record :: rest) = (record.migration, .down) :: downs files rest := by
  simp only [downs, revertReport_of_some h, List.map_cons]

/-- Records of which all were reverted, or those up to the one that failed. -/
theorem revertAll_cases {records : List Record} {result : Except Fault RollbackResult}
    (h : (r.revertAll files false records).exec s = (result, s')) :
    ∃ done later s₁, records = done ++ later ∧ s₁.files = s.files ∧
      RevertsAll r s.files files done s.store s₁.store ∧
      s₁.invocations = s.invocations ++ downs files done ∧
      match later with
      | [] => result = .ok (revertReport files false records) ∧ s' = s₁
      | record :: _ => ∃ path fault, files.get? record.migration = some path ∧
          result = .error fault ∧ (r.execute (reverting record path)).exec s₁ = (.error fault, s') := by
  induction records generalizing s s' result with
  | nil =>
    obtain ⟨rfl, rfl⟩ := Prod.mk.inj h
    exact ⟨[], [], s, rfl, rfl, .nil, (List.append_nil _).symm, rfl, rfl⟩
  | cons record rest ih =>
    cases hfile : files.get? record.migration with
    | none =>
      rw [exec_revertAll_of_none hfile] at h
      cases hrest : (r.revertAll files false rest).exec
          (s.journaled (r.printout s!"Migration not found: {record.migration}")) with
      | mk reverted s₂ =>
        obtain ⟨done, later, s₁, rfl, hfiles, hreverts, hruns, hend⟩ := ih hrest
        rw [hrest] at h
        refine ⟨record :: done, later, s₁, rfl, hfiles, .missing hfile hreverts, ?_, ?_⟩
        · simpa [downs_cons_of_none hfile] using hruns
        · cases later with
          | nil =>
            obtain ⟨rfl, rfl⟩ := hend
            obtain ⟨rfl, rfl⟩ := Prod.mk.inj h
            exact ⟨by rw [revertReport_of_none hfile], rfl⟩
          | cons failing others =>
            obtain ⟨path, fault, hfound, rfl, hfails⟩ := hend
            obtain ⟨rfl, rfl⟩ := Prod.mk.inj h
            exact ⟨path, fault, hfound, rfl, hfails⟩
    | some path =>
      have hreverting : { reverting record path with pretend := false } = reverting record path :=
        rfl
      rw [exec_revertAll_of_some hfile, hreverting] at h
      cases hexec : (r.execute (reverting record path)).exec s with
      | mk executed s₂ =>
        rw [hexec] at h
        cases executed with
        | error fault =>
          obtain ⟨rfl, rfl⟩ := Prod.mk.inj h
          exact ⟨[], record :: rest, s, rfl, rfl, .nil, (List.append_nil _).symm, path, fault,
            hfile, rfl, hexec⟩
        | ok =>
          have hfiles : s₂.files = s.files := by
            rw [← files_execute r (reverting record path) s, hexec]
          have hrun := invocations_of_execute_eq_ok rfl hexec
          cases hrest : (r.revertAll files false rest).exec s₂ with
          | mk reverted s₃ =>
            obtain ⟨done, later, s₁, rfl, hfiles₁, hreverts, hruns, hend⟩ := ih hrest
            simp only [hrest] at h
            rw [hfiles] at hfiles₁ hreverts
            refine ⟨record :: done, later, s₁, rfl, hfiles₁,
              .cons hfile (execute_eq_ok rfl hexec) hreverts, ?_, ?_⟩
            · rw [hruns, hrun, downs_cons_of_some hfile, List.append_assoc]
              rfl
            · cases later with
              | nil =>
                obtain ⟨rfl, rfl⟩ := hend
                obtain ⟨rfl, rfl⟩ := Prod.mk.inj h
                exact ⟨by rw [revertReport_of_some hfile], rfl⟩
              | cons failing others =>
                obtain ⟨path', fault, hfound, rfl, hfails⟩ := hend
                obtain ⟨rfl, rfl⟩ := Prod.mk.inj h
                exact ⟨path', fault, hfound, rfl, hfails⟩

/-- Chosen records of which all were reverted, or those up to the one that failed. -/
theorem revertSelected_cases {targets : List Record} {result : Except Fault RollbackResult}
    (hfiles : Discovery.discover r.config s.files = .ok files)
    (h : (r.revertSelected false targets).exec s = (result, s')) :
    ∃ done later s₁, targets = done ++ later ∧ s₁.files = s.files ∧
      RevertsAll r s.files files done s.store s₁.store ∧
      s₁.invocations = s.invocations ++ downs files done ∧
      match later with
      | [] => result = .ok (revertReport files false targets) ∧ s'.store = s₁.store ∧
          s'.invocations = s₁.invocations ∧ s'.files = s.files
      | record :: _ => ∃ path fault, files.get? record.migration = some path ∧
          result = .error fault ∧
          (r.execute (reverting record path)).exec s₁ = (.error fault, s') := by
  cases targets with
  | nil =>
    have hnothing := h.symm.trans (exec_nothingToRollBack r false s)
    obtain ⟨rfl, rfl⟩ := Prod.mk.inj hnothing
    exact ⟨[], [], s, rfl, rfl, .nil, (List.append_nil _).symm, rfl, rfl, by simp, rfl⟩
  | cons first rest =>
    rw [exec_revertSelected_of_ne_nil (List.cons_ne_nil _ _) hfiles] at h
    cases hrevert : (r.revertAll files false (first :: rest)).exec (s.journaled
        (r.announcement (.rollbackStarted ((first :: rest).map (·.migration)) false) s.store)) with
    | mk reverted s₂ =>
      obtain ⟨done, later, s₁, hsplit, hfiles₁, hreverts, hruns, hend⟩ := revertAll_cases hrevert
      rw [hrevert] at h
      refine ⟨done, later, s₁, hsplit, hfiles₁, hreverts, by simpa using hruns, ?_⟩
      cases later with
      | nil =>
        obtain ⟨rfl, rfl⟩ := hend
        obtain ⟨rfl, rfl⟩ := Prod.mk.inj h
        exact ⟨rfl, rfl, by simp, hfiles₁⟩
      | cons record others =>
        obtain ⟨path, fault, hfound, rfl, hfails⟩ := hend
        obtain ⟨rfl, rfl⟩ := Prod.mk.inj h
        exact ⟨path, fault, hfound, rfl, hfails⟩

/-- If it returned, all chosen records were reverted that have a file. -/
theorem revertSelected_returned {targets : List Record} {report : RollbackResult}
    (hfiles : Discovery.discover r.config s.files = .ok files)
    (h : (r.revertSelected false targets).exec s = (.ok report, s')) :
    report = revertReport files false targets ∧
      RevertsAll r s.files files targets s.store s'.store := by
  obtain ⟨done, later, s₁, hsplit, -, hreverts, -, hend⟩ := revertSelected_cases hfiles h
  cases later with
  | nil =>
    obtain ⟨hresult, hstore, -⟩ := hend
    obtain rfl : targets = done := hsplit.trans (List.append_nil done)
    rw [hstore]
    exact ⟨Except.ok.inj hresult, hreverts⟩
  | cons record others =>
    obtain ⟨path, fault, -, hfault, -⟩ := hend
    cases hfault

end Several

/-- Seeding ends early: the seeder is not loaded, or its program fails. -/
inductive SeedStops (r : Runner) (name : String) (f : Files) (s : Store) :
    Error → Dict Table → Prop where
  /-- The seeder cannot be loaded. -/
  | load {e : Error} (unloaded : r.loadSeeder name f = .error e) : SeedStops r name f s e s.tables
  /-- Its program fails. -/
  | program {program : Program Unit} {e : Error} {store : Store}
      (loaded : r.loadSeeder name f = .ok program)
      (failed : program.runFully s = (.error (.failed e), store)) :
      SeedStops r name f s e store.tables

theorem seed_stops {name : Option String} {e : Error}
    (h : (r.seed name).exec s = (.error (.failed e), s')) :
    r.SeedStops (name.getD defaultSeeder) s.files s.store e s'.store.tables := by
  rw [seed, Action.exec_bind, Action.exec_inspectFiles] at h
  cases hload : r.loadSeeder (name.getD defaultSeeder) s.files with
  | error e' =>
    rw [hload] at h
    obtain ⟨hfault, rfl⟩ := Prod.mk.inj h
    obtain rfl := Fault.failed.inj (Except.error.inj hfault)
    exact .load hload
  | ok program =>
    simp only [hload, mapError_ok, Action.exec_bind, Action.exec_now, exec_say,
      Action.exec_runFully, Session.store_journaled] at h
    cases hrun : program.runFully s.store with
    | mk result store =>
      rw [hrun] at h
      cases result with
      | error fault =>
        obtain ⟨hfault, rfl⟩ := Prod.mk.inj h
        obtain rfl := Except.error.inj hfault
        exact .program hload hrun
      | ok =>
        simp at h

end Runner

end SchemaMigration
