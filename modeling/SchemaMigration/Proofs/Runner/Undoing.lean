import SchemaMigration.Proofs.Runner.Completion

/-!
# Taking back what was applied

A migration is undone if its second program takes back what the first one did, on every store that
agrees with the one that the first one left. The transaction and the tracking around the programs do
not disturb this, so reverting takes back what a task of applying did. Files that were applied one
after the other are taken back by reverting the last of them first.
-/

namespace SchemaMigration

namespace Store

variable {table : String} {s s' s'' : Store}

/-- Two stores have the same tables, apart from the tracking table. -/
def SameTables (table : String) (s s' : Store) : Prop :=
  ∀ name, name ≠ table → s'.tables.get? name = s.tables.get? name

/-- Two stores have the same tables, apart from the tracking table, and a transaction is open in
both of them or in none. -/
structure Agrees (table : String) (s s' : Store) : Prop where
  tables : SameTables table s s'
  inTransaction : s'.inTransaction = s.inTransaction

theorem agrees_of_eq (htables : s'.tables = s.tables) (hsnapshot : s'.snapshot = s.snapshot) :
    Agrees table s s' where
  tables name _ := by rw [htables]
  inTransaction := by rw [inTransaction, inTransaction, hsnapshot]

theorem Agrees.trans (h : Agrees table s s') (h' : Agrees table s' s'') : Agrees table s s'' where
  tables name hne := (h'.tables name hne).trans (h.tables name hne)
  inTransaction := h'.inTransaction.trans h.inTransaction

end Store

namespace Migration

variable {table : String} {m : Migration} {start store s : Store}

/-- Wherever the first program of a migration returns, the second one returns on all stores that are
the same as the one that is left, and leaves a store that is the same as the one before. -/
def IsUndone (m : Migration) (limit : Option Nat) (Same : Store → Store → Prop) : Prop :=
  ∀ s s₁ s₂, m.up.run limit s = (.returned (), s₁) → Same s₁ s₂ →
    ∃ s₃, m.down.run limit s₂ = (.returned (), s₃) ∧ Same s s₃

/-- If the programs of a migration open and close no transactions, only tables have to be the same.
-/
theorem IsUndone.agrees {limit : Option Nat} (h : m.IsUndone limit (Store.SameTables table))
    (hup : m.up.Requests (·.isTransactional = false))
    (hdown : m.down.Requests (·.isTransactional = false)) :
    m.IsUndone limit (Store.Agrees table) := by
  intro s s₁ s₂ hrun hagrees
  obtain ⟨s₃, hback, htables⟩ := h s s₁ s₂ hrun hagrees.tables
  have hleft := hup.run_snapshot limit s
  have hright := hdown.run_snapshot limit s₂
  rw [hrun] at hleft
  rw [hback] at hright
  have hopen : s₂.snapshot.isSome = s₁.snapshot.isSome := hagrees.inTransaction
  refine ⟨s₃, hback, htables, ?_⟩
  rw [Store.inTransaction, Store.inTransaction, hright, hopen, hleft]

/-- Creating a table is undone by dropping it. -/
theorem isUndone_createTable {name : String} (hne : name ≠ table) (columns : List Column)
    (limit : Option Nat) :
    IsUndone { up := .request (.createTable name columns), down := .request (.dropTable name) }
      limit (Store.SameTables table) := by
  intro s s₁ s₂ hrun hsame
  rw [Program.run_request limit rfl, Store.perform] at hrun
  cases hcreate : Store.createTable name columns s with
  | error fault => cases fault <;> simp [hcreate] at hrun
  | ok created =>
    rw [hcreate] at hrun
    obtain rfl := (Prod.mk.inj hrun).2
    obtain ⟨hnew, hcreated⟩ := Store.createTable_eq_ok.1 hcreate
    have hfound : s₂.hasTable name = true := by
      refine Store.hasTable_eq_true.2 ⟨{ columns }, ?_⟩
      rw [hsame name hne, hcreated]
      exact Dict.get?_insert_self _ _ _
    refine ⟨{ s₂ with tables := s₂.tables.erase name, mutations := s₂.mutations + 1 }, ?_, ?_⟩
    · rw [Program.run_request limit rfl, Store.perform, Store.dropTable, if_pos hfound]
    · intro other hother
      rw [Dict.get?_erase]
      split
      · rename_i heq
        rw [heq, hnew]
      · rename_i hdifferent
        rw [hsame other hother, hcreated]
        exact Dict.get?_insert_of_ne _ _ hdifferent

/-- If a program only opens transactions, nothing has to be done to undo what it does to tables. -/
theorem isUndone_of_begin (hup : m.up.Requests (· = .begin)) (hdown : m.down = .pure ())
    (limit : Option Nat) : m.IsUndone limit (Store.SameTables table) := by
  intro s s₁ s₂ hrun hsame
  have hkept : (m.up.run limit s).2.tables = s.tables :=
    hup.run_preserves (I := fun s' => s'.tables = s.tables) (by
      rintro op rfl v answer v' hmade hv
      exact (Store.tables_of_begin hmade).trans hv) limit rfl
  rw [hrun] at hkept
  refine ⟨s₂, by rw [hdown]; rfl, fun name hne => ?_⟩
  rw [hsame name hne, hkept]

theorem opensTransaction_congr (h : s.features = start.features) :
    m.opensTransaction s = m.opensTransaction start := by
  have htransactional : s.transactional = start.transactional := congrArg Prod.fst h
  rw [opensTransaction, opensTransaction, htransactional]

/-- A store that agrees with the one after a transaction agrees, in a transaction, with the one at
its end. -/
theorem agrees_opened (hfeatures : s.features = start.features)
    (hopen : m.opensTransaction start = true → store.inTransaction = true)
    (h : Store.Agrees table (m.closed start store) s) :
    m.CanStart s ∧ Store.Agrees table store (m.opened s) := by
  have htables : Store.SameTables table store (m.opened s) := by
    intro name hne
    rw [tables_opened, h.tables name hne, tables_closed]
  have hclosed := h.inTransaction
  cases hopens : m.opensTransaction start with
  | false =>
    have hopens' := (opensTransaction_congr (m := m) hfeatures).trans hopens
    rw [closed, hopens] at hclosed
    refine ⟨fun hstart => by simp [hopens'] at hstart, htables, ?_⟩
    rw [opened, hopens']
    exact hclosed
  | true =>
    have hopens' := (opensTransaction_congr (m := m) hfeatures).trans hopens
    rw [closed, hopens] at hclosed
    refine ⟨fun _ => by simpa [Store.inTransaction] using hclosed, htables, ?_⟩
    rw [hopen hopens, Store.inTransaction, m.snapshot_opened hopens']
    rfl

/-- A store that agrees, in a transaction, with the one at its beginning agrees after it with the
one before it. -/
theorem agrees_closed (hfeatures : s.features = start.features) (hstart : m.CanStart start)
    (h : Store.Agrees table (m.opened start) store) :
    (m.opensTransaction s = true → store.inTransaction = true) ∧
      Store.Agrees table start (m.closed s store) := by
  have htables : Store.SameTables table start (m.closed s store) := by
    intro name hne
    rw [tables_closed, h.tables name hne, tables_opened]
  have hopened := h.inTransaction
  have hsame := opensTransaction_congr (m := m) hfeatures
  cases hopens : m.opensTransaction start with
  | false =>
    rw [hopens] at hsame
    rw [opened, hopens] at hopened
    refine ⟨fun hopen => by simp [hsame] at hopen, htables, ?_⟩
    rw [closed, hsame]
    exact hopened
  | true =>
    rw [hopens] at hsame
    rw [Store.inTransaction, Store.inTransaction, m.snapshot_opened hopens] at hopened
    refine ⟨fun _ => hopened, htables, ?_⟩
    rw [closed, hsame, Store.inTransaction, Store.inTransaction, hstart hopens]
    rfl

end Migration

namespace Store

/-- Whatever is done to tracking tables, a store keeps having transactions and locks or not. -/
theorem preservedByWrites_features (features : Bool × Bool) :
    Tracking.PreservedByWrites fun s => s.features = features :=
  ⟨fun _ _ _ _ _ _ hs h => (features_perform hs).trans h⟩

end Store

namespace Runner

variable {r : Runner} {t : Task} {m : Migration} {s s' : Session}

theorem files_applyAll (r : Runner) (batch : Int64) (selected : List (String × String))
    (s : Session) : ((r.applyAll batch false selected).exec s).2.files = s.files :=
  preserves_applyAll r (tolerates (Session.ignoresNarration_files s.files) r)
    (fun _ => (r.sustains_files s.files).toSustainsUnseeded) batch selected s rfl

theorem features_applyAll (r : Runner) (batch : Int64) (selected : List (String × String))
    (s : Session) :
    ((r.applyAll batch false selected).exec s).2.store.features = s.store.features :=
  preserves_applyAll r (tolerates (ignoresNarration_features s.store.features) r)
    (fun _ => (r.sustains_features s.store.features).toSustainsUnseeded) batch selected s rfl

theorem exec_invoke_of_returned {store : Store} (hstart : m.CanStart s.store)
    (hreturned : (m.body t.direction).run r.config.timeout (m.opened s.store) =
      (.returned (), store))
    (hopen : m.opensTransaction s.store = true → store.inTransaction = true) :
    ∃ s', (r.invoke t m).exec s = (.ok (), s') ∧ s'.store = m.closed s.store store := by
  rw [exec_invoke_of_canStart hstart, invokeOpened, Action.exec_bind, exec_runBody]
  simp only [hreturned, verdict, Migration.closed]
  cases hopens : m.opensTransaction s.store with
  | false => exact ⟨_, rfl, rfl⟩
  | true =>
    have hcommit : Store.commit store = .ok ((), { store with snapshot := none }) :=
      Store.commit_eq_ok.2 ⟨Option.isSome_iff_exists.1 (hopen hopens), rfl⟩
    simp only [if_true, Action.exec_inMigration, Action.exec_change, hcommit]
    exact ⟨_, rfl, rfl⟩

/-- What brings the tracking table up to date leaves all else. -/
theorem agrees_track {started : Instant} (h : (r.track t started).exec s = (.ok (), s')) :
    Store.Agrees r.config.table s.store s'.store := by
  obtain ⟨result, u, htrack, hresult⟩ := exec_track_total r t started s
  obtain ⟨rfl, rfl⟩ := Prod.mk.inj (htrack.symm.trans h)
  obtain ⟨hsnapshot, _, _, -, -, -, hothers⟩ := hresult
  refine ⟨hothers, ?_⟩
  rw [Store.inTransaction, Store.inTransaction, hsnapshot]

/-- What a task that returned leaves, apart from the tracking table, is what its program left. -/
theorem agrees_execute (hreal : t.pretend = false) (h : (r.execute t).exec s = (.ok (), s')) :
    ∃ m store, Discovery.load r.migrations t.path s.files = .ok m ∧ m.CanStart s.store ∧
      (m.body t.direction).run r.config.timeout (m.opened s.store) = (.returned (), store) ∧
      (m.opensTransaction s.store = true → store.inTransaction = true) ∧
      Store.Agrees r.config.table (m.closed s.store store) s'.store := by
  obtain ⟨m, s₁, s₂, hload, hinvoke, htrack, hstore⟩ := execute_returned hreal h
  obtain ⟨hstart, store, hrun, hopen, hclosed⟩ := invoke_eq_ok hinvoke
  rw [store_launched] at hstart hrun hopen hclosed
  refine ⟨m, store, hload, hstart, hrun, hopen, ?_⟩
  rw [hstore, ← hclosed]
  exact agrees_track htrack

/-- If the program of a task of reverting returns and leaves a tracking table, the task returns. -/
theorem exec_execute_of_down {store : Store} {tracking : Table} (hreal : t.pretend = false)
    (hdown : t.direction = .down) (hload : Discovery.load r.migrations t.path s.files = .ok m)
    (hstart : m.CanStart s.store)
    (hreturned : (m.body t.direction).run r.config.timeout (m.opened s.store) =
      (.returned (), store))
    (hopen : m.opensTransaction s.store = true → store.inTransaction = true)
    (hget : store.tables.get? r.config.table = some tracking) :
    ∃ s', (r.execute t).exec s = (.ok (), s') ∧
      Store.Agrees r.config.table (m.closed s.store store) s'.store := by
  obtain ⟨s₁, hinvoke, hclosed⟩ := exec_invoke_of_returned (r := r) (t := t) (m := m)
    (s := r.launched t s) (by rwa [store_launched]) (by rwa [store_launched])
    (by rwa [store_launched])
  rw [store_launched] at hclosed
  obtain ⟨result, s₂, htrack, hresult⟩ := exec_track_total r t s.clock s₁
  obtain ⟨s', hexec, hstore⟩ := exec_execute_of_track hreal hload hinvoke htrack
  cases result with
  | ok =>
    refine ⟨s', hexec, ?_⟩
    rw [hstore, ← hclosed]
    exact agrees_track htrack
  | error fault =>
    -- Only without a tracking table could no records be deleted.
    cases hresult.2 with
    | reserved up | unnumbered up => simp [hdown] at up
    | missing _ absent => simp [hclosed, hget] at absent

/-- The migrations that are discovered in some files are undone. -/
def Undoes (r : Runner) (f : Files) (Same : Store → Store → Prop) : Prop :=
  ∀ files, Discovery.discover r.config f = .ok files → ∀ file ∈ files.entries, ∀ m,
    Discovery.load r.migrations file.2 f = .ok m → m.IsUndone r.config.timeout Same

section

variable {batch : Int64} {u : Session} {tracking : Table} (hkeeps : r.KeepsTracking s.files)
  (hfiles : u.files = s.files) (hfeatures : u.store.features = s.store.features)
  (hget : u.store.tables.get? r.config.table = some tracking)
  (hagrees : Store.Agrees r.config.table s'.store u.store)

include hkeeps hfiles hfeatures hget hagrees

/-- Reverting takes back what applying did, on every store that agrees with the one that it left. -/
theorem exec_reverting_of_applying {file : String × String} (record : Record)
    (hundone : ∀ m, Discovery.load r.migrations file.2 s.files = .ok m →
      m.IsUndone r.config.timeout (Store.Agrees r.config.table))
    (h : (r.execute (applying batch file)).exec s = (.ok (), s')) :
    ∃ u', (r.execute (reverting record file.2)).exec u = (.ok (), u') ∧
      Store.Agrees r.config.table s.store u'.store := by
  obtain ⟨m, store, hload, hstart, hrun, hopen, hleft⟩ := agrees_execute rfl h
  obtain ⟨hstart', hsame⟩ := m.agrees_opened hfeatures hopen (hleft.trans hagrees)
  obtain ⟨store', hback, hsame'⟩ := hundone m hload _ _ _ hrun hsame
  obtain ⟨hopen', hclosed⟩ := m.agrees_closed hfeatures hstart hsame'
  have htracking := hkeeps file.2 m hload .down (m.opened u.store)
  obtain ⟨u', hexec, hleft'⟩ := exec_execute_of_down (t := reverting record file.2) (s := u) rfl rfl
    (by rwa [hfiles]) hstart' hback hopen' (by
      have hback' : (m.body .down).run r.config.timeout (m.opened u.store) =
        (.returned (), store') := hback
      rwa [hback', Migration.tables_opened, hget] at htracking)
  exact ⟨u', hexec, hclosed.trans hleft'⟩

end

theorem applyAll_append (r : Runner) (batch : Int64) (pretend : Bool)
    (first second : List (String × String)) :
    r.applyAll batch pretend (first ++ second) =
      r.applyAll batch pretend first >>= fun _ => r.applyAll batch pretend second := by
  induction first with
  | nil => rfl
  | cons file rest ih =>
    simp only [List.cons_append, applyAll, ih, bind_assoc]

/-- Files that were applied are taken back by reverting their records, the last one first. -/
theorem exec_revertAll_of_applyAll {batch : Int64} {selected : List (String × String)}
    {records : List Record} {files : Dict String} {u : Session} {tracking : Table}
    (hkeeps : r.KeepsTracking s.files)
    (hfound : ∀ file ∈ selected, files.get? file.1 = some file.2)
    (hundone : ∀ file ∈ selected, ∀ m, Discovery.load r.migrations file.2 s.files = .ok m →
      m.IsUndone r.config.timeout (Store.Agrees r.config.table))
    (hrecords : records.map (·.migration) = selected.map (·.1))
    (h : (r.applyAll batch false selected).exec s = (.ok (), s'))
    (hfiles : u.files = s.files) (hfeatures : u.store.features = s.store.features)
    (hget : u.store.tables.get? r.config.table = some tracking) (htracks : tracking.Tracks)
    (hagrees : Store.Agrees r.config.table s'.store u.store) :
    ∃ report u', (r.revertAll files false records.reverse).exec u = (.ok report, u') ∧
      Store.Agrees r.config.table s.store u'.store := by
  -- The last file is the first one to be reverted, and the others follow from where it was applied.
  induction selected using List.reverseRecOn generalizing records s' u tracking with
  | nil =>
    obtain rfl : records = [] := List.map_eq_nil_iff.1 hrecords
    obtain rfl := (Prod.mk.inj h).2
    exact ⟨_, u, rfl, hagrees⟩
  | append_singleton earlier file ih =>
    rw [List.map_append] at hrecords
    obtain ⟨before, last, rfl, hbefore, hlast⟩ := List.map_eq_append_iff.1 hrecords
    obtain ⟨record, rfl, hname⟩ := List.map_eq_singleton_iff.1 hlast
    rw [applyAll_append] at h
    obtain ⟨⟨⟩, s₁, hearlier, hfile⟩ := Action.exec_bind_eq_ok.1 h
    obtain ⟨⟨⟩, s₂, hexec, hnothing⟩ := Action.exec_bind_eq_ok.1 hfile
    obtain rfl := (Prod.mk.inj hnothing).2
    have hfiles₁ : s₁.files = s.files := by
      rw [← files_applyAll r batch earlier s, hearlier]
    have hfeatures₁ : s₁.store.features = s.store.features := by
      rw [← features_applyAll r batch earlier s, hearlier]
    obtain ⟨u₁, hrevert, hagrees₁⟩ := exec_reverting_of_applying (by rwa [hfiles₁])
      (hfiles.trans hfiles₁.symm) (hfeatures.trans hfeatures₁.symm) hget hagrees record
      (by rw [hfiles₁]; exact hundone file (by simp)) hexec
    have hfiles' : u₁.files = u.files := by
      rw [← files_execute r (reverting record file.2) u, hrevert]
    have hfeatures' : u₁.store.features = u.store.features := by
      rw [← features_execute r (reverting record file.2) u, hrevert]
    obtain ⟨tracking₁, hget₁, htracks₁, -⟩ :=
      (execute_eq_ok rfl hrevert).updates (by rwa [hfiles]) hget htracks
    obtain ⟨report, u', hothers, hagrees'⟩ := ih
      (fun other hother => hfound other (List.mem_append_left _ hother))
      (fun other hother => hundone other (List.mem_append_left _ hother)) hbefore hearlier
      (hfiles'.trans hfiles) (hfeatures'.trans hfeatures) hget₁ htracks₁ hagrees₁
    have hpath : files.get? record.migration = some file.2 := by
      rw [hname]
      exact hfound file (by simp)
    refine ⟨{ report with rolledBack := record.migration :: report.rolledBack }, u', ?_, hagrees'⟩
    rw [List.reverse_append, List.reverse_singleton, List.singleton_append,
      revertAll_eq_ok_of_some hpath]
    exact ⟨u₁, report, hrevert, hothers, rfl⟩

end Runner

end SchemaMigration
