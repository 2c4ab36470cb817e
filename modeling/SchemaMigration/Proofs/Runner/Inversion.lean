import SchemaMigration.Proofs.Runner.Announcement
import SchemaMigration.Proofs.Runner.Rollback
import SchemaMigration.Proofs.Runner.Undoing

/-!
# Rollbacks after runs

A run makes one batch, greater than all others, so the rollback after it selects just the records
that it added. It reverts them in descending order of their names, which is the reverse of the order
in which they were applied. If the migrations are undone by their second programs, the rollback
takes back all that the run did.
-/

namespace SchemaMigration

theorem Tracking.ensure_agrees {table : String} {s s' : Store} {x : Unit}
    (h : Tracking.ensure table s = .ok (x, s')) :
    Store.Agrees table s s' ∧ s'.rows table = s.rows table := by
  rw [Tracking.ensure_eq_ok.1 h]
  split
  · exact ⟨Store.agrees_of_eq rfl rfl, rfl⟩
  · rename_i hmissing
    have hget := Store.hasTable_eq_false.1 (Bool.eq_false_iff.2 hmissing)
    refine ⟨⟨fun name hne => Dict.get?_insert_of_ne _ _ hne, rfl⟩, ?_⟩
    simp [Store.rows, hget, Store.withTable]

namespace Runner

variable {r : Runner} {o : RunOptions} {s s' u : Session} {batch : Int64}
  {selected : List (String × String)}

theorem selectFiles_sublist (o : RunOptions) (pending : List (String × String)) :
    (selectFiles o pending).Sublist pending := by
  have hstep {allowed : List (String × String)} (h : allowed.Sublist pending) :
      (if o.step then allowed.take 1 else allowed).Sublist pending := by
    split
    · exact (List.take_sublist _ _).trans h
    · exact h
  cases honly : o.only with
  | none =>
    simp only [selectFiles, honly]
    exact hstep (List.Sublist.refl _)
  | some names =>
    simp only [selectFiles, honly]
    exact hstep List.filter_sublist

/-- Only files that are discovered are announced. -/
theorem mem_files_of_announce {reverted : List String}
    (h : (r.announce o reverted).exec s = (.ok (some (batch, selected)), u)) :
    ∃ files, Discovery.discover r.config s.files = .ok files ∧
      ∀ file ∈ selected, file ∈ files.entries := by
  obtain ⟨⟨⟩, s₁, hcheck, hchecked⟩ := Action.exec_bind_eq_ok.1 h
  obtain ⟨read, s₂, hread, hrecords⟩ := Action.exec_bind_eq_ok.1 hchecked
  obtain ⟨files, s₃, hfound, hselect⟩ := Action.exec_bind_eq_ok.1 hrecords
  have hfiles := (files_eq_ok.1 hfound).1
  have hkept₁ : s₁.files = s.files := by
    have hkept := preserves_checkNames (I := fun u => u.files = s.files) r o s rfl
    rwa [hcheck] at hkept
  have hkept₂ : s₂.files = s.files := by
    have hkept : ((r.recordsForRun o.pretend).exec s₁).2.files = s.files :=
      preserves_recordsForRun (I := fun u => u.files = s.files) r (fun _ _ _ hs _ => hs) s₁ hkept₁
    rwa [hread] at hkept
  refine ⟨files, hkept₂ ▸ hfiles, fun file hfile => ?_⟩
  dsimp only at hselect
  split at hselect
  · cases hselect
  · obtain ⟨batch', s₄, -, hemit⟩ := Action.exec_bind_eq_ok.1 hselect
    obtain ⟨⟨⟩, s₅, -, hpure⟩ := Action.exec_bind_eq_ok.1 hemit
    obtain ⟨-, rfl⟩ := Prod.mk.inj (Option.some.inj (Except.ok.inj (Prod.mk.inj hpure).1))
    exact List.filter_sublist.subset ((selectFiles_sublist o _).subset hfile)

/-- Up to its announcement, a run does no more than to create the tracking table. -/
theorem announce_agrees (r : Runner) (o : RunOptions) (reverted : List String) (s : Session) :
    let store := ((r.announce o reverted).exec s).2.store
    Store.Agrees r.config.table s.store store ∧
      store.rows r.config.table = s.store.rows r.config.table ∧
      store.features = s.store.features := by
  refine preserves_announce (I := fun u => Store.Agrees r.config.table s.store u.store ∧
    u.store.rows r.config.table = s.store.rows r.config.table ∧
    u.store.features = s.store.features) r (tolerates ⟨fun _ _ _ h => h, fun _ _ h => h, fun _ _ h => h,
      fun _ _ _ ⟨hagrees, hrows, hfeatures⟩ =>
        ⟨hagrees.trans (Store.agrees_of_eq rfl rfl), hrows, hfeatures⟩⟩ r) ?_ reverted s
    ⟨Store.agrees_of_eq rfl rfl, rfl, rfl⟩
  rintro - v store ⟨hagrees, hrows, hfeatures⟩ hensure
  obtain ⟨hagrees', hrows'⟩ := Tracking.ensure_agrees hensure
  exact ⟨hagrees.trans hagrees', hrows'.trans hrows,
    (Store.preservedByWrites_features _).ensure hensure hfeatures⟩

/-- What was announced was applied, if the run returned. -/
theorem applyAnnounced_eq_ok {result : RunResult} (hreal : o.pretend = false)
    (hseed : o.seed = false)
    (h : (r.applyAnnounced o (some (batch, selected))).exec s = (.ok result, s')) :
    ∃ v, (r.applyAll batch false selected).exec s = (.ok (), v) ∧ s'.store = v.store ∧
      s'.files = v.files ∧ result.migrated = selected.map (·.1) := by
  obtain ⟨⟨⟩, v, happly, h⟩ := Action.exec_bind_eq_ok.1 h
  obtain ⟨⟨⟩, v', hemit, h⟩ := Action.exec_bind_eq_ok.1 h
  rw [hreal] at happly
  rw [exec_emit] at hemit
  obtain rfl := (Prod.mk.inj hemit).2
  simp only [hseed, Bool.false_and, Bool.false_eq_true, if_false] at h
  obtain ⟨hresult, rfl⟩ := Prod.mk.inj h
  obtain rfl := Except.ok.inj hresult
  exact ⟨v, happly, rfl, rfl, rfl⟩

/-- A run that returned and applied something has announced a batch and applied it. -/
theorem run_eq_ok {result : RunResult} (hreal : o.pretend = false) (hseed : o.seed = false)
    (htracks : ∀ t, s.store.tables.get? r.config.table = some t → t.Tracks)
    (h : (r.run o).exec s = (.ok result, s')) (hne : result.migrated ≠ []) :
    ∃ batch selected u v locks, Announced r.config.table (r.locked s) u batch selected ∧
      (r.announce o []).exec (r.locked s) = (.ok (some (batch, selected)), u) ∧
      (r.applyAll batch false selected).exec u = (.ok (), v) ∧
      result.migrated = selected.map (·.1) ∧ s'.files = v.files ∧
      s'.store = { v.store with locks } ∧
      (v.store.lockable = s.store.lockable → r.IsFree s'.store) := by
  obtain ⟨v', locks, hexec, rfl, hfree⟩ := withLock_eq_ok h
  rw [runPending_eq_announce] at hexec
  obtain ⟨announced, u, hannounce, happly⟩ := Action.exec_bind_eq_ok.1 hexec
  obtain ⟨announced', u', hannounce', -, -, hannounced⟩ :=
    announce_cases hreal (r := r) (s := r.locked s) (by rwa [tables_locked])
  obtain ⟨rfl, rfl⟩ := Prod.mk.inj (hannounce'.symm.trans hannounce)
  cases announced with
  | none =>
    simp only [applyAnnounced, Action.exec_bind, exec_say, Action.exec_pure] at happly
    obtain rfl := Except.ok.inj (Prod.mk.inj happly).1
    exact absurd rfl hne
  | some announced =>
    obtain ⟨batch, selected⟩ := announced
    obtain ⟨v, happlied, hstore, hfiles, hmigrated⟩ := applyAnnounced_eq_ok hreal hseed happly
    refine ⟨batch, selected, u', v, locks, hannounced, hannounce, happlied, hmigrated, hfiles, ?_,
      ?_⟩
    · rw [← hstore]
      rfl
    · rwa [← hstore]

/-- What was announced and applied has one row each, behind the others, and these are what a
rollback is to revert, the last one first. -/
theorem Announced.targets {before v : Session}
    (h : Announced r.config.table before u batch selected)
    (hkeeps : r.KeepsTracking u.files) (hne : selected ≠ [])
    (happly : (r.applyAll batch false selected).exec u = (.ok (), v)) :
    ∃ tracking added, v.store.tables.get? r.config.table = some tracking ∧ tracking.Tracks ∧
      tracking.rows = u.store.rows r.config.table ++ added ∧
      (added.map Record.ofRow).map (·.migration) = selected.map (·.1) ∧
      rollbackTargets r.config.table {} v.store = .ok (added.map Record.ofRow).reverse := by
  obtain ⟨tracking₀, hget₀, htracks₀⟩ := h.tracks
  obtain ⟨done, later, v', hsplit, -, happlies, hend⟩ := applyAll_cases happly
  cases later with
  | cons file others =>
    obtain ⟨fault, hfault, -⟩ := hend
    cases hfault
  | nil =>
  obtain ⟨-, rfl⟩ := hend
  obtain rfl : selected = done := hsplit.trans (List.append_nil done)
  obtain ⟨tracking, added, hget, htracks, hrows, hadded⟩ := happlies.updates hkeeps hget₀ htracks₀
  rw [← Store.rows_of_get? hget₀] at hrows
  have hnames : (added.map Record.ofRow).map (·.migration) = selected.map (·.1) := by
    have hnamed := congrArg (List.map Prod.fst) hadded
    simp only [List.map_map] at hnamed ⊢
    exact hnamed
  refine ⟨tracking, added, hget, htracks, hrows, hnames, ?_⟩
  have hrecorded : Tracking.recorded r.config.table v.store =
      Tracking.recorded r.config.table u.store ++ added.map Record.ofRow := by
    rw [Tracking.recorded_of_get? hget, hrows, List.map_append, Tracking.recorded]
  -- Without options the last batch is reverted, and the new one is greater than all before it.
  apply rollbackTargets_of_descending hget htracks rfl
  · rw [hrecorded, RollbackOptions.filter_selects_default _ _ h.greater]
    · exact List.reverse_perm _
    · rintro hnone
      rw [hnone] at hnames
      exact hne (List.map_eq_nil_iff.1 hnames.symm)
    · intro record hr
      have hmem : (record.migration, record.batch) ∈ selected.map fun file => (file.1, batch) :=
        hadded ▸ List.mem_map_of_mem hr
      obtain ⟨file, -, heq⟩ := List.mem_map.1 hmem
      exact (Prod.mk.inj heq).2.symm
  · have hascending : (selected.map (·.1)).Pairwise (· < ·) := List.pairwise_map.2 h.ascending
    rw [← hnames, List.pairwise_map] at hascending
    exact List.pairwise_reverse.2 hascending

/-- The records of files that were applied are reverted, the last one first, and all else is as it
was before. -/
theorem exec_revertSelected_of_applyAll {files : Dict String} {records : List Record}
    {v w : Session} {tracking : Table} (hkeeps : r.KeepsTracking u.files)
    (hundoes : r.Undoes u.files (Store.Agrees r.config.table))
    (hfiles : Discovery.discover r.config u.files = .ok files)
    (hmem : ∀ file ∈ selected, file ∈ files.entries) (hne : selected ≠ [])
    (hrecords : records.map (·.migration) = selected.map (·.1))
    (happly : (r.applyAll batch false selected).exec u = (.ok (), v))
    (hsame : w.files = u.files) (hfeatures : w.store.features = u.store.features)
    (hget : w.store.tables.get? r.config.table = some tracking) (htracks : tracking.Tracks)
    (hagrees : Store.Agrees r.config.table v.store w.store) :
    ∃ w', (r.revertSelected false records.reverse).exec w =
        (.ok { rolledBack := (selected.map (·.1)).reverse }, w') ∧
      Store.Agrees r.config.table u.store w'.store ∧
      w'.store.rows r.config.table = tracking.rows.filter fun row =>
        (Record.ofRow row).migration ∉ selected.map (·.1) := by
  have hfound (file : String × String) (hfile : file ∈ selected) :
      files.get? file.1 = some file.2 := Dict.get?_of_mem (hmem file hfile)
  have hnames : records.reverse.map (·.migration) = (selected.map (·.1)).reverse := by
    rw [List.map_reverse, hrecords]
  have hreverse : records.reverse ≠ [] := by
    intro hnone
    rw [hnone] at hnames
    exact hne (List.map_eq_nil_iff.1 (List.reverse_eq_nil_iff.1 hnames.symm))
  have hcontained : ∀ record ∈ records.reverse, files.contains record.migration = true := by
    intro record hr
    have hname : record.migration ∈ (selected.map (·.1)).reverse := hnames ▸ List.mem_map_of_mem hr
    obtain ⟨file, hfile, heq⟩ := List.mem_map.1 (List.mem_reverse.1 hname)
    rw [← heq]
    exact Dict.contains_of_get?_eq_some (hfound file hfile)
  have hreport : revertReport files false records.reverse =
      { rolledBack := (selected.map (·.1)).reverse } := by
    rw [revertReport_of_found hcontained, hnames]
  rw [← hsame] at hfiles
  obtain ⟨report, w₁, hrevert, hback⟩ := exec_revertAll_of_applyAll (u := w.journaled
    (r.announcement (.rollbackStarted (records.reverse.map (·.migration)) false) w.store))
    hkeeps hfound (fun file hfile => hundoes files (hsame ▸ hfiles) file (hmem file hfile)) hrecords
    happly hsame hfeatures hget htracks hagrees
  have hexec := exec_revertSelected_of_ne_nil (r := r) hreverse hfiles false
  rw [hrevert] at hexec
  obtain ⟨rfl, hreverts⟩ := revertSelected_returned hfiles hexec
  obtain ⟨tracking', hget', -, hrows⟩ := hreverts.table (by rwa [hsame]) hget htracks
  rw [hreport] at hexec
  refine ⟨_, hexec, hback, ?_⟩
  have hreverted : (records.reverse.map (·.migration)).filter files.contains =
      (selected.map (·.1)).reverse := congrArg RollbackResult.rolledBack hreport
  rw [Session.store_journaled] at hget'
  rw [Session.store_journaled, Store.rows_of_get? hget', hrows]
  refine List.filter_congr fun row _ => ?_
  rw [hreverted, List.contains_reverse, List.contains_eq_mem, decide_not]

/-- A rollback right after a run takes back all that the run did, if each migration is undone by its
second program, on all tables but the tracking table and in whether a transaction is open, and if
neither program touches the tracking table. -/
theorem rollback_inverts_run {result : RunResult} {s₁ : Session}
    (hs : Tracking.Tracked r.config.table s.store) (hkeeps : r.KeepsTracking s.files)
    (hundoes : r.Undoes s.files (Store.Agrees r.config.table)) (hreal : o.pretend = false)
    (hseed : o.seed = false) (hrun : (r.run o).exec s = (.ok result, s₁))
    (hmigrated : result.migrated ≠ []) :
    ∃ s₂, (r.rollback {}).exec s₁ = (.ok { rolledBack := result.migrated.reverse }, s₂) ∧
      Store.Agrees r.config.table s.store s₂.store ∧
      s₂.store.rows r.config.table = s.store.rows r.config.table := by
  obtain ⟨batch, selected, u, v, locks, hannounced, hannounce, happly, hnames, hfiles₁, hstore₁,
    hfree⟩ := run_eq_ok hreal hseed (fun _ => hs.tracks) hrun hmigrated
  have hne : selected ≠ [] := by
    rw [hnames] at hmigrated
    exact fun hnone => hmigrated (by rw [hnone]; rfl)
  obtain ⟨found, hfound, hmem⟩ := mem_files_of_announce hannounce
  obtain ⟨hbegun, hrows, hfeatures⟩ := announce_agrees r o [] (r.locked s)
  rw [hannounce] at hbegun hrows hfeatures
  have hfilesu : u.files = s.files := by rw [hannounced.files, files_locked]
  rw [files_locked, ← hfilesu] at hfound
  rw [← hfilesu] at hkeeps hundoes
  have hfeaturesv : v.store.features = u.store.features := by
    rw [← features_applyAll r batch selected u, happly]
  obtain ⟨tracking, added, hget, htracks, hadded, hrecords, htargets⟩ :=
    hannounced.targets hkeeps hne happly
  have htables₁ : s₁.store.tables = v.store.tables := by rw [hstore₁]
  have hfeatures₁ : s₁.store.features = v.store.features := by rw [hstore₁]; rfl
  have hget₁ : s₁.store.tables.get? r.config.table = some tracking := by rwa [htables₁]
  have hfree₁ : r.IsFree s₁.store := by
    apply hfree
    rw [features_locked] at hfeatures
    exact congrArg Prod.snd (hfeaturesv.trans hfeatures)
  obtain ⟨locks', hrollback⟩ := exec_rollback_of_targets (o := {}) hfree₁
    (Store.hasTable_eq_true.2 ⟨tracking, hget₁⟩) ((rollbackTargets_congr htables₁).trans htargets)
  obtain ⟨w, hrevert, hback, hleft⟩ := exec_revertSelected_of_applyAll (w := r.locked s₁) hkeeps
    hundoes hfound hmem hne hrecords happly
    (by rw [files_locked, hfiles₁, ← files_applyAll r batch selected u, happly])
    (by rw [features_locked, hfeatures₁, hfeaturesv]) (by rwa [tables_locked]) htracks
    (Store.agrees_of_eq (by rw [tables_locked, htables₁]) (by rw [snapshot_locked, hstore₁]))
  rw [hrevert] at hrollback
  rw [hnames]
  refine ⟨_, hrollback, ?_, ?_⟩
  · have hlocked : Store.Agrees r.config.table s.store (r.locked s).store :=
      Store.agrees_of_eq (tables_locked r s) (snapshot_locked r s)
    exact ((hlocked.trans hbegun).trans hback).trans (Store.agrees_of_eq rfl rfl)
  · -- The rows that were there are of other migrations, and the others are of the selected ones.
    have hearlier : (u.store.rows r.config.table).filter (fun row =>
        (Record.ofRow row).migration ∉ selected.map (·.1)) = u.store.rows r.config.table := by
      refine List.filter_eq_self.2 fun row hrow => decide_eq_true fun hselected => ?_
      obtain ⟨file, hfile, heq⟩ := List.mem_map.1 hselected
      exact hannounced.pending file hfile _ (List.mem_map_of_mem hrow) heq.symm
    have hnew : added.filter (fun row =>
        (Record.ofRow row).migration ∉ selected.map (·.1)) = [] := by
      refine List.filter_eq_nil_iff.2 fun row hrow hother => of_decide_eq_true hother ?_
      rw [← hrecords]
      exact List.mem_map_of_mem (List.mem_map_of_mem hrow)
    have hrelocked : (w.relocked locks').store.rows r.config.table =
        w.store.rows r.config.table := rfl
    rw [hrelocked, hleft, hadded, List.filter_append, hearlier, hnew, List.append_nil, hrows]
    simp only [Store.rows, tables_locked]

/-- A run that creates a table, and the rollback after it, in a store with another table. -/
theorem created_table_is_dropped_again :
    let a : Migration :=
      { up := .request (.createTable "users" []), down := .request (.dropTable "users") }
    let r : Runner :=
      { config := { paths := ["m"], table := "t" }, migrations := Dict.ofList [("a", a)] }
    let s : Session := {
      store := { tables := Dict.ofList [("logs", { columns := [] })] }
      files := { nodes := [(["m"], .directory), (["m", "a.rs"], .file [])] } }
    let s₁ := ((r.run {}).exec s).2
    Tracking.Tracked "t" s.store ∧ r.KeepsTracking s.files ∧
      r.Undoes s.files (Store.Agrees "t") ∧
      (r.run {}).exec s = (.ok { batch := some 1, migrated := ["a"], pretend := false }, s₁) ∧
      s₁.store.listTables = ["logs", "t", "users"] ∧
      ∃ s₂, (r.rollback {}).exec s₁ = (.ok { rolledBack := ["a"] }, s₂) ∧
        Store.Agrees "t" s.store s₂.store ∧ s₂.store.rows "t" = [] := by
  intro a r s s₁
  have hruns : ((r.run {}).exec s).1 =
      .ok { batch := some 1, migrated := ["a"], pretend := false } ∧
      s₁.store.listTables = ["logs", "t", "users"] := by
    decide +kernel +revert
  obtain ⟨hresult, hlisted⟩ := hruns
  have hs : Tracking.Tracked "t" s.store := .inl (by decide +kernel +revert)
  have hbodies : r.BodiesRequest (Operation.Spares "t") := by
    apply BodiesRequest.of_ofList rfl
    intro entry h
    obtain rfl := List.mem_singleton.1 h
    exact ⟨Program.requests_request ⟨by decide, rfl⟩, Program.requests_request ⟨by decide, rfl⟩⟩
  have hundoes : r.Undoes s.files (Store.Agrees "t") := by
    intro files hfiles file hfile m hload
    have hfound : Discovery.discover r.config s.files = .ok (Dict.ofList [("a", "m/a.rs")]) := by
      cbv
    obtain rfl := Except.ok.inj (hfound.symm.trans hfiles)
    obtain rfl : file = ("a", "m/a.rs") := List.mem_singleton.1 hfile
    have hloaded : Discovery.load r.migrations "m/a.rs" s.files = .ok a := by cbv
    obtain rfl := Except.ok.inj (hloaded.symm.trans hload)
    exact (Migration.isUndone_createTable (by decide) [] _).agrees (Program.requests_request rfl)
      (Program.requests_request rfl)
  have hrun : (r.run {}).exec s =
      (.ok { batch := some 1, migrated := ["a"], pretend := false }, s₁) := Prod.ext hresult rfl
  exact ⟨hs, hbodies.keepsTracking _, hundoes, hrun, hlisted,
    rollback_inverts_run hs (hbodies.keepsTracking _) hundoes rfl rfl hrun (List.cons_ne_nil _ _)⟩

/-- A program that opens a transaction and leaves it open does nothing to tables, and nothing takes
it back. But then the migration before it cannot be reverted, which needs a transaction of its own.
-/
theorem open_transaction_blocks_rollback :
    let a : Migration :=
      { up := .request (.createTable "users" []), down := .request (.dropTable "users") }
    let b : Migration := {
      up := (Program.request .begin).bind fun _ => .pure ()
      down := .pure ()
      transactional := false }
    let r : Runner := {
      config := { paths := ["m", "n"], table := "t" }
      migrations := Dict.ofList [("a", a), ("b", b)] }
    let nodes := [(["m"], .directory), (["m", "a.rs"], .file []), (["n"], .directory),
      (["n", "b.rs"], .file [])]
    let s : Session := { files := { nodes } }
    let s₁ := ((r.run {}).exec s).2
    Tracking.Tracked "t" s.store ∧ r.KeepsTracking s.files ∧
      r.Undoes s.files (Store.SameTables "t") ∧
      (r.run {}).exec s = (.ok { batch := some 1, migrated := ["a", "b"], pretend := false }, s₁) ∧
      ((r.rollback {}).exec s₁).1 =
        .error (.failed (.execution "a" (.adapter .transactionActive))) := by
  intro a b r nodes s s₁
  let records := Tracking.recorded "t" s₁.store
  have hruns : r.IsFree s₁.store ∧ s₁.store.hasTable "t" = true ∧
      ((r.run {}).exec s).1 =
        .ok { batch := some 1, migrated := ["a", "b"], pretend := false } ∧
      (records.reverse.Pairwise fun a b => b.migration < a.migration) ∧
      records.filter (({} : RollbackOptions).selects records) = records ∧
      ((r.revertSelected false records.reverse).exec (r.locked s₁)).1 =
        .error (.failed (.execution "a" (.adapter .transactionActive))) := by
    decide +kernel +revert
  obtain ⟨hfree, htable, hresult, hdescending, hselects, hreverts⟩ := hruns
  have hs : Tracking.Tracked "t" s.store := .inl rfl
  have hbodies : r.BodiesRequest fun op => op.Spares "t" ∨ op = .begin := by
    apply BodiesRequest.of_ofList rfl
    intro entry h
    obtain rfl | rfl : entry = ("a", a) ∨ entry = ("b", b) := by simpa using h
    · exact ⟨Program.requests_request (.inl ⟨by decide, rfl⟩),
        Program.requests_request (.inl ⟨by decide, rfl⟩)⟩
    · exact ⟨.bind (Program.requests_request (.inr rfl)) fun _ => trivial, trivial⟩
  have hwritten : r.BodiesRequest (·.writes "t" = false) := by
    intro name m hget direction
    refine (hbodies name m hget direction).mono fun op hop => ?_
    rcases hop with hop | rfl
    · exact hop.writes
    · rfl
  have hkeeps : r.KeepsTracking s.files := by
    refine hbodies.keepsTracking_of (fun _ => .inl ⟨rfl, rfl⟩) ?_ s.files
    rintro op (hop | rfl) v answer v' hmade
    · exact (Store.perform_spares hop hmade).1
    · rw [Store.tables_of_begin hmade]
  have hundoes : r.Undoes s.files (Store.SameTables "t") := by
    intro files hfiles file hfile m hload
    have hfound : Discovery.discover r.config s.files =
        .ok (Dict.ofList [("a", "m/a.rs"), ("b", "n/b.rs")]) := by cbv
    obtain rfl := Except.ok.inj (hfound.symm.trans hfiles)
    obtain rfl | hfile := List.mem_cons.1 hfile
    · have hloaded : Discovery.load r.migrations "m/a.rs" s.files = .ok a := by cbv
      obtain rfl := Except.ok.inj (hloaded.symm.trans hload)
      exact Migration.isUndone_createTable (by decide) [] _
    · obtain rfl := List.mem_singleton.1 hfile
      have hloaded : Discovery.load r.migrations "n/b.rs" s.files = .ok b := by cbv
      obtain rfl := Except.ok.inj (hloaded.symm.trans hload)
      have hup : b.up.Requests (· = .begin) :=
        .bind (Program.requests_request rfl) fun _ => trivial
      exact Migration.isUndone_of_begin hup rfl _
  have hreached : Tracking.Tracked "t" s₁.store := by
    have hcall := Tracking.Reached.call s r (.run {}) (Tracking.reached_empty "t") rfl hwritten
      (.of_empty rfl)
    rw [call, Action.exec_map] at hcall
    exact .inr hcall
  obtain ⟨tracking, hget⟩ := Store.hasTable_eq_true.1 htable
  have htargets := rollbackTargets_of_descending (o := {}) hget (hreached.tracks hget) rfl
    ((List.reverse_perm _).trans (by rw [hselects])) hdescending
  obtain ⟨locks, hrollback⟩ := exec_rollback_of_targets hfree htable htargets
  refine ⟨hs, hkeeps, hundoes, Prod.ext hresult rfl, ?_⟩
  rw [hrollback]
  exact hreverts

end Runner

end SchemaMigration
