import SchemaMigration.Proofs.Runner.Rollback

/-!
# Resets

A reset reverts as many batches as the number of the last one. Batches are numbered from 1, so these
are all batches, whatever gaps there are, and a reset is a rollback from the first batch on. Of the
records it leaves those that have no file, unless a program takes back a transaction and with it the
removal of a record.
-/

namespace SchemaMigration

namespace Runner

variable {r : Runner} {s s' : Session}

/-- Reverting all records leaves those without a file. -/
theorem RevertsAll.recorded_of_perm {f : Files} {files : Dict String} {targets : List Record}
    {store store' : Store} (hkeeps : r.KeepsTracking f)
    (htracks : ∀ t, store.tables.get? r.config.table = some t → t.Tracks)
    (hperm : targets.Perm (Tracking.recorded r.config.table store))
    (h : RevertsAll r f files targets store store') :
    Tracking.recorded r.config.table store' =
      (Tracking.recorded r.config.table store).filter fun record =>
        files.contains record.migration = false := by
  cases hget : store.tables.get? r.config.table with
  | none =>
    have hnone : Tracking.recorded r.config.table store = [] := by
      simp [Tracking.recorded, Store.rows, hget]
    rw [hnone] at hperm ⊢
    obtain rfl := hperm.eq_nil
    cases h
    exact hnone
  | some tracking =>
    obtain ⟨tracking', hget', -, hrows⟩ := h.table hkeeps hget (htracks _ hget)
    rw [Tracking.recorded_of_get? hget', hrows]
    rw [Tracking.recorded_of_get? hget] at hperm ⊢
    rw [List.filter_map (f := Record.ofRow)]
    refine congrArg _ (List.filter_congr fun row hrow => ?_)
    have hmem : (Record.ofRow row).migration ∈ targets.map (·.migration) :=
      List.mem_map_of_mem (hperm.mem_iff.2 (List.mem_map_of_mem hrow))
    rw [Bool.eq_iff_iff]
    simp [hmem]

/-- A reset that returned has reverted all records that have a file. -/
theorem recorded_of_reset (hkeeps : r.KeepsTracking s.files) {report : RollbackResult}
    (htracks : ∀ t, s.store.tables.get? r.config.table = some t → t.Tracks)
    (h : (r.reset false).exec s = (.ok report, s')) :
    match Discovery.discover r.config s.files with
    | .ok files => Tracking.recorded r.config.table s'.store =
        (Tracking.recorded r.config.table s.store).filter fun record =>
          files.contains record.migration = false
    | .error _ => Tracking.recorded r.config.table s'.store = [] := by
  have hsame : Tracking.recorded r.config.table (r.locked s).store =
      Tracking.recorded r.config.table s.store := Tracking.recorded_congr (by rw [tables_locked])
  by_cases hfree : r.IsFree s.store
  · obtain ⟨locks, hlocks⟩ := exec_withLock_of_isFree hfree (r.resetRecords false)
    obtain ⟨targets, hperm, hreset⟩ :=
      exec_resetRecords_eq_revertSelected (r := r) (s := r.locked s) (by rwa [tables_locked])
    rw [hreset false _ rfl] at hlocks
    cases hrevert : (r.revertSelected false targets).exec (r.locked s) with
    | mk result u =>
      rw [reset, hlocks, hrevert] at h
      obtain ⟨rfl, rfl⟩ := Prod.mk.inj h
      cases hfiles : Discovery.discover r.config s.files with
      | ok files =>
        obtain ⟨-, hreverts⟩ := revertSelected_returned (by rwa [files_locked]) hrevert
        rw [files_locked] at hreverts
        have hleft := hreverts.recorded_of_perm hkeeps (by rwa [tables_locked]) hperm
        rw [hsame] at hleft
        exact hleft
      | error e =>
        rw [exec_revertSelected_of_error (by rwa [files_locked])] at hrevert
        cases targets with
        | nil =>
          rw [List.isEmpty_nil, if_pos rfl, exec_nothingToRollBack] at hrevert
          obtain ⟨-, rfl⟩ := Prod.mk.inj hrevert
          exact hperm.nil_eq.symm
        | cons first rest => cases hrevert
  · rw [reset, exec_withLock_of_not_isFree hfree] at h
    cases h

/-- Whatever runners and the operations of tracking tables made of a store, and whatever batches are
recorded in it: a reset goes as a rollback from the first batch on does, with the same result, the
same events and the same store. If it returns and no program touches the tracking table, it leaves
only records without a file, and none if all of them have one. -/
theorem reset_covers_everything (hs : Tracking.Tracked r.config.table s.store) :
    (∀ pretend, (r.reset pretend).exec s = (r.rollback { batch := some 1, pretend }).exec s) ∧
      ∀ report s', r.KeepsTracking s.files → (r.reset false).exec s = (.ok report, s') →
        match Discovery.discover r.config s.files with
        | .ok files =>
          Tracking.recorded r.config.table s'.store =
              (Tracking.recorded r.config.table s.store).filter (fun record =>
                files.contains record.migration = false) ∧
            ((∀ record ∈ Tracking.recorded r.config.table s.store,
              files.contains record.migration = true) →
                Tracking.recorded r.config.table s'.store = [])
        | .error _ => Tracking.recorded r.config.table s'.store = [] := by
  have htracks : ∀ t, s.store.tables.get? r.config.table = some t → t.Tracks := fun _ => hs.tracks
  constructor
  · intro pretend
    apply exec_withLock_congr
    exact exec_resetRecords_of_tracks (by rwa [tables_locked]) pretend
  · intro report s' hkeeps h
    have hleft := recorded_of_reset hkeeps htracks h
    cases hfiles : Discovery.discover r.config s.files with
    | error e =>
      rw [hfiles] at hleft
      exact hleft
    | ok files =>
      rw [hfiles] at hleft
      refine ⟨hleft, fun hall => ?_⟩
      rw [hleft, List.filter_eq_nil_iff]
      intro record hr
      simp [hall record hr]

/-- A reset of one record in the third batch, without any in the first two. -/
theorem reset_of_third_batch :
    let a : Migration := { up := .pure (), down := .pure () }
    let r : Runner :=
      { config := { paths := ["m"], table := "t" }, migrations := Dict.ofList [("a", a)] }
    let empty : Table := { columns := (Tracking.blueprint "t").columns }
    let record : Record := { migration := "a", batch := 3 }
    let s : Session := {
      store := (({} : Store).withTable "t" empty).withTable "t"
        (empty.append (record.numbered 1) 2)
      files := { nodes := [(["m"], .directory), (["m", "a.rs"], .file [])] } }
    let after := ((r.reset false).exec s).2
    Tracking.Tracked "t" s.store ∧ r.KeepsTracking s.files ∧
      Discovery.discover r.config s.files = .ok (Dict.ofList [("a", "m/a.rs")]) ∧
      (Tracking.recorded "t" s.store).map (·.batch) = [3] ∧
      (r.reset false).exec s = (.ok { rolledBack := ["a"] }, after) ∧
      (r.reset true).exec s = (r.rollback { batch := some 1, pretend := true }).exec s ∧
      Tracking.recorded "t" after.store = [] := by
  intro a r empty record s after
  have hruns : (Tracking.recorded "t" s.store).map (·.batch) = [3] ∧
      ((r.reset false).exec s).1 = .ok { rolledBack := ["a"] } ∧
      ∀ record ∈ Tracking.recorded "t" s.store,
        (Dict.ofList [("a", "m/a.rs")]).contains record.migration = true := by
    decide +kernel +revert
  obtain ⟨hbatches, hresult, hall⟩ := hruns
  have hs : Tracking.Tracked "t" s.store := .inr (Tracking.reached_logged "t" (by decide))
  have hbodies : r.BodiesRequest (Operation.Spares "t") :=
    .of_ofList rfl (by simp [a, Program.Requests])
  have hkeeps : r.KeepsTracking s.files := hbodies.keepsTracking s.files
  have hfiles : Discovery.discover r.config s.files = .ok (Dict.ofList [("a", "m/a.rs")]) := by cbv
  obtain ⟨hsame, hleft⟩ := reset_covers_everything (r := r) hs
  have hreset : (r.reset false).exec s = (.ok { rolledBack := ["a"] }, after) :=
    Prod.ext hresult rfl
  have hafter := hleft _ _ hkeeps hreset
  rw [hfiles] at hafter
  exact ⟨hs, hkeeps, hfiles, hbatches, hreset, hsame true, hafter.2 hall⟩

/-- If one program for reverting opens a transaction and the next takes it back, a reset may leave a
record: what the first migration was recorded with is there again, though it was reverted. -/
theorem reset_may_leave_record :
    let a : Migration := {
      up := .pure ()
      down := (Program.request .rollback).bind fun _ => .pure ()
      transactional := false }
    let b : Migration := {
      up := .pure ()
      down := (Program.request .begin).bind fun _ => .pure ()
      transactional := false }
    let r : Runner := {
      config := { paths := ["m", "n"], table := "t" }
      migrations := Dict.ofList [("a", a), ("b", b)] }
    let nodes : List (List String × Node) :=
      [(["m"], .directory), (["n"], .directory), (["m", "a.rs"], .file []), (["n", "b.rs"], .file [])]
    let s : Session := ((r.call (.run {})).exec { files := { nodes } }).2
    let reset := (r.reset false).exec s
    Tracking.Reached "t" s.store ∧ r.BodiesRequest (·.writes "t" = false) ∧
      Discovery.discover r.config s.files = .ok (Dict.ofList [("a", "m/a.rs"), ("b", "n/b.rs")]) ∧
      (Tracking.recorded "t" s.store).map (·.migration) = ["a", "b"] ∧
      reset.1 = .ok { rolledBack := ["b", "a"] } ∧
      (Tracking.recorded "t" reset.2.store).map (·.migration) = ["b"] := by
  intro a b r nodes s reset
  let records := Tracking.recorded "t" s.store
  let reverted := (r.revertSelected false records.reverse).exec s
  have hruns : s.store.hasTable "t" = true ∧ records.map (·.migration) = ["a", "b"] ∧
      (records.reverse.Pairwise fun a b => b.migration < a.migration) ∧
      records.filter (({ batch := some 1 } : RollbackOptions).selects records) = records ∧
      reverted.1 = .ok { rolledBack := ["b", "a"] } ∧
      (Tracking.recorded "t" reverted.2.store).map (·.migration) = ["b"] := by
    decide +kernel +revert
  obtain ⟨htable, hrecords, hdescending, hselects, hresult, hleft⟩ := hruns
  have hbodies : r.BodiesRequest (·.writes "t" = false) := by
    apply BodiesRequest.of_ofList rfl
    intro entry h
    obtain rfl | rfl : entry = ("a", a) ∨ entry = ("b", b) := by simpa using h
    · exact ⟨trivial, .bind (Program.requests_request rfl) fun _ => trivial⟩
    · exact ⟨trivial, .bind (Program.requests_request rfl) fun _ => trivial⟩
  have hreached : Tracking.Reached "t" s.store :=
    (Tracking.reached_empty "t").call _ r (.run {}) rfl hbodies (.of_empty rfl)
  have hkept : s.files = { nodes } := files_call r (.run {}) _
  have hfiles : Discovery.discover r.config s.files =
      .ok (Dict.ofList [("a", "m/a.rs"), ("b", "n/b.rs")]) := by
    rw [hkept]
    cbv
  obtain ⟨tracking, hget⟩ := Store.hasTable_eq_true.1 htable
  have hexec : reset = reverted := calc
    reset = (r.rollback { batch := some 1 }).exec s :=
      exec_withLock_congr (exec_resetRecords_of_tracks
        (by rw [tables_locked]; exact hreached.kept.tables) false)
    _ = reverted := exec_rollback_of_unlocked rfl hget (hreached.kept.tables tracking hget) rfl
      ((List.reverse_perm _).trans (by rw [hselects])) hdescending
  rw [hexec]
  exact ⟨hreached, hbodies, hfiles, hrecords, hresult, hleft⟩

end Runner

end SchemaMigration
