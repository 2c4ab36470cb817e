import Mathlib
import SchemaMigration.Proofs.Runner.Foretelling
import SchemaMigration.Proofs.Runner.Fresh
import SchemaMigration.Proofs.Runner.Lock
import SchemaMigration.Proofs.Runner.Pending
import SchemaMigration.Proofs.Runner.Pretence

/-!
# Pretences predict

If a call succeeds then so does its pretence, with the same report and the same events but for the
times. The pretence of `refresh` and `fresh` passes over the records that a real call would have
deleted, and so it finds the same files due under the same number.
-/

namespace SchemaMigration

namespace Runner

variable {r : Runner} {s u s' : Session}

/-- A run succeeds only if all files are found and all names are known. -/
theorem runPending_known {o : RunOptions} {reverted : List String} {result : RunResult}
    (h : (r.runPending o reverted).exec s = (.ok result, s')) :
    ∃ files, Discovery.discover r.config s.files = .ok files ∧ unknown? o files = none := by
  rw [runPending_eq] at h
  obtain ⟨⟨⟩, s₁, hcheck, h⟩ := Action.exec_bind_eq_ok.1 h
  obtain ⟨read, s₂, hread, h⟩ := Action.exec_bind_eq_ok.1 h
  obtain ⟨files, s₃, hfiles, -⟩ := Action.exec_bind_eq_ok.1 h
  have hs₁ : s₁ = s := by
    have hsame := preserves_checkNames (I := (· = s)) r o s rfl
    rwa [hcheck] at hsame
  have hs₂ : s₂.files = s₁.files := by
    rcases hpretend : o.pretend with _ | _
    · obtain ⟨prepared, tracking, read', -, -, -, -, hread', -⟩ := exec_recordsForRun_false r s₁
      rw [hpretend, hread'] at hread
      rw [← (Prod.mk.inj hread).2]
    · obtain ⟨read', hread', -⟩ := exec_currentRecords r s₁
      rw [hpretend, recordsForRun_true, hread'] at hread
      rw [← (Prod.mk.inj hread).2]
  obtain ⟨hfiles, -⟩ := files_eq_ok.1 hfiles
  rw [hs₂, hs₁] at hfiles
  refine ⟨files, hfiles, ?_⟩
  rw [exec_checkNames hfiles] at hcheck
  rcases hunknown : unknown? o files with _ | name
  · rfl
  · rw [hunknown] at hcheck
    cases hcheck

/-- What is left in a session when records were really reverted. -/
structure Reverted (r : Runner) (report : RollbackResult) (s s' : Session) : Prop where
  files : s'.files = s.files
  tracks : ∀ t, s'.store.tables.get? r.config.table = some t → t.Tracks
  recorded : Tracking.recorded r.config.table s'.store =
    (Tracking.recorded r.config.table s.store).filter fun record =>
      !report.rolledBack.contains record.migration

variable {report : RollbackResult}

theorem Reverted.of_nothing (htracks : ∀ t, s.store.tables.get? r.config.table = some t → t.Tracks)
    (pretend : Bool) (entries : List Entry) :
    r.Reverted { pretend } s (s.journaled entries) where
  files := rfl
  tracks := htracks
  recorded := (List.filter_eq_self.2 fun _ _ => rfl).symm

section

variable (hbodies : r.BodiesRequest (Operation.Spares r.config.table))

include hbodies

theorem revertSelected_reverted {tracking : Table} {files : Dict String} {records : List Record}
    (hget : s.store.tables.get? r.config.table = some tracking) (htracks : tracking.Tracks)
    (hfiles : Discovery.discover r.config s.files = .ok files)
    (h : (r.revertSelected false records).exec s = (.ok report, s')) :
    r.Reverted report s s' := by
  obtain ⟨result, s₁, hexec, hfiles', hresult⟩ :=
    exec_revertSelected hbodies hget htracks records hfiles
  obtain ⟨rfl, rfl⟩ := Prod.mk.inj (hexec.symm.trans h)
  obtain ⟨-, tracking', hget', htracks', hrows⟩ := hresult
  refine ⟨hfiles', Tracking.tracks_of_get? hget' htracks', ?_⟩
  rw [Tracking.recorded_of_get? hget', Tracking.recorded_of_get? hget, hrows, List.filter_map]
  rfl

/-- If chosen records are reverted, the pretence of it reports the same and tells the same. -/
theorem revertSelected_foretold {records : List Record}
    (htracks : ∀ t, s.store.tables.get? r.config.table = some t → t.Tracks)
    (htable : records ≠ [] → ∃ tracking, s.store.tables.get? r.config.table = some tracking)
    (halike : s.Alike u) (h : (r.revertSelected false records).exec s = (.ok report, s')) :
    r.Reverted report s s' ∧
      (r.revertSelected true records).Foretells u { report with pretend := true } s' := by
  rcases records with _ | ⟨record, rest⟩
  · have hnothing := (exec_nothingToRollBack r false s).symm.trans h
    cases hnothing
    exact ⟨.of_nothing htracks false _, _, exec_nothingToRollBack r true u, halike.journaled rfl,
      rfl⟩
  · have hne : record :: rest ≠ [] := List.cons_ne_nil _ _
    obtain ⟨tracking, hget⟩ := htable hne
    obtain ⟨files, s₁, hfiles, -⟩ := Action.exec_bind_eq_ok.1 h
    obtain ⟨hfiles, rfl⟩ := files_eq_ok.1 hfiles
    refine ⟨revertSelected_reverted hbodies hget (htracks _ hget) hfiles h, ?_⟩
    rw [exec_revertSelected_of_ne_nil hne hfiles] at h
    have hpretended :=
      exec_revertSelected_of_ne_nil (s := u) hne (by rw [halike.files, hfiles]) true
    rcases hrevert : (r.revertAll files false (record :: rest)).exec _ with ⟨fault | done, s₂⟩
    · rw [hrevert] at h
      cases h
    · rw [hrevert] at h
      obtain ⟨u₁, hrevert', halike', hstore⟩ := revertAll_foretold hbodies hget (htracks _ hget)
        (s := s₁.journaled (r.announcement
          (.rollbackStarted ((record :: rest).map (·.migration)) false) s₁.store))
        (u := u.journaled (r.announcement
          (.rollbackStarted ((record :: rest).map (·.migration)) true) u.store))
        (halike.announced r (by rfl) _ _) (record :: rest) hrevert
      rw [hrevert'] at hpretended
      cases h
      exact ⟨_, hpretended, halike'.announced r (by rfl) _ _, hstore⟩

/-- If records are reverted, the pretence of it reports the same and tells the same. -/
theorem rollbackRecords_foretold
    (htracks : ∀ t, s.store.tables.get? r.config.table = some t → t.Tracks) (halike : s.Alike u)
    (hstore : u.store = s.store) {o : RollbackOptions} (hreal : o.pretend = false)
    (h : (r.rollbackRecords o).exec s = (.ok report, s')) :
    r.Reverted report s s' ∧ (r.rollbackRecords { o with pretend := true }).Foretells u
      { report with pretend := true } s' := by
  rcases hget : s.store.tables.get? r.config.table with _ | tracking
  · rw [exec_rollbackRecords_of_no_table hget, hreal] at h
    cases h
    have hpretended := exec_rollbackRecords_of_no_table (s := u) (by rw [hstore, hget])
      { o with pretend := true }
    exact ⟨.of_nothing htracks false _, _, hpretended, halike.journaled rfl, rfl⟩
  · have htargets : rollbackTargets r.config.table { o with pretend := true } u.store =
        rollbackTargets r.config.table o s.store := by
      rw [hstore]
      rfl
    have hpretended := exec_rollbackRecords (s := u) (by rw [hstore, hget])
      { o with pretend := true }
    rw [exec_rollbackRecords hget, hreal] at h
    rw [htargets] at hpretended
    rcases htarget : rollbackTargets r.config.table o s.store with fault | records
    · rw [htarget] at h
      cases h
    · rw [htarget] at h hpretended
      obtain ⟨hreverted, u', hselected, halike', hstore'⟩ :=
        revertSelected_foretold hbodies htracks (fun _ => ⟨tracking, hget⟩) halike h
      exact ⟨hreverted, u', hpretended.trans hselected, halike', hstore'⟩

theorem resetRecords_foretold
    (htracks : ∀ t, s.store.tables.get? r.config.table = some t → t.Tracks) (halike : s.Alike u)
    (hstore : u.store = s.store) (h : (r.resetRecords false).exec s = (.ok report, s')) :
    r.Reverted report s s' ∧
      (r.resetRecords true).Foretells u { report with pretend := true } s' := by
  obtain ⟨targets, hperm, hreset⟩ := exec_resetRecords_eq_revertSelected htracks
  rw [hreset false s rfl] at h
  rw [Action.Foretells, hreset true u hstore]
  refine revertSelected_foretold hbodies htracks (fun hne => ?_) halike h
  obtain ⟨record, hrecord⟩ := List.exists_mem_of_ne_nil _ hne
  obtain ⟨tracking, hget, -⟩ := Tracking.mem_recorded.1 (hperm.mem_iff.1 hrecord)
  exact ⟨tracking, hget⟩

/-- If what is pending is applied, the pretence of it reports the same and tells the same. -/
theorem applyPending_foretold {tracking : Table} {o : RunOptions} {files : Dict String}
    {read records : List Record} {result : RunResult}
    (hget : s.store.tables.get? r.config.table = some tracking) (htracks : tracking.Tracks)
    (hread : ∀ record, record ∈ read ↔ record ∈ records)
    (hpos : ∀ record ∈ records, 1 ≤ record.batch.toInt)
    (halike : s.Alike u) (hreal : o.pretend = false)
    (h : (r.applyPending o files read).exec s = (.ok result, s')) :
    (r.applyPending { o with pretend := true } files records).Foretells u
      { result with pretend := true } s' := by
  have hselected : selectFiles o (pendingFiles files read) = due o files records :=
    selectFiles_pendingFiles o hread
  have hselected' : selectFiles { o with pretend := true } (pendingFiles files records) =
      due o files records := selectFiles_pendingFiles _ fun _ => Iff.rfl
  by_cases hdue : due o files records = []
  · rw [hdue] at hselected hselected'
    rw [exec_applyPending_of_nil hselected] at h
    cases h
    exact ⟨_, exec_applyPending_of_nil hselected', halike.journaled rfl, rfl⟩
  · obtain ⟨batch, hbatch⟩ : ∃ batch, Tracking.following (greatestBatch read) = .ok batch := by
      have hempty : (selectFiles o (pendingFiles files read)).isEmpty = false := by
        simpa [hselected] using hdue
      rcases hfollowing : Tracking.following (greatestBatch read) with fault | batch
      · simp [applyPending, hempty, hfollowing] at h
      · exact ⟨batch, rfl⟩
    have hbatch' : Tracking.following (greatestBatch records) = .ok batch :=
      greatestBatch_congr hread hpos ▸ hbatch
    have hb := one_le_following hpos hbatch'
    have hpretended := exec_applyPending_of_ne_nil (r := r) (s := u) hselected' hdue hbatch'
    rw [exec_applyPending_of_ne_nil hselected hdue hbatch, hreal] at h
    rcases happly : (r.applyAll batch false (due o files records)).exec _ with ⟨fault | ⟨⟩, s₁⟩
    · rw [happly] at h
      cases h
    · rw [happly] at h
      obtain ⟨u₁, happly', halike₁, hstore⟩ := applyAll_foretold hbodies hget htracks
        (s := s.journaled (r.announcement
          (.batchStarted batch ((due o files records).map (·.1)) false) s.store))
        (u := u.journaled (r.announcement
          (.batchStarted batch ((due o files records).map (·.1)) true) u.store))
        hb (halike.announced r (by rfl) _ _) _ happly
      simp only [happly', Bool.not_true, Bool.and_false, Bool.false_and, Bool.false_eq_true,
        if_false] at hpretended
      dsimp only at h
      split at h
      · rcases hseed : (r.seed none).exec _ with ⟨fault | ⟨⟩, s₂⟩
        · rw [hseed] at h
          cases h
        · rw [hseed] at h
          cases h
          exact ⟨_, hpretended, seed_alike hseed (halike₁.announced r (by rfl) _ _), hstore⟩
      · cases h
        exact ⟨_, hpretended, halike₁.announced r (by rfl) _ _, hstore⟩

/-- If a run succeeds, its pretence that takes the missing records as reverted succeeds too. -/
theorem runPending_foretold {o : RunOptions} {reverted : List String} {result : RunResult}
    (htracks : ∀ t, s.store.tables.get? r.config.table = some t → t.Tracks)
    (hleft : ∀ record, record ∈ Tracking.recorded r.config.table s.store ↔
      record ∈ Tracking.recorded r.config.table u.store ∧ record.migration ∉ reverted)
    (halike : s.Alike u) (hreal : o.pretend = false)
    (h : (r.runPending o []).exec s = (.ok result, s')) :
    (r.runPending { o with pretend := true } reverted).Foretells u { result with pretend := true }
      s' := by
  obtain ⟨files, hfiles, hknown⟩ := runPending_known h
  obtain ⟨prepared, tracking, read, -, hget, -, htracks', hread, hmem⟩ :=
    exec_recordsForRun_false r s
  obtain ⟨read', hread', hmem'⟩ := exec_currentRecords r u
  rw [← hreal] at hread
  rw [exec_runPending_of_known [] hfiles hknown hread rfl, filter_not_reverted_nil] at h
  have hpretended := exec_runPending_of_known (s := u) (o := { o with pretend := true }) reverted
    (by rw [halike.files, hfiles]) hknown hread' rfl
  have hsame (record : Record) : record ∈ read ↔
      record ∈ read'.filter fun record => !reverted.contains record.migration := by
    rw [hmem, hleft, List.mem_filter, hmem']
    simp
  have hpos (record : Record)
      (hr : record ∈ read'.filter fun record => !reverted.contains record.migration) :
      1 ≤ record.batch.toInt :=
    Tracking.one_le_batch_of_tracks htracks ((hmem record).1 ((hsame record).2 hr))
  obtain ⟨u', happly, halike', hstore⟩ := applyPending_foretold
    (s := { s with store := prepared }) hbodies hget (htracks' htracks) hsame hpos
    ⟨halike.files, halike.told⟩ hreal h
  exact ⟨u', hpretended.trans happly, halike', hstore⟩

/-- A real `fresh` starts without records, and its pretence passes over all that there are. -/
theorem freshPending_foretold {o : RunOptions} {result : RunResult} (hreal : o.pretend = false)
    (h : (r.freshPending o).exec s = (.ok result, s')) :
    (r.freshPending { o with pretend := true }).Foretells s { result with pretend := true } s' := by
  obtain ⟨mutations, hfresh⟩ := exec_freshPending_of_real (r := r) hreal s
  obtain ⟨reverted, hpretended, hall⟩ :=
    exec_freshPending_of_pretend (r := r) (o := { o with pretend := true }) rfl s
  rw [hfresh] at h
  have halike : (Session.journaled { s with store := { s.store with tables := ∅, mutations } }
      (r.printout "Dropped all tables successfully.")).Alike s :=
    (Session.Alike.refl s).append rfl rfl (Session.events_journaled _ _) (List.append_nil _).symm
      (by simp)
  obtain ⟨u', hrun, halike', hstore⟩ := runPending_foretold hbodies
    (fun t ht => by simp at ht)
    (fun record => by simpa [Tracking.recorded, Store.rows] using hall record) halike hreal h
  exact ⟨u', hpretended.trans hrun, halike', hstore⟩

/-- A real `refresh` deletes the records of what it reverts, and its pretence passes over them. -/
theorem refreshPending_foretold {o : RunOptions} {result : RunResult}
    (htracks : ∀ t, s.store.tables.get? r.config.table = some t → t.Tracks)
    (hreal : o.pretend = false) (h : (r.refreshPending o).exec s = (.ok result, s')) :
    (r.refreshPending { o with pretend := true }).Foretells s { result with pretend := true }
      s' := by
  obtain ⟨report, s₁, hreset, hrun⟩ := Action.exec_bind_eq_ok.1 h
  rw [hreal] at hreset hrun
  obtain ⟨hreverted, u₁, hreset', halike₁, hstore₁⟩ :=
    resetRecords_foretold hbodies htracks (.refl s) rfl hreset
  have hleft (record : Record) : record ∈ Tracking.recorded r.config.table s₁.store ↔
      record ∈ Tracking.recorded r.config.table u₁.store ∧
        record.migration ∉ report.rolledBack := by
    rw [hreverted.recorded, hstore₁, List.mem_filter]
    simp
  obtain ⟨u', hrun', halike', hstore'⟩ :=
    runPending_foretold hbodies hreverted.tracks hleft halike₁ hreal hrun
  exact ⟨u', Action.exec_bind_eq_ok.2 ⟨_, u₁, hreset', hrun'⟩, halike', hstore'.trans hstore₁⟩

end

/-- What an action foretells on the session with the lock, it foretells under the lock. -/
theorem withLock_foretold {α : Type} {a b : Action α} {x y : α}
    (h : (r.withLock a).exec s = (.ok x, s'))
    (hab : ∀ s₁, a.exec (r.locked s) = (.ok x, s₁) → b.Foretells (r.locked s) y s₁) :
    ∃ u', (r.withLock b).exec s = (.ok y, u') ∧ s'.Alike u' := by
  by_cases hfree : r.IsFree s.store
  · obtain ⟨locks, hreal⟩ := exec_withLock_of_isFree hfree a
    obtain ⟨locks', hpretended⟩ := exec_withLock_of_isFree hfree b
    obtain ⟨hx, rfl⟩ := Prod.mk.inj (hreal.symm.trans h)
    obtain ⟨u', hb, halike, -⟩ := hab _ (Prod.ext hx rfl)
    rw [hb] at hpretended
    exact ⟨_, hpretended, halike.files, halike.told⟩
  · rw [exec_withLock_of_not_isFree hfree] at h
    cases h

/-- If a call succeeds, its pretence succeeds with the same report. -/
theorem call_foretold {c : Command} {report : Report}
    (hbodies : r.BodiesRequest (Operation.Spares r.config.table))
    (htracks : ∀ t, s.store.tables.get? r.config.table = some t → t.Tracks)
    (hc : c.pretend = false) (h : (r.call c).exec s = (.ok report, s')) :
    ∃ u', (r.call c.pretence).exec s = (.ok report.pretence, u') ∧ s'.Alike u' := by
  have htracks' : ∀ t, (r.locked s).store.tables.get? r.config.table = some t → t.Tracks := by
    simpa using htracks
  have hleft (record : Record) : record ∈ Tracking.recorded r.config.table (r.locked s).store ↔
      record ∈ Tracking.recorded r.config.table (r.locked s).store ∧ record.migration ∉ [] := by
    simp
  cases c with
  | run o =>
    obtain ⟨result, hrun, rfl⟩ := Action.exec_map_eq_ok.1 h
    obtain ⟨u', hrun', halike⟩ := withLock_foretold hrun fun s₁ hs₁ =>
      runPending_foretold hbodies htracks' hleft (.refl _) hc hs₁
    exact ⟨u', Action.exec_map_eq_ok.2 ⟨_, hrun', rfl⟩, halike⟩
  | rollback o =>
    obtain ⟨result, hrun, rfl⟩ := Action.exec_map_eq_ok.1 h
    obtain ⟨u', hrun', halike⟩ := withLock_foretold hrun fun s₁ hs₁ =>
      (rollbackRecords_foretold hbodies htracks' (.refl _) rfl hc hs₁).2
    exact ⟨u', Action.exec_map_eq_ok.2 ⟨_, hrun', rfl⟩, halike⟩
  | reset pretend =>
    cases hc
    obtain ⟨result, hrun, rfl⟩ := Action.exec_map_eq_ok.1 h
    obtain ⟨u', hrun', halike⟩ := withLock_foretold hrun fun s₁ hs₁ =>
      (resetRecords_foretold hbodies htracks' (.refl _) rfl hs₁).2
    exact ⟨u', Action.exec_map_eq_ok.2 ⟨_, hrun', rfl⟩, halike⟩
  | refresh o =>
    obtain ⟨result, hrun, rfl⟩ := Action.exec_map_eq_ok.1 h
    obtain ⟨u', hrun', halike⟩ := withLock_foretold hrun fun s₁ hs₁ =>
      refreshPending_foretold hbodies htracks' hc hs₁
    exact ⟨u', Action.exec_map_eq_ok.2 ⟨_, hrun', rfl⟩, halike⟩
  | fresh o =>
    obtain ⟨result, hrun, rfl⟩ := Action.exec_map_eq_ok.1 h
    obtain ⟨u', hrun', halike⟩ := withLock_foretold hrun fun s₁ hs₁ =>
      freshPending_foretold hbodies hc hs₁
    exact ⟨u', Action.exec_map_eq_ok.2 ⟨_, hrun', rfl⟩, halike⟩

/-- Whatever a call does, it only adds to the events. -/
theorem events_prefix_call (r : Runner) (c : Command) (s : Session) :
    ∃ told, ((r.call c).exec s).2.events = s.events ++ told := by
  let I : Session → Prop := fun session => ∃ told, session.events = s.events ++ told
  have narrated (session : Session) (entries : List Entry) (hs : I session) :
      I (session.journaled entries) := by
    obtain ⟨told, htold⟩ := hs
    exact ⟨told ++ entries.filterMap Entry.event?, by simp [htold]⟩
  have hI : Session.IgnoresNarration I :=
    ⟨fun session entries _ hs => narrated session entries hs, fun _ _ hs => hs, fun _ _ hs => hs,
      fun _ _ _ hs => hs⟩
  have hreal : r.Sustains I :=
    ⟨⟨fun session _ _ hs => narrated session _ hs, fun _ _ _ _ hs => hs, fun _ _ hs _ => hs,
      fun _ _ hs _ => hs, fun _ _ hs _ => hs, fun _ _ hs _ => hs, fun _ _ _ _ hs _ => hs,
      fun _ _ _ _ hs _ => hs, fun _ _ _ hs _ => hs⟩, fun _ _ _ _ hs => hs⟩
  exact preserves_call r hI (fun _ => hreal) s ⟨[], (List.append_nil _).symm⟩

/-- If a call succeeds, then its pretence on the same session succeeds with the same report, and
emits the same events but for the pretence itself and the times. -/
theorem pretence_predicts {c : Command} {report : Report}
    (hs : Tracking.Tracked r.config.table s.store)
    (hbodies : r.BodiesRequest (Operation.Spares r.config.table)) (hc : c.pretend = false)
    (h : ((r.call c).exec s).1 = .ok report) :
    ((r.call c.pretence).exec s).1 = .ok report.pretence ∧
      ∃ real pretended, ((r.call c).exec s).2.events = s.events ++ real ∧
        ((r.call c.pretence).exec s).2.events = s.events ++ pretended ∧
        pretended.map Event.pretence = real.map Event.pretence := by
  obtain ⟨u', hpretended, halike⟩ :=
    call_foretold hbodies (fun _ ht => hs.tracks ht) hc (Prod.ext h rfl)
  obtain ⟨real, hreal⟩ := events_prefix_call r c s
  obtain ⟨pretended, htold⟩ := events_prefix_call r c.pretence s
  refine ⟨by rw [hpretended], real, pretended, hreal, htold, ?_⟩
  have hsame := halike.told
  rw [hpretended] at htold
  rw [Session.told, Session.told, htold, hreal, List.map_append, List.map_append] at hsame
  exact List.append_cancel_left hsame

/-- A rollback of one migration, in a store whose tracking table was created and written to. -/
theorem pretended_rollback_predicts :
    let a : Migration := { up := .pure (), down := .sleep 7 (.pure ()) }
    let r : Runner := { config := { paths := ["m"] }, migrations := Dict.ofList [("a", a)] }
    let record : Record := { migration := "a", batch := 1 }
    let empty : Table := { columns := (Tracking.blueprint r.config.table).columns }
    let start : Store := ({} : Store).withTable r.config.table empty
    let store := start.withTable r.config.table (empty.append (record.numbered 1) 2)
    let nodes := [(["m"], .directory), (["m", "a.rs"], .file [])]
    let s : Session := { store, files := { nodes } }
    Tracking.Tracked r.config.table s.store ∧
      r.BodiesRequest (Operation.Spares r.config.table) ∧
      ((r.call (.rollback {})).exec s).1 = .ok (.reverted { rolledBack := ["a"] }) ∧
      ((r.call (.rollback { pretend := true })).exec s).1 =
        .ok (.reverted { rolledBack := ["a"], pretend := true }) := by
  intro a r record empty start store nodes s
  have hs : Tracking.Tracked r.config.table s.store :=
    .inr (Tracking.reached_logged r.config.table (by decide : 1 ≤ record.batch.toInt))
  have hbodies : r.BodiesRequest (Operation.Spares r.config.table) := by
    refine .of_entries fun entry h => ?_
    obtain rfl : entry = ("a", a) := List.mem_singleton.1 h
    exact ⟨trivial, trivial⟩
  have hreal : ((r.call (.rollback {})).exec s).1 = .ok (.reverted { rolledBack := ["a"] }) := by
    have htargets : rollbackTargets r.config.table {} s.store =
        .ok [{ record with id := some 1 }] := by cbv
    have hselected : ((r.revertSelected false [{ record with id := some 1 }]).exec s).1 =
        .ok { rolledBack := ["a"] } := by cbv
    have hfree : r.IsFree s.store := by decide
    obtain ⟨locks, hlocks⟩ := exec_withLock_of_isFree hfree (r.rollbackRecords {})
    have hget : s.store.tables.get? r.config.table = some (empty.append (record.numbered 1) 2) :=
      Dict.get?_insert_self _ _ _
    have hrollback := exec_rollbackRecords hget {}
    rw [htargets] at hrollback
    rw [call, Action.exec_map, rollback, hlocks]
    have hlocked : r.locked s = s := rfl
    rw [hlocked, hrollback, hselected]
    rfl
  exact ⟨hs, hbodies, hreal, (pretence_predicts hs hbodies rfl hreal).1⟩

end Runner

end SchemaMigration
