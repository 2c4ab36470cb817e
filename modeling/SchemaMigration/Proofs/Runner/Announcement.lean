import SchemaMigration.Proofs.Runner.Batch
import SchemaMigration.Proofs.Runner.Invariant

/-!
# Announcements

A run first finds out what is due and announces it as a batch, and then it applies what it
announced. The number that it announces is that of the next batch, as the tracking table has it at
that moment, and it is greater than every number that is recorded then. All that the run does to the
tracking table is to add records under this number.
-/

namespace SchemaMigration

namespace Runner

/-- The part of a run up to its announcement: the batch and the files that are announced, if any are
due. -/
def announce (r : Runner) (o : RunOptions) (reverted : List String) :
    Action (Option (Int64 × List (String × String))) := do
  r.checkNames o
  let records := (← r.recordsForRun o.pretend).filter fun record =>
    !reverted.contains record.migration
  let selected := selectFiles o (pendingFiles (← r.files) records)
  if selected.isEmpty then return none
  else
    let batch ← Action.resume (Tracking.following (greatestBatch records))
    r.emit (.batchStarted batch (selected.map (·.1)) o.pretend)
    return some (batch, selected)

/-- The part of a run that follows its announcement. -/
def applyAnnounced (r : Runner) (o : RunOptions) :
    Option (Int64 × List (String × String)) → Action RunResult
  | none => do
    r.say "Nothing to migrate."
    return { batch := none, migrated := [], pretend := o.pretend }
  | some (batch, selected) => do
    let names := selected.map (·.1)
    r.applyAll batch o.pretend selected
    r.emit (.batchCompleted batch names o.pretend)
    if o.seed && !o.pretend && r.config.seedersPath.isSome then r.seed none
    return { batch := some batch, migrated := names, pretend := o.pretend }

theorem runPending_eq_announce (r : Runner) (o : RunOptions) (reverted : List String) :
    r.runPending o reverted = r.announce o reverted >>= r.applyAnnounced o := by
  simp only [runPending, announce, bind_assoc]
  refine bind_congr fun _ => bind_congr fun records => bind_congr fun files => ?_
  split
  · simp only [pure_bind]
    rfl
  · simp only [bind_assoc, pure_bind]
    rfl

/-- Up to its announcement, a run only narrates and makes sure of the tracking table. -/
theorem preserves_announce {I : Session → Prop} (r : Runner) (hI : r.Tolerates I)
    {o : RunOptions} (hensure : o.pretend = false → ∀ s store, I s →
      Tracking.ensure r.config.table s.store = .ok ((), store) → I { s with store })
    (reverted : List String) : (r.announce o reverted).Preserves I := by
  refine .bind (preserves_checkNames r o) fun _ => .bind (preserves_recordsForRun r hensure) ?_
  intro records
  refine .bind (Action.preserves_inspectFiles _) fun files =>
    .ite (fun _ => Action.preserves_pure _) fun _ => ?_
  exact .bind (Action.preserves_resume _) fun batch => .bind (hI.emit _) fun _ =>
    Action.preserves_pure _

/-- What holds when a real run announces a batch of files: the batch is the next one, greater than
all that are recorded, and no file is of a recorded migration. -/
structure Announced (table : String) (before u : Session) (batch : Int64)
    (selected : List (String × String)) : Prop where
  events : u.events = before.events ++ [.batchStarted batch (selected.map (·.1)) false]
  files : u.files = before.files
  tracks : ∃ t, u.store.tables.get? table = some t ∧ t.Tracks
  next : Tracking.nextBatch table u.store = .ok batch
  numbered : 1 ≤ batch.toInt
  greater : ∀ record ∈ Tracking.recorded table u.store, record.batch.toInt < batch.toInt
  pending : ∀ file ∈ selected, ∀ record ∈ Tracking.recorded table u.store,
    record.migration ≠ file.1
  ascending : Ascending selected

variable {r : Runner} {o : RunOptions} {s : Session}

theorem tables_runPending_of_pretend (hpretend : o.pretend = true) (reverted : List String)
    (s : Session) : ((r.runPending o reverted).exec s).2.store.tables = s.store.tables :=
  preserves_runPending r (tolerates (Session.ignoresNarration_tables s.store.tables) r) (by simp)
    hpretend reverted s rfl

/-- The number after the greatest one that is read is that of the next batch. -/
theorem nextBatch_of_following {table : String} {store : Store} {t : Table} {read : List Record}
    {batch : Int64} (hget : store.tables.get? table = some t) (htracks : t.Tracks)
    (hmem : ∀ record, record ∈ read ↔ record ∈ Tracking.recorded table store)
    (hbatch : Tracking.following (greatestBatch read) = .ok batch) :
    Tracking.nextBatch table store = .ok batch ∧
      batch.toInt = Tracking.lastNumber (Tracking.recorded table store) + 1 := by
  have hpos {record : Record} (hr : record ∈ read) : 1 ≤ record.batch.toInt :=
    Tracking.one_le_batch_of_tracks (Tracking.tracks_of_get? hget htracks) ((hmem record).1 hr)
  have hgreatest : (greatestBatch read).toInt =
      Tracking.lastNumber (Tracking.recorded table store) := by
    rw [toInt_greatestBatch fun _ => hpos, Tracking.lastNumber_congr hmem]
  obtain ⟨last, hlast, hvalue⟩ := Tracking.lastBatch_of_tracks hget htracks
  obtain rfl : last = greatestBatch read := Int64.toInt_inj.1 (hvalue.trans hgreatest.symm)
  constructor
  · simp only [Tracking.nextBatch, hlast]
    exact hbatch
  · cases hnext : successor? (greatestBatch read) with
    | none => simp [Tracking.following, hnext] at hbatch
    | some next =>
      simp only [Tracking.following, hnext, Except.ok.injEq] at hbatch
      rw [← hbatch, successor?_eq_some.1 hnext, hgreatest]

/-- If the files that are due are announced under the number of the next batch, all this holds. -/
theorem announced_of_due {table : String} {before u : Session} {t : Table} {read : List Record}
    {files : Dict String} {batch : Int64} {selected : List (String × String)}
    (hget : u.store.tables.get? table = some t) (htracks : t.Tracks)
    (hmem : ∀ record, record ∈ read ↔ record ∈ Tracking.recorded table u.store)
    (hbatch : Tracking.following (greatestBatch read) = .ok batch)
    (hdue : due o files (Tracking.recorded table u.store) = selected)
    (hevents : u.events = before.events ++ [.batchStarted batch (selected.map (·.1)) false])
    (hfiles : u.files = before.files) : Announced table before u batch selected := by
  obtain ⟨hnext, hvalue⟩ := nextBatch_of_following hget htracks hmem hbatch
  have hnonneg := Tracking.lastNumber_nonneg (Tracking.recorded table u.store)
  refine ⟨hevents, hfiles, ⟨t, hget, htracks⟩, hnext, by omega, ?_, ?_, ?_⟩
  · intro record hr
    have hle : record.batch.toInt ≤ Tracking.lastNumber (Tracking.recorded table u.store) :=
      Tracking.le_lastNumber hr
    omega
  · intro file hfile record hr
    rw [← hdue] at hfile
    have hpending := (due_sublist o files _).subset hfile
    rw [pendingFiles_eq] at hpending
    exact of_decide_eq_true (List.mem_filter.1 hpending).2 record hr
  · exact hdue ▸ due_ascending o files _

/-- Up to its announcement, a real run does nothing to the records. -/
theorem announce_cases (hreal : o.pretend = false)
    (htracks : ∀ t, s.store.tables.get? r.config.table = some t → t.Tracks) :
    ∃ result u, (r.announce o []).exec s = (result, u) ∧
      Tracking.recorded r.config.table u.store = Tracking.recorded r.config.table s.store ∧
      (∀ t, u.store.tables.get? r.config.table = some t → t.Tracks) ∧
      match result with
      | .ok (some (batch, selected)) => Announced r.config.table s u batch selected
      | _ => True := by
  obtain ⟨prepared, tracking, read, -, hget, hrows, htracks', hread, hmem⟩ :=
    exec_recordsForRun_false r s
  have hprepared : Tracking.recorded r.config.table prepared =
      Tracking.recorded r.config.table s.store := by
    rw [Tracking.recorded_of_get? hget, hrows]
    rfl
  have htracked : ∀ t, prepared.tables.get? r.config.table = some t → t.Tracks :=
    Tracking.tracks_of_get? hget (htracks' htracks)
  have hchecked : ((r.checkNames o).exec s).2 = s :=
    preserves_checkNames (I := (· = s)) r o s rfl
  rw [announce, Action.exec_bind]
  cases hcheck : (r.checkNames o).exec s with
  | mk checked u =>
    obtain rfl : u = s := by rwa [hcheck] at hchecked
    cases checked with
    | error fault => exact ⟨_, _, rfl, rfl, htracks, trivial⟩
    | ok =>
      simp only [hreal, Action.exec_bind, hread, filter_not_reverted_nil, exec_files]
      cases hfiles : Discovery.discover r.config u.files with
      | error e => exact ⟨_, _, rfl, hprepared, htracked, trivial⟩
      | ok files =>
        simp only [mapError_ok, selectFiles_pendingFiles o hmem]
        cases hdue : due o files (Tracking.recorded r.config.table u.store) with
        | nil => exact ⟨_, _, rfl, hprepared, htracked, trivial⟩
        | cons first rest =>
          simp only [List.isEmpty_cons, Bool.false_eq_true, if_false, Action.exec_bind,
            Action.exec_resume]
          cases hbatch : Tracking.following (greatestBatch read) with
          | error fault => exact ⟨_, _, rfl, hprepared, htracked, trivial⟩
          | ok batch =>
            simp only [exec_emit, Action.exec_pure]
            rw [← hprepared] at hmem hdue
            exact ⟨_, _, rfl, hprepared, htracked, announced_of_due (o := o) hget (htracked _ hget)
              hmem hbatch hdue (by simp) rfl⟩

/-- What a run makes of the tracking table: it adds records of one batch, greater than all that are
recorded, and of migrations that are not recorded. -/
structure Logs (table : String) (before after : Store) (added : List Record) : Prop where
  tracks : ∀ t, after.tables.get? table = some t → t.Tracks
  recorded : Tracking.recorded table after = Tracking.recorded table before ++ added
  together : ∀ a ∈ added, ∀ b ∈ added, a.batch = b.batch
  greater : ∀ earlier ∈ Tracking.recorded table before, ∀ record ∈ added,
    earlier.batch.toInt < record.batch.toInt
  pending : ∀ earlier ∈ Tracking.recorded table before, ∀ record ∈ added,
    earlier.migration ≠ record.migration
  distinct : (added.map (·.migration)).Nodup

theorem logs_nothing {table : String} {before after : Store}
    (htracks : ∀ t, after.tables.get? table = some t → t.Tracks)
    (hrecorded : Tracking.recorded table after = Tracking.recorded table before) :
    Logs table before after [] where
  tracks := htracks
  recorded := by rw [hrecorded, List.append_nil]
  together a ha := nomatch ha
  greater _ _ record hr := nomatch hr
  pending _ _ record hr := nomatch hr
  distinct := List.nodup_nil

variable (hbodies : r.BodiesRequest (Operation.Spares r.config.table))
  (hseeders : r.SeedersRequest (Operation.Spares r.config.table))

include hbodies hseeders

/-- A run applies the files that it announced, up to the first that fails. -/
theorem Announced.applies {before u : Session} {batch : Int64} {selected : List (String × String)}
    (hreal : o.pretend = false) (h : Announced r.config.table before u batch selected) :
    ∃ done later reached, selected = done ++ later ∧
      AppliesAll r u.files batch done u.store reached ∧
      ((r.applyAnnounced o (some (batch, selected))).exec u).2.store.tables.get? r.config.table =
        reached.tables.get? r.config.table := by
  obtain ⟨tracking, hget, htracks⟩ := h.tracks
  obtain ⟨done, later, result, s', reached, hsplit, happly, -, happlies, hstore, -⟩ :=
    exec_applyAll hbodies h.numbered hget htracks selected
  refine ⟨done, later, reached, hsplit, happlies, ?_⟩
  have hI : Session.IgnoresNarration fun s =>
      s.store.tables.get? r.config.table = reached.tables.get? r.config.table :=
    ⟨fun _ _ _ h => h, fun _ _ h => h, fun _ _ h => h, fun _ _ _ h => h⟩
  have hseed := preserves_seed r (preserves_now hI) (preserves_say hI r) (fun s name program hregistered hs =>
    ((hseeders name program hregistered).runFully_spares s.store).trans hs) none
  rw [applyAnnounced, hreal, Action.exec_bind, happly]
  cases result with
  | error fault => exact hstore
  | ok =>
    exact Action.Preserves.bind (preserves_emit hI r _) (fun _ =>
      .ite (fun _ => .bind hseed fun _ => Action.preserves_pure _)
        fun _ => Action.preserves_pure _) s' hstore

/-- So it adds records for these files. -/
theorem Announced.logs {before u : Session} {batch : Int64} {selected : List (String × String)}
    (hreal : o.pretend = false) (h : Announced r.config.table before u batch selected) :
    ∃ added, Logs r.config.table u.store
      ((r.applyAnnounced o (some (batch, selected))).exec u).2.store added := by
  obtain ⟨tracking, hget, htracks⟩ := h.tracks
  obtain ⟨done, later, reached, hsplit, happlies, hafter⟩ := h.applies hbodies hseeders hreal
  obtain ⟨tracking', added, hget', htracks', hrows, hadded⟩ := happlies.table hbodies hget htracks
  rw [hget'] at hafter
  have hnames : added.map (·.migration) = done.map (·.1) := by
    have hnamed := congrArg (List.map Prod.fst) hadded
    rwa [List.map_map, List.map_map] at hnamed
  have hbatch : ∀ record ∈ added, record.batch = batch := by
    intro record hr
    have hmem : (record.migration, record.batch) ∈ done.map fun file => (file.1, batch) :=
      hadded ▸ List.mem_map_of_mem hr
    obtain ⟨file, -, heq⟩ := List.mem_map.1 hmem
    exact (Prod.mk.inj heq).2.symm
  use added
  constructor
  · exact Tracking.tracks_of_get? hafter htracks'
  · rw [Tracking.recorded_of_get? hafter, Tracking.recorded_of_get? hget, hrows]
  · intro a ha b hb
    rw [hbatch a ha, hbatch b hb]
  · intro earlier hearlier record hr
    rw [hbatch record hr]
    exact h.greater earlier hearlier
  · intro earlier hearlier record hr
    have hmem : record.migration ∈ done.map (·.1) := hnames ▸ List.mem_map_of_mem hr
    obtain ⟨file, hfile, heq⟩ := List.mem_map.1 hmem
    rw [← heq]
    exact h.pending file (hsplit ▸ List.mem_append_left later hfile) earlier hearlier
  · rw [hnames, List.nodup_iff_pairwise_ne, List.pairwise_map]
    have hascending := h.ascending
    rw [hsplit] at hascending
    apply (List.pairwise_append.1 hascending).1.imp
    intro a b hlt heq
    exact String.lt_irrefl _ (heq ▸ hlt)

/-- Whatever way a run goes, all that it does to the tracking table is to add such records. -/
theorem runPending_logs {reverted : List String}
    (hreverted : o.pretend = false → reverted = [])
    (htracks : ∀ t, s.store.tables.get? r.config.table = some t → t.Tracks) :
    ∃ added, Logs r.config.table s.store ((r.runPending o reverted).exec s).2.store added := by
  cases hpretend : o.pretend with
  | true =>
    have htables := tables_runPending_of_pretend (r := r) hpretend reverted s
    use []
    apply logs_nothing
    · rwa [htables]
    · exact Tracking.recorded_congr (by rw [htables])
  | false =>
    obtain rfl := hreverted hpretend
    obtain ⟨result, u, hannounce, hrecorded, htracks', hresult⟩ := announce_cases hpretend htracks
    rw [runPending_eq_announce, Action.exec_bind, hannounce]
    cases result with
    | error fault => exact ⟨[], logs_nothing htracks' hrecorded⟩
    | ok announced =>
      cases announced with
      | none =>
        have hsay : ((r.applyAnnounced o none).exec u).2.store = u.store := by
          simp [applyAnnounced]
        dsimp only
        rw [hsay]
        exact ⟨[], logs_nothing htracks' hrecorded⟩
      | some announced =>
        obtain ⟨added, hlogs⟩ := Announced.logs hbodies hseeders hpretend hresult
        refine ⟨added, hlogs.tracks, ?_, hlogs.together, ?_, ?_, hlogs.distinct⟩
        · rw [← hrecorded]
          exact hlogs.recorded
        · rw [← hrecorded]
          exact hlogs.greater
        · rw [← hrecorded]
          exact hlogs.pending

end Runner

end SchemaMigration
