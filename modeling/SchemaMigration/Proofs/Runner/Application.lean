import SchemaMigration.Proofs.Runner.Invocations
import SchemaMigration.Proofs.Runner.Numbering

/-!
# The order of records

A run applies its files in ascending order of their names and adds their records behind the others,
in a batch greater than all that there are. So, whatever calls follow one another, the records are
in the order in which their migrations were applied, and those of one batch are in ascending order.
-/

namespace SchemaMigration

/-- Each element of a list at the place of its last occurrence, after one more element. -/
theorem dedup_concat {α : Type} [DecidableEq α] (l : List α) (a : α) :
    (l ++ [a]).dedup = l.dedup.erase a ++ [a] := by
  induction l with
  | nil => simp
  | cons b rest ih =>
    by_cases hb : b ∈ rest
    · rw [List.dedup_cons_of_mem hb, List.cons_append,
        List.dedup_cons_of_mem (List.mem_append_left _ hb), ih]
    · rw [List.dedup_cons_of_notMem hb, List.cons_append]
      by_cases hba : b = a
      · subst hba
        rw [List.dedup_cons_of_mem (by simp), ih, List.erase_cons_head,
          List.erase_of_not_mem (by simpa using hb)]
      · rw [List.dedup_cons_of_notMem (by simp [hb, hba]), ih,
          List.erase_cons_tail (by simpa using hba), List.cons_append]

namespace Session

/-- The migrations whose programs were run to apply them, in the order of the last time. -/
def applied (s : Session) : List String :=
  ((s.invocations.filter fun program => program.2 = .up).map (·.1)).dedup

theorem nodup_applied (s : Session) : s.applied.Nodup :=
  List.nodup_dedup _

variable {s s' : Session}

theorem applied_of_invocations (h : s'.invocations = s.invocations) : s'.applied = s.applied := by
  rw [applied, h, applied]

theorem applied_of_downs {names : List String}
    (h : s'.invocations = s.invocations ++ names.map fun name => (name, .down)) :
    s'.applied = s.applied := by
  have hnone : (names.map fun name => (name, Direction.down)).filter
      (fun program => program.2 = .up) = [] := by
    simp
  rw [applied, h, List.filter_append, hnone, List.append_nil, applied]

/-- The migration that was applied last is the last one. -/
theorem applied_of_up {name : String} (h : s'.invocations = s.invocations ++ [(name, .up)]) :
    s'.applied = s.applied.erase name ++ [name] := by
  have hone : [(name, Direction.up)].filter (fun program => program.2 = .up) = [(name, .up)] := by
    simp
  rw [applied, h, List.filter_append, hone, List.map_append, List.map_singleton, dedup_concat,
    applied]

theorem ignoresNarration_applied (names : List String) :
    IgnoresNarration fun s => s.applied = names where
  journaled s entries h hs := by
    rw [← hs]
    apply applied_of_invocations
    rw [invocations_journaled, h, List.append_nil]
  progress _ _ h := h
  clock _ _ h := h
  locks _ _ _ h := h

end Session

namespace Runner

/-- Records are in the order in which their migrations were applied, and those of one batch are in
ascending order of their names. -/
structure Ordered (table : String) (s : Session) : Prop where
  tracks : ∀ t, s.store.tables.get? table = some t → t.Tracks
  sublist : ((Tracking.recorded table s.store).map (·.migration)).Sublist s.applied
  ascending : (Tracking.recorded table s.store).Pairwise fun a b =>
    a.batch = b.batch → a.migration < b.migration

theorem ignoresNarration_ordered (table : String) : Session.IgnoresNarration (Ordered table) where
  journaled s entries h hs := by
    refine ⟨hs.tracks, ?_, hs.ascending⟩
    rw [(Session.ignoresNarration_applied s.applied).journaled s entries h rfl]
    exact hs.sublist
  progress _ _ h := ⟨h.tracks, h.sublist, h.ascending⟩
  clock _ _ h := ⟨h.tracks, h.sublist, h.ascending⟩
  locks _ _ _ h := ⟨h.tracks, h.sublist, h.ascending⟩

namespace Ordered

variable {table : String} {s s' : Session}

theorem names (h : Ordered table s) :
    ((Tracking.recorded table s.store).map (·.migration)).Nodup :=
  s.nodup_applied.sublist h.sublist

theorem of_missing (h : s.store.tables.get? table = none) : Ordered table s := by
  have hnone : Tracking.recorded table s.store = [] := by
    rw [Tracking.recorded, Store.rows, h]
    rfl
  constructor
  · intro t ht
    rw [h] at ht
    cases ht
  · rw [hnone]
    exact List.nil_sublist _
  · rw [hnone]
    exact List.Pairwise.nil

/-- What leaves no records but those that there were and applies nothing keeps the order. -/
theorem within (h : Ordered table s)
    (hwithin : Tracking.Within table (Tracking.recorded table s.store) s'.store)
    (happlied : s'.applied = s.applied) : Ordered table s' where
  tracks := hwithin.tracks
  sublist := by
    rw [happlied]
    exact (hwithin.sublist.map _).trans h.sublist
  ascending := h.ascending.sublist hwithin.sublist

theorem of_get?_eq (h : Ordered table s)
    (hget : s'.store.tables.get? table = s.store.tables.get? table)
    (happlied : s'.applied = s.applied) : Ordered table s' :=
  h.within ((Tracking.within_recorded h.tracks).of_get?_eq hget) happlied

/-- A migration that is not recorded may be tried at any time. -/
theorem tried (h : Ordered table s) {name : String}
    (hnew : ∀ record ∈ Tracking.recorded table s.store, record.migration ≠ name)
    (hget : s'.store.tables.get? table = s.store.tables.get? table)
    (happlied : s'.applied = s.applied.erase name ++ [name]) : Ordered table s' := by
  have hrecorded : Tracking.recorded table s'.store = Tracking.recorded table s.store :=
    Tracking.recorded_congr hget
  constructor
  · rw [hget]
    exact h.tracks
  · have hsublist := h.sublist.erase name
    rw [List.erase_of_not_mem (by simpa using hnew)] at hsublist
    rw [hrecorded, happlied]
    exact hsublist.trans (List.sublist_append_left _ _)
  · rw [hrecorded]
    exact h.ascending

/-- A record that is added comes last, and in its batch it has the greatest name. -/
theorem logged (h : Ordered table s) {record : Record}
    (hnew : ∀ earlier ∈ Tracking.recorded table s.store, earlier.migration ≠ record.migration)
    (hgreater : ∀ earlier ∈ Tracking.recorded table s.store, earlier.batch = record.batch →
      earlier.migration < record.migration)
    (htracks : ∀ t, s'.store.tables.get? table = some t → t.Tracks)
    (hrecorded : Tracking.recorded table s'.store = Tracking.recorded table s.store ++ [record])
    (happlied : s'.applied = s.applied.erase record.migration ++ [record.migration]) :
    Ordered table s' where
  tracks := htracks
  sublist := by
    have hsublist := h.sublist.erase record.migration
    rw [List.erase_of_not_mem (by simpa using hnew)] at hsublist
    rw [hrecorded, happlied, List.map_append, List.map_singleton]
    exact hsublist.append_right _
  ascending := by
    rw [hrecorded, List.pairwise_append]
    refine ⟨h.ascending, List.pairwise_singleton _ _, fun earlier hearlier other hother => ?_⟩
    rw [List.mem_singleton.1 hother]
    exact hgreater earlier hearlier

end Ordered

variable {r : Runner} {c : Command} {o : RunOptions} {s : Session}

section

variable (hbodies : r.BodiesRequest (Operation.Spares r.config.table))

include hbodies

/-- Applying files in ascending order keeps the order, if none of their migrations is recorded and
those of the same batch have lesser names. -/
theorem applyAll_ordered {batch : Int64} (hb : 1 ≤ batch.toInt)
    {selected : List (String × String)} (hascending : Ascending selected)
    (htable : s.store.hasTable r.config.table = true) (h : Ordered r.config.table s)
    (hnew : ∀ file ∈ selected, ∀ record ∈ Tracking.recorded r.config.table s.store,
      record.migration ≠ file.1 ∧ (record.batch = batch → record.migration < file.1)) :
    Ordered r.config.table ((r.applyAll batch false selected).exec s).2 := by
  -- What is asked of the other files holds with one record more, since their names are greater.
  induction selected generalizing s with
  | nil => exact h
  | cons file rest ih =>
    obtain ⟨hfirst, hrest⟩ := List.pairwise_cons.1 hascending
    obtain ⟨hfile, hothers⟩ := List.forall_mem_cons.1 hnew
    obtain ⟨tracking, hget⟩ := Store.hasTable_eq_true.1 htable
    have htracks := h.tracks tracking hget
    obtain ⟨result, s₁, hexec, -, hends, -⟩ :=
      execute_ends (t := applying batch file) hbodies rfl hget htracks fun _ => hb
    rw [applyAll_cons, Action.exec_bind, hexec]
    cases result with
    | error fault =>
      -- A program that was run and failed moves to the end of what was applied; it has no record.
      have hran := invocations_execute r (applying batch file) s
      rw [hexec] at hran
      rcases hran with hran | ⟨hnone, -⟩
      · exact h.tried (fun record hr => (hfile record hr).1) hends.2 (Session.applied_of_up hran)
      · exact h.of_get?_eq hends.2 (Session.applied_of_invocations hnone)
    | ok =>
      obtain ⟨tracking₁, record, hget₁, htracks₁, hname, hbatch, hrecorded⟩ :=
        hends.recorded hbodies rfl hget htracks
      replace hname : record.migration = file.1 := hname
      replace hbatch : record.batch = batch := hbatch
      have happlied := Session.applied_of_up (invocations_of_execute_eq_ok rfl hexec)
      apply ih hrest (Store.hasTable_eq_true.2 ⟨_, hget₁⟩)
      · refine h.logged ?_ ?_ (Tracking.tracks_of_get? hget₁ htracks₁) hrecorded ?_
        · intro earlier hearlier
          rw [hname]
          exact (hfile earlier hearlier).1
        · intro earlier hearlier heq
          rw [hname]
          exact (hfile earlier hearlier).2 (heq.trans hbatch)
        · rw [hname]
          exact happlied
      · intro other hother earlier hearlier
        rw [hrecorded, List.mem_append, List.mem_singleton] at hearlier
        rcases hearlier with hearlier | rfl
        · exact hothers other hother earlier hearlier
        · rw [hname]
          have hlt := hfirst other hother
          exact ⟨fun heq => String.lt_irrefl _ (heq ▸ hlt), fun _ => hlt⟩

theorem runPending_ordered (hseeders : r.SeedersRequest (Operation.Spares r.config.table))
    {reverted : List String} (hreverted : o.pretend = false → reverted = [])
    (h : Ordered r.config.table s) :
    Ordered r.config.table ((r.runPending o reverted).exec s).2 := by
  have hI := ignoresNarration_ordered r.config.table
  cases hpretend : o.pretend with
  | true => exact preserves_runPending r (tolerates hI r) (by simp) hpretend reverted s h
  | false =>
    obtain rfl := hreverted hpretend
    obtain ⟨result, u, hannounce, hrecorded, htracks, hresult⟩ := announce_cases hpretend h.tracks
    have hu : Ordered r.config.table u := by
      have happlied := preserves_announce r (tolerates (Session.ignoresNarration_applied s.applied) r)
        (o := o) (fun _ _ _ hs _ => hs) [] s rfl
      rw [hannounce] at happlied
      refine ⟨htracks, ?_, ?_⟩
      · rw [hrecorded, happlied]
        exact h.sublist
      · rw [hrecorded]
        exact h.ascending
    rw [runPending_eq_announce, Action.exec_bind, hannounce]
    cases result with
    | error fault => exact hu
    | ok announced =>
      cases announced with
      | none =>
        exact Action.Preserves.bind (preserves_say hI r _) (fun _ => Action.preserves_pure _) u hu
      | some announced =>
        obtain ⟨batch, selected⟩ := announced
        obtain ⟨tracking, hget, -⟩ := hresult.tracks
        have happly : Ordered r.config.table ((r.applyAll batch o.pretend selected).exec u).2 := by
          rw [hpretend]
          refine applyAll_ordered hbodies hresult.numbered hresult.ascending
            (Store.hasTable_eq_true.2 ⟨_, hget⟩) hu fun file hfile record hr => ?_
          refine ⟨hresult.pending file hfile record hr, fun heq => ?_⟩
          have hlt := hresult.greater record hr
          rw [heq] at hlt
          exact absurd hlt (Int.lt_irrefl _)
        apply Action.Preserves.exec_bind_of happly
        intro _
        have hseed := preserves_seed r (preserves_now hI) (preserves_say hI r) (fun s name program hregistered hs =>
          hs.of_get?_eq ((hseeders name program hregistered).runFully_spares s.store) rfl) none
        exact .bind (preserves_emit hI r _) fun _ =>
          .ite (fun _ => .bind hseed fun _ => Action.preserves_pure _)
            fun _ => Action.preserves_pure _

end

/-- Reverting applies nothing. -/
theorem execute_applied {t : Task} (hdown : t.direction = .down) (names : List String) :
    (r.execute t).Preserves fun s => s.applied = names := by
  intro s hs
  rw [← hs]
  rcases invocations_execute r t s with hran | ⟨hnone, -⟩
  · rw [hdown] at hran
    have hdowns : ((r.execute t).exec s).2.invocations =
        s.invocations ++ [t.name].map fun name => (name, .down) := hran
    exact Session.applied_of_downs hdowns
  · exact Session.applied_of_invocations hnone

theorem rollbackRecords_applied (names : List String) (o : RollbackOptions) :
    (r.rollbackRecords o).Preserves fun s => s.applied = names :=
  preserves_rollbackRecords r (tolerates (Session.ignoresNarration_applied names) r)
    (fun _ hdown _ => execute_applied hdown names) rfl

theorem resetRecords_applied (names : List String) (pretend : Bool) :
    (r.resetRecords pretend).Preserves fun s => s.applied = names :=
  preserves_resetRecords r (tolerates (Session.ignoresNarration_applied names) r)
    fun _ hdown _ => execute_applied hdown names

theorem dropTables_applied (names tables : List String) :
    (dropTables tables).Preserves fun s => s.applied = names := by
  intro s hs
  obtain ⟨after, mutations, hdrop, -⟩ := exec_dropTables tables s
  rw [hdrop]
  exact hs

/-- Every call keeps the order, whether it returns or fails. -/
theorem Ordered.call (hbodies : r.BodiesRequest (Operation.Spares r.config.table))
    (hseeders : r.SeedersRequest (Operation.Spares r.config.table))
    (h : Ordered r.config.table s) : Ordered r.config.table ((r.call c).exec s).2 := by
  have hI := Session.ignoresNarration_applied s.applied
  cases hstart : r.runStart? c s with
  | none =>
    apply h.within (call_within hbodies hstart (Tracking.within_recorded h.tracks))
    exact call_of_runStart?_eq_none r (resetRecords_applied _) (dropTables_applied _) hI
      (rollbackRecords_applied _) hstart rfl
  | some begun =>
    obtain ⟨reverted, start⟩ := begun
    obtain ⟨hrun, -, hprepare⟩ := runStart?_eq_some.1 hstart
    obtain ⟨o, ho⟩ := Option.isSome_iff_exists.1 hrun
    have hlocked : (r.locked s).applied = s.applied :=
      Session.applied_of_invocations (Session.invocations_of_journal (journal_locked r s))
    have hbegun : Ordered r.config.table start := by
      have hwithin := prepare_within hbodies c (r.locked s)
        ((Tracking.within_recorded h.tracks).of_get?_eq (by rw [tables_locked]))
      have happlied := preserves_prepare r (resetRecords_applied _) (dropTables_applied _) (tolerates hI r) c
        (r.locked s) hlocked
      rw [hprepare] at hwithin happlied
      exact h.within hwithin happlied
    obtain ⟨locks, hcall⟩ := exec_call_of_runStart? ho hstart
    have hran := runPending_ordered hbodies hseeders
      (fun hreal => reverted_eq_nil ho hreal hstart) hbegun
    rw [hcall]
    exact hran.of_get?_eq rfl rfl

/-- The sessions that calls reach from one without a tracking table. Between calls files may be
added, and everything else may change but the tracking table and what is told of the programs that
were run. -/
inductive History (table : String) : Session → Prop where
  /-- There is no tracking table. -/
  | start {s : Session} (absent : s.store.tables.get? table = none) : History table s
  /-- Something changes between calls. -/
  | meanwhile {s s' : Session} (before : History table s)
      (kept : s'.store.tables.get? table = s.store.tables.get? table)
      (told : s'.invocations = s.invocations) : History table s'
  /-- A call of a runner whose programs spare the tracking table, also if the call fails. -/
  | call {s : Session} (r : Runner) (c : Command) (before : History table s)
      (own : r.config.table = table) (bodies : r.BodiesRequest (Operation.Spares table))
      (seeders : r.SeedersRequest (Operation.Spares table)) :
      History table ((r.call c).exec s).2

theorem History.ordered {table : String} (h : History table s) : Ordered table s := by
  induction h with
  | start absent => exact .of_missing absent
  | meanwhile _ kept told ih => exact ih.of_get?_eq kept (Session.applied_of_invocations told)
  | call r c _ own bodies seeders ih =>
    subst own
    exact ih.call bodies seeders

end Runner

end SchemaMigration
