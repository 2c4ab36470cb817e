import SchemaMigration.Proofs.Runner.Announcement
import SchemaMigration.Proofs.Runner.Preparation

/-!
# Numbering

Batches tell runs apart. Along every sequence of calls each record is attributed to the call whose
run logged it, and two records have the same batch just if they are attributed to the same call.
Numbers are used again when their records are gone, but never while there are any.
-/

namespace SchemaMigration

namespace Runner

/-- Which call logged each record, after one more call: the records that its run found keep their
origin, and all others are its own. -/
def origins (r : Runner) (c : Command) (s : Session) (call : Nat) (origin : Record → Nat)
    (record : Record) : Nat :=
  match r.runStart? c s with
  | some (_, start) =>
    if record ∈ Tracking.recorded r.config.table start.store then origin record else call
  | none => origin record

/-- The sessions that calls reach from one without a tracking table: how many calls there were and
which of them logged each record. Between calls everything may change but the tracking table. -/
inductive Calls (table : String) : Nat → (Record → Nat) → Session → Prop where
  /-- There is no tracking table. -/
  | start {origin : Record → Nat} {s : Session} (absent : s.store.tables.get? table = none) :
      Calls table 0 origin s
  /-- Something changes between calls. -/
  | meanwhile {n : Nat} {origin : Record → Nat} {s s' : Session} (before : Calls table n origin s)
      (kept : s'.store.tables.get? table = s.store.tables.get? table) : Calls table n origin s'
  /-- A call of a runner whose programs spare the tracking table, also if the call fails. -/
  | call {n : Nat} {origin : Record → Nat} {s : Session} (r : Runner) (c : Command)
      (before : Calls table n origin s) (own : r.config.table = table)
      (bodies : r.BodiesRequest (Operation.Spares table))
      (seeders : r.SeedersRequest (Operation.Spares table)) :
      Calls table (n + 1) (r.origins c s n origin) ((r.call c).exec s).2

/-- A real call that is made in a session announces a batch of files, and then this is the session. -/
def Announces (r : Runner) (c : Command) (s : Session) (batch : Int64)
    (selected : List (String × String)) (u : Session) : Prop :=
  ∃ o reverted start, c.options? = some o ∧ o.pretend = false ∧
    r.runStart? c s = some (reverted, start) ∧
    (r.announce o reverted).exec start = (.ok (some (batch, selected)), u)

/-- The tracking table holds at most one record of each migration, and the same batch for records of
the same origin only. -/
structure Numbered (table : String) (n : Nat) (origin : Record → Nat) (s : Store) : Prop where
  tracks : ∀ t, s.tables.get? table = some t → t.Tracks
  names : ((Tracking.recorded table s).map (·.migration)).Nodup
  earlier : ∀ record ∈ Tracking.recorded table s, origin record < n
  batches : ∀ a ∈ Tracking.recorded table s, ∀ b ∈ Tracking.recorded table s,
    a.batch = b.batch ↔ origin a = origin b

namespace Numbered

variable {table : String} {n : Nat} {origin : Record → Nat} {s s' : Store}

theorem of_missing (h : s.tables.get? table = none) : Numbered table n origin s := by
  have hnone : Tracking.recorded table s = [] := by
    rw [Tracking.recorded, Store.rows, h]
    rfl
  constructor
  · intro t ht
    rw [h] at ht
    cases ht
  · simp [hnone]
  · simp [hnone]
  · simp [hnone]

theorem ids (h : Numbered table n origin s) :
    ((Tracking.recorded table s).map (·.id)).Nodup := by
  cases hget : s.tables.get? table with
  | none => simp [Tracking.recorded, Store.rows, hget]
  | some t =>
    rw [Tracking.recorded_of_get? hget, List.map_map]
    exact (h.tracks t hget).distinct

/-- What leaves no records but those that there were keeps the numbering. -/
theorem within (h : Numbered table n origin s)
    (hwithin : Tracking.Within table (Tracking.recorded table s) s') :
    Numbered table n origin s' where
  tracks := hwithin.tracks
  names := h.names.sublist (hwithin.sublist.map _)
  earlier record hr := h.earlier record (hwithin.sublist.subset hr)
  batches a ha b hb := h.batches a (hwithin.sublist.subset ha) b (hwithin.sublist.subset hb)

theorem of_get?_eq (h : Numbered table n origin s)
    (hget : s'.tables.get? table = s.tables.get? table) : Numbered table n origin s' :=
  h.within ((Tracking.within_recorded h.tracks).of_get?_eq hget)

theorem succ (h : Numbered table n origin s) : Numbered table (n + 1) origin s where
  tracks := h.tracks
  names := h.names
  earlier record hr := Nat.lt_succ_of_lt (h.earlier record hr)
  batches := h.batches

/-- The records that a run adds are its own. -/
theorem logs {added : List Record} {origin' : Record → Nat} (h : Numbered table n origin s)
    (hlogs : Logs table s s' added)
    (hold : ∀ record ∈ Tracking.recorded table s, origin' record = origin record)
    (hnew : ∀ record, record ∉ Tracking.recorded table s → origin' record = n) :
    Numbered table (n + 1) origin' s' := by
  have hown {record : Record} (hr : record ∈ added) : origin' record = n := by
    apply hnew
    intro hearlier
    exact Int.lt_irrefl _ (hlogs.greater record hearlier record hr)
  have hbefore {record : Record} (hr : record ∈ Tracking.recorded table s) :
      origin' record < n := by
    rw [hold record hr]
    exact h.earlier record hr
  have hapart {a b : Record} (ha : a ∈ Tracking.recorded table s) (hb : b ∈ added) :
      a.batch ≠ b.batch ∧ origin' a ≠ origin' b := by
    constructor
    · intro heq
      have hlt := hlogs.greater a ha b hb
      rw [heq] at hlt
      exact Int.lt_irrefl _ hlt
    · rw [hown hb]
      exact Nat.ne_of_lt (hbefore ha)
  constructor
  · exact hlogs.tracks
  · rw [hlogs.recorded, List.map_append, List.nodup_append]
    refine ⟨h.names, hlogs.distinct, ?_⟩
    intro first hfirst second hsecond
    obtain ⟨a, ha, rfl⟩ := List.mem_map.1 hfirst
    obtain ⟨b, hb, rfl⟩ := List.mem_map.1 hsecond
    exact hlogs.pending a ha b hb
  · intro record hr
    rw [hlogs.recorded, List.mem_append] at hr
    cases hr with
    | inl hr => exact Nat.lt_succ_of_lt (hbefore hr)
    | inr hr => exact Nat.lt_succ_of_le (Nat.le_of_eq (hown hr))
  · intro a ha b hb
    rw [hlogs.recorded, List.mem_append] at ha hb
    -- Old records are as before, new ones belong together, and old and new ones are apart.
    cases ha with
    | inl ha =>
      cases hb with
      | inl hb =>
        rw [hold a ha, hold b hb]
        exact h.batches a ha b hb
      | inr hb => exact iff_of_false (hapart ha hb).1 (hapart ha hb).2
    | inr ha =>
      cases hb with
      | inl hb => exact iff_of_false (hapart hb ha).1.symm (hapart hb ha).2.symm
      | inr hb => exact iff_of_true (hlogs.together a ha b hb) ((hown ha).trans (hown hb).symm)

end Numbered

variable {r : Runner} {c : Command} {o : RunOptions} {s : Session} {n : Nat}
  {origin : Record → Nat}
  (hbodies : r.BodiesRequest (Operation.Spares r.config.table))

include hbodies

/-- The run of a call finds a numbering if the call does. -/
theorem Numbered.start {reverted : List String} {start : Session}
    (h : Numbered r.config.table n origin s.store)
    (hstart : r.runStart? c s = some (reverted, start)) :
    Numbered r.config.table n origin start.store := by
  obtain ⟨-, -, hprepare⟩ := runStart?_eq_some.1 hstart
  have hwithin := prepare_within hbodies c (r.locked s)
    ((Tracking.within_recorded h.tracks).of_get?_eq (by rw [tables_locked]))
  rw [hprepare] at hwithin
  exact h.within hwithin

/-- Every call keeps the numbering, whether it returns or fails. -/
theorem Numbered.call (hseeders : r.SeedersRequest (Operation.Spares r.config.table))
    (h : Numbered r.config.table n origin s.store) :
    Numbered r.config.table (n + 1) (r.origins c s n origin) ((r.call c).exec s).2.store := by
  cases hstart : r.runStart? c s with
  | none =>
    have horigins : r.origins c s n origin = origin := by
      ext record
      rw [origins, hstart]
    rw [horigins]
    exact (h.within (call_within hbodies hstart (Tracking.within_recorded h.tracks))).succ
  | some begun =>
    obtain ⟨reverted, start⟩ := begun
    obtain ⟨o, ho⟩ := Option.isSome_iff_exists.1 (runStart?_eq_some.1 hstart).1
    have hbegun := h.start hbodies hstart
    obtain ⟨added, hlogs⟩ := runPending_logs hbodies hseeders
      (fun hreal => reverted_eq_nil ho hreal hstart) hbegun.tracks
    obtain ⟨locks, hcall⟩ := exec_call_of_runStart? ho hstart
    have hnumbered : Numbered r.config.table (n + 1) (r.origins c s n origin)
        ((r.runPending o reverted).exec start).2.store := by
      apply hbegun.logs hlogs
      · intro record hr
        simp only [origins, hstart, hr, if_true]
      · intro record hr
        simp only [origins, hstart, hr, if_false]
    rw [hcall]
    exact hnumbered.of_get?_eq (by rw [Session.tables_relocked])

omit hbodies

/-- What a call announces is a batch with the next number, and then it goes on with this batch. -/
theorem Announces.announced {batch : Int64} {selected : List (String × String)} {u : Session}
    (hbodies : r.BodiesRequest (Operation.Spares r.config.table))
    (h : Numbered r.config.table n origin s.store) (hannounces : r.Announces c s batch selected u) :
    ∃ o start locks, Announced r.config.table start u batch selected ∧
      (r.call c).exec s =
        (((r.applyAnnounced o (some (batch, selected))).exec u).1.map Report.applied,
          ((r.applyAnnounced o (some (batch, selected))).exec u).2.relocked locks) := by
  obtain ⟨o, reverted, start, ho, hreal, hstart, hannounce⟩ := hannounces
  obtain ⟨locks, hcall⟩ := exec_call_of_runStart? ho hstart
  rw [runPending_eq_announce, Action.exec_bind, hannounce] at hcall
  obtain rfl := reverted_eq_nil ho hreal hstart
  obtain ⟨result, u', hexec, -, -, hresult⟩ :=
    announce_cases hreal (h.start hbodies hstart).tracks
  rw [hannounce] at hexec
  obtain ⟨rfl, rfl⟩ := Prod.mk.inj hexec
  exact ⟨o, start, locks, hresult, hcall⟩

theorem Calls.numbered {table : String} (h : Calls table n origin s) :
    Numbered table n origin s.store := by
  induction h with
  | start absent => exact .of_missing absent
  | meanwhile _ kept ih => exact ih.of_get?_eq kept
  | call r c _ own bodies seeders ih =>
    subst own
    exact ih.call bodies seeders

/-- Whatever sequence of calls reached a session, whether they returned or failed: all recorded
batches are positive, no migration and no number is recorded twice, and two records have the same
batch just if the run of one and the same call logged both. If a real call announces a batch then,
this is the number of the next batch at that moment, greater than all that are recorded, and the
call goes on with this batch. -/
theorem batches_tell_runs_apart {table : String} (h : Calls table n origin s) :
    (∀ record ∈ Tracking.recorded table s.store, 1 ≤ record.batch.toInt) ∧
      ((Tracking.recorded table s.store).map (·.migration)).Nodup ∧
      ((Tracking.recorded table s.store).map (·.id)).Nodup ∧
      (∀ a ∈ Tracking.recorded table s.store, ∀ b ∈ Tracking.recorded table s.store,
        a.batch = b.batch ↔ origin a = origin b) ∧
      ∀ (r : Runner) c batch selected u, r.config.table = table →
        r.BodiesRequest (Operation.Spares table) → r.Announces c s batch selected u →
        u.events.getLast? = some (.batchStarted batch (selected.map (·.1)) false) ∧
        (∃ o locks, (r.call c).exec s =
          (((r.applyAnnounced o (some (batch, selected))).exec u).1.map Report.applied,
            ((r.applyAnnounced o (some (batch, selected))).exec u).2.relocked locks)) ∧
        Tracking.nextBatch table u.store = .ok batch ∧
        ∀ record ∈ Tracking.recorded table u.store, record.batch.toInt < batch.toInt := by
  have hnumbered := h.numbered
  refine ⟨?_, hnumbered.names, hnumbered.ids, hnumbered.batches, ?_⟩
  · intro record hr
    exact Tracking.one_le_batch_of_tracks hnumbered.tracks hr
  · intro r c batch selected u own bodies hannounces
    subst own
    obtain ⟨o, start, locks, hannounced, hcall⟩ := hannounces.announced bodies hnumbered
    refine ⟨?_, ⟨o, locks, hcall⟩, hannounced.next, hannounced.greater⟩
    rw [hannounced.events, List.getLast?_concat]

/-- A run of one file, and a refresh when there is another file in its place: the first record
cannot be reverted, so it keeps its batch, and the refresh announces the next one. -/
theorem refresh_of_other_file_is_next_batch :
    let a : Migration := { up := .pure (), down := .pure () }
    let r : Runner :=
      { config := { paths := ["m"], table := "t" }, migrations := Dict.ofList [("a", a), ("b", a)] }
    let files (name : String) : Files := { nodes := [(["m"], .directory), (["m", name], .file [])] }
    let first : Session := { files := files "a.rs" }
    let second : Session := { ((r.call (.run {})).exec first).2 with files := files "b.rs" }
    let start : Session := ((r.prepare (.refresh {})).exec (r.locked second)).2
    let u : Session := ((r.announce {} []).exec start).2
    let s : Session := ((r.call (.refresh {})).exec second).2
    let records := Tracking.recorded "t" s.store
    let origin := r.origins (.refresh {}) second 1 (r.origins (.run {}) first 0 fun _ => 0)
    Calls "t" 2 origin s ∧ records.map (fun record => (record.migration, record.batch)) =
        [("a", 1), ("b", 2)] ∧ records.map origin = [0, 1] ∧
      (∀ a ∈ records, ∀ b ∈ records, a.batch = b.batch ↔ origin a = origin b) ∧
      r.BodiesRequest (Operation.Spares "t") ∧
      r.Announces (.refresh {}) second 2 [("b", "m/b.rs")] u ∧
      Tracking.nextBatch "t" u.store = .ok 2 := by
  intro a r files first second start u s records origin
  have hruns : r.IsFree second.store ∧
      ((r.prepare (.refresh {})).exec (r.locked second)).1 = .ok [] ∧
      ((r.announce {} []).exec start).1 = .ok (some (2, [("b", "m/b.rs")])) ∧
      records.map (fun record => (record.migration, record.batch)) = [("a", 1), ("b", 2)] ∧
      records.map origin = [0, 1] := by
    decide +kernel +revert
  obtain ⟨hfree, hprepare, hannounce, hrecords, horigins⟩ := hruns
  have hbodies : r.BodiesRequest (Operation.Spares "t") := by
    have hentries : r.migrations.entries = [("a", a), ("b", a)] := by cbv
    apply BodiesRequest.of_entries
    intro entry h
    obtain rfl | rfl : entry = ("a", a) ∨ entry = ("b", a) := by simpa [hentries] using h
    · exact ⟨trivial, trivial⟩
    · exact ⟨trivial, trivial⟩
  have hsecond : Calls "t" 1 (r.origins (.run {}) first 0 fun _ => 0) second :=
    ((Calls.start rfl).call r (.run {}) rfl hbodies (.of_empty rfl)).meanwhile rfl
  have hcalls : Calls "t" 2 origin s :=
    hsecond.call r (.refresh {}) rfl hbodies (.of_empty rfl)
  have hannounces : r.Announces (.refresh {}) second 2 [("b", "m/b.rs")] u :=
    ⟨{}, [], start, rfl, rfl, runStart?_eq_some.2 ⟨rfl, hfree, Prod.ext hprepare rfl⟩,
      Prod.ext hannounce rfl⟩
  obtain ⟨-, -, -, hbatches, -⟩ := batches_tell_runs_apart hcalls
  obtain ⟨-, -, -, -, hnext⟩ := batches_tell_runs_apart hsecond
  obtain ⟨-, -, hnext, -⟩ := hnext r (.refresh {}) 2 _ u rfl hbodies hannounces
  exact ⟨hcalls, hrecords, horigins, hbatches, hbodies, hannounces, hnext⟩

end Runner

end SchemaMigration
