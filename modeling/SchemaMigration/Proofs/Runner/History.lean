import SchemaMigration.Proofs.Runner.Invariant
import SchemaMigration.Proofs.Runner.Lock
import SchemaMigration.Proofs.Tracking.Kept

/-!
# Histories of tracking tables

`Tracking.Reached` closes the stores without a tracking table under everything that users of runners
do: calls of any kind, the operations of tracking tables, and all requests that do not write the
table. Whatever the order, such a store keeps its tracking table.
-/

namespace SchemaMigration

namespace Migration

variable {kind : Operation → Prop} (hraw : ∀ statement, kind (.raw statement))

include hraw

theorem requests_runAll (statements : List String) : (runAll statements).Requests kind := by
  induction statements with
  | nil => trivial
  | cons statement rest ih =>
    exact .bind (Program.requests_request (hraw statement)) fun _ => ih

theorem requests_runText (text : String) : (runText text).Requests kind := by
  unfold runText
  split
  · trivial
  · exact requests_runAll hraw _

end Migration

namespace Runner

/-- The programs of the registered migrations make only requests of a kind. -/
def BodiesRequest (r : Runner) (kind : Operation → Prop) : Prop :=
  ∀ name m, r.migrations.get? name = some m → ∀ direction, (m.body direction).Requests kind

/-- The registered seeders make only requests of a kind. -/
def SeedersRequest (r : Runner) (kind : Operation → Prop) : Prop :=
  ∀ name program, r.seeders.get? name = some program → program.Requests kind

theorem BodiesRequest.of_entries {r : Runner} {kind : Operation → Prop}
    (h : ∀ entry ∈ r.migrations.entries, entry.2.up.Requests kind ∧ entry.2.down.Requests kind) :
    r.BodiesRequest kind := by
  intro name m hget direction
  rcases hentry : r.migrations.entries.find? (fun entry => entry.1 == name) with _ | entry
  · simp [Dict.get?, hentry] at hget
  · obtain rfl : entry.2 = m := by simpa [Dict.get?, hentry] using hget
    have hbodies := h entry (List.mem_of_find?_eq_some hentry)
    cases direction with
    | up => exact hbodies.1
    | down => exact hbodies.2

theorem BodiesRequest.of_ofList {r : Runner} {kind : Operation → Prop}
    {entries : List (String × Migration)} (hlist : r.migrations = Dict.ofList entries)
    (h : ∀ entry ∈ entries, entry.2.up.Requests kind ∧ entry.2.down.Requests kind) :
    r.BodiesRequest kind :=
  .of_entries fun entry hentry => h entry (Dict.mem_of_mem_ofList (hlist ▸ hentry))

theorem SeedersRequest.of_empty {r : Runner} {kind : Operation → Prop} (h : r.seeders = ∅) :
    r.SeedersRequest kind := by
  intro name program hget
  rw [h] at hget
  cases hget

/-- A migration that can be loaded is registered or that of a section file. -/
theorem CanLoad.cases {r : Runner} {m : Migration} (hm : r.CanLoad m) :
    (∃ name, r.migrations.get? name = some m) ∨ ∃ sections, m = Migration.ofSections sections := by
  obtain ⟨path, f, hload⟩ := hm
  unfold Discovery.load at hload
  split at hload
  · cases hload
  · rename_i name _
    split at hload
    · rename_i m' hget
      obtain rfl := Except.ok.inj hload
      exact .inl ⟨name, hget⟩
    · split at hload
      · split at hload
        · cases hload
        · rename_i content _
          rcases hparse : SectionFile.parse name content with e | sections
          · simp [hparse, Except.map] at hload
          · simp only [hparse, Except.map, Except.ok.injEq] at hload
            exact .inr ⟨sections, hload.symm⟩
      · cases hload

/-- Section files only run statements, so they add nothing to what registered programs request. -/
theorem BodiesRequest.of_canLoad {r : Runner} {kind : Operation → Prop} (h : r.BodiesRequest kind)
    (hraw : ∀ statement, kind (.raw statement)) {m : Migration} (hm : r.CanLoad m)
    (direction : Direction) : (m.body direction).Requests kind := by
  obtain ⟨name, hget⟩ | ⟨sections, rfl⟩ := hm.cases
  · exact h name m hget direction
  · cases direction <;> exact Migration.requests_runText hraw _

section Requests

variable {r : Runner} {kind : Operation → Prop} {I : Store → Prop}
  (hI : ∀ op, kind op → ∀ s answer s', Store.perform op s = .ok (answer, s') → I s → I s')
  (hwrites : ∀ op : Operation, op.isTransactional = false → op.touchesLocks = false → kind op)
  (htransaction : ∀ s tables snapshot, I s → I { s with tables, snapshot })
  (hbodies : r.BodiesRequest kind)

include hI hwrites htransaction hbodies

/-- Calls preserve an assertion on stores if all requests of their programs preserve it, as well as
those that calls themselves make: writing tables, and opening and closing transactions. -/
theorem sustainsUnseeded_of_requests : r.SustainsUnseeded fun s => I s.store := by
  have hkept : Tracking.PreservedByWrites I := ⟨fun op ht hl => hI op (hwrites op ht hl)⟩
  constructor
  case invoked => exact fun _ _ _ h => h
  case body =>
    intro s m direction hm h
    exact (hbodies.of_canLoad (fun _ => hwrites _ rfl rfl) hm direction).run_preserves hI _ h
  case begin =>
    rintro s _ h hs
    obtain ⟨-, rfl⟩ := Store.begin_eq_ok.1 hs
    exact htransaction s.store _ _ h
  case commit =>
    rintro s _ h hs
    obtain ⟨-, rfl⟩ := Store.commit_eq_ok.1 hs
    exact htransaction s.store _ _ h
  case rollback =>
    rintro s _ h hs
    obtain ⟨tables, -, rfl⟩ := Store.rollback_eq_ok.1 hs
    exact htransaction s.store _ _ h
  case ensure => exact fun _ _ h hs => hkept.ensure hs h
  case log => exact fun _ _ _ _ h hs => hkept.log hs h
  case delete => exact fun _ _ _ _ h hs => hkept.delete hs h
  case dropTable => exact fun s table _ h hs => hI (.dropTable table) (hwrites _ rfl rfl) _ _ _ hs h

theorem sustains_of_requests (hseeders : r.SeedersRequest kind) :
    r.Sustains fun s => I s.store where
  toSustainsUnseeded := sustainsUnseeded_of_requests hI hwrites htransaction hbodies
  seeder _ name program hget h := (hseeders name program hget).runFully_preserves hI h

end Requests

/-- Whatever calls do, a store keeps having transactions and locks or not. -/
theorem sustains_features (r : Runner) (features : Bool × Bool) :
    r.Sustains fun s => s.store.features = features :=
  sustains_of_requests (fun _ _ _ _ _ hs h => (Store.features_perform hs).trans h)
    (fun _ _ _ => trivial) (fun _ _ _ h => h)
    (fun _ m _ direction => (m.body direction).requests_any)
    (fun _ program _ => program.requests_any)

theorem ignoresNarration_features (features : Bool × Bool) :
    Session.IgnoresNarration fun s => s.store.features = features :=
  ⟨fun _ _ _ h => h, fun _ _ h => h, fun _ _ h => h, fun _ _ _ h => h⟩

@[simp] theorem features_locked (r : Runner) (s : Session) :
    (r.locked s).store.features = s.store.features := by
  obtain ⟨locks, n, h⟩ := r.locked_eq s
  rw [h]
  rfl

theorem features_execute (r : Runner) (t : Task) (s : Session) :
    ((r.execute t).exec s).2.store.features = s.store.features :=
  preserves_execute r (tolerates (ignoresNarration_features s.store.features) r)
    (fun _ => (r.sustains_features s.store.features).toSustainsUnseeded) rfl s rfl

/-- Whether a lock is held does not change if no program touches this lock. -/
theorem isLocked_execute {r : Runner} {lock : String}
    (hbodies : r.BodiesRequest (·.touchesLock lock = false)) (t : Task) (s : Session) :
    ((r.execute t).exec s).2.store.isLocked lock = s.store.isLocked lock := by
  have hreal : r.SustainsUnseeded fun u => u.store.isLocked lock = s.store.isLocked lock :=
    sustainsUnseeded_of_requests (fun _ hop _ _ _ hs h => (Store.isLocked_perform hop hs).trans h)
      (fun _ _ h => Operation.touchesLock_of_touchesLocks h lock) (fun _ _ _ h => h) hbodies
  exact preserves_execute r (tolerates_store r (·.isLocked lock = s.store.isLocked lock))
    (fun _ => hreal) rfl s rfl

/-- Calls keep the tracking table if no program writes it. -/
theorem sustains_kept (r : Runner) (hbodies : r.BodiesRequest (·.writes r.config.table = false))
    (hseeders : r.SeedersRequest (·.writes r.config.table = false)) :
    r.Sustains fun s => Tracking.Kept r.config.table s.store where
  invoked _ _ _ h := h
  body _ _ direction hm h :=
    (hbodies.of_canLoad (fun _ => rfl) hm direction).run_preserves
      (fun _ hop _ _ _ hs h => h.perform hop hs) _ h
  begin _ _ h hs := h.begin hs
  commit _ _ h hs := h.commit hs
  rollback _ _ h hs := h.rollback hs
  ensure _ _ h hs := h.ensure hs
  log _ _ _ _ h hs := h.log hs
  delete _ _ _ _ h hs := h.deleteSelected hs
  dropTable _ _ _ h hs := h.dropTable hs
  seeder _ name program hget h :=
    (hseeders name program hget).runFully_preserves (fun _ hop _ _ _ hs h => h.perform hop hs) h

end Runner

namespace Session

theorem ignoresNarration_kept (table : String) :
    IgnoresNarration fun s => Tracking.Kept table s.store where
  journaled _ _ _ h := h
  progress _ _ h := h
  clock _ _ h := h
  locks _ _ _ h := h.of_get?_eq rfl rfl

end Session

namespace Tracking

/-- The stores in which the tracking table was written by nothing else than calls of runners and the
operations of tracking tables. -/
inductive Reached (table : String) : Store → Prop where
  /-- There never was a tracking table. -/
  | start {s : Store} (tables : s.hasTable table = false)
      (snapshot : ∀ tables, s.snapshot = some tables → tables.get? table = none) : Reached table s
  /-- A request that does not write the tracking table. -/
  | request {s s' : Store} (op : Operation) {answer : op.Answer} (reached : Reached table s)
      (spared : op.writes table = false) (made : Store.perform op s = .ok (answer, s')) :
      Reached table s'
  /-- The tracking table is created. -/
  | ensure {s s' : Store} {x : Unit} (reached : Reached table s)
      (made : Tracking.ensure table s = .ok (x, s')) : Reached table s'
  /-- A record is logged. -/
  | log {s s' : Store} {record x : Record} (reached : Reached table s)
      (made : Tracking.log table record s = .ok (x, s')) : Reached table s'
  /-- The records of a migration are deleted. -/
  | delete {s s' : Store} {migration : String} {n : Nat} (reached : Reached table s)
      (made : Tracking.delete table migration s = .ok (n, s')) : Reached table s'
  /-- All records are deleted. -/
  | deleteAll {s s' : Store} {n : Nat} (reached : Reached table s)
      (made : Tracking.deleteAll table s = .ok (n, s')) : Reached table s'
  /-- A call of a runner whose programs do not write the tracking table, also if the call fails. -/
  | call (s : Session) (r : Runner) (c : Command) (reached : Reached table s.store)
      (own : r.config.table = table) (bodies : r.BodiesRequest (·.writes table = false))
      (seeders : r.SeedersRequest (·.writes table = false)) :
      Reached table ((r.call c).exec s).2.store

/-- There is no tracking table, or nothing else than runners and the operations of tracking tables
wrote it. -/
def Tracked (table : String) (s : Store) : Prop :=
  s.hasTable table = false ∨ Reached table s

variable {table : String} {s : Store}

theorem reached_empty (table : String) : Reached table ({} : Store) :=
  .start rfl nofun

/-- The store in which one record was logged. -/
theorem reached_logged (table : String) {record : Record} (hb : 1 ≤ record.batch.toInt) :
    let empty : Table := { columns := (blueprint table).columns }
    Reached table ((({} : Store).withTable table empty).withTable table
      (empty.append (record.numbered 1) 2)) := by
  intro empty
  have hensure : ensure table {} = .ok ((), ({} : Store).withTable table empty) :=
    ensure_eq_ok.2 rfl
  have hlog : log table record (({} : Store).withTable table empty) =
      .ok ({ record with id := some 1 }, (({} : Store).withTable table empty).withTable table
        (empty.append (record.numbered 1) 2)) := by
    rw [log_of_tracks (Dict.get?_insert_self _ _ empty) (.empty table) hb,
      successor?_eq_some.2 (by decide : (2 : Int64).toInt = (1 : Int64).toInt + 1)]
  exact ((reached_empty table).ensure hensure).log hlog

theorem Reached.kept (h : Reached table s) : Kept table s := by
  induction h with
  | start tables snapshot =>
    refine ⟨fun t ht => ?_, fun tables hs t ht => ?_⟩
    · simp [Store.hasTable_eq_false.1 tables] at ht
    · simp [snapshot tables hs] at ht
  | request op _ spared made ih => exact ih.perform spared made
  | ensure _ made ih => exact ih.ensure made
  | log _ made ih => exact ih.log made
  | delete _ made ih => exact ih.deleteSelected made
  | deleteAll _ made ih => exact ih.deleteSelected made
  | call s r c _ own bodies seeders ih =>
    subst own
    exact Runner.preserves_call r (Session.ignoresNarration_kept _)
      (fun _ => r.sustains_kept bodies seeders) s ih

theorem Tracked.tracks (h : Tracked table s) {t : Table} (ht : s.tables.get? table = some t) :
    t.Tracks := by
  rcases h with h | h
  · simp [Store.hasTable_eq_false.1 h] at ht
  · exact h.kept.tables t ht

end Tracking

end SchemaMigration
