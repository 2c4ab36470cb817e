import Mathlib
import SchemaMigration.Proofs.Runner.Task

/-!
# Transactions around programs

The transaction of a migration is around its program alone. A program that fails or runs out of time
leaves no trace, whatever it did before. A program that returns is committed before the tracking
table is brought up to date, so the change is kept also if it cannot be recorded.
-/

namespace SchemaMigration

namespace Task

/-- A task is really carried out, and its program runs in a transaction that it leaves to others. -/
structure Transacts (t : Task) (r : Runner) (m : Migration) (s : Session) : Prop where
  real : t.pretend = false
  loaded : Discovery.load r.migrations t.path s.files = .ok m
  transactional : m.transactional = true
  served : s.store.transactional = true
  requests : (m.body t.direction).Requests (·.isTransactional = false)

/-- What is recorded after a task: one record more, which is that of the migration, or all records
but those of the migration. -/
def Tracked (t : Task) (before after : List Record) : Prop :=
  match t.direction with
  | .up => ∃ record : Record, record.migration = t.name ∧ record.batch = t.batch ∧
      after = before ++ [record]
  | .down => after = before.filter fun record => record.migration != t.name

/-- What a task whose program returned makes of the tracking table. -/
inductive Updates (t : Task) (before : Table) : Table → Prop where
  /-- The row of a record is inserted. -/
  | logged {record : Record} {row : Row} {after : Table} (up : t.direction = .up)
      (numbered : 1 ≤ t.batch.toInt) (migration : record.migration = t.name)
      (batch : record.batch = t.batch)
      (inserted : before.insert? record.toRow = some (row, after)) : Updates t before after
  /-- The rows go that are identified as the rows of the migration are. -/
  | deleted (down : t.direction = .down) :
      Updates t before { before with
        rows := before.rows.filter fun row =>
          (Tracking.selectedIds (({} : Query).whereEq "migration" (.string t.name)) before).all
            fun id => !before.identifies id row }

/-- Why a task whose program returned cannot be tracked. -/
inductive Untracked (t : Task) (table : String) (tracking : Option Table) : Fault → Prop where
  /-- Its batch is not one that batches have. -/
  | reserved (up : t.direction = .up) (batch : t.batch.toInt < 1) :
      Untracked t table tracking (.failed (.validation (.reservedBatch t.name t.batch.toInt)))
  /-- There is no tracking table. -/
  | missing (batch : t.direction = .up → 1 ≤ t.batch.toInt) (absent : tracking = none) :
      Untracked t table tracking (.failed (.adapter (.noSuchTable table)))
  /-- There is no number left for its record. -/
  | unnumbered {before : Table} {record : Record} (up : t.direction = .up)
      (found : tracking = some before) (migration : record.migration = t.name)
      (batch : record.batch = t.batch) (full : before.insert? record.toRow = none) :
      Untracked t table tracking .overflow

variable {t : Task} {before after : Table}

/-- In a table that tracks, one record is appended, or just the records of the migration go. -/
theorem Updates.tracked (h : t.Updates before after) (htracks : before.Tracks) :
    t.Tracked (before.rows.map Record.ofRow) (after.rows.map Record.ofRow) := by
  cases h with
  | @logged record row after up _ migration batch inserted =>
    rw [htracks.insert?_toRow] at inserted
    cases hnext : successor? before.nextId with
    | none => simp [hnext] at inserted
    | some next =>
      simp only [hnext, Option.map_some, Option.some.injEq, Prod.mk.injEq] at inserted
      obtain ⟨-, rfl⟩ := inserted
      simp only [Tracked, up]
      exact ⟨{ record with id := some before.nextId }, migration, batch, by simp [Table.append]⟩
  | deleted down =>
    simp only [Tracked, down, List.filter_map]
    congr 1
    exact List.filter_congr fun row hrow => htracks.all_not_identifies t.name hrow

end Task

namespace Runner

variable {r : Runner} {t : Task} {m : Migration} {s : Session}

/-- How the program of a task ends that is started on a store, and what it makes of the store. -/
def outcome (r : Runner) (t : Task) (m : Migration) (s : Store) : Outcome Unit × Store :=
  (m.body t.direction).run r.config.timeout (m.opened s)

/-- A task is tracked if its batch, the tracking table and the numbers left in it allow this. -/
theorem exec_track_total (r : Runner) (t : Task) (started : Instant) (s : Session) :
    ∃ result s', (r.track t started).exec s = (result, s') ∧
      match result with
      | .ok () => s'.store.snapshot = s.store.snapshot ∧
          ∃ before after, s.store.tables.get? r.config.table = some before ∧
            t.Updates before after ∧ s'.store.tables.get? r.config.table = some after ∧
            ∀ name, name ≠ r.config.table →
              s'.store.tables.get? name = s.store.tables.get? name
      | .error fault => s'.store = s.store ∧
          t.Untracked r.config.table (s.store.tables.get? r.config.table) fault := by
  cases hdirection : t.direction with
  | up =>
    rw [exec_track_up hdirection]
    by_cases hb : t.batch.toInt < 1
    · have hreserved : (recordOf t started s).batch.toInt < 1 := hb
      rw [Tracking.log_of_reserved hreserved]
      exact ⟨_, _, rfl, rfl, .reserved hdirection hb⟩
    · have hb : 1 ≤ t.batch.toInt := Int.not_lt.1 hb
      have hnumbered : 1 ≤ (recordOf t started s).batch.toInt := hb
      cases hget : s.store.tables.get? r.config.table with
      | none =>
        rw [Tracking.log_of_missing hget hnumbered]
        exact ⟨_, _, rfl, rfl, .missing (fun _ => hb) rfl⟩
      | some before =>
        rw [Tracking.log_of_get? hget hnumbered]
        cases hinsert : before.insert? (recordOf t started s).toRow with
        | none => exact ⟨_, _, rfl, rfl, .unnumbered hdirection rfl rfl rfl hinsert⟩
        | some stored =>
          have hupdates : t.Updates before stored.2 := .logged hdirection hb rfl rfl hinsert
          exact ⟨_, _, rfl, rfl, before, _, rfl, hupdates, Dict.get?_insert_self _ _ _,
            fun _ hne => Dict.get?_insert_of_ne _ _ hne⟩
  | down =>
    rw [exec_track_down hdirection]
    cases hget : s.store.tables.get? r.config.table with
    | none =>
      rw [Tracking.delete_of_missing hget]
      exact ⟨_, _, rfl, rfl, .missing (fun hup => by simp [hdirection] at hup) rfl⟩
    | some before =>
      obtain ⟨n, store, hdelete, hafter, hsnapshot, hothers⟩ :=
        Tracking.deleteSelected_eq_ok (({} : Query).whereEq "migration" (.string t.name)) hget
      rw [show Tracking.delete r.config.table t.name s.store = .ok (n, store) from hdelete]
      exact ⟨_, _, rfl, hsnapshot, before, _, rfl, .deleted hdirection, hafter, hothers⟩

theorem opensTransaction_of_transacts (h : t.Transacts r m s) :
    m.opensTransaction s.store = true := by
  simp [Migration.opensTransaction, h.transactional, h.served]

/-- With no other transaction open, the program is run in its own, and this is closed again. -/
theorem exec_invoke_of_transacts (h : t.Transacts r m s) (hclosed : s.store.snapshot = none) :
    ∃ s', (r.invoke t m).exec (r.launched t s) =
        (r.verdict t (r.outcome t m s.store).1, s') ∧
      s'.store = m.settled s.store (r.outcome t m s.store) := by
  have hinvoke := exec_invoke_of_left_open (r := r) (t := t) (m := m) (s := r.launched t s)
  simp only [store_launched] at hinvoke
  exact ⟨_, hinvoke (fun _ => hclosed) fun _ => h.requests.run_snapshot _ _, rfl⟩

/-- With another transaction open, the program is not started. -/
theorem exec_execute_of_inTransaction (h : t.Transacts r m s)
    (hopen : s.store.inTransaction = true) :
    ∃ s', (r.execute t).exec s =
        (.error (.failed (.execution t.name (.adapter .transactionActive))), s') ∧
      s'.store = s.store := by
  have hblocked : ¬m.CanStart s.store := by
    intro hstart
    simp [Store.inTransaction, hstart (opensTransaction_of_transacts h)] at hopen
  rw [← store_launched r t s] at hblocked ⊢
  exact exec_execute_of_invoke_error h.real h.loaded (exec_invoke_of_not_canStart hblocked)

/-- A program that fails or runs out of time leaves no trace: whatever it did before, all tables are
what they were, and no transaction is open. -/
theorem unfinished_program_is_undone (h : t.Transacts r m s)
    (hclosed : s.store.snapshot = none)
    (hunfinished : (r.outcome t m s.store).1 = .timedOut ∨
      ∃ e, (r.outcome t m s.store).1 = .failed e) :
    ∃ e s', r.verdict t (r.outcome t m s.store).1 = .error (.failed e) ∧
      (r.execute t).exec s = (.error (.failed e), s') ∧
      s'.store.tables = s.store.tables ∧ s'.store.snapshot = none := by
  obtain ⟨s₁, hinvoke, hstore⟩ := exec_invoke_of_transacts h hclosed
  have hopens := opensTransaction_of_transacts h
  obtain ⟨e, hverdict⟩ : ∃ e, r.verdict t (r.outcome t m s.store).1 = .error (.failed e) := by
    rcases hunfinished with hend | ⟨e, hend⟩
    · rw [hend]
      exact ⟨_, rfl⟩
    · rw [hend]
      exact ⟨_, rfl⟩
  have hundone : s₁.store.tables = s.store.tables ∧ s₁.store.snapshot = none := by
    rw [hstore]
    generalize r.outcome t m s.store = outcome at hunfinished ⊢
    obtain ⟨result, store⟩ := outcome
    rcases hunfinished with rfl | ⟨e, rfl⟩ <;> simp [Migration.settled, hopens]
  rw [hverdict] at hinvoke
  obtain ⟨s', hexec, hstore'⟩ := exec_execute_of_invoke_error h.real h.loaded hinvoke
  rw [← hstore'] at hundone
  exact ⟨e, s', hverdict, hexec, hundone⟩

/-- A program that drops a table and creates another one before its time is over. -/
theorem drop_is_undone_at_timeout :
    let a : Migration := {
      up := (Program.request (.dropTable "users")).bind fun _ =>
        (Program.request (.createTable "logs" [])).bind fun _ => .sleep 50 (.pure ())
      down := .pure () }
    let config : Config := { paths := ["m"], timeout := some 10 }
    let r : Runner := { config, migrations := Dict.ofList [("a", a)] }
    let users : Table := { columns := [], rows := [∅], nextId := 7 }
    let s : Session := { store := { tables := Dict.ofList [("users", users)] } }
    let t := applying 1 ("a", "m/a.rs")
    t.Transacts r a s ∧ s.store.snapshot = none ∧ (r.outcome t a s.store).1 = .timedOut ∧
      ∃ s', (r.execute t).exec s = (.error (.failed (.timeout "a" 10)), s') ∧
        s'.store.tables = Dict.ofList [("users", users)] ∧ s'.store.snapshot = none := by
  intro a config r users s t
  have htransacts : t.Transacts r a s := by
    refine ⟨rfl, by cbv, rfl, rfl, ?_⟩
    exact .bind (Program.requests_request rfl) fun _ =>
      .bind (Program.requests_request rfl) fun _ => trivial
  have htimeout : (r.outcome t a s.store).1 = .timedOut := by cbv
  obtain ⟨e, s', hverdict, hexec, htables, hclosed⟩ :=
    unfinished_program_is_undone htransacts rfl (.inl htimeout)
  rw [htimeout] at hverdict
  obtain rfl := Fault.failed.inj (Except.error.inj hverdict)
  exact ⟨htransacts, rfl, htimeout, s', hexec, htables, hclosed⟩

/-- A program that returned is committed, and then its task ends as it is tracked. -/
theorem exec_execute_of_returned (h : t.Transacts r m s) (hclosed : s.store.snapshot = none)
    (hreturned : (r.outcome t m s.store).1 = .returned ()) :
    ∃ result s', (r.execute t).exec s = (result, s') ∧ s'.store.snapshot = none ∧
      match result with
      | .ok () => ∃ before after,
          (r.outcome t m s.store).2.tables.get? r.config.table = some before ∧
          t.Updates before after ∧ s'.store.tables.get? r.config.table = some after ∧
          ∀ name, name ≠ r.config.table →
            s'.store.tables.get? name = (r.outcome t m s.store).2.tables.get? name
      | .error fault => s'.store.tables = (r.outcome t m s.store).2.tables ∧
          t.Untracked r.config.table
            ((r.outcome t m s.store).2.tables.get? r.config.table) fault := by
  obtain ⟨s₁, hinvoke, hstore⟩ := exec_invoke_of_transacts h hclosed
  have hcommitted : s₁.store = { (r.outcome t m s.store).2 with snapshot := none } := by
    rw [hstore, m.settled_of_returned s.store hreturned, Migration.closed,
      if_pos (opensTransaction_of_transacts h)]
  rw [hreturned] at hinvoke
  obtain ⟨result, s₂, htrack, hresult⟩ := exec_track_total r t s.clock s₁
  obtain ⟨s', hexec, hstore'⟩ := exec_execute_of_track h.real h.loaded hinvoke htrack
  rw [hcommitted] at hresult
  refine ⟨result, s', hexec, ?_⟩
  rw [hstore']
  cases result with
  | ok => exact hresult
  | error fault => exact hresult.1 ▸ ⟨rfl, rfl, hresult.2⟩

/-- A task either changes the tables as its program does and is tracked, or it fails with all tables
as they were. -/
def IsAtomic (r : Runner) (t : Task) (m : Migration) (s : Session) : Prop :=
  let finished := (r.outcome t m s.store).2
  ∃ result s', (r.execute t).exec s = (result, s') ∧
    match result with
    | .ok () =>
      t.Tracked (Tracking.recorded r.config.table finished)
          (Tracking.recorded r.config.table s'.store) ∧
        ∀ name, name ≠ r.config.table →
          s'.store.tables.get? name = finished.tables.get? name
    | .error _ => s'.store.tables = s.store.tables

/-- A program that drops the tracking table is kept although its task fails, and a task that is to
delete a record returns with the record still there if the tracking table numbers its rows under
another name. -/
theorem kept_change_is_not_atomic :
    let a : Migration := {
      up := (Program.request (.dropTable "arcanox_migrations")).bind fun _ =>
        .request (.createTable "users" [])
      down := .pure () }
    let r : Runner := { config := { paths := ["m"] }, migrations := Dict.ofList [("a", a)] }
    let record : Record := { migration := "a", batch := 1 }
    let foreign : Table := {
      columns := [{ name := "nr", kind := .bigInteger, autoIncrement := true }]
      rows := [record.toRow.insert "nr" (.int64 1)]
      nextId := 2 }
    let s : Session := { store := { tables := Dict.ofList [("arcanox_migrations", foreign)] } }
    let contradicts (t : Task) : Prop :=
      t.Transacts r a s ∧ s.store.inTransaction = false ∧
        (r.outcome t a s.store).1 = .returned () ∧ ¬r.IsAtomic t a s
    contradicts (applying 1 ("a", "m/a.rs")) ∧ contradicts (reverting record "m/a.rs") := by
  intro a r record foreign s contradicts
  have hload : Discovery.load r.migrations "m/a.rs" s.files = .ok a := by cbv
  have hup : (applying 1 ("a", "m/a.rs")).Transacts r a s :=
    ⟨rfl, hload, rfl, rfl, .bind (Program.requests_request rfl) fun _ =>
      Program.requests_request rfl⟩
  have hdown : (reverting record "m/a.rs").Transacts r a s := ⟨rfl, hload, rfl, rfl, trivial⟩
  have hfinished : (r.outcome (applying 1 ("a", "m/a.rs")) a s.store).1 = .returned () := by cbv
  refine ⟨⟨hup, rfl, hfinished, ?_⟩, hdown, rfl, rfl, ?_⟩
  · rintro ⟨result, s', hexec, hatomic⟩
    obtain ⟨result', s₁, hexec', -, hresult⟩ := exec_execute_of_returned hup rfl hfinished
    obtain ⟨rfl, rfl⟩ := Prod.mk.inj (hexec'.symm.trans hexec)
    have hdropped : (r.outcome (applying 1 ("a", "m/a.rs")) a s.store).2.tables.get?
        "arcanox_migrations" = none := by cbv
    cases result' with
    | ok =>
      obtain ⟨before, after, hbefore, -⟩ := hresult
      rw [hdropped] at hbefore
      cases hbefore
    | error fault =>
      rw [← hresult.1, hatomic] at hdropped
      cases hdropped
  · rintro ⟨result, s', hexec, hatomic⟩
    have hreturned : ((r.execute (reverting record "m/a.rs")).exec s).1 = .ok () := by cbv
    have hrecorded : Tracking.recorded r.config.table
        ((r.execute (reverting record "m/a.rs")).exec s).2.store = [record] := by cbv
    rw [hexec] at hreturned hrecorded
    obtain rfl : result = .ok () := hreturned
    have hfiltered : Tracking.recorded r.config.table s'.store =
        (Tracking.recorded r.config.table s.store).filter fun found => found.migration != "a" :=
      hatomic.1
    have hgone : ((Tracking.recorded r.config.table s.store).filter fun found =>
        found.migration != "a") = [] := by cbv
    rw [hfiltered, hgone] at hrecorded
    cases hrecorded

/-- What a program did that returned is kept. It is committed before the tracking table is brought
up to date, so a task that cannot be tracked fails with the change in place, unrecorded. Only a
transaction that was open before prevents the change. -/
theorem returned_program_is_kept (h : t.Transacts r m s)
    (hreturned : (r.outcome t m s.store).1 = .returned ()) :
    (s.store.inTransaction = true → ∃ s', (r.execute t).exec s =
        (.error (.failed (.execution t.name (.adapter .transactionActive))), s') ∧
      s'.store.tables = s.store.tables) ∧
    (s.store.inTransaction = false →
      ∃ result s', (r.execute t).exec s = (result, s') ∧ s'.store.inTransaction = false ∧
        match result with
        | .ok () => ∃ before after,
            (r.outcome t m s.store).2.tables.get? r.config.table = some before ∧
            t.Updates before after ∧ s'.store.tables.get? r.config.table = some after ∧
            (before.Tracks →
              t.Tracked (before.rows.map Record.ofRow) (after.rows.map Record.ofRow)) ∧
            ∀ name, name ≠ r.config.table →
              s'.store.tables.get? name = (r.outcome t m s.store).2.tables.get? name
        | .error fault => s'.store.tables = (r.outcome t m s.store).2.tables ∧
            t.Untracked r.config.table
              ((r.outcome t m s.store).2.tables.get? r.config.table) fault) := by
  constructor
  · intro hopen
    obtain ⟨s', hexec, hstore⟩ := exec_execute_of_inTransaction h hopen
    exact ⟨s', hexec, congrArg (·.tables) hstore⟩
  · intro hopen
    have hclosed : s.store.snapshot = none := by simpa [Store.inTransaction] using hopen
    obtain ⟨result, s', hexec, hclosed', hresult⟩ := exec_execute_of_returned h hclosed hreturned
    refine ⟨result, s', hexec, by simp [Store.inTransaction, hclosed'], ?_⟩
    cases result with
    | ok =>
      obtain ⟨before, after, hbefore, hupdates, hafter, hothers⟩ := hresult
      exact ⟨before, after, hbefore, hupdates, hafter, hupdates.tracked, hothers⟩
    | error fault => exact hresult

/-- The first migration in a store with an empty tracking table. -/
theorem created_table_is_kept :
    let a : Migration := { up := .request (.createTable "users" []), down := .pure () }
    let r : Runner := { config := { paths := ["m"] }, migrations := Dict.ofList [("a", a)] }
    let empty : Table := { columns := (Tracking.blueprint r.config.table).columns }
    let s : Session := { store := ({} : Store).withTable r.config.table empty }
    let t := applying 1 ("a", "m/a.rs")
    t.Transacts r a s ∧ (r.outcome t a s.store).1 = .returned () ∧
      s.store.inTransaction = false ∧
      ∃ s', (r.execute t).exec s = (.ok (), s') ∧ s'.store.hasTable "users" = true ∧
        (Tracking.recorded r.config.table s'.store).map
          (fun record => (record.migration, record.batch)) = [("a", 1)] := by
  intro a r empty s t
  have htransacts : t.Transacts r a s := ⟨rfl, by cbv, rfl, rfl, Program.requests_request rfl⟩
  have houtcome : r.outcome t a s.store =
      (.returned (), (a.opened s.store).withTable "users" { columns := [] }) := rfl
  have hreturned : (r.outcome t a s.store).1 = .returned () := by rw [houtcome]
  have htracks : empty.Tracks := .empty r.config.table
  have hfound : (r.outcome t a s.store).2.tables.get? r.config.table = some empty := by
    rw [houtcome]
    exact (Dict.get?_insert_of_ne _ _ (by decide)).trans (Dict.get?_insert_self _ _ _)
  obtain ⟨result, s', hexec, -, hresult⟩ := (returned_program_is_kept htransacts hreturned).2 rfl
  refine ⟨htransacts, hreturned, rfl, ?_⟩
  cases result with
  | ok =>
    obtain ⟨before, after, hbefore, -, hafter, htracked, hothers⟩ := hresult
    obtain rfl : empty = before := Option.some.inj (hfound.symm.trans hbefore)
    obtain ⟨record, hname, hbatch, hrecords⟩ := htracked htracks
    refine ⟨s', hexec, ?_, ?_⟩
    · have husers : s'.store.tables.get? "users" = some { columns := [] } :=
        (hothers "users" (by decide)).trans (houtcome ▸ Dict.get?_insert_self _ _ _)
      simp [husers]
    · rw [Tracking.recorded_of_get? hafter, hrecords, List.map_append, List.map_singleton, hname,
        hbatch]
      rfl
  | error fault =>
    rw [hfound] at hresult
    cases hresult.2 with
    | reserved _ batch => exact absurd batch (by decide)
    | missing _ absent => cases absent
    | @unnumbered before record _ found _ _ full =>
      obtain rfl := Option.some.inj found
      rw [htracks.insert?_toRow record,
        successor?_eq_some.2 (by decide : (2 : Int64).toInt = (1 : Int64).toInt + 1)] at full
      cases full

end Runner

end SchemaMigration
