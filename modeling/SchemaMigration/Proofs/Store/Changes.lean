import SchemaMigration.Proofs.Except
import SchemaMigration.Proofs.Store.Requests

/-!
# What changes do to a store

For each change of a store, when it is made and what the store is afterwards, and from this all that
a request can do (`Answered`). So a request that spares a table leaves the table and the transaction
alone.
-/

namespace SchemaMigration

/-- A row that brings a number along keeps it, and any other row gets the next one. -/
theorem Table.insert?_eq_some {t t' : Table} {r stored : Row} :
    t.insert? r = some (stored, t') ↔
      (∃ explicit next, t.explicitId? r = some explicit ∧ successor? explicit = some next ∧
        stored = r ∧ t' = t.append stored (max t.nextId next)) ∨
      (∃ next, t.explicitId? r = none ∧ successor? t.nextId = some next ∧
        stored = r.insert t.idColumn (.int64 t.nextId) ∧ t' = t.append stored next) := by
  have swap {next : Int64} {r : Row} : (r = stored ∧ t.append r next = t') ↔
      (stored = r ∧ t' = t.append stored next) := by
    constructor <;> (rintro ⟨rfl, rfl⟩; exact ⟨rfl, rfl⟩)
  cases hid : t.explicitId? r with
  | some explicit => cases hnext : successor? explicit <;> simp [insert?, hid, hnext, swap]
  | none => cases hnext : successor? t.nextId <;> simp [insert?, hid, hnext, swap]

/-- A row that is inserted comes behind the others. -/
theorem Table.eq_append_of_insert? {t t' : Table} {r stored : Row}
    (h : t.insert? r = some (stored, t')) : t' = t.append stored t'.nextId := by
  obtain ⟨-, next, -, -, -, rfl⟩ | ⟨next, -, -, -, rfl⟩ := insert?_eq_some.1 h <;> rfl

namespace Store

variable {s s' : Store} {name : String}

@[simp] theorem hasTable_eq_true : s.hasTable name = true ↔ ∃ t, s.tables.get? name = some t := by
  simp [hasTable, Dict.contains_eq_isSome, Option.isSome_iff_exists]

@[simp] theorem hasTable_eq_false : s.hasTable name = false ↔ s.tables.get? name = none := by
  simp [hasTable, Dict.contains_eq_isSome]

theorem table_eq_ok {t : Table} : s.table name = .ok t ↔ s.tables.get? name = some t := by
  unfold table
  split <;> simp [refuse, *]

theorem rows_of_get? {t : Table} (h : s.tables.get? name = some t) : s.rows name = t.rows := by
  rw [rows, h]

theorem createTable_eq_ok {columns : List Column} {x : Unit} :
    createTable name columns s = .ok (x, s') ↔
      s.tables.get? name = none ∧ s' = s.withTable name { columns } := by
  unfold createTable
  split
  · rename_i h
    obtain ⟨t, ht⟩ := hasTable_eq_true.1 h
    simp [refuse, ht]
  · rename_i h
    simp [hasTable_eq_false.1 (Bool.eq_false_iff.2 h), eq_comm]

theorem dropTable_eq_ok {x : Unit} :
    dropTable name s = .ok (x, s') ↔
      s.hasTable name = true ∧
        s' = { s with tables := s.tables.erase name, mutations := s.mutations + 1 } := by
  unfold dropTable
  split
  · rename_i h
    simp [h, eq_comm]
  · rename_i h
    simp [h, refuse]

theorem insert_eq_ok {row stored : Row} :
    insert name row s = .ok (stored, s') ↔
      ∃ t t', s.tables.get? name = some t ∧ t.insert? row = some (stored, t') ∧
        s' = s.withTable name t' := by
  simp only [insert, except_bind_eq_ok, table_eq_ok]
  constructor
  · rintro ⟨t, ht, h⟩
    split at h
    · rename_i stored' t' hr
      cases h
      exact ⟨t, t', ht, hr, rfl⟩
    · cases h
  · rintro ⟨t, t', ht, hr, rfl⟩
    refine ⟨t, ht, ?_⟩
    rw [hr]
    rfl

theorem update_eq_ok {id : Value} {data row : Row} :
    update name id data s = .ok (row, s') ↔
      ∃ t t', s.tables.get? name = some t ∧ t.update? id data = some (row, t') ∧
        s' = s.withTable name t' := by
  simp only [update, except_bind_eq_ok, table_eq_ok]
  constructor
  · rintro ⟨t, ht, h⟩
    split at h
    · rename_i row' t' hr
      cases h
      exact ⟨t, t', ht, hr, rfl⟩
    · cases h
  · rintro ⟨t, t', ht, hr, rfl⟩
    refine ⟨t, ht, ?_⟩
    rw [hr]
    rfl

theorem delete_eq_ok {id : Value} {found : Bool} :
    delete name id s = .ok (found, s') ↔
      ∃ t, s.tables.get? name = some t ∧ found = t.rows.any (t.identifies id) ∧
        s' = if found then s.withTable name (t.delete id) else s := by
  simp only [delete, except_bind_eq_ok, table_eq_ok]
  refine exists_congr fun t => and_congr_right fun _ => ?_
  split
  · rename_i h
    rw [h]
    constructor
    · rintro ⟨⟩
      exact ⟨rfl, rfl⟩
    · rintro ⟨rfl, rfl⟩
      rfl
  · rename_i h
    rw [Bool.eq_false_iff.2 h]
    constructor
    · rintro ⟨⟩
      exact ⟨rfl, rfl⟩
    · rintro ⟨rfl, rfl⟩
      rfl

theorem raw_eq_ok {statement : String} {affected : Nat} :
    raw statement s = .ok (affected, s') ↔
      s.rejection? statement = none ∧ affected = 0 ∧
        s' = { s with
          statements := s.statements ++ [statement]
          mutations := s.mutations + 1 } := by
  unfold raw
  split <;> simp [refuse, *, eq_comm]

theorem begin_eq_ok {x : Unit} :
    begin s = .ok (x, s') ↔ s.snapshot = none ∧ s' = { s with snapshot := some s.tables } := by
  unfold begin
  split <;> simp [refuse, *, eq_comm]

theorem commit_eq_ok {x : Unit} :
    commit s = .ok (x, s') ↔
      (∃ tables, s.snapshot = some tables) ∧ s' = { s with snapshot := none } := by
  unfold commit
  split <;> simp [refuse, *, eq_comm]

theorem rollback_eq_ok {x : Unit} :
    rollback s = .ok (x, s') ↔
      ∃ tables, s.snapshot = some tables ∧ s' = { s with tables, snapshot := none } := by
  unfold rollback
  split <;> simp [refuse, *, eq_comm]

/-- What a request that was answered has made of a store. -/
inductive Answered (s : Store) : Operation → Store → Prop where
  /-- Nothing was to be done. -/
  | idle {op : Operation} (idles : op.alwaysActs = false) : Answered s op s
  /-- A table without rows was created. -/
  | created {name : String} {columns : List Column} (new : s.tables.get? name = none) :
      Answered s (.createTable name columns) (s.withTable name { columns })
  /-- A table was dropped. -/
  | dropped {name : String} (there : s.hasTable name = true) :
      Answered s (.dropTable name)
        { s with tables := s.tables.erase name, mutations := s.mutations + 1 }
  /-- A row was inserted. -/
  | inserted {name : String} {row stored : Row} {t t' : Table}
      (found : s.tables.get? name = some t) (stores : t.insert? row = some (stored, t')) :
      Answered s (.insert name row) (s.withTable name t')
  /-- A row was updated. -/
  | updated {name : String} {id : Value} {data row : Row} {t t' : Table}
      (found : s.tables.get? name = some t) (joins : t.update? id data = some (row, t')) :
      Answered s (.update name id data) (s.withTable name t')
  /-- Rows were deleted. -/
  | deleted {name : String} {id : Value} {t : Table}
      (found : s.tables.get? name = some t) (any : t.rows.any (t.identifies id) = true) :
      Answered s (.delete name id) (s.withTable name (t.delete id))
  /-- A statement was run. -/
  | ran {statement : String} :
      Answered s (.raw statement)
        { s with statements := s.statements ++ [statement], mutations := s.mutations + 1 }
  /-- Statements with a part are rejected from now on. -/
  | rejecting {part : String} : Answered s (.reject part) (s.reject part)
  /-- A transaction was opened. -/
  | opened (closed : s.snapshot = none) : Answered s .begin { s with snapshot := some s.tables }
  /-- What was done in a transaction was kept. -/
  | committed {tables : Dict Table} (opened : s.snapshot = some tables) :
      Answered s .commit { s with snapshot := none }
  /-- The tables at the beginning of a transaction were put back. -/
  | rolledBack {tables : Dict Table} (opened : s.snapshot = some tables) :
      Answered s .rollback { s with tables, snapshot := none }
  /-- A lock was taken. -/
  | locked {lock : String} {limit : Nat} :
      Answered s (.acquire lock limit)
        { s with locks := lock :: s.locks, lockAcquisitions := s.lockAcquisitions + 1 }
  /-- A lock was given up. -/
  | unlocked {lock : String} : Answered s (.release lock) (s.release lock)

theorem answered {op : Operation} {answer : op.Answer} (h : perform op s = .ok (answer, s')) :
    s.Answered op s' := by
  cases op with
  | createTable name columns =>
    obtain ⟨hnew, rfl⟩ := createTable_eq_ok.1 h
    exact .created hnew
  | dropTable name =>
    obtain ⟨hthere, rfl⟩ := dropTable_eq_ok.1 h
    exact .dropped hthere
  | insert name row =>
    obtain ⟨t, t', ht, hinsert, rfl⟩ := insert_eq_ok.1 h
    exact .inserted ht hinsert
  | update name id data =>
    obtain ⟨t, t', ht, hupdate, rfl⟩ := update_eq_ok.1 h
    exact .updated ht hupdate
  | delete name id =>
    obtain ⟨t, ht, rfl, rfl⟩ := delete_eq_ok.1 h
    split
    · rename_i hany
      exact .deleted ht hany
    · exact .idle rfl
  | raw statement =>
    obtain ⟨-, -, rfl⟩ := raw_eq_ok.1 h
    exact .ran
  | hasTable | hasColumn | listTables =>
    obtain rfl : s = s' := (Prod.mk.inj (Except.ok.inj h)).2
    exact .idle rfl
  | select name query =>
    obtain ⟨rows, -, h⟩ := except_bind_eq_ok.1 h
    obtain rfl : s = s' := (Prod.mk.inj (Except.ok.inj h)).2
    exact .idle rfl
  | reject part =>
    obtain rfl : s.reject part = s' := (Prod.mk.inj (Except.ok.inj h)).2
    exact .rejecting
  | begin =>
    obtain rfl | ⟨x, hs⟩ := served_eq_ok h
    · exact .idle rfl
    · obtain ⟨hclosed, rfl⟩ := begin_eq_ok.1 hs
      exact .opened hclosed
  | commit =>
    obtain rfl | ⟨x, hs⟩ := served_eq_ok h
    · exact .idle rfl
    · obtain ⟨⟨tables, hopened⟩, rfl⟩ := commit_eq_ok.1 hs
      exact .committed hopened
  | rollback =>
    obtain rfl | ⟨x, hs⟩ := served_eq_ok h
    · exact .idle rfl
    · obtain ⟨tables, hopened, rfl⟩ := rollback_eq_ok.1 hs
      exact .rolledBack hopened
  | acquire lock limit =>
    rw [perform] at h
    obtain rfl | ⟨taken, hs⟩ := served_eq_ok h
    · exact .idle rfl
    · obtain rfl : (acquire lock s).2 = s' := congrArg Prod.snd (Except.ok.inj hs)
      unfold acquire
      split
      · exact .idle rfl
      · exact .locked
  | release lock =>
    rw [perform] at h
    obtain rfl | ⟨released, hs⟩ := served_eq_ok h
    · exact .idle rfl
    · obtain rfl : s.release lock = s' := (Prod.mk.inj (Except.ok.inj hs)).2
      exact .unlocked

/-- A request that neither opens nor closes a transaction leaves the transaction alone, and all
tables that it does not write. -/
theorem perform_frame {op : Operation} (hop : op.isTransactional = false) {answer : op.Answer}
    (h : perform op s = .ok (answer, s')) :
    (∀ table, op.writes table = false → s'.tables.get? table = s.tables.get? table) ∧
      s'.snapshot = s.snapshot ∧ s'.transactional = s.transactional := by
  have other {name : String} {t : Table} (table : String) (hne : (name == table) = false) :
      (s.withTable name t).tables.get? table = s.tables.get? table :=
    Dict.get?_insert_of_ne _ _ fun h => by simp [h] at hne
  cases answered h with
  | created | inserted | updated | deleted => exact ⟨other, rfl, rfl⟩
  | @dropped name there =>
    refine ⟨fun table hw => ?_, rfl, rfl⟩
    have hne : table ≠ name := fun h => by simp [Operation.writes, h] at hw
    exact (Dict.get?_erase _ _ _).trans (if_neg hne)
  | idle | ran | rejecting | locked | unlocked => exact ⟨fun _ _ => rfl, rfl, rfl⟩
  | opened | committed | rolledBack => cases hop

/-- Whether a store has transactions, and whether it has locks. -/
def features (s : Store) : Bool × Bool :=
  (s.transactional, s.lockable)

/-- No request changes what a store has, and only some requests change the locks. -/
theorem perform_features_locks {op : Operation} {answer : op.Answer}
    (h : perform op s = .ok (answer, s')) :
    s'.features = s.features ∧
      (op.touchesLocks = false →
        s'.locks = s.locks ∧ s'.lockAcquisitions = s.lockAcquisitions) := by
  cases answered h with
  | locked | unlocked => exact ⟨rfl, nofun⟩
  | _ => exact ⟨rfl, fun _ => ⟨rfl, rfl⟩⟩

theorem features_perform {op : Operation} {answer : op.Answer}
    (h : perform op s = .ok (answer, s')) : s'.features = s.features :=
  (perform_features_locks h).1

theorem isLocked_release_of_ne {lock name : String} (h : name ≠ lock) (s : Store) :
    (s.release name).isLocked lock = s.isLocked lock := by
  simp [isLocked, release, h.symm]

/-- Whether a lock is held does not depend on what is done to others. -/
theorem isLocked_perform {lock : String} {op : Operation} (hop : op.touchesLock lock = false)
    {answer : op.Answer} (h : perform op s = .ok (answer, s')) :
    s'.isLocked lock = s.isLocked lock := by
  cases answered h with
  | @locked name limit =>
    have hne : name ≠ lock := by simpa [Operation.touchesLock] using hop
    simp [isLocked, hne.symm]
  | @unlocked name =>
    have hne : name ≠ lock := by simpa [Operation.touchesLock] using hop
    exact isLocked_release_of_ne hne s
  | _ => rfl

/-- To open a transaction does nothing to tables. -/
theorem tables_of_begin {answer : Operation.begin.Answer}
    (h : perform .begin s = .ok (answer, s')) : s'.tables = s.tables := by
  cases answered h with
  | idle | opened => rfl

/-- A request that spares a table leaves it and the transaction alone. -/
theorem perform_spares {table : String} {op : Operation} (hop : op.Spares table)
    {answer : op.Answer} (h : perform op s = .ok (answer, s')) :
    s'.tables.get? table = s.tables.get? table ∧ s'.snapshot = s.snapshot ∧
      s'.transactional = s.transactional :=
  (perform_frame hop.isTransactional h).imp_left fun htables => htables table hop.writes

end Store

/-- A program whose requests spare a table leaves it and the transaction alone. -/
theorem Program.Requests.run_spares {α : Type} {table : String} {p : Program α}
    (hp : p.Requests (Operation.Spares table)) (limit : Option Nat) (s : Store) :
    (p.run limit s).2.tables.get? table = s.tables.get? table ∧
      (p.run limit s).2.snapshot = s.snapshot :=
  hp.run_preserves
    (I := fun s' => s'.tables.get? table = s.tables.get? table ∧ s'.snapshot = s.snapshot)
    (fun _ hop _ _ _ hs h => by
      obtain ⟨htables, hsnapshot, -⟩ := Store.perform_spares hop hs
      exact ⟨htables.trans h.1, hsnapshot.trans h.2⟩) limit ⟨rfl, rfl⟩

theorem Program.Requests.runFully_spares {α : Type} {table : String} {p : Program α}
    (hp : p.Requests (Operation.Spares table)) (s : Store) :
    (p.runFully s).2.tables.get? table = s.tables.get? table := by
  have h := (hp.run_spares none s).1
  rwa [Program.run_none] at h

/-- A program that opens and closes no transactions leaves the transaction alone. -/
theorem Program.Requests.run_snapshot {α : Type} {p : Program α}
    (hp : p.Requests (·.isTransactional = false)) (limit : Option Nat) (s : Store) :
    (p.run limit s).2.snapshot = s.snapshot :=
  hp.run_preserves (I := fun s' => s'.snapshot = s.snapshot)
    (fun _ hop _ _ _ hs h => (Store.perform_frame hop hs).2.1.trans h) limit rfl

end SchemaMigration
