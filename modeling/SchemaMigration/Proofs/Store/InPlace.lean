import SchemaMigration.Proofs.Dict
import SchemaMigration.Proofs.Store.Sequence

/-!
# Requests carried out in place

A change that fails has no store afterwards, so nothing could be left half done. Here the same
requests edit one store step by step, with the checks, the edits and the counting in the order in
which they are made, and what was edited stays edited when a later step fails. `exec_edit` says that
this comes to the same: whenever a request fails, the store is as it was.
-/

namespace SchemaMigration

/-- A function that edits a store step by step. -/
abbrev Edit (α : Type) := ExceptT Fault (StateM Store) α

namespace Edit

variable {α β : Type}

/-- What an edit returns, and the store that it leaves, also if it fails. -/
def exec (e : Edit α) (s : Store) : Except Fault α × Store :=
  e.run.run s

@[simp] theorem exec_pure (x : α) (s : Store) : (pure x : Edit α).exec s = (.ok x, s) := rfl

@[simp] theorem exec_throw (fault : Fault) (s : Store) :
    (throw fault : Edit α).exec s = (.error fault, s) := rfl

@[simp] theorem exec_get (s : Store) : (get : Edit Store).exec s = (.ok s, s) := rfl

@[simp] theorem exec_modify (f : Store → Store) (s : Store) :
    (modify f : Edit Unit).exec s = (.ok (), f s) := rfl

@[simp] theorem exec_bind (e : Edit α) (f : α → Edit β) (s : Store) :
    (e >>= f).exec s =
      match e.exec s with
      | (.ok x, s') => (f x).exec s'
      | (.error fault, s') => (.error fault, s') := by
  unfold exec
  rcases h : e.run.run s with ⟨fault | x, s'⟩ <;>
    simp only [ExceptT.run_bind, StateT.run_bind, h] <;> rfl

@[simp] theorem exec_ite {c : Prop} [Decidable c] (e f : Edit α) (s : Store) :
    (if c then e else f).exec s = if c then e.exec s else f.exec s := by
  split <;> rfl

/-- Fails because the store refuses. -/
def refuse (cause : AdapterCause) : Edit α :=
  throw (.failed (.adapter cause))

@[simp] theorem exec_refuse (cause : AdapterCause) (s : Store) :
    (refuse cause : Edit α).exec s = (.error (.failed (.adapter cause)), s) := rfl

/-- Counts one more change. -/
def count : Edit Unit :=
  modify fun s => { s with mutations := s.mutations + 1 }

/-- The table with a name. -/
def find (table : String) : Edit Table := do
  match (← get).tables.get? table with
  | some t => return t
  | none => refuse (.noSuchTable table)

theorem exec_find (table : String) (s : Store) : (find table).exec s = (s.table table, s) := by
  simp only [find, exec_bind, exec_get, Store.table]
  cases s.tables.get? table <;> rfl

/-- Puts a table in the place of the one with a name. -/
def put (table : String) (t : Table) : Edit Unit :=
  modify fun s => { s with tables := s.tables.insert table t }

@[simp] theorem exec_put (table : String) (t : Table) (s : Store) :
    (put table t).exec s = (.ok (), { s with tables := s.tables.insert table t }) := rfl

/-- The successor of a number, which has to have 64 bits. -/
def successor (n : Int64) : Edit Int64 :=
  match successor? n with
  | some next => return next
  | none => throw .overflow

/-- Creates a table without rows. -/
def createTable (table : String) (columns : List Column) : Edit Unit := do
  if (← get).hasTable table then
    refuse (.tableExists table)
  else
    put table { columns }
    count

/-- Drops a table. It is looked for while it is taken out. -/
def dropTable (table : String) : Edit Unit := do
  let dropped := (← get).tables.get? table
  modify fun s => { s with tables := s.tables.erase table }
  match dropped with
  | some _ => count
  | none => refuse (.noSuchTable table)

/-- Moves the number of the next row on, past the number that a row brings along; returns the row
with its number. -/
def number (table : String) (t : Table) (r : Row) : Edit Row := do
  match t.explicitId? r with
  | some explicit =>
    let next ← successor explicit
    put table { t with nextId := max t.nextId next }
    return r
  | none =>
    let next ← successor t.nextId
    put table { t with nextId := next }
    return r.insert t.idColumn (.int64 t.nextId)

/-- Inserts a row. Its number is settled before the row is put behind the others. -/
def insert (table : String) (r : Row) : Edit Row := do
  let stored ← number table (← find table) r
  let t ← find table
  put table { t with rows := t.rows ++ [stored] }
  count
  return stored

/-- Sets values in the first row with an identifying value. -/
def update (table : String) (id : Value) (data : Row) : Edit Row := do
  let t ← find table
  match updateFirst? (t.identifies id) (fun r => r.union data) t.rows with
  | some (r, rows) =>
    put table { t with rows }
    count
    return r
  | none => refuse (.noSuchRow table t.idColumn id.inspect)

/-- Deletes the rows with an identifying value. That there was one shows in the number of rows. -/
def delete (table : String) (id : Value) : Edit Bool := do
  let t ← find table
  put table (t.delete id)
  let deleted := (t.delete id).rows.length != t.rows.length
  if deleted then
    count
    return deleted
  else return deleted

/-- Runs a statement. -/
def raw (statement : String) : Edit Nat := do
  match (← get).rejection? statement with
  | some part => refuse (.rejected part statement)
  | none =>
    modify fun s => { s with statements := s.statements ++ [statement] }
    count
    return 0

/-- Opens a transaction. -/
def begin : Edit Unit := do
  if (← get).inTransaction then
    refuse .transactionActive
  else
    modify fun s => { s with snapshot := some s.tables }

/-- Takes the copy of the tables at the beginning of the transaction out of the store. -/
def takeSnapshot : Edit (Option (Dict Table)) := do
  let snapshot := (← get).snapshot
  modify fun s => { s with snapshot := none }
  return snapshot

/-- Closes the transaction and keeps what was done in it. -/
def commit : Edit Unit := do
  match ← takeSnapshot with
  | some _ => return ()
  | none => refuse .nothingToCommit

/-- Closes the transaction and goes back to the tables at its beginning. -/
def rollback : Edit Unit := do
  match ← takeSnapshot with
  | some tables => modify fun s => { s with tables }
  | none => refuse .nothingToRollBack

/-- Takes a lock if it is free; returns whether it was. -/
def acquire (lock : String) : Edit Bool := do
  if (← get).isLocked lock then
    return false
  else
    modify fun s => { s with locks := lock :: s.locks }
    modify fun s => { s with lockAcquisitions := s.lockAcquisitions + 1 }
    return true

/-- An edit that is made only if the store serves it. -/
def served (serves : Store → Bool) (e : Edit α) : Edit (Option α) := do
  if serves (← get) then
    return some (← e)
  else return none

end Edit

/-- What a request does to a store, step by step. -/
def Operation.edit : (op : Operation) → Edit op.Answer
  | createTable table columns => Edit.createTable table columns
  | dropTable table => Edit.dropTable table
  | hasTable table => return (← get).hasTable table
  | hasColumn table column => return (← get).hasColumn table column
  | listTables => return (← get).listTables
  | select table query => return query.select (← Edit.find table).rows
  | insert table row => Edit.insert table row
  | update table id data => Edit.update table id data
  | delete table id => Edit.delete table id
  | raw statement => Edit.raw statement
  | reject part => modify (Store.reject part)
  | begin => Edit.served Store.transactional Edit.begin
  | commit => Edit.served Store.transactional Edit.commit
  | rollback => Edit.served Store.transactional Edit.rollback
  | acquire lock _ => Edit.served Store.lockable (Edit.acquire lock)
  | release lock => Edit.served Store.lockable (modify (Store.release lock))

namespace Edit

variable {α : Type} (s : Store)

theorem exec_createTable (name : String) (columns : List Column) :
    (createTable name columns).exec s = Change.exec (Store.createTable name columns) s := by
  simp only [createTable, exec_bind, exec_get, exec_ite, exec_refuse, exec_put, Change.exec,
    Store.createTable]
  split <;> rfl

theorem exec_dropTable (name : String) :
    (dropTable name).exec s = Change.exec (Store.dropTable name) s := by
  cases h : s.tables.get? name with
  | some t =>
    have hhas := Store.hasTable_eq_true.2 ⟨t, h⟩
    simp only [dropTable, exec_bind, exec_get, exec_modify, h, Change.exec, Store.dropTable, hhas]
    rfl
  | none =>
    have hhas := Store.hasTable_eq_false.2 h
    simp only [dropTable, exec_bind, exec_get, exec_modify, h, Change.exec, Store.dropTable, hhas,
      Dict.erase_of_get?_eq_none h]
    rfl

/-- The only step that can fail after the table was found comes before the first edit. -/
theorem exec_number (name : String) (t : Table) (r : Row) :
    (number name t r).exec s =
      match t.insert? r with
      | some (stored, t') =>
        (.ok stored, { s with tables := s.tables.insert name { t with nextId := t'.nextId } })
      | none => (.error .overflow, s) := by
  cases hid : t.explicitId? r with
  | some explicit =>
    cases hnext : successor? explicit <;>
      simp only [number, Table.insert?, successor, hid, hnext, exec_bind] <;> rfl
  | none =>
    cases hnext : successor? t.nextId <;>
      simp only [number, Table.insert?, successor, hid, hnext, exec_bind] <;> rfl

theorem exec_insert (name : String) (r : Row) :
    (insert name r).exec s = Change.exec (Store.insert name r) s := by
  cases ht : s.table name with
  | error fault =>
    have hinsert : Store.insert name r s = .error fault := by rw [Store.insert, ht]; rfl
    simp only [Change.exec_of_error hinsert, insert, exec_bind, exec_find, ht]
  | ok t =>
    cases hr : t.insert? r with
    | none =>
      have hinsert : Store.insert name r s = .error .overflow := by
        rw [Store.insert, ht]
        simp only [bind, Except.bind, hr]
        rfl
      simp only [Change.exec_of_error hinsert, insert, exec_bind, exec_find, ht, exec_number, hr]
    | some result =>
      obtain ⟨stored, t'⟩ := result
      have hinsert := Store.insert_eq_ok.2 ⟨t, t', Store.table_eq_ok.1 ht, hr, rfl⟩
      have hfound (t : Table) : Store.table { s with tables := s.tables.insert name t } name =
          .ok t := Store.table_eq_ok.2 (Dict.get?_insert_self _ _ _)
      have ht' : { t with rows := t.rows ++ [stored], nextId := t'.nextId } = t' :=
        (Table.eq_append_of_insert? hr).symm
      simp only [Change.exec_of_ok hinsert, insert, exec_bind, exec_find, ht, exec_number, hr,
        hfound, exec_put, ht', Dict.insert_insert]
      rfl

theorem exec_update (name : String) (id : Value) (data : Row) :
    (update name id data).exec s = Change.exec (Store.update name id data) s := by
  cases ht : s.table name with
  | error fault =>
    have hupdate : Store.update name id data s = .error fault := by rw [Store.update, ht]; rfl
    simp only [Change.exec_of_error hupdate, update, exec_bind, exec_find, ht]
  | ok t =>
    cases hr : updateFirst? (t.identifies id) (fun r => r.union data) t.rows with
    | none =>
      have hnone : t.update? id data = none := by rw [Table.update?, hr]; rfl
      have hupdate : Store.update name id data s =
          Store.refuse (.noSuchRow name t.idColumn id.inspect) := by
        rw [Store.update, ht]
        simp only [bind, Except.bind, hnone]
      simp only [Change.exec_of_error hupdate, update, exec_bind, exec_find, ht, hr, exec_refuse]
    | some result =>
      have hsome : t.update? id data = some (result.1, { t with rows := result.2 }) := by
        rw [Table.update?, hr]
        rfl
      have hupdate := Store.update_eq_ok.2 ⟨t, _, Store.table_eq_ok.1 ht, hsome, rfl⟩
      simp only [Change.exec_of_ok hupdate, update, exec_bind, exec_find, ht, hr]
      rfl

/-- Rows were deleted just if there are fewer of them. -/
theorem length_delete_bne (t : Table) (id : Value) :
    ((t.delete id).rows.length != t.rows.length) = t.rows.any (t.identifies id) := by
  rw [Bool.eq_iff_iff, bne_iff_ne, Ne, List.any_eq_true, Table.delete,
    List.length_filter_eq_length_iff]
  simp

theorem exec_delete (name : String) (id : Value) :
    (delete name id).exec s = Change.exec (Store.delete name id) s := by
  cases ht : s.table name with
  | error fault =>
    have hdelete : Store.delete name id s = .error fault := by rw [Store.delete, ht]; rfl
    simp only [Change.exec_of_error hdelete, delete, exec_bind, exec_find, ht]
  | ok t =>
    have hfound := Store.table_eq_ok.1 ht
    have hdelete : Store.delete name id s = .ok (t.rows.any (t.identifies id), _) :=
      Store.delete_eq_ok.2 ⟨t, hfound, rfl, rfl⟩
    simp only [Change.exec_of_ok hdelete, delete, exec_bind, exec_find, ht, exec_put,
      length_delete_bne, exec_ite, exec_pure]
    split
    · rfl
    · rename_i hnone
      have hkept : t.delete id = t := by
        rw [Table.delete, List.filter_eq_self.2]
        simpa using hnone
      rw [hkept, Dict.insert_of_get?_eq_some hfound]

theorem exec_raw (statement : String) :
    (raw statement).exec s = Change.exec (Store.raw statement) s := by
  cases h : s.rejection? statement <;>
    simp only [raw, exec_bind, exec_get, h, Change.exec, Store.raw] <;> rfl

theorem exec_begin : begin.exec s = Change.exec Store.begin s := by
  cases h : s.snapshot <;>
    simp only [begin, exec_bind, exec_get, exec_ite, Store.inTransaction, h, Change.exec,
      Store.begin] <;> rfl

/-- To take the copy of the tables out changes nothing if there is none. -/
theorem exec_takeSnapshot :
    takeSnapshot.exec s = (.ok s.snapshot, { s with snapshot := none }) := rfl

theorem exec_commit : commit.exec s = Change.exec Store.commit s := by
  cases h : s.snapshot with
  | some tables =>
    simp only [commit, exec_bind, exec_takeSnapshot, exec_pure, h, Change.exec, Store.commit]
  | none =>
    simp only [commit, exec_bind, exec_takeSnapshot, exec_refuse, h, Change.exec, Store.commit]
    rw [← h]
    rfl

theorem exec_rollback : rollback.exec s = Change.exec Store.rollback s := by
  cases h : s.snapshot with
  | some tables =>
    simp only [rollback, exec_bind, exec_takeSnapshot, exec_modify, h, Change.exec, Store.rollback]
  | none =>
    simp only [rollback, exec_bind, exec_takeSnapshot, exec_refuse, h, Change.exec,
      Store.rollback]
    rw [← h]
    rfl

theorem exec_acquire (lock : String) :
    (acquire lock).exec s = Change.exec (fun s => .ok (s.acquire lock)) s := by
  cases h : s.isLocked lock <;>
    simp only [acquire, exec_bind, exec_get, exec_ite, exec_modify, h, Change.exec,
      Store.acquire] <;> rfl

theorem exec_served {serves : Store → Bool} {e : Edit α} {c : Change α}
    (h : e.exec s = Change.exec c s) :
    (served serves e).exec s = Change.exec (Store.served serves c) s := by
  simp only [served, exec_bind, exec_get, exec_ite, h, Change.exec, Store.served]
  split
  · rcases c s with fault | ⟨x, s'⟩ <;> rfl
  · rfl

theorem exec_select (name : String) (query : Query) :
    (Operation.select name query).edit.exec s =
      Change.exec (Store.perform (.select name query)) s := by
  simp only [Operation.edit, exec_bind, exec_find, Change.exec, Store.perform, Store.select]
  cases s.table name <;> rfl

end Edit

/-- A request that is carried out in place returns what it does if it is made at once, and leaves
the store as it was if it fails. -/
theorem Operation.exec_edit (op : Operation) (s : Store) :
    op.edit.exec s = Change.exec (Store.perform op) s := by
  cases op with
  | createTable name columns => exact Edit.exec_createTable s name columns
  | dropTable name => exact Edit.exec_dropTable s name
  | hasTable name => rfl
  | hasColumn name column => rfl
  | listTables => rfl
  | select name query => exact Edit.exec_select s name query
  | insert name row => exact Edit.exec_insert s name row
  | update name id data => exact Edit.exec_update s name id data
  | delete name id => exact Edit.exec_delete s name id
  | raw statement => exact Edit.exec_raw s statement
  | reject part => rfl
  | begin => exact Edit.exec_served s (Edit.exec_begin s)
  | commit => exact Edit.exec_served s (Edit.exec_commit s)
  | rollback => exact Edit.exec_served s (Edit.exec_rollback s)
  | acquire lock limit => exact Edit.exec_served s (Edit.exec_acquire s lock)
  | release lock => exact Edit.exec_served s rfl

end SchemaMigration
