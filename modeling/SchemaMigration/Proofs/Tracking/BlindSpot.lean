import SchemaMigration.Proofs.Action.InStep
import SchemaMigration.Proofs.Dict
import SchemaMigration.Proofs.Tracking.Kept

/-!
# What goes unseen

A blind spot is a choice of columns of the tracking table. Stores are alike if they differ in
nothing but what is recorded in these columns, apart from the bookkeeping that no request reads. A
program overlooks the columns if it goes the same way on stores that are alike and leaves stores
that are alike; this is so if it neither selects the rows of the table nor updates them.
-/

namespace SchemaMigration

/-- Columns of a tracking table that are left out of account. The number and the name of a record
are not among them. -/
structure BlindSpot where
  /-- The tracking table. -/
  table : String
  /-- The columns. -/
  columns : List String
  /-- The numbers of records are seen. -/
  shows_id : "id" ∉ columns := by decide
  /-- The names of migrations are seen. -/
  shows_migration : "migration" ∉ columns := by decide

namespace BlindSpot

variable {b : BlindSpot} {name column : String}

/-- Whether a column of a table is seen. -/
def Shows (b : BlindSpot) (name column : String) : Prop :=
  name = b.table → column ∉ b.columns

instance (b : BlindSpot) (name column : String) : Decidable (b.Shows name column) :=
  inferInstanceAs (Decidable (_ → _))

/-- All columns of a table are seen. -/
def ShowsAll (b : BlindSpot) (name : String) : Prop :=
  ∀ column, b.Shows name column

theorem showsAll_of_nil (h : b.columns = []) : b.ShowsAll name :=
  fun column _ => by simp [h]

/-- What is seen of a row of a table. -/
def row (b : BlindSpot) (name : String) (r : Row) : Row :=
  r.filter fun column _ => b.Shows name column

theorem get?_row (r : Row) : (b.row name r).get? column =
    if b.Shows name column then r.get? column else none := by
  rw [row, Dict.get?_filter_name r fun column => decide (b.Shows name column)]
  simp only [decide_eq_true_eq]

theorem row_eq_row {r r' : Row} : b.row name r = b.row name r' ↔
    ∀ column, b.Shows name column → r.get? column = r'.get? column := by
  constructor
  · intro h column hshown
    have hget := congrArg (Dict.get? · column) h
    simpa only [get?_row, if_pos hshown] using hget
  · intro h
    refine Dict.ext_get? fun column => ?_
    rw [get?_row, get?_row]
    split
    · exact h column ‹_›
    · rfl

theorem row_eq_self (h : b.ShowsAll name) (r : Row) : b.row name r = r :=
  Dict.ext_get? fun column => by rw [get?_row, if_pos (h column)]

/-- Tables under a name that show the same, and whose rows are identified by a column that is
seen. -/
structure AlikeTable (b : BlindSpot) (name : String) (t u : Table) : Prop where
  columns : t.columns = u.columns
  nextId : t.nextId = u.nextId
  rows : t.rows.map (b.row name) = u.rows.map (b.row name)
  identified : b.Shows name t.idColumn

/-- Tables with the same names that are alike. -/
def AlikeTables (b : BlindSpot) (d e : Dict Table) : Prop :=
  ∀ name, Option.Rel (b.AlikeTable name) (d.get? name) (e.get? name)

/-- Stores whose tables are alike, also after a rollback, and that go about requests in the same
way. -/
structure AlikeStores (b : BlindSpot) (s s' : Store) : Prop where
  tables : b.AlikeTables s.tables s'.tables
  snapshot : Option.Rel b.AlikeTables s.snapshot s'.snapshot
  isLocked : ∀ lock, s.isLocked lock = s'.isLocked lock
  rejections : s.rejections = s'.rejections
  features : s.features = s'.features

namespace AlikeTable

variable {t u : Table} {r r' : Row}

theorem refl (h : b.Shows name t.idColumn) : b.AlikeTable name t t :=
  ⟨rfl, rfl, rfl, h⟩

theorem eq (h : b.AlikeTable name t u) (hall : b.ShowsAll name) : t = u := by
  obtain ⟨columns, rows, nextId⟩ := t
  obtain ⟨columns', rows', nextId'⟩ := u
  obtain rfl : columns = columns' := h.columns
  obtain rfl : nextId = nextId' := h.nextId
  have hid : b.row name = id := funext (row_eq_self hall)
  obtain rfl : rows = rows' := by simpa [hid] using h.rows
  rfl

theorem idColumn (h : b.AlikeTable name t u) : t.idColumn = u.idColumn := by
  rw [Table.idColumn, h.columns, Table.idColumn]

theorem identifies (h : b.AlikeTable name t u) (value : Value) :
    t.identifies value = u.identifies value := by
  funext r
  rw [Table.identifies, h.idColumn, Table.identifies]

/-- A row with the same looks is identified by the same values. -/
theorem identifies_row (h : b.Shows name t.idColumn) (value : Value) (r : Row) :
    t.identifies value (b.row name r) = t.identifies value r := by
  rw [Table.identifies, get?_row, if_pos h, Table.identifies]

theorem any_identifies (h : b.AlikeTable name t u) (value : Value) :
    t.rows.any (t.identifies value) = u.rows.any (u.identifies value) := by
  have hlooks {v : Table} (hv : b.Shows name v.idColumn) :
      v.rows.any (v.identifies value) = (v.rows.map (b.row name)).any (v.identifies value) := by
    rw [List.any_map]
    congr 1
    funext r
    exact (identifies_row hv value r).symm
  rw [hlooks h.identified, h.rows, h.identifies value, hlooks (h.idColumn ▸ h.identified)]

theorem delete (h : b.AlikeTable name t u) (value : Value) :
    b.AlikeTable name (t.delete value) (u.delete value) := by
  refine ⟨h.columns, h.nextId, ?_, h.identified⟩
  have hlooks {v : Table} (hv : b.Shows name v.idColumn) :
      (v.delete value).rows.map (b.row name) =
        (v.rows.map (b.row name)).filter fun r => !v.identifies value r := by
    rw [List.filter_map]
    refine congrArg (List.map (b.row name)) (List.filter_congr fun r _ => ?_)
    exact congrArg (!·) (identifies_row hv value r).symm
  rw [hlooks h.identified, h.rows, h.identifies value, hlooks (h.idColumn ▸ h.identified)]

theorem append (h : b.AlikeTable name t u) (hr : b.row name r = b.row name r') (nextId : Int64) :
    b.AlikeTable name (t.append r nextId) (u.append r' nextId) := by
  refine ⟨h.columns, rfl, ?_, h.identified⟩
  simp only [Table.append, List.map_append, h.rows, List.map_cons, List.map_nil, hr]

/-- Rows with the same looks are inserted in the same way. -/
theorem insert? (h : b.AlikeTable name t u) (hr : b.row name r = b.row name r') :
    Option.Rel (fun x y => (r = r' → x.1 = y.1) ∧ b.AlikeTable name x.2 y.2)
      (t.insert? r) (u.insert? r') := by
  have hid : t.explicitId? r = u.explicitId? r' := by
    rw [Table.explicitId?, row_eq_row.1 hr _ h.identified, h.idColumn, Table.explicitId?]
  simp only [Table.insert?, hid, h.nextId, h.idColumn]
  cases u.explicitId? r' with
  | some explicit =>
    dsimp only
    cases successor? explicit with
    | none => exact .none
    | some next => exact .some ⟨id, h.append hr _⟩
  | none =>
    dsimp only
    cases successor? u.nextId with
    | none => exact .none
    | some next =>
      refine .some ⟨fun heq => by rw [heq], h.append (row_eq_row.2 fun column hshown => ?_) _⟩
      rw [Dict.get?_insert, Dict.get?_insert, row_eq_row.1 hr column hshown]

end AlikeTable

namespace AlikeTables

variable {d e : Dict Table}

theorem contains (h : b.AlikeTables d e) (name : String) : d.contains name = e.contains name := by
  have hname := h name
  rw [Dict.contains_eq_isSome, Dict.contains_eq_isSome]
  generalize d.get? name = t at hname ⊢
  generalize e.get? name = u at hname ⊢
  cases hname <;> rfl

theorem get?_eq (h : b.AlikeTables d e) (hall : b.ShowsAll name) : d.get? name = e.get? name := by
  have hname := h name
  generalize d.get? name = t at hname ⊢
  generalize e.get? name = u at hname ⊢
  cases hname with
  | none => rfl
  | some halike => rw [halike.eq hall]

/-- If everything is seen, tables that are alike are equal. -/
theorem eq (h : b.AlikeTables d e) (hnil : b.columns = []) : d = e :=
  Dict.ext_get? fun _ => h.get?_eq (showsAll_of_nil hnil)

theorem insert (h : b.AlikeTables d e) {t u : Table} (htable : b.AlikeTable name t u) :
    b.AlikeTables (d.insert name t) (e.insert name u) := by
  intro other
  rw [Dict.get?_insert, Dict.get?_insert]
  split
  · rename_i heq
    exact .some (heq ▸ htable)
  · exact h other

theorem erase (h : b.AlikeTables d e) (name : String) :
    b.AlikeTables (d.erase name) (e.erase name) := by
  intro other
  rw [Dict.get?_erase, Dict.get?_erase]
  split
  · exact .none
  · exact h other

end AlikeTables

end BlindSpot

/-- A request that overlooks the columns of a blind spot: it does not ask for the rows of the
tracking table, nor does it make a tracking table in which one of these columns identifies rows. -/
def Operation.Overlooks (b : BlindSpot) : Operation → Prop
  | createTable name columns => b.Shows name (Table.idColumn { columns })
  | select name _ | update name _ _ => b.ShowsAll name
  | _ => True

/-- A program that goes the same way on stores that are alike and leaves stores that are alike. -/
def Program.Overlooks {α : Type} (b : BlindSpot) (p : Program α) : Prop :=
  ∀ limit s s', b.AlikeStores s s' →
    (p.run limit s).1 = (p.run limit s').1 ∧ b.AlikeStores (p.run limit s).2 (p.run limit s').2

namespace BlindSpot

/-- Changes whose results are in a relation and that leave stores that are alike. -/
abbrev SameChange {α β : Type} (b : BlindSpot) (R : α → β → Prop) :
    Except Fault (α × Store) → Except Fault (β × Store) → Prop :=
  SameEnd fun x y => R x.1 y.1 ∧ b.AlikeStores x.2 y.2

namespace AlikeStores

variable {b : BlindSpot} {name : String} {s s' : Store}

theorem hasTable (h : b.AlikeStores s s') (name : String) : s.hasTable name = s'.hasTable name :=
  h.tables.contains name

theorem transactional (h : b.AlikeStores s s') : s.transactional = s'.transactional :=
  congrArg Prod.fst h.features

theorem lockable (h : b.AlikeStores s s') : s.lockable = s'.lockable :=
  congrArg Prod.snd h.features

theorem withTables (h : b.AlikeStores s s') {d e : Dict Table} (htables : b.AlikeTables d e)
    (m m' : Nat) : b.AlikeStores { s with tables := d, mutations := m }
      { s' with tables := e, mutations := m' } :=
  ⟨htables, h.snapshot, h.isLocked, h.rejections, h.features⟩

theorem table (h : b.AlikeStores s s') (name : String) :
    SameEnd (b.AlikeTable name) (s.table name) (s'.table name) := by
  have hname := h.tables name
  unfold Store.table
  generalize s.tables.get? name = t at hname ⊢
  generalize s'.tables.get? name = u at hname ⊢
  cases hname with
  | none => exact .error _
  | some halike => exact .ok halike

theorem insert (h : b.AlikeStores s s') {r r' : Row} (hr : b.row name r = b.row name r') :
    b.SameChange (fun x y => r = r' → x = y) (Store.insert name r s) (Store.insert name r' s') := by
  refine (h.table name).bind fun t u htable => ?_
  have hinsert := htable.insert? hr
  generalize t.insert? r = x at hinsert ⊢
  generalize u.insert? r' = y at hinsert ⊢
  cases hinsert with
  | none => exact .error _
  | some hxy => exact .ok ⟨hxy.1, h.withTables (h.tables.insert hxy.2) _ _⟩

theorem served {α : Type} (h : b.AlikeStores s s') {serves : Store → Bool} (change : Change α)
    (hserves : serves s = serves s') (hchange : b.SameChange Eq (change s) (change s')) :
    b.SameChange Eq (Store.served serves change s) (Store.served serves change s') := by
  unfold Store.served
  rw [hserves]
  split
  · exact hchange.bind fun x y hxy => .ok ⟨by rw [hxy.1], hxy.2⟩
  · exact .ok ⟨rfl, h⟩

theorem begin (h : b.AlikeStores s s') : b.SameChange Eq (Store.begin s) (Store.begin s') := by
  have hsnapshot := h.snapshot
  unfold Store.begin
  generalize hd : s.snapshot = d at hsnapshot ⊢
  generalize he : s'.snapshot = e at hsnapshot ⊢
  cases hsnapshot with
  | some => exact .error _
  | none => exact .ok ⟨rfl, h.tables, .some h.tables, h.isLocked, h.rejections, h.features⟩

theorem commit (h : b.AlikeStores s s') : b.SameChange Eq (Store.commit s) (Store.commit s') := by
  have hsnapshot := h.snapshot
  unfold Store.commit
  generalize s.snapshot = d at hsnapshot ⊢
  generalize s'.snapshot = e at hsnapshot ⊢
  cases hsnapshot with
  | some => exact .ok ⟨rfl, h.tables, .none, h.isLocked, h.rejections, h.features⟩
  | none => exact .error _

theorem rollback (h : b.AlikeStores s s') :
    b.SameChange Eq (Store.rollback s) (Store.rollback s') := by
  have hsnapshot := h.snapshot
  unfold Store.rollback
  generalize s.snapshot = d at hsnapshot ⊢
  generalize s'.snapshot = e at hsnapshot ⊢
  cases hsnapshot with
  | some htables => exact .ok ⟨rfl, htables, .none, h.isLocked, h.rejections, h.features⟩
  | none => exact .error _

theorem acquire (h : b.AlikeStores s s') (lock : String) :
    (s.acquire lock).1 = (s'.acquire lock).1 ∧
      b.AlikeStores (s.acquire lock).2 (s'.acquire lock).2 := by
  unfold Store.acquire
  rw [h.isLocked lock]
  split
  · exact ⟨rfl, h⟩
  · refine ⟨rfl, ⟨h.tables, h.snapshot, fun other => ?_, h.rejections, h.features⟩⟩
    have hother : s.locks.contains other = s'.locks.contains other := h.isLocked other
    simp only [Store.isLocked, List.contains_cons, hother]

theorem release (h : b.AlikeStores s s') (lock : String) :
    b.AlikeStores (s.release lock) (s'.release lock) := by
  refine ⟨h.tables, h.snapshot, fun other => ?_, h.rejections, h.features⟩
  have hother := Bool.eq_iff_iff.1 (h.isLocked other)
  rw [Bool.eq_iff_iff]
  simp only [Store.isLocked, Store.release, List.contains_iff_mem, List.mem_filter] at hother ⊢
  rw [hother]

/-- A request that overlooks the blind spot gets the same answer on stores that are alike, and
leaves stores that are alike. -/
theorem perform (h : b.AlikeStores s s') {op : Operation} (hop : op.Overlooks b) :
    b.SameChange Eq (Store.perform op s) (Store.perform op s') := by
  cases op with
  | createTable name columns =>
    simp only [Store.perform, Store.createTable, h.hasTable name]
    split
    · exact .error _
    · exact .ok ⟨rfl, h.withTables (h.tables.insert (.refl hop)) _ _⟩
  | dropTable name =>
    simp only [Store.perform, Store.dropTable, h.hasTable name]
    split
    · exact .ok ⟨rfl, h.withTables (h.tables.erase name) _ _⟩
    · exact .error _
  | hasTable name => exact .ok ⟨h.hasTable name, h⟩
  | hasColumn name column =>
    refine .ok ⟨?_, h⟩
    have hname := h.tables name
    unfold Store.hasColumn
    generalize s.tables.get? name = t at hname ⊢
    generalize s'.tables.get? name = u at hname ⊢
    cases hname with
    | none => rfl
    | some halike => simp only [Table.hasColumn, halike.columns]
  | listTables => exact .ok ⟨Dict.keys_congr h.tables.contains, h⟩
  | select name query =>
    have hselect : s.select name query = s'.select name query := by
      simp only [Store.select, Store.table, h.tables.get?_eq hop]
    simp only [Store.perform, hselect]
    exact (SameEnd.refl _).bind fun x y hxy => .ok ⟨hxy, h⟩
  | insert name row => exact (h.insert rfl).mono fun x y hxy => ⟨hxy.1 rfl, hxy.2⟩
  | update name id data =>
    refine (h.table name).bind fun t u htable => ?_
    obtain rfl := htable.eq hop
    rcases hupdate : t.update? id data with _ | ⟨row, t'⟩
    · exact .error _
    · refine .ok ⟨rfl, h.withTables (h.tables.insert (.refl ?_)) _ _⟩
      exact hop _
  | delete name id =>
    refine (h.table name).bind fun t u htable => ?_
    rw [htable.any_identifies]
    split
    · exact .ok ⟨rfl, h.withTables (h.tables.insert (htable.delete id)) _ _⟩
    · exact .ok ⟨rfl, h⟩
  | raw statement =>
    have hrejection : s.rejection? statement = s'.rejection? statement := by
      simp only [Store.rejection?, h.rejections]
    simp only [Store.perform, Store.raw, hrejection]
    split
    · exact .error _
    · exact .ok ⟨rfl, h.tables, h.snapshot, h.isLocked, h.rejections, h.features⟩
  | reject part =>
    exact .ok ⟨rfl, h.tables, h.snapshot, h.isLocked, congrArg (· ++ [part]) h.rejections,
      h.features⟩
  | begin => exact h.served Store.begin h.transactional h.begin
  | commit => exact h.served Store.commit h.transactional h.commit
  | rollback => exact h.served Store.rollback h.transactional h.rollback
  | acquire lock limit =>
    have hacquire : b.SameChange Eq (.ok (s.acquire lock)) (.ok (s'.acquire lock)) :=
      .ok (h.acquire lock)
    exact h.served (fun s => .ok (s.acquire lock)) h.lockable hacquire
  | release lock =>
    have hrelease : b.SameChange Eq (.ok ((), s.release lock)) (.ok ((), s'.release lock)) :=
      .ok ⟨rfl, h.release lock⟩
    exact h.served (fun s => .ok ((), s.release lock)) h.lockable hrelease

theorem delay (h : b.AlikeStores s s') (op : Operation) : s.delay op = s'.delay op := by
  cases op with
  | acquire lock limit => simp only [Store.delay, h.lockable, Store.waitFor, h.isLocked]
  | _ => rfl

/-- A tracking table is created alike. -/
theorem ensure (h : b.AlikeStores s s') :
    b.SameChange Eq (Tracking.ensure b.table s) (Tracking.ensure b.table s') := by
  unfold Tracking.ensure
  rw [h.hasTable]
  split
  · exact .ok ⟨rfl, h⟩
  · have hshown :
        (Operation.createTable b.table (Tracking.blueprint b.table).columns).Overlooks b :=
      fun _ => b.shows_id
    exact h.perform hshown

/-- Records with the same looks are logged alike. -/
theorem log (h : b.AlikeStores s s') {record record' : Record}
    (hrow : b.row b.table record.toRow = b.row b.table record'.toRow)
    (hbatch : record.batch = record'.batch ∨
      1 ≤ record.batch.toInt ∧ 1 ≤ record'.batch.toInt) :
    b.SameChange (fun _ _ => True) (Tracking.log b.table record s)
      (Tracking.log b.table record' s') := by
  have hmigration : record.migration = record'.migration := by
    have hget := row_eq_row.1 hrow "migration" fun _ => b.shows_migration
    simpa [Record.get?_toRow] using hget
  have hinsert : b.SameChange (fun _ _ => True)
      (Store.insert b.table record.toRow s >>= fun x => pure (Record.ofRow x.1, x.2))
      (Store.insert b.table record'.toRow s' >>= fun x => pure (Record.ofRow x.1, x.2)) :=
    (h.insert hrow).bind fun x y hxy => .ok ⟨trivial, hxy.2⟩
  unfold Tracking.log
  obtain hsame | ⟨hpos, hpos'⟩ := hbatch
  · rw [hsame, hmigration]
    split
    · exact .error _
    · exact hinsert
  · rw [if_neg (by omega), if_neg (by omega)]
    exact hinsert

end AlikeStores

/-- Rows of records look the same if what is seen of the records is the same. -/
theorem row_toRow {b : BlindSpot} {record record' : Record}
    (migration : record.migration = record'.migration)
    (batch : "batch" ∉ b.columns → record.batch = record'.batch)
    (executionTime : "execution_time_ms" ∉ b.columns →
      record.executionTime = record'.executionTime)
    (checksum : record.checksum = record'.checksum)
    (createdAt : "created_at" ∉ b.columns → record.createdAt = record'.createdAt) :
    b.row b.table record.toRow = b.row b.table record'.toRow := by
  refine row_eq_row.2 fun column hshown => ?_
  have hshown := hshown rfl
  rw [Record.get?_toRow, Record.get?_toRow]
  split
  · rename_i h
    rw [createdAt (h ▸ hshown)]
  · split
    · rw [checksum]
    · split
      · rename_i h
        rw [executionTime (h ▸ hshown)]
      · split
        · rename_i h
          rw [batch (h ▸ hshown)]
        · rw [migration]

end BlindSpot

namespace Program

variable {α : Type} {b : BlindSpot} {p : Program α}

/-- A program overlooks what all its requests overlook. -/
theorem Requests.overlooks (h : p.Requests (Operation.Overlooks b)) : p.Overlooks b := by
  induction p with
  | pure | fail => exact fun _ _ _ hs => ⟨rfl, hs⟩
  | sleep millis next ih =>
    intro limit s s' hs
    rw [run, run]
    split
    · exact ih h _ s s' hs
    · exact ⟨rfl, hs⟩
  | perform op next ih =>
    intro limit s s' hs
    rw [run, run, hs.delay op]
    split
    · exact ⟨rfl, hs⟩
    · rename_i left _
      have hmade := hs.perform h.1
      generalize Store.perform op s = made at hmade ⊢
      generalize Store.perform op s' = made' at hmade ⊢
      cases hmade with
      | @ok x y related =>
        obtain ⟨answer, u⟩ := x
        obtain ⟨answer', u'⟩ := y
        obtain ⟨rfl, hu⟩ := related
        exact ih (.ok answer) (h.2 _) left u u' hu
      | error fault =>
        cases fault with
        | failed e => exact ih (.error e) (h.2 _) left s s' hs
        | overflow => exact ⟨rfl, hs⟩

/-- If everything is seen, there is nothing to overlook. -/
theorem overlooks_of_nil (h : b.columns = []) (p : Program α) : p.Overlooks b := by
  refine (p.requests_any.mono fun op _ => ?_).overlooks
  cases op with
  | createTable name columns => exact BlindSpot.showsAll_of_nil h _
  | select name query | update name id data => exact BlindSpot.showsAll_of_nil h
  | _ => trivial

/-- On stores that are alike, a program that overlooks the blind spot goes the same way also without
a limit on its time. -/
theorem Overlooks.runFully (h : p.Overlooks b) {s s' : Store} (hs : b.AlikeStores s s') :
    (p.runFully s).1 = (p.runFully s').1 ∧ b.AlikeStores (p.runFully s).2 (p.runFully s').2 := by
  have hrun := h none s s' hs
  rw [run_none, run_none] at hrun
  refine ⟨?_, hrun.2⟩
  have hend := hrun.1
  generalize (p.runFully s).1 = x at hend ⊢
  generalize (p.runFully s').1 = y at hend ⊢
  rcases x with (e | _) | x <;> rcases y with (e' | _) | y <;> simp_all [Outcome.ofExcept]

end Program

end SchemaMigration
