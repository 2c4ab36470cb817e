import Mathlib
import SchemaMigration.Proofs.Dict
import SchemaMigration.Proofs.Store.Sequence
import SchemaMigration.Proofs.Value

/-!
# Numbers for new rows

A table numbers the rows that bring no number along. An insertion moves the next number past the one
that a row has, so the identifiers of the rows stay apart from the numbers that are still to be
given. An update that sets an identifier does not look at the next number: as long as no update
writes a value equal to a number still to be given, every number that is given is fresh, and the
first one that does so makes some later row get an identifier that another row has.
-/

namespace SchemaMigration

/-- An update of the first item that satisfies a test leaves the items around it alone. -/
theorem updateFirst?_eq_some {α : Type} {p : α → Bool} {f : α → α} {l l' : List α} {b : α}
    (h : updateFirst? p f l = some (b, l')) :
    ∃ earlier a later, l = earlier ++ a :: later ∧ p a = true ∧ b = f a ∧
      l' = earlier ++ b :: later := by
  induction l generalizing l' with
  | nil => cases h
  | cons first rest ih =>
    unfold updateFirst? at h
    split at h
    · rename_i hp
      cases h
      exact ⟨[], first, rest, rfl, hp, rfl, rfl⟩
    · obtain ⟨⟨b', rest'⟩, hrest, heq⟩ := Option.map_eq_some_iff.1 h
      cases heq
      obtain ⟨earlier, a, later, rfl, hp, hb, rfl⟩ := ih hrest
      exact ⟨first :: earlier, a, later, rfl, hp, hb, rfl⟩

theorem updateFirst?_ne_none {α : Type} {p : α → Bool} (f : α → α) {l : List α}
    (h : l.any p = true) : updateFirst? p f l ≠ none := by
  induction l with
  | nil => cases h
  | cons first rest ih =>
    unfold updateFirst?
    split
    · nofun
    · rename_i hp
      rw [Ne, Option.map_eq_none_iff]
      exact ih (by simpa [hp] using h)

namespace Table

variable {t t' : Table} {r : Row} {id : Value} {n : Int64}

/-- The numbers that a table may still give to rows. The greatest number of all is never given, as
there is no number to follow it. -/
def MayGive (t : Table) (n : Int64) : Prop :=
  t.nextId.toInt ≤ n.toInt ∧ n.toInt < Int64.maxValue.toInt

/-- No row has an identifier equal to a number that the table may still give. -/
def Apart (t : Table) : Prop :=
  ∀ r ∈ t.rows, ∀ id, r.get? t.idColumn = some id → ∀ n, t.MayGive n →
    id.compare? (.int64 n) ≠ some .eq

theorem apart_new (columns : List Column) : Apart { columns } := by
  intro r hr
  cases hr

theorem Apart.delete (h : t.Apart) (id : Value) : (t.delete id).Apart :=
  fun r hr => h r (List.mem_filter.1 hr).1

theorem Apart.append (h : t.Apart) {next : Int64} (hnext : t.nextId.toInt ≤ next.toInt)
    (hr : ∀ id, r.get? t.idColumn = some id → ∀ n : Int64, next.toInt ≤ n.toInt →
      id.compare? (.int64 n) ≠ some .eq) : (t.append r next).Apart := by
  intro other hother id hid n hn
  rcases List.mem_append.1 hother with hold | hnew
  · exact h other hold id hid n ⟨Int.le_trans hnext hn.1, hn.2⟩
  · rw [List.mem_singleton.1 hnew] at hid
    exact hr id hid n hn.1

/-- The next number is moved past the one that a row has, whether the row brought it along or
not. -/
theorem Apart.insert? (h : t.Apart) {stored : Row} (hr : t.insert? r = some (stored, t')) :
    t'.Apart := by
  obtain ⟨explicit, next, hid, hnext, rfl, rfl⟩ | ⟨next, hid, hnext, rfl, rfl⟩ :=
    insert?_eq_some.1 hr
  · have hmax := le_toInt_max t.nextId next
    refine h.append hmax.1 fun id hid' n hn => ?_
    have hexplicit : id.toInt64? = some explicit := by
      rw [← hid, explicitId?, hid']
      rfl
    have hsuccessor := successor?_eq_some.1 hnext
    rw [Value.compare?_int64_of_toInt64? hexplicit, Ne, Option.some.injEq,
      Std.LawfulEqCmp.compare_eq_iff_eq]
    omega
  · have hsuccessor := successor?_eq_some.1 hnext
    refine h.append (by omega) fun id hid' n hn => ?_
    rw [Dict.get?_insert_self] at hid'
    cases hid'
    rw [Value.compare?_int64_of_toInt64? rfl, Ne, Option.some.injEq,
      Std.LawfulEqCmp.compare_eq_iff_eq]
    omega

/-- An update joins its data to one row that it identifies, and leaves all else alone. -/
theorem update?_eq_some {data : Row} (h : t.update? id data = some (r, t')) :
    ∃ earlier a later, t.rows = earlier ++ a :: later ∧ t.identifies id a = true ∧
      r = a.union data ∧ t' = { t with rows := earlier ++ r :: later } := by
  rw [Table.update?] at h
  obtain ⟨⟨updated, rows⟩, hupdate, heq⟩ := Option.bind_eq_some_iff.1 h
  cases heq
  obtain ⟨earlier, a, later, hrows, hid, rfl, rfl⟩ := updateFirst?_eq_some hupdate
  exact ⟨earlier, a, later, hrows, hid, rfl, rfl⟩

theorem exists_update? {data : Row} (h : t.rows.any (t.identifies id) = true) :
    ∃ r t', t.update? id data = some (r, t') := by
  obtain ⟨⟨r, rows⟩, hupdate⟩ := Option.ne_none_iff_exists'.1
    (updateFirst?_ne_none (fun r => Dict.union r data) h)
  exact ⟨r, _, by rw [Table.update?, hupdate]; rfl⟩

/-- An update keeps the identifiers apart from the numbers to be given if the identifier that it
writes is, should it write one. -/
theorem Apart.update? (h : t.Apart) {data : Row} (hr : t.update? id data = some (r, t'))
    (hdata : ∀ value, data.get? t.idColumn = some value → ∀ n, t.MayGive n →
      value.compare? (.int64 n) ≠ some .eq) : t'.Apart := by
  obtain ⟨earlier, a, later, hrows, -, rfl, rfl⟩ := update?_eq_some hr
  intro other hother value hvalue n hn
  have hold (hmem : other ∈ t.rows) := h other hmem value hvalue n hn
  rw [hrows] at hold
  simp only [List.mem_append, List.mem_cons] at hother hold
  rcases hother with hearlier | rfl | hlater
  · exact hold (.inl hearlier)
  · rw [Dict.get?_union, Option.or_eq_some_iff] at hvalue
    rcases hvalue with hvalue | ⟨-, hvalue⟩
    · exact hdata value hvalue n hn
    · exact h a (by simp [hrows]) value hvalue n hn
  · exact hold (.inr (.inr hlater))

end Table

/-- All tables of a dictionary keep identifiers and numbers apart. -/
def TablesApart (tables : Dict Table) : Prop :=
  ∀ name t, tables.get? name = some t → t.Apart

theorem TablesApart.insert {tables : Dict Table} (h : TablesApart tables) {name : String}
    {t : Table} (ht : t.Apart) : TablesApart (tables.insert name t) := by
  intro other t' ht'
  rw [Dict.get?_insert] at ht'
  split at ht'
  · cases ht'
    exact ht
  · exact h other t' ht'

theorem TablesApart.erase {tables : Dict Table} (h : TablesApart tables) (name : String) :
    TablesApart (tables.erase name) := by
  intro other t' ht'
  rw [Dict.get?_erase] at ht'
  split at ht'
  · cases ht'
  · exact h other t' ht'

/-- A request does not set the identifier of a row to a value equal to a number that the table may
still give. -/
def Operation.KeepsApart (s : Store) : Operation → Prop
  | update table id data => ∀ t, s.tables.get? table = some t →
      t.rows.any (t.identifies id) = true → ∀ value, data.get? t.idColumn = some value →
      ∀ n, t.MayGive n → value.compare? (.int64 n) ≠ some .eq
  | _ => True

namespace Store

variable {s s' : Store}

/-- All tables keep identifiers and numbers apart, and so do those that a rollback would put
back. -/
structure Apart (s : Store) : Prop where
  tables : TablesApart s.tables
  snapshot : ∀ tables, s.snapshot = some tables → TablesApart tables

theorem Apart.withTable (h : s.Apart) (name : String) {t : Table} (ht : t.Apart) :
    (s.withTable name t).Apart :=
  ⟨h.tables.insert ht, h.snapshot⟩

theorem Apart.perform (h : s.Apart) {op : Operation} (hop : op.KeepsApart s) {answer : op.Answer}
    (hok : perform op s = .ok (answer, s')) : s'.Apart := by
  cases answered hok with
  | idle | ran | rejecting | locked | unlocked => exact ⟨h.tables, h.snapshot⟩
  | created => exact h.withTable _ (Table.apart_new _)
  | dropped => exact ⟨h.tables.erase _, h.snapshot⟩
  | inserted found stores => exact h.withTable _ ((h.tables _ _ found).insert? stores)
  | @updated name id data row t t' found joins =>
    have hany : t.rows.any (t.identifies id) = true := by
      obtain ⟨earlier, a, later, hrows, hid, -⟩ := Table.update?_eq_some joins
      exact List.any_eq_true.2 ⟨a, by simp [hrows], hid⟩
    exact h.withTable name ((h.tables name t found).update? joins (hop t found hany))
  | deleted found => exact h.withTable _ ((h.tables _ _ found).delete _)
  | opened => exact ⟨h.tables, fun _ htables => Option.some.inj htables ▸ h.tables⟩
  | committed => exact ⟨h.tables, nofun⟩
  | rolledBack opened => exact ⟨h.snapshot _ opened, nofun⟩

theorem Apart.after (h : s.Apart) {op : Operation} (hop : op.KeepsApart s) :
    (s.after op).Apart := by
  obtain ⟨answer, hok⟩ | ⟨-, hafter⟩ := after_cases s op
  · exact h.perform hop hok
  · rwa [hafter]

/-- Each of the requests, at its turn, sets no identifier to a value equal to a number that the
table may still give. -/
def KeepsApart (s : Store) (ops : List Operation) : Prop :=
  ∀ earlier op later, ops = earlier ++ op :: later → op.KeepsApart (s.afterAll earlier)

theorem Apart.afterAll (h : s.Apart) {ops : List Operation} (hops : s.KeepsApart ops) :
    (s.afterAll ops).Apart := by
  induction ops generalizing s with
  | nil => exact h
  | cons op rest ih =>
    refine ih (h.after (hops [] op rest rfl)) ?_
    rintro earlier op' later rfl
    exact hops (op :: earlier) op' later rfl

theorem Apart.insertAll (h : s.Apart) (table : String) (count : Nat) :
    (s.afterAll (List.replicate count (.insert table ∅))).Apart := by
  refine h.afterAll fun earlier op later heq => ?_
  have hop : op ∈ List.replicate count (Operation.insert table ∅) := by simp [heq]
  rw [List.eq_of_mem_replicate hop]
  trivial

/-- A row that brings no number along gets an identifier that is equal to that of no row in the
table, unless no number is left. -/
def GivesFresh (s : Store) (table : String) : Prop :=
  ∀ t row, s.tables.get? table = some t → t.explicitId? row = none →
    match Store.insert table row s with
    | .ok (stored, _) => ∃ id, stored.get? t.idColumn = some id ∧
        ∀ r ∈ t.rows, ∀ other, r.get? t.idColumn = some other → id.compare? other ≠ some .eq
    | .error fault => fault = .overflow ∧ t.nextId = Int64.maxValue

/-- What an insertion of a row without a number comes to. -/
theorem insert_of_unnumbered {table : String} {t : Table} {row : Row}
    (ht : s.tables.get? table = some t) (hrow : t.explicitId? row = none) :
    Store.insert table row s =
      match successor? t.nextId with
      | some next =>
        let stored := row.insert t.idColumn (.int64 t.nextId)
        .ok (stored, s.withTable table (t.append stored next))
      | none => .error .overflow := by
  rw [Store.insert, table_eq_ok.2 ht]
  cases hnext : successor? t.nextId <;>
    simp only [bind, Except.bind, Table.insert?, hrow, hnext] <;> rfl

theorem givesFresh_iff {table : String} {t : Table} (ht : s.tables.get? table = some t) :
    s.GivesFresh table ↔ (t.nextId ≠ Int64.maxValue → ∀ r ∈ t.rows, ∀ other,
      r.get? t.idColumn = some other → other.compare? (.int64 t.nextId) ≠ some .eq) := by
  constructor
  · intro h hmax r hr other hother heq
    have hrow : t.explicitId? ∅ = none := rfl
    have hgiven := h t ∅ ht hrow
    rw [insert_of_unnumbered ht hrow] at hgiven
    cases hnext : successor? t.nextId with
    | none => exact hmax (Int64.toInt_inj.1 (toInt_of_successor?_eq_none hnext))
    | some next =>
      simp only [hnext, Dict.get?_insert_self, Option.some.injEq, exists_eq_left'] at hgiven
      exact hgiven r hr other hother (Value.int64_compare?_eq_comm.2 heq)
  · intro h t' row ht' hrow
    obtain rfl := Option.some.inj (ht.symm.trans ht')
    rw [insert_of_unnumbered ht hrow]
    cases hnext : successor? t.nextId with
    | none => exact ⟨rfl, Int64.toInt_inj.1 (toInt_of_successor?_eq_none hnext)⟩
    | some next =>
      have hmax : t.nextId ≠ Int64.maxValue := by
        intro hmax
        have hle := next.toInt_le
        rw [successor?_eq_some.1 hnext, hmax] at hle
        omega
      exact ⟨_, Dict.get?_insert_self _ _ _, fun r hr other hother heq =>
        h hmax r hr other hother (Value.int64_compare?_eq_comm.1 heq)⟩

theorem Apart.givesFresh (h : s.Apart) (table : String) : s.GivesFresh table := by
  cases ht : s.tables.get? table with
  | none =>
    intro t row ht'
    rw [ht] at ht'
    cases ht'
  | some t =>
    refine (givesFresh_iff ht).2 fun hmax r hr other hother => ?_
    have hle := t.nextId.toInt_le
    have hne := mt Int64.toInt_inj.1 hmax
    exact h.tables table t ht r hr other hother t.nextId ⟨Int.le_refl _, by omega⟩

/-- Rows that are inserted without a number move the next number on by one each. -/
theorem get?_insertAll {table : String} {t : Table} (ht : s.tables.get? table = some t)
    {count : Nat} {n : Int64} (hn : n.toInt = t.nextId.toInt + count)
    (hmax : n.toInt < Int64.maxValue.toInt) :
    ∃ rows, (s.afterAll (List.replicate count (.insert table ∅))).tables.get? table =
      some { t with rows := t.rows ++ rows, nextId := n } := by
  induction count generalizing s t with
  | zero =>
    obtain rfl : n = t.nextId := Int64.toInt_inj.1 (by omega)
    exact ⟨[], by rw [List.append_nil]; exact ht⟩
  | succ count ih =>
    cases hnext : successor? t.nextId with
    | none =>
      have := toInt_of_successor?_eq_none hnext
      omega
    | some next =>
      let stored := Dict.insert (∅ : Row) t.idColumn (.int64 t.nextId)
      have hinsert : perform (.insert table ∅) s =
          .ok (stored, s.withTable table (t.append stored next)) := by
        rw [perform, insert_of_unnumbered ht rfl, hnext]
      have hsuccessor := successor?_eq_some.1 hnext
      have hstored : (s.withTable table (t.append stored next)).tables.get? table =
          some (t.append stored next) := Dict.get?_insert_self _ _ _
      obtain ⟨rows, hrows⟩ := ih hstored (by simp only [Table.append]; omega)
      rw [List.replicate_succ, afterAll_cons, after_of_ok hinsert, hrows]
      exact ⟨stored :: rows, by simp [Table.append]⟩

/-- If a row has an identifier equal to a number that the table may still give, then that number is
given after some more insertions. -/
theorem apart_of_givesFresh {table : String} {t : Table} (ht : s.tables.get? table = some t)
    (h : ∀ count, (s.afterAll (List.replicate count (.insert table ∅))).GivesFresh table) :
    t.Apart := by
  intro r hr id hid n hn
  obtain ⟨hnext, hmax⟩ := hn
  obtain ⟨rows, hrows⟩ := get?_insertAll ht
    (show n.toInt = t.nextId.toInt + ((n.toInt - t.nextId.toInt).toNat : Int) by omega) hmax
  have hne : n ≠ Int64.maxValue := fun heq => by
    rw [heq] at hmax
    exact Int.lt_irrefl _ hmax
  exact (givesFresh_iff hrows).1 (h _) hne r (List.mem_append_left _ hr) id hid

/-- Where identifiers and numbers are apart after a request, the request wrote no identifier that
is equal to a number to be given. -/
theorem keepsApart_of_apart {op : Operation}
    (h : ∀ table t, (s.after op).tables.get? table = some t → t.Apart) : op.KeepsApart s := by
  cases op with
  | update table id data =>
    intro t ht hfound value hvalue n hn
    obtain ⟨r, t', hupdate⟩ : ∃ r t', t.update? id data = some (r, t') :=
      Table.exists_update? hfound
    have hperform : perform (.update table id data) s = .ok (r, s.withTable table t') :=
      update_eq_ok.2 ⟨t, t', ht, hupdate, rfl⟩
    have hafter : s.after (.update table id data) = s.withTable table t' := after_of_ok hperform
    obtain ⟨earlier, a, later, -, -, rfl, rfl⟩ := Table.update?_eq_some hupdate
    have hapart := h table _ (by rw [hafter]; exact Dict.get?_insert_self _ _ _)
    have hwritten : (a.union data).get? t.idColumn = some value := by
      rw [Dict.get?_union, hvalue]
      rfl
    exact hapart (a.union data) (by simp) value hwritten n hn
  | _ => trivial

/-- From a store without tables on, rows get fresh identifiers as long as no update sets an
identifier to a value equal to a number that the table may still give; and the first request that
does so makes a row get the identifier of another one, after some number of further rows. -/
theorem gives_fresh_until_update (hempty : s.tables = ∅) (hclosed : s.snapshot = none)
    {ops : List Operation} (hops : s.KeepsApart ops) :
    (∀ table, (s.afterAll ops).GivesFresh table) ∧
      ∀ op : Operation, op.KeepsApart (s.afterAll ops) ↔
        ∀ table count, (s.afterAll (ops ++ op :: List.replicate count (.insert table ∅))).GivesFresh
          table := by
  have hstart : s.Apart := by
    constructor
    · rw [hempty]
      intro name t ht
      cases ht
    · rw [hclosed]
      intro tables htables
      cases htables
  have hapart : (s.afterAll ops).Apart := hstart.afterAll hops
  refine ⟨hapart.givesFresh, fun op => ⟨fun hop table count => ?_, fun h => ?_⟩⟩
  · rw [afterAll_append, afterAll_cons]
    exact ((hapart.after hop).insertAll table count).givesFresh table
  · refine keepsApart_of_apart fun table t ht => apart_of_givesFresh ht fun count => ?_
    have hcount := h table count
    rwa [afterAll_append, afterAll_cons] at hcount

/-- After an update that moves the only row to number 2, the next row gets number 2 as well. -/
theorem updated_number_is_given_again :
    let ops : List Operation := [.createTable "users" [], .insert "users" ∅]
    let op : Operation := .update "users" (.int64 1) (Dict.ofList [("id", .int64 2)])
    ({} : Store).tables = ∅ ∧ ({} : Store).snapshot = none ∧ KeepsApart {} ops ∧
      (∀ table, (afterAll {} ops).GivesFresh table) ∧
      ¬op.KeepsApart (afterAll {} ops) ∧
      ∃ table count, ¬(afterAll {} (ops ++ op :: List.replicate count (.insert table ∅))).GivesFresh
        table := by
  intro ops op
  have hops : KeepsApart {} ops := by
    rintro (_ | ⟨_, _ | ⟨_, earlier⟩⟩) other later h <;> simp [ops] at h
    · obtain ⟨rfl, -⟩ := h
      trivial
    · obtain ⟨-, rfl, -⟩ := h
      trivial
  obtain ⟨hfresh, hexact⟩ := gives_fresh_until_update rfl rfl hops
  have hop : ¬op.KeepsApart (afterAll {} ops) := by
    have ht : (afterAll {} ops).tables.get? "users" = some
        { columns := [], rows := [Dict.ofList [("id", .int64 1)]], nextId := 2 } := by cbv
    exact fun h => h _ ht (by cbv) (.int64 2) (by cbv) 2 (by constructor <;> decide) (by cbv)
  refine ⟨rfl, rfl, hops, hfresh, hop, ?_⟩
  simpa only [not_forall] using mt (hexact op).2 hop

end Store

end SchemaMigration
