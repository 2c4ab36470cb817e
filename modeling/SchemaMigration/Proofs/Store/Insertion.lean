import Mathlib
import SchemaMigration.Proofs.Dict
import SchemaMigration.Proofs.Tracking.Operations
import SchemaMigration.Proofs.Value

/-!
# What an insertion stores

An insertion puts a row behind the others of its table and touches nothing else. The row is stored
as it is given, except for its identifier: one that neither is nor spells a number is replaced by
the next number, as if the row had brought none. So the values of a row are kept, and the row is
found under its identifier, just if the identifier is a number. There is no result if there is no
number after the one of the row.
-/

namespace SchemaMigration

/-- A value that is or spells a number is equal to itself. -/
theorem Value.compare?_self_of_toInt64? {value : Value} (h : value.toInt64?.isSome = true) :
    value.compare? value = some .eq := by
  cases value with
  | int32 n => simp [compare?, compareInts?, toInt64?]
  | int64 n => simp [compare?, compareInts?, toInt64?]
  | string text => simp [compare?]
  | _ => cases h

theorem successor?_eq_none {n : Int64} : successor? n = none ↔ n = Int64.maxValue := by
  refine ⟨fun h => Int64.toInt_inj.1 (toInt_of_successor?_eq_none h), ?_⟩
  rintro rfl
  rfl

namespace Table

variable {t t' : Table} {row stored : Row}

/-- The number under which a row is stored: its own, or the next one. -/
def numberFor (t : Table) (row : Row) : Int64 :=
  (t.explicitId? row).getD t.nextId

theorem explicitId?_of_get? {id : Value} (h : row.get? t.idColumn = some id) :
    t.explicitId? row = id.toInt64? := by
  rw [explicitId?, h]
  rfl

/-- A row that brings a number along is stored as it is, any other one with the next number. -/
theorem stored_of_insert? (h : t.insert? row = some (stored, t')) :
    stored = if (t.explicitId? row).isSome then row
      else row.insert t.idColumn (.int64 t.nextId) := by
  obtain ⟨explicit, -, hid, -, rfl, -⟩ | ⟨-, hid, -, rfl, -⟩ := insert?_eq_some.1 h
  · rw [hid]
    rfl
  · rw [hid]
    rfl

/-- Only the identifier of a stored row may differ from what was given. -/
theorem get?_of_insert? (h : t.insert? row = some (stored, t')) (column : String) :
    stored.get? column = if column = t.idColumn ∧ t.explicitId? row = none
      then some (.int64 t.nextId) else row.get? column := by
  rw [stored_of_insert? h]
  cases hid : t.explicitId? row with
  | some explicit => simp
  | none => simp [Dict.get?_insert]

/-- The values of a row are kept just if its identifier, should it have one, is a number. -/
theorem keeps_values_iff (h : t.insert? row = some (stored, t')) :
    (∀ column value, row.get? column = some value → value.isNull = false →
      stored.get? column = some value) ↔
    ∀ id, row.get? t.idColumn = some id → id.isNull = false → id.toInt64?.isSome = true := by
  have hget := get?_of_insert? h
  constructor
  · -- The number that replaces an identifier is not the identifier, as that is none.
    intro hkept id hid hpresent
    have hstored := hkept _ id hid hpresent
    rw [hget, explicitId?_of_get? hid] at hstored
    cases hnumber : id.toInt64? with
    | some n => rfl
    | none =>
      rw [if_pos ⟨rfl, hnumber⟩] at hstored
      rw [← Option.some.inj hstored] at hnumber
      cases hnumber
  · intro hnumbers column value hvalue hpresent
    rw [hget, if_neg, hvalue]
    rintro ⟨rfl, hnone⟩
    have hsome := hnumbers value hvalue hpresent
    rw [explicitId?_of_get? hvalue] at hnone
    rw [hnone] at hsome
    cases hsome

/-- The identifier that a stored row has is the one that was given, if this is a number, and the
next number otherwise. -/
theorem identifier_of_insert? (h : t.insert? row = some (stored, t')) {id : Value}
    (hid : row.get? t.idColumn = some id) :
    stored.get? t.idColumn = some (if id.toInt64? = none then .int64 t.nextId else id) := by
  rw [get?_of_insert? h, explicitId?_of_get? hid, hid]
  split <;> simp_all

/-- A stored row is identified by what it was given just if this is a number or equal to the next
one. -/
theorem identifies_stored_iff (h : t.insert? row = some (stored, t')) {id : Value}
    (hid : row.get? t.idColumn = some id) : t.identifies id stored = true ↔
      id.toInt64?.isSome = true ∨ (Value.int64 t.nextId).compare? id = some .eq := by
  rw [identifies, identifier_of_insert? h hid]
  cases hnumber : id.toInt64? with
  | none => simp
  | some n =>
    have hself : id.compare? id = some .eq :=
      Value.compare?_self_of_toInt64? (by rw [hnumber]; rfl)
    simp [hself]

/-- No row is inserted just if the number of the row is the greatest one. -/
theorem insert?_eq_none : t.insert? row = none ↔ t.numberFor row = Int64.maxValue := by
  rw [← successor?_eq_none, numberFor, insert?]
  cases hid : t.explicitId? row with
  | some explicit => cases hnext : successor? explicit <;> simp [hnext]
  | none => cases hnext : successor? t.nextId <;> simp [hnext]

end Table

namespace Store

variable {s s' : Store} {name : String} {t : Table} {row stored : Row}

/-- A table has no number left behind the one of a row. -/
def RunsOut (s : Store) (name : String) (row : Row) : Prop :=
  ∃ t, s.tables.get? name = some t ∧ t.numberFor row = Int64.maxValue

/-- An insertion overflows just if there is no number behind the one of the row. -/
theorem insert_eq_overflow : insert name row s = .error .overflow ↔ s.RunsOut name row := by
  unfold RunsOut
  cases hget : s.tables.get? name with
  | none => simp [insert, table, hget, refuse, Bind.bind, Except.bind]
  | some t =>
    rw [insert, table_eq_ok.2 hget]
    simp only [Bind.bind, Except.bind, Option.some.injEq, exists_eq_left',
      ← Table.insert?_eq_none]
    cases t.insert? row <;> simp [throw, throwThe, MonadExceptOf.throw, pure, Except.pure]

/-- A row with an identifier meets the condition that this is equal to a value just if the value
identifies it. -/
theorem accepts_whereEq (t : Table) (id : Value) {r : Row} (hid : r.contains t.idColumn = true) :
    (({} : Query).whereEq t.idColumn id).accepts r = t.identifies id r := by
  rw [Dict.contains_eq_isSome] at hid
  obtain ⟨value, hvalue⟩ := Option.isSome_iff_exists.1 hid
  simp only [Query.accepts, Query.whereEq, List.nil_append, List.all_cons, List.all_nil,
    Bool.and_true, Condition.holds, Row.valueAt, hvalue, Option.getD_some, Table.identifies,
    Comparison.accepts]
  cases value.compare? id <;> simp

/-- The rows that are found under an identifier are those that it identifies, if rows have
identifiers. -/
theorem mem_select_whereEq (ht : s.tables.get? name = some t) (id : Value) {r : Row}
    (hr : r ∈ t.rows) (hid : r.contains t.idColumn = true) : ∃ rows,
      s.select name (({} : Query).whereEq t.idColumn id) = .ok rows ∧
        (r ∈ rows ↔ t.identifies id r = true) := by
  refine ⟨_, Tracking.select_of_get? ht _, ?_⟩
  have hshown (other : Row) : (({} : Query).whereEq t.idColumn id).project other = other := rfl
  rw [Query.mem_select_unlimited rfl rfl, ← accepts_whereEq t id hid]
  constructor
  · rintro ⟨other, -, hother, rfl⟩
    exact hother
  · exact fun h => ⟨r, hr, h, hshown r⟩

/-- An insertion puts the row behind the others of its table and touches nothing else. Beside the
identifier it stores what the row holds. An identifier that is a number or spells one is stored as
it is given, and any other one is replaced by the next number: so the values that a row brings along
are kept just if its identifier, should it have one, is a number, and the row is found under the
identifier that it was given just if this is a number or equal to the next one. -/
theorem insert_keeps_values_iff (ht : s.tables.get? name = some t)
    (h : insert name row s = .ok (stored, s')) :
    (∃ next, s' = s.withTable name (t.append stored next)) ∧
    (∀ column, stored.get? column = if column = t.idColumn ∧ t.explicitId? row = none
      then some (.int64 t.nextId) else row.get? column) ∧
    ((∀ column value, row.get? column = some value → value.isNull = false →
        stored.get? column = some value) ↔
      ∀ id, row.get? t.idColumn = some id → id.isNull = false → id.toInt64?.isSome = true) ∧
    ∀ id, row.get? t.idColumn = some id → ∃ rows,
      s'.select name (({} : Query).whereEq t.idColumn id) = .ok rows ∧
        (stored ∈ rows ↔
          id.toInt64?.isSome = true ∨ (Value.int64 t.nextId).compare? id = some .eq) := by
  obtain ⟨t₀, t', ht₀, hinsert, rfl⟩ := insert_eq_ok.1 h
  obtain rfl := Option.some.inj (ht₀.symm.trans ht)
  have happend := Table.eq_append_of_insert? hinsert
  refine ⟨⟨_, by rw [← happend]⟩, Table.get?_of_insert? hinsert, Table.keeps_values_iff hinsert,
    fun id hid => ?_⟩
  have hs' : (s.withTable name t').tables.get? name = some t' := Dict.get?_insert_self _ _ _
  have hcolumn : t'.idColumn = t₀.idColumn := by rw [happend]; rfl
  have hmem : stored ∈ t'.rows := by rw [happend]; simp [Table.append]
  have hcontains : stored.contains t'.idColumn = true := by
    rw [hcolumn, Dict.contains_eq_isSome, Table.identifier_of_insert? hinsert hid]
    rfl
  obtain ⟨rows, hrows, hfound⟩ := mem_select_whereEq hs' id hmem hcontains
  rw [hcolumn] at hrows
  refine ⟨rows, hrows, hfound.trans ?_⟩
  rw [Table.identifies, hcolumn, ← Table.identifies, Table.identifies_stored_iff hinsert hid]

/-- A row with a universally unique identifier gets number 1 instead, and is not found under the
identifier that it was given. -/
theorem uuid_is_replaced :
    let id : Value := .uuid ⟨7⟩
    let t : Table := { columns := [{ name := "id", kind := .uuid, primary := true }] }
    let s : Store := { tables := Dict.ofList [("users", t)] }
    let row : Row := Dict.ofList [("id", id)]
    let stored : Row := Dict.ofList [("id", .int64 1)]
    let s' := s.withTable "users" (t.append stored 2)
    s.tables.get? "users" = some t ∧ insert "users" row s = .ok (stored, s') ∧
      ¬(∀ column value, row.get? column = some value → value.isNull = false →
        stored.get? column = some value) ∧
      ∃ rows, s'.select "users" (({} : Query).whereEq "id" id) = .ok rows ∧ stored ∉ rows := by
  intro id t s row stored s'
  have ht : s.tables.get? "users" = some t := by cbv
  have hstored : stored = row.insert t.idColumn (.int64 t.nextId) := Dict.ext (by cbv)
  have h : insert "users" row s = .ok (stored, s') := insert_eq_ok.2
    ⟨t, _, ht, Table.insert?_eq_some.2 (.inr ⟨2, by cbv, by cbv, hstored, rfl⟩), rfl⟩
  have hid : row.get? t.idColumn = some id := by cbv
  obtain ⟨-, -, hkept, hfound⟩ := insert_keeps_values_iff ht h
  obtain ⟨rows, hrows, hmem⟩ := hfound id hid
  refine ⟨ht, h, fun hall => ?_, rows, hrows, fun hstored => ?_⟩
  · exact absurd (hkept.1 hall id hid rfl) (by decide)
  · exact absurd (hmem.1 hstored) (by decide)

end Store

end SchemaMigration
