import Mathlib
import SchemaMigration.Proofs.Tracking.Operations
import SchemaMigration.Proofs.Value.Transitivity

/-!
# Sorted selections and their pages

A query sorts the rows that it accepts by columns. If the values of each of these columns are on one
scale, the sorted list is the only one that has the same rows in ascending order and leaves rows
that tie as they were inserted. A limit and an offset cut a window out of this list, so pages of one
size that follow one another are the whole list.
-/

namespace SchemaMigration

namespace Row

/-- Two rows tie if they have equal values in all columns to sort by. -/
def Ties (keys : List SortKey) (a b : Row) : Prop :=
  ∀ k ∈ keys, (a.valueAt k.column).compare? (b.valueAt k.column) = some .eq

/-- A row comes before another one by columns, of which earlier ones count more. -/
inductive Before (a b : Row) : List SortKey → Prop where
  /-- In the first column it has the lesser value, or the greater one if greater values come
  first. -/
  | here {k : SortKey} {later : List SortKey}
      (leads : (a.valueAt k.column).compare? (b.valueAt k.column) =
        some (if k.descending then .gt else .lt)) : Before a b (k :: later)
  /-- The values in the first column are equal, and by the other columns it comes before. -/
  | there {k : SortKey} {later : List SortKey}
      (equal : (a.valueAt k.column).compare? (b.valueAt k.column) = some .eq)
      (rest : Before a b later) : Before a b (k :: later)

end Row

/-- In each column to sort by, the values of rows are absent or on one scale. -/
def Sortable (keys : List SortKey) (rows : List Row) : Prop :=
  ∀ k ∈ keys, ∃ scale, ∀ r ∈ rows, (r.valueAt k.column).IsOn scale

/-- A list is a list of rows in the order of columns: it has the same rows, none of which comes
before an earlier one, and rows that tie are in the order that they had. -/
structure SortedBy (keys : List SortKey) (rows sorted : List Row) : Prop where
  perm : sorted.Perm rows
  ascending : sorted.Pairwise fun a b => Row.Ties keys a b ∨ Row.Before a b keys
  stable : ∀ part : List Row, part.Sublist rows → part.Pairwise (Row.Ties keys) →
    part.Sublist sorted

variable {keys : List SortKey} {k : SortKey} {rows : List Row} {a b : Row}

/-- Rows that can be sorted compare by one column as in an order of all rows. -/
theorem exists_transCmp_key {scale : Scale} (h : ∀ r ∈ rows, (r.valueAt k.column).IsOn scale) :
    ∃ cmp : Row → Row → Ordering, Std.TransCmp cmp ∧
      ∀ a ∈ rows, ∀ b ∈ rows, k.compare a b = cmp a b := by
  obtain ⟨α, _, _, key, hkey⟩ := Value.exists_key scale
  let cmp : Row → Row → Ordering := compareOn fun r => key (r.valueAt k.column)
  have hcmp (a b : Row) (ha : a ∈ rows) (hb : b ∈ rows) :
      (a.valueAt k.column).compare? (b.valueAt k.column) = some (cmp a b) :=
    hkey _ _ (h a ha) (h b hb)
  have htrans : Std.TransCmp cmp := inferInstanceAs (Std.TransCmp (compareOn _))
  cases hdirection : k.descending with
  | false =>
    refine ⟨cmp, htrans, fun a ha b hb => ?_⟩
    simp [SortKey.compare, hcmp a b ha hb, hdirection]
  | true =>
    refine ⟨fun a b => cmp b a, inferInstance, fun a ha b hb => ?_⟩
    simp only [SortKey.compare, hcmp a b ha hb, hdirection, if_true, Option.getD_some]
    exact Std.OrientedCmp.eq_swap.symm

/-- Rows that can be sorted compare as in an order of all rows. -/
theorem Sortable.exists_transCmp (h : Sortable keys rows) :
    ∃ cmp : Row → Row → Ordering, Std.TransCmp cmp ∧
      ∀ a ∈ rows, ∀ b ∈ rows, compareRows keys a b = cmp a b := by
  induction keys with
  | nil =>
    have : Std.TransCmp fun _ _ : Row => Ordering.eq :=
      { eq_swap := rfl, isLE_trans := fun _ _ => rfl }
    exact ⟨_, this, fun _ _ _ _ => rfl⟩
  | cons k rest ih =>
    obtain ⟨scale, hscale⟩ := h k List.mem_cons_self
    obtain ⟨first, hfirst, hsame⟩ := exists_transCmp_key hscale
    obtain ⟨later, hlater, hsame'⟩ := ih fun k' hk' => h k' (List.mem_cons_of_mem k hk')
    refine ⟨compareLex first later, inferInstance, fun a ha b hb => ?_⟩
    rw [compareRows, hsame a ha b hb, hsame' a ha b hb]
    rfl

/-- The order of two rows that can be sorted, by one column. -/
theorem compare_eq_iff (h : Sortable (k :: keys) rows) (ha : a ∈ rows) (hb : b ∈ rows) :
    (k.compare a b = .eq ↔ (a.valueAt k.column).compare? (b.valueAt k.column) = some .eq) ∧
      (k.compare a b = .lt ↔ (a.valueAt k.column).compare? (b.valueAt k.column) =
        some (if k.descending then .gt else .lt)) := by
  obtain ⟨scale, hscale⟩ := h k List.mem_cons_self
  obtain ⟨α, _, _, key, hkey⟩ := Value.exists_key scale
  rw [SortKey.compare, hkey _ _ (hscale a ha) (hscale b hb), Option.getD_some]
  generalize compare (key (a.valueAt k.column)) (key (b.valueAt k.column)) = order
  cases k.descending <;> cases order <;> simp

theorem Sortable.tail (h : Sortable (k :: keys) rows) : Sortable keys rows :=
  fun k' hk' => h k' (List.mem_cons_of_mem k hk')

theorem Row.ties_cons : Row.Ties (k :: keys) a b ↔
    (a.valueAt k.column).compare? (b.valueAt k.column) = some .eq ∧ Row.Ties keys a b := by
  simp [Row.Ties]

theorem Row.before_cons : Row.Before a b (k :: keys) ↔
    (a.valueAt k.column).compare? (b.valueAt k.column) =
        some (if k.descending then .gt else .lt) ∨
      (a.valueAt k.column).compare? (b.valueAt k.column) = some .eq ∧ Row.Before a b keys := by
  constructor
  · rintro (leads | ⟨equal, rest⟩)
    · exact .inl leads
    · exact .inr ⟨equal, rest⟩
  · rintro (leads | ⟨equal, rest⟩)
    · exact .here leads
    · exact .there equal rest

/-- Rows that can be sorted compare as equal if they tie, and as less if the first one comes
before. -/
theorem compareRows_iff (h : Sortable keys rows) (ha : a ∈ rows) (hb : b ∈ rows) :
    (compareRows keys a b = .eq ↔ Row.Ties keys a b) ∧
      (compareRows keys a b = .lt ↔ Row.Before a b keys) := by
  induction keys with
  | nil =>
    refine ⟨⟨fun _ => nofun, fun _ => rfl⟩, nofun, ?_⟩
    rintro ⟨⟩
  | cons k keys ih =>
    obtain ⟨heq, hlt⟩ := compare_eq_iff h ha hb
    obtain ⟨hties, hbefore⟩ := ih h.tail
    rw [compareRows, Ordering.then_eq_eq, Ordering.then_eq_lt, heq, hlt, hties, hbefore,
      Row.ties_cons, Row.before_cons]
    exact ⟨Iff.rfl, Iff.rfl⟩

section Order

variable {α : Type} {cmp : α → α → Ordering} [Std.TransCmp cmp] {l l' sorted : List α}

/-- Two ascending lists of the same items are equal if items that are equal in the order are in the
same sequence in both. -/
theorem eq_of_ascending (hperm : l.Perm l') (hl : l.Pairwise fun a b => (cmp a b).isLE = true)
    (hl' : l'.Pairwise fun a b => (cmp a b).isLE = true)
    (hties : ∀ a, l.filter (fun b => cmp a b == .eq) = l'.filter (fun b => cmp a b == .eq)) :
    l = l' := by
  induction l generalizing l' with
  | nil => exact hperm.nil_eq
  | cons a rest ih =>
    cases l' with
    | nil => exact hperm.eq_nil
    | cons b rest' =>
      obtain ⟨hfirst, hrest⟩ := List.pairwise_cons.1 hl
      obtain ⟨hfirst', hrest'⟩ := List.pairwise_cons.1 hl'
      have hab : (cmp a b).isLE = true := by
        rcases List.mem_cons.1 (hperm.mem_iff.2 List.mem_cons_self : b ∈ a :: rest) with rfl | hb
        · exact Std.ReflCmp.isLE_rfl
        · exact hfirst b hb
      have hba : (cmp b a).isLE = true := by
        rcases List.mem_cons.1 (hperm.mem_iff.1 List.mem_cons_self : a ∈ b :: rest') with rfl | ha
        · exact Std.ReflCmp.isLE_rfl
        · exact hfirst' a ha
      -- Each head is the first of the items equal to it, and these are the same items.
      have heq : cmp a b = .eq := Std.OrientedCmp.isLE_antisymm hab hba
      have hheads := hties a
      rw [List.filter_cons_of_pos (by simp [Std.ReflCmp.compare_self]),
        List.filter_cons_of_pos (by simpa using heq)] at hheads
      obtain rfl := (List.cons.inj hheads).1
      congr 1
      refine ih hperm.cons_inv hrest hrest' fun c => ?_
      have hc := hties c
      simp only [List.filter_cons] at hc
      split at hc
      · exact (List.cons.inj hc).2
      · exact hc

end Order

/-- Sorting gives the rows in the order of the columns. -/
theorem Sortable.sortedBy (h : Sortable keys rows) :
    SortedBy keys rows (rows.mergeSort fun a b => compareRows keys a b != .gt) := by
  obtain ⟨cmp, _, hcmp⟩ := h.exists_transCmp
  have htrans (a b c : Row) (hab : (cmp a b).isLE = true) (hbc : (cmp b c).isLE = true) :
      (cmp a c).isLE = true := Std.TransCmp.isLE_trans hab hbc
  have htotal (a b : Row) : ((cmp a b).isLE || (cmp b a).isLE) = true := by
    have hswap : cmp a b = (cmp b a).swap := Std.OrientedCmp.eq_swap
    rw [hswap]
    cases cmp b a <;> rfl
  -- Sorting compares only rows of the list, on which the order agrees with the comparison.
  have hsame : (rows.mergeSort fun a b => compareRows keys a b != .gt) =
      rows.mergeSort fun a b => (cmp a b).isLE := by
    have hmap := List.map_mergeSort (f := id) (l := rows)
      (r := fun a b => compareRows keys a b != .gt) (s := fun a b => (cmp a b).isLE)
      fun a ha b hb => by
        rw [hcmp a ha b hb, id, id]
        cases cmp a b <;> rfl
    simpa using hmap
  rw [hsame]
  refine ⟨List.mergeSort_perm _ _, ?_, fun part hpart hties => ?_⟩
  · refine (List.pairwise_mergeSort htrans htotal rows).imp_of_mem fun {a b} ha hb hle => ?_
    rw [List.mem_mergeSort] at ha hb
    obtain ⟨hties, hbefore⟩ := compareRows_iff h ha hb
    rw [hcmp a ha b hb] at hties hbefore
    rcases Ordering.isLE_iff_eq_lt_or_eq_eq.1 hle with hlt | heq
    · exact .inr (hbefore.1 hlt)
    · exact .inl (hties.1 heq)
  · refine List.sublist_mergeSort htrans htotal ?_ hpart
    refine hties.imp_of_mem fun {a b} ha hb htie => ?_
    have ha := hpart.mem ha
    have hb := hpart.mem hb
    rw [← hcmp a ha b hb, (compareRows_iff h ha hb).1.2 htie]
    rfl

namespace SortedBy

variable {sorted sorted' : List Row}

/-- Rows that are equal in an order stay as they were. -/
theorem filter_eq (h : SortedBy keys rows sorted) {cmp : Row → Row → Ordering} [Std.TransCmp cmp]
    (hties : ∀ a ∈ rows, ∀ b ∈ rows, cmp a b = .eq → Row.Ties keys a b) (a : Row) :
    sorted.filter (fun b => cmp a b == .eq) = rows.filter fun b => cmp a b == .eq := by
  have hpart : (rows.filter fun b => cmp a b == .eq).Pairwise (Row.Ties keys) := by
    refine List.pairwise_of_forall_mem_list fun b hb c hc => ?_
    obtain ⟨hb, hab⟩ := List.mem_filter.1 hb
    obtain ⟨hc, hac⟩ := List.mem_filter.1 hc
    rw [beq_iff_eq] at hab hac
    exact hties b hb c hc (Std.TransCmp.eq_trans (Std.OrientedCmp.eq_symm hab) hac)
  have hsublist := (h.stable _ List.filter_sublist hpart).filter fun b => cmp a b == .eq
  rw [List.filter_filter] at hsublist
  simp only [Bool.and_self] at hsublist
  exact (hsublist.eq_of_length (h.perm.filter _).length_eq.symm).symm

/-- No row comes before an earlier one in an order that rows compare in. -/
theorem ascending_of_same (h : SortedBy keys rows sorted) (hrows : Sortable keys rows)
    {cmp : Row → Row → Ordering} (hsame : ∀ a ∈ rows, ∀ b ∈ rows, compareRows keys a b = cmp a b) :
    sorted.Pairwise fun a b => (cmp a b).isLE = true := by
  refine h.ascending.imp_of_mem fun {a b} ha hb hab => ?_
  have ha := h.perm.mem_iff.1 ha
  have hb := h.perm.mem_iff.1 hb
  obtain ⟨hties, hbefore⟩ := compareRows_iff hrows ha hb
  rw [← hsame a ha b hb]
  rcases hab with htie | hlt
  · rw [hties.2 htie]
    rfl
  · rw [hbefore.2 hlt]
    rfl

/-- There is only one list of rows in the order of columns. -/
theorem eq (h : SortedBy keys rows sorted) (h' : SortedBy keys rows sorted')
    (hrows : Sortable keys rows) : sorted = sorted' := by
  obtain ⟨cmp, _, hsame⟩ := hrows.exists_transCmp
  have hties (a : Row) (ha : a ∈ rows) (b : Row) (hb : b ∈ rows) (hab : cmp a b = .eq) :
      Row.Ties keys a b :=
    (compareRows_iff hrows ha hb).1.1 ((hsame a ha b hb).trans hab)
  exact eq_of_ascending (h.perm.trans h'.perm.symm) (h.ascending_of_same hrows hsame)
    (h'.ascending_of_same hrows hsame)
    fun a => (h.filter_eq hties a).trans (h'.filter_eq hties a).symm

end SortedBy

/-- Windows of one size that follow one another are the front of a list. -/
theorem flatten_windows {α : Type} (l : List α) (size count : Nat) :
    ((List.range count).map fun page => (l.drop (page * size)).take size).flatten =
      l.take (count * size) := by
  induction count with
  | zero => simp
  | succ count ih =>
    rw [List.range_succ, List.map_append, List.flatten_append, ih, Nat.succ_mul, List.take_add]
    simp

namespace Query

variable {q : Query}

/-- A row is accepted if all conditions are on values that compare as they ask. -/
theorem accepts_iff (r : Row) : q.accepts r = true ↔ ∀ c ∈ q.conditions, ∃ order,
    (r.valueAt c.column).compare? c.value = some order ∧ c.comparison.accepts order = true := by
  rw [accepts, List.all_eq_true]
  refine forall₂_congr fun c _ => ?_
  rw [Condition.holds]
  cases (r.valueAt c.column).compare? c.value <;> simp

/-- Of a row the named columns are shown, or all if none is named. -/
theorem get?_project (r : Row) (column : String) : (q.project r).get? column =
    if q.columns = [] ∨ column ∈ q.columns then r.get? column else none := by
  rw [project]
  by_cases hall : q.columns = []
  · simp [hall]
  · rw [if_neg (by simpa using hall), Dict.get?_filter_name]
    simp [hall]

theorem select_eq (rows : List Row) : q.select rows = q.window ((q.sorted rows).map q.project) := by
  simp only [select, window]
  split <;> simp

end Query

namespace Store

variable {s : Store} {name : String} {t : Table} {q : Query}

/-- If the values in each column to sort by are on one scale, a query selects of the rows that meet
its conditions the shown columns, in the only order that puts none before an earlier one and leaves
rows that tie as they were inserted. With a limit and an offset it selects the window of these that
begins there and is as long, so pages of one size are together what is selected without one. -/
theorem select_sorts_and_pages (ht : s.tables.get? name = some t)
    (h : Sortable q.order (t.rows.filter q.accepts)) :
    (∀ r, q.accepts r = true ↔ ∀ c ∈ q.conditions, ∃ order,
      (r.valueAt c.column).compare? c.value = some order ∧ c.comparison.accepts order = true) ∧
    (∀ r column, (q.project r).get? column =
      if q.columns = [] ∨ column ∈ q.columns then r.get? column else none) ∧
    ∃ sorted, SortedBy q.order (t.rows.filter q.accepts) sorted ∧
      (∀ other, SortedBy q.order (t.rows.filter q.accepts) other → other = sorted) ∧
      (∀ offset, s.select name { q with limit := none, offset } =
        .ok ((sorted.map q.project).drop offset)) ∧
      (∀ limit offset, s.select name { q with limit := some limit, offset } =
        .ok (((sorted.map q.project).drop offset).take limit)) ∧
      ∀ size count, 0 < size → (sorted.length + size - 1) / size ≤ count →
        ((List.range count).mapM fun page =>
          s.select name { q with limit := some size, offset := page * size }).map List.flatten =
            .ok (sorted.map q.project) := by
  have hsorted : SortedBy q.order (t.rows.filter q.accepts) (q.sorted t.rows) := h.sortedBy
  have hselect (limit : Option Nat) (offset : Nat) : s.select name { q with limit, offset } =
      .ok (({ q with limit, offset } : Query).window ((q.sorted t.rows).map q.project)) := by
    rw [Tracking.select_of_get? ht, Query.select_eq]
    rfl
  refine ⟨Query.accepts_iff, Query.get?_project, q.sorted t.rows, hsorted,
    fun other hother => hother.eq hsorted h, fun offset => hselect none offset,
    fun limit offset => hselect (some limit) offset, fun size count hsize hcount => ?_⟩
  let window (page : Nat) : List Row :=
    (((q.sorted t.rows).map q.project).drop (page * size)).take size
  have hpages : ((List.range count).mapM fun page =>
      s.select name { q with limit := some size, offset := page * size }) =
        pure ((List.range count).map window) := by
    simp only [hselect]
    exact List.mapM_pure
  have hlength : (q.sorted t.rows).length ≤ count * size := by
    rw [Nat.div_le_iff_le_mul_add_pred hsize] at hcount
    rw [Nat.mul_comm]
    omega
  rw [hpages]
  change Except.ok ((List.range count).map window).flatten = _
  rw [flatten_windows, List.take_of_length_le (by rwa [List.length_map])]

/-- A row without a rank and rows that tie, selected by descending rank, which is not shown. -/
theorem ranks_descend :
    let t : Table := { columns := [], rows := [
      Dict.ofList [("name", .string "a"), ("rank", .int32 1)],
      Dict.ofList [("name", .string "b")],
      Dict.ofList [("name", .string "c"), ("rank", .int64 2)],
      Dict.ofList [("name", .string "d"), ("rank", .int64 1)],
      Dict.ofList [("name", .null), ("rank", .int64 1)]] }
    let s : Store := { tables := Dict.ofList [("users", t)] }
    let q : Query :=
      { columns := ["name"], conditions := [⟨"name", .ne, .null⟩], order := [⟨"rank", true⟩] }
    let named (name : String) : Row := Dict.ofList [("name", .string name)]
    s.tables.get? "users" = some t ∧ Sortable q.order (t.rows.filter q.accepts) ∧
      s.select "users" q = .ok [named "c", named "a", named "d", named "b"] ∧
      ((List.range 2).mapM fun page =>
        s.select "users" { q with limit := some 3, offset := page * 3 }).map List.flatten =
          .ok [named "c", named "a", named "d", named "b"] := by
  intro t s q named
  have ht : s.tables.get? "users" = some t := by cbv
  have hkinds : ∀ r ∈ t.rows,
      (r.valueAt "rank").isNull = true ∨ (r.valueAt "rank").scale? = some .whole := by
    decide
  have h : Sortable q.order (t.rows.filter q.accepts) := fun k hk => by
    obtain rfl := List.mem_singleton.1 hk
    exact ⟨.whole, fun r hr =>
      (hkinds r (List.mem_of_mem_filter hr)).imp_left Value.isNull_eq_true.1⟩
  obtain ⟨-, -, sorted, hsorted, -, hselect, -, hpages⟩ := select_sorts_and_pages ht h
  have hall : s.select "users" q = .ok [named "c", named "a", named "d", named "b"] := by
    rw [Tracking.select_of_get? ht]
    cbv
  have heq : sorted.map q.project = [named "c", named "a", named "d", named "b"] :=
    Except.ok.inj ((hselect 0).symm.trans hall)
  refine ⟨ht, h, hall, heq ▸ hpages 3 2 (by decide) ?_⟩
  have hlength : sorted.length = 4 := by
    rw [← List.length_map q.project, heq]
    rfl
  rw [hlength]

end Store

end SchemaMigration
