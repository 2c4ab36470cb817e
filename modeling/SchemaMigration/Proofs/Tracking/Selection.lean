import Mathlib.Data.Finset.Card
import Mathlib.Data.Finset.Dedup
import Mathlib.Data.Finset.Max
import SchemaMigration.Proofs.Tracking.Batches

/-!
# Selections of records

Which records are found by the queries that rollbacks make: a record of a migration, those of a
batch and after it, and those of the last batches. A batch is one of the last so many if there are
fewer different batches after it.
-/

namespace SchemaMigration

namespace Tracking

/-- How many different batches of records come after a batch. -/
def laterBatches (records : List Record) (batch : Int64) : Nat :=
  ((records.map (·.batch)).toFinset.filter fun later => batch.toInt < later.toInt).card

/-- No batch comes after the greatest one. -/
theorem laterBatches_lt_one {records : List Record} {batch : Int64} :
    laterBatches records batch < 1 ↔ ∀ record ∈ records, record.batch.toInt ≤ batch.toInt := by
  rw [Nat.lt_one_iff, laterBatches, Finset.card_eq_zero, Finset.filter_eq_empty_iff]
  simp

/-- Without the last batch, there is one batch less after each of the others. -/
theorem laterBatches_without_last {records : List Record} {batch : Int64}
    (h : 1 ≤ laterBatches records batch) :
    laterBatches (records.filter fun record => 1 ≤ laterBatches records record.batch) batch + 1 =
      laterBatches records batch := by
  let later := (records.map (·.batch)).toFinset.filter fun later => batch.toInt < later.toInt
  have hkept : laterBatches
      (records.filter fun record => 1 ≤ laterBatches records record.batch) batch =
      (later.filter fun b => 1 ≤ laterBatches records b).card := by
    rw [laterBatches]
    congr 1
    ext b
    simp only [later, Finset.mem_filter, List.mem_toFinset, List.mem_map, List.mem_filter,
      decide_eq_true_eq]
    constructor
    · rintro ⟨⟨record, ⟨hr, hlater⟩, rfl⟩, hlt⟩
      exact ⟨⟨⟨record, hr, rfl⟩, hlt⟩, hlater⟩
    · rintro ⟨⟨⟨record, hr, rfl⟩, hlt⟩, hlater⟩
      exact ⟨⟨record, ⟨hr, hlater⟩, rfl⟩, hlt⟩
  have hlast : (later.filter fun b => ¬1 ≤ laterBatches records b).card = 1 := by
    obtain ⟨last, hmem, hmax⟩ := Finset.exists_max_image later (·.toInt)
      (Finset.card_pos.1 (Nat.lt_of_lt_of_le Nat.zero_lt_one h))
    rw [Finset.card_eq_one]
    refine ⟨last, ?_⟩
    ext b
    simp only [Finset.mem_filter, Finset.mem_singleton, not_le, laterBatches_lt_one]
    constructor
    · rintro ⟨hb, hgreatest⟩
      obtain ⟨record, hr, hrecord⟩ :=
        List.mem_map.1 (List.mem_toFinset.1 (Finset.mem_filter.1 hmem).1)
      have hle : last.toInt ≤ b.toInt := hrecord ▸ hgreatest record hr
      exact Int64.toInt_inj.1 (Int.le_antisymm (hmax b hb) hle)
    · rintro rfl
      refine ⟨hmem, fun record hr => ?_⟩
      by_cases hlt : batch.toInt < record.batch.toInt
      · exact hmax _ (Finset.mem_filter.2 ⟨List.mem_toFinset.2 (List.mem_map_of_mem hr), hlt⟩)
      · exact (Int.not_lt.1 hlt).trans (Int.le_of_lt (Finset.mem_filter.1 hmem).2)
  have hsplit := Finset.card_filter_add_card_filter_not (s := later)
    fun b => 1 ≤ laterBatches records b
  rw [hlast, ← hkept] at hsplit
  exact hsplit

/-- To take away the last batch and then some more is to take away one more than these. -/
theorem filter_laterBatches_succ (records : List Record) (count : Nat) :
    let left := records.filter fun record => 1 ≤ laterBatches records record.batch
    (left.filter fun record => count ≤ laterBatches left record.batch) =
        records.filter (fun record => count + 1 ≤ laterBatches records record.batch) ∧
      (left.filter fun record => laterBatches left record.batch < count) =
        (records.filter fun record => laterBatches records record.batch < count + 1).filter
          fun record => 1 ≤ laterBatches records record.batch := by
  intro left
  have hless (record : Record) (h : 1 ≤ laterBatches records record.batch) :
      laterBatches left record.batch + 1 = laterBatches records record.batch :=
    laterBatches_without_last h
  constructor
  · rw [List.filter_filter]
    refine List.filter_congr fun record _ => ?_
    rw [Bool.eq_iff_iff, Bool.and_eq_true]
    simp only [decide_eq_true_eq]
    constructor
    · rintro ⟨hcount, hlater⟩
      have := hless record hlater
      omega
    · intro hcount
      have := hless record (by omega)
      omega
  · rw [List.filter_filter, List.filter_filter]
    refine List.filter_congr fun record _ => ?_
    rw [Bool.eq_iff_iff, Bool.and_eq_true, Bool.and_eq_true]
    simp only [decide_eq_true_eq]
    constructor
    · rintro ⟨hcount, hlater⟩
      have := hless record hlater
      omega
    · rintro ⟨hlater, hcount⟩
      have := hless record hlater
      omega

/-- Among numbers in descending order, one of the first so many has fewer before it. -/
theorem mem_take_of_descending {numbers : List Int64}
    (h : numbers.Pairwise fun a b => b.toInt < a.toInt) (count : Nat) (n : Int64) :
    n ∈ numbers.take count ↔
      n ∈ numbers ∧ (numbers.filter fun m => n.toInt < m.toInt).length < count := by
  induction numbers generalizing count with
  | nil => simp
  | cons first rest ih =>
    obtain ⟨hfirst, hrest⟩ := List.pairwise_cons.1 h
    cases count with
    | zero => simp
    | succ count =>
      rw [List.take_succ_cons, List.mem_cons, List.mem_cons, ih hrest]
      by_cases hn : n = first
      · subst hn
        have hnone : rest.filter (fun m => n.toInt < m.toInt) = [] := by
          apply List.filter_eq_nil_iff.2
          intro m hm
          have hlt := hfirst m hm
          simp only [decide_eq_true_eq]
          omega
        simp [hnone]
      · constructor
        · rintro (heq | ⟨hmem, hlt⟩)
          · exact absurd heq hn
          · have hbefore := hfirst n hmem
            simp [hbefore, hmem, hlt]
        · rintro ⟨heq | hmem, hlt⟩
          · exact absurd heq hn
          · have hbefore := hfirst n hmem
            rw [List.filter_cons_of_pos (by simpa using hbefore), List.length_cons] at hlt
            exact .inr ⟨hmem, by omega⟩

/-- The greatest batches, each once, are in descending order. -/
theorem pairwise_descending (batches : List Int64) :
    (batches.eraseDups.mergeSort fun a b => b.toInt ≤ a.toInt).Pairwise
      fun a b => b.toInt < a.toInt := by
  have hperm := List.mergeSort_perm batches.eraseDups fun a b => b.toInt ≤ a.toInt
  have hnodup := hperm.nodup_iff.2 (nodup_eraseDups batches)
  have hsorted := pairwise_mergeSort_toInt batches.eraseDups
  refine (hsorted.and hnodup).imp fun {a b} h => ?_
  have hle := h.1
  have hne : a.toInt ≠ b.toInt := fun heq => h.2 (Int64.toInt_inj.1 heq)
  omega

/-- A batch is among the last so many if there are fewer after it. -/
theorem mem_greatest_iff (records : List Record) (count : Nat) (batch : Int64) :
    batch ∈ greatest count (records.map (·.batch)) ↔
      batch ∈ records.map (·.batch) ∧ laterBatches records batch < count := by
  let numbers := (records.map (·.batch)).eraseDups.mergeSort fun a b => b.toInt ≤ a.toInt
  have hmem (n : Int64) : n ∈ numbers ↔ n ∈ records.map (·.batch) := by
    rw [List.mem_mergeSort, List.mem_eraseDups]
  have hdescending := pairwise_descending (records.map (·.batch))
  have hcount : (numbers.filter fun m => batch.toInt < m.toInt).length =
      laterBatches records batch := by
    have hnodup : (numbers.filter fun m => batch.toInt < m.toInt).Nodup := by
      apply List.Nodup.filter
      apply hdescending.imp
      rintro a b hlt rfl
      exact Int.lt_irrefl _ hlt
    rw [← List.toFinset_card_of_nodup hnodup, laterBatches]
    congr 1
    ext n
    simp [hmem]
  rw [greatest, mem_take_of_descending hdescending, hmem, hcount]

variable {table : String} {s : Store} {t : Table}

/-- The rows that a query accepts by their records are those of the records that it accepts. -/
theorem filter_accepts_of_tracks (h : t.Tracks) {q : Query} {p : Record → Bool}
    (haccepts : ∀ record n, q.accepts (Record.numbered record n) = p { record with id := some n }) :
    t.rows.filter q.accepts = t.rows.filter (p ∘ Record.ofRow) := by
  apply List.filter_congr
  intro row hrow
  obtain ⟨record, n, rfl, -⟩ := h.rows row hrow
  rw [haccepts, Function.comp_apply, Record.ofRow_numbered]

/-- A query that accepts rows by their records selects the records that it accepts. -/
theorem select_of_tracks (ht : s.tables.get? table = some t) (h : t.Tracks) {q : Query}
    {p : Record → Bool} (hcolumns : q.columns = []) (hlimit : q.limit = none)
    (hoffset : q.offset = 0)
    (haccepts : ∀ record n, q.accepts (Record.numbered record n) = p { record with id := some n }) :
    ∃ l, select table q s = .ok l ∧ l.Perm ((recorded table s).filter p) := by
  refine ⟨_, select_eq ht q, ?_⟩
  rw [recorded_of_get? ht, List.filter_map, ← filter_accepts_of_tracks h haccepts]
  exact (Query.select_perm hcolumns hlimit hoffset t.rows).map _

theorem accepts_fromBatch (batch : Int64) (record : Record) (n : Int64) :
    ({ conditions := [⟨"batch", .ge, .int64 batch⟩], order := byBatchAndName } : Query).accepts
      (record.numbered n) = decide (batch.toInt ≤ record.batch.toInt) := by
  have hvalue : (record.numbered n).valueAt "batch" = .int64 record.batch := by
    simp [Row.valueAt, Record.numbered, Dict.get?_insert, Record.get?_toRow]
  have hcompare : (Value.int64 record.batch).compare? (.int64 batch) =
      some (compare record.batch.toInt batch.toInt) := rfl
  rw [Bool.eq_iff_iff, decide_eq_true_eq, ← Int.compare_ne_lt]
  simp [Query.accepts, Condition.holds, hvalue, hcompare, Comparison.accepts]

/-- The records of a batch and of those after it. -/
theorem fromBatch_of_tracks (ht : s.tables.get? table = some t) (h : t.Tracks) (batch : Int64) :
    ∃ l, fromBatch table batch s = .ok l ∧
      l.Perm ((recorded table s).filter fun record => batch.toInt ≤ record.batch.toInt) :=
  select_of_tracks ht h rfl rfl rfl (accepts_fromBatch batch)

/-- No record is in a batch before the first one. -/
theorem fromBatch_one_of_tracks (ht : s.tables.get? table = some t) (h : t.Tracks) :
    fromBatch table 1 s = records table s := by
  have hall : t.rows.filter ({
      conditions := [⟨"batch", .ge, .int64 1⟩], order := byBatchAndName } : Query).accepts =
      t.rows.filter ({ order := byBatchAndName } : Query).accepts := by
    apply List.filter_congr
    intro row hrow
    obtain ⟨record, n, rfl, hb, -⟩ := h.rows row hrow
    rw [accepts_fromBatch]
    exact decide_eq_true hb
  simp only [fromBatch, records, select_eq ht, Query.select, Query.sorted, hall]
  rfl

/-- Whether the batch of a record is among the last so many that were read. -/
theorem contains_greatest {records read : List Record} (h : read.Perm records) (count : Nat)
    {record : Record} (hr : record ∈ read) :
    (greatest count (read.map (·.batch))).contains record.batch =
      decide (laterBatches records record.batch < count) := by
  have hlater : laterBatches read record.batch = laterBatches records record.batch := by
    simp only [laterBatches]
    rw [List.toFinset_eq_of_perm _ _ (h.map _)]
  rw [Bool.eq_iff_iff, List.contains_iff_mem, mem_greatest_iff, hlater, decide_eq_true_eq]
  exact and_iff_right (List.mem_map_of_mem hr)

/-- The records of the last so many batches. -/
theorem lastBatches_of_tracks (ht : s.tables.get? table = some t) (count : Nat) :
    ∃ l, lastBatches table count s = .ok l ∧ l.Perm ((recorded table s).filter fun record =>
      laterBatches (recorded table s) record.batch < count) := by
  obtain ⟨read, hread⟩ := records_eq_ok ht
  have hperm := records_perm hread
  refine ⟨_, by simp only [lastBatches, hread, bind, Except.bind]; rfl, ?_⟩
  rw [List.filter_congr fun record hr => contains_greatest hperm count hr]
  exact hperm.filter _

/-- The first record of a migration, if there is one. -/
theorem find_of_tracks (ht : s.tables.get? table = some t) (h : t.Tracks) (migration : String) :
    ∃ found, find table migration s = .ok found ∧ match found with
      | some record => record ∈ recorded table s ∧ record.migration = migration
      | none => ∀ record ∈ recorded table s, record.migration ≠ migration := by
  let query := ({ limit := some 1 } : Query).whereEq "migration" (.string migration)
  have hfind : find table migration s =
      .ok ((query.sorted t.rows).head?.map Record.ofRow) := by
    have hselect : query.select t.rows = (query.sorted t.rows).take 1 := List.map_id _
    rw [find, select_eq ht, hselect]
    cases query.sorted t.rows with
    | nil => rfl
    | cons row rest => rfl
  have hmem (row : Row) : row ∈ query.sorted t.rows ↔
      row ∈ t.rows ∧ (Record.ofRow row).migration = migration := by
    rw [Query.sorted, List.mem_mergeSort, List.mem_filter]
    refine and_congr_right fun hrow => ?_
    obtain ⟨record, n, rfl, -⟩ := h.rows row hrow
    rw [Record.ofRow_numbered]
    simp [query, Query.accepts, Query.whereEq, Table.Tracks.holds_numbered]
  refine ⟨_, hfind, ?_⟩
  rw [recorded_of_get? ht]
  cases hrows : query.sorted t.rows with
  | nil =>
    intro record hr heq
    obtain ⟨row, hrow, rfl⟩ := List.mem_map.1 hr
    have hsorted := (hmem row).2 ⟨hrow, heq⟩
    rw [hrows] at hsorted
    cases hsorted
  | cons row rest =>
    obtain ⟨hrow, heq⟩ := (hmem row).1 (hrows ▸ List.mem_cons_self)
    exact ⟨List.mem_map_of_mem hrow, heq⟩

end Tracking

end SchemaMigration
