import Mathlib.Data.List.Perm.Subperm
import SchemaMigration.Proofs.Tracking.Operations

/-!
# The last batches

Batches are numbered from 1, so there are at most as many as the number of the last one. Reading as
many batches as that finds all records.
-/

namespace SchemaMigration

theorem nodup_eraseDups {α : Type} [BEq α] [LawfulBEq α] (l : List α) : l.eraseDups.Nodup := by
  cases l with
  | nil => exact List.nodup_nil
  | cons a rest =>
    rw [List.eraseDups_cons, List.nodup_cons, List.mem_eraseDups]
    exact ⟨by simp, nodup_eraseDups _⟩
termination_by l.length
decreasing_by
  exact Nat.lt_succ_of_le (List.length_filter_le _ rest)

/-- Numbers that are sorted so that greater ones come first are in descending order. -/
theorem pairwise_mergeSort_toInt (numbers : List Int64) :
    (numbers.mergeSort fun a b => b.toInt ≤ a.toInt).Pairwise fun a b => b.toInt ≤ a.toInt := by
  let precedes (a b : Int64) : Bool := decide (b.toInt ≤ a.toInt)
  have htrans (a b c : Int64) (hab : precedes a b = true) (hbc : precedes b c = true) :
      precedes a c = true := by
    simp only [precedes, decide_eq_true_eq] at *
    omega
  have htotal (a b : Int64) : (precedes a b || precedes b a) = true := by
    simp only [precedes, Bool.or_eq_true, decide_eq_true_eq]
    omega
  exact (List.pairwise_mergeSort htrans htotal numbers).imp of_decide_eq_true

/-- There are at most as many different numbers from 1 on as the last of them says. -/
theorem length_le_of_nodup {batches : List Int64} {n : Nat} (hnodup : batches.Nodup)
    (h : ∀ batch ∈ batches, 1 ≤ batch.toInt ∧ batch.toInt ≤ n) : batches.length ≤ n := by
  have hvalues : (batches.map fun batch => batch.toInt.toNat - 1).Nodup := by
    refine List.Nodup.map_on (fun a ha b hb hab => Int64.toInt_inj.1 ?_) hnodup
    have := h a ha
    have := h b hb
    omega
  have hsubset : batches.map (fun batch => batch.toInt.toNat - 1) ⊆ List.range n := by
    intro k hk
    obtain ⟨batch, hbatch, rfl⟩ := List.mem_map.1 hk
    have := h batch hbatch
    exact List.mem_range.2 (by omega)
  have hle := (List.subperm_of_subset hvalues hsubset).length_le
  rwa [List.length_map, List.length_range] at hle

namespace Tracking

/-- The greatest number of a batch, 0 if there is none. -/
def lastNumber (records : List Record) : Int :=
  (records.map (·.batch.toInt)).foldr max 0

section

variable {records read : List Record}

theorem lastNumber_le {n : Int} :
    lastNumber records ≤ n ↔ 0 ≤ n ∧ ∀ record ∈ records, record.batch.toInt ≤ n := by
  induction records with
  | nil => simp [lastNumber]
  | cons record rest ih =>
    have hcons : lastNumber (record :: rest) = max record.batch.toInt (lastNumber rest) := rfl
    rw [hcons, Int.max_le, ih, List.forall_mem_cons]
    exact and_left_comm

theorem lastNumber_nonneg (records : List Record) : 0 ≤ lastNumber records :=
  (lastNumber_le.1 (Int.le_refl _)).1

theorem le_lastNumber {record : Record} (h : record ∈ records) :
    record.batch.toInt ≤ lastNumber records :=
  (lastNumber_le.1 (Int.le_refl _)).2 record h

theorem lastNumber_congr (h : ∀ record, record ∈ read ↔ record ∈ records) :
    lastNumber read = lastNumber records := by
  have hbound (n : Int) : lastNumber read ≤ n ↔ lastNumber records ≤ n := by
    simp only [lastNumber_le, h]
  exact Int.le_antisymm ((hbound _).2 (Int.le_refl _)) ((hbound _).1 (Int.le_refl _))

theorem lastNumber_concat {record : Record} (h : record.batch.toInt = lastNumber records + 1) :
    lastNumber (records ++ [record]) = lastNumber records + 1 := by
  have hnonneg := lastNumber_nonneg records
  have hmem : record ∈ records ++ [record] := by simp
  refine Int.le_antisymm (lastNumber_le.2 ⟨by omega, fun other hother => ?_⟩)
    (h ▸ le_lastNumber hmem)
  rcases List.mem_append.1 hother with hearlier | hlast
  · have hle := le_lastNumber hearlier
    omega
  · obtain rfl := List.mem_singleton.1 hlast
    exact Int.le_of_eq h

/-- The greatest numbers are all there are if there is room for as many as the last of them. -/
theorem mem_greatest {batches : List Int64} {count : Nat}
    (h : ∀ batch ∈ batches, 1 ≤ batch.toInt ∧ batch.toInt ≤ count) {batch : Int64}
    (hbatch : batch ∈ batches) : batch ∈ greatest count batches := by
  have hlength : batches.eraseDups.length ≤ count :=
    length_le_of_nodup (nodup_eraseDups batches) fun batch hbatch =>
      h batch (List.mem_eraseDups.1 hbatch)
  rw [greatest, List.take_of_length_le (by rwa [List.length_mergeSort])]
  exact List.mem_mergeSort.2 (List.mem_eraseDups.2 hbatch)

/-- The last batches are all batches if they may be as many as the last number. -/
theorem lastBatches_eq_records {table : String} {s : Store} {count : Nat}
    (hrecords : Tracking.records table s = .ok read)
    (h : ∀ record ∈ read, 1 ≤ record.batch.toInt ∧ record.batch.toInt ≤ count) :
    lastBatches table count s = .ok read := by
  have hall : read.filter (fun record =>
      (greatest count (read.map (·.batch))).contains record.batch) = read := by
    refine List.filter_eq_self.2 fun record hr => List.contains_iff_mem.2 ?_
    refine mem_greatest (fun batch hbatch => ?_) (List.mem_map_of_mem hr)
    obtain ⟨record, hr, rfl⟩ := List.mem_map.1 hbatch
    exact h record hr
  simp only [lastBatches, hrecords, bind, Except.bind, hall]
  rfl

end

section LastBatch

variable {table : String} {s : Store} {t : Table}

/-- The rows of a tracking table, the greatest batches first. -/
def descendingRows (t : Table) : List Row :=
  ({ order := [⟨"batch", true⟩] } : Query).sorted t.rows

theorem lastBatch_eq (ht : s.tables.get? table = some t) :
    lastBatch table s =
      .ok (((descendingRows t).head?.map fun row => (Record.ofRow row).batch).getD 0) := by
  have hrows : s.select table
      { columns := ["batch"], order := [⟨"batch", true⟩], limit := some 1 } =
      .ok (((descendingRows t).take 1).map fun row => row.filter fun column _ =>
        ["batch"].contains column) :=
    select_of_get? ht _
  have hbatch (row : Row) : (row.filter fun column _ => ["batch"].contains column).get? "batch" =
      row.get? "batch" := Dict.get?_filter_name row _ "batch"
  simp only [lastBatch, hrows, bind, Except.bind, pure, Except.pure]
  rcases descendingRows t with _ | ⟨row, rest⟩
  · rfl
  · simp only [List.take_succ_cons, List.map_cons, List.head?_cons, Option.bind_some, hbatch]
    rfl

end LastBatch

end Tracking

namespace Table.Tracks

variable {t : Table}

theorem compareRows_batch (ht : t.Tracks) {a b : Row} (ha : a ∈ t.rows) (hb : b ∈ t.rows) :
    (compareRows [⟨"batch", true⟩] a b != .gt) =
      decide ((Record.ofRow b).batch.toInt ≤ (Record.ofRow a).batch.toInt) := by
  obtain ⟨first, n, rfl, -, -⟩ := ht.rows a ha
  obtain ⟨second, m, rfl, -, -⟩ := ht.rows b hb
  have hvalue (record : Record) (n : Int64) :
      (record.numbered n).valueAt "batch" = .int64 record.batch := by
    simp [Row.valueAt, Record.numbered, Dict.get?_insert, Record.get?_toRow]
  have hcompare : compareRows [⟨"batch", true⟩] (first.numbered n) (second.numbered m) =
      (compare first.batch.toInt second.batch.toInt).swap := by
    simp only [compareRows, SortKey.compare, hvalue, Ordering.then_eq]
    rfl
  rw [hcompare, Record.ofRow_numbered, Record.ofRow_numbered, Int.compare_swap, Bool.eq_iff_iff,
    bne_iff_ne, decide_eq_true_iff, Int.compare_ne_gt]

/-- In descending order no batch is less than one that comes later. -/
theorem pairwise_descendingRows (ht : t.Tracks) :
    (Tracking.descendingRows t).Pairwise fun a b =>
      (Record.ofRow b).batch.toInt ≤ (Record.ofRow a).batch.toInt := by
  have hmap : (Tracking.descendingRows t).map (fun row => (Record.ofRow row).batch) =
      (t.rows.map fun row => (Record.ofRow row).batch).mergeSort
        fun a b => b.toInt ≤ a.toInt := by
    have hall : t.rows.filter ({ order := [⟨"batch", true⟩] } : Query).accepts = t.rows :=
      List.filter_eq_self.2 fun _ _ => rfl
    rw [Tracking.descendingRows, Query.sorted, hall]
    exact List.map_mergeSort fun a ha b hb => ht.compareRows_batch ha hb
  have hsorted := pairwise_mergeSort_toInt (t.rows.map fun row => (Record.ofRow row).batch)
  rwa [← hmap, List.pairwise_map] at hsorted

end Table.Tracks

namespace Tracking

variable {table : String} {s : Store}

/-- The number of the last batch is the greatest one that is recorded. -/
theorem lastBatch_of_tracks {t : Table} (ht : s.tables.get? table = some t) (h : t.Tracks) :
    ∃ last, lastBatch table s = .ok last ∧ last.toInt = lastNumber (recorded table s) := by
  refine ⟨_, lastBatch_eq ht, ?_⟩
  have hmem (row : Row) : row ∈ descendingRows t ↔ row ∈ t.rows := by
    simp [descendingRows, Query.sorted, Query.accepts]
  have hsorted := h.pairwise_descendingRows
  rw [recorded_of_get? ht]
  rcases hrows : descendingRows t with _ | ⟨row, rest⟩
  · have hnil : t.rows = [] := List.eq_nil_iff_forall_not_mem.2 fun row hrow => by
      simpa [hrows] using (hmem row).2 hrow
    rw [hnil]
    rfl
  · rw [hrows] at hsorted hmem
    have hrow : row ∈ t.rows := (hmem row).1 List.mem_cons_self
    have hpos := h.one_le_batch hrow
    refine Int.le_antisymm (le_lastNumber (List.mem_map_of_mem hrow)) (lastNumber_le.2 ⟨?_, ?_⟩)
    · exact Int.le_trans (by decide) hpos
    · intro record hrecord
      obtain ⟨other, hother, rfl⟩ := List.mem_map.1 hrecord
      rcases List.mem_cons.1 ((hmem other).2 hother) with rfl | hlater
      · exact Int.le_refl _
      · exact (List.pairwise_cons.1 hsorted).1 other hlater

end Tracking

end SchemaMigration
