import Mathlib.Data.String.Basic
import Mathlib.Order.Compare
import SchemaMigration.Proofs.Tracking.Selection

/-!
# The order of selected records

Records are selected in the order of their batches, and of their names within a batch. Records that
agree in both stay in the order in which they were logged.
-/

namespace SchemaMigration

/-- A list falls in only one way into items without a property and items with it. -/
theorem eq_of_append_eq {α : Type} {p : α → Prop} {before after before' after' : List α}
    (h : before ++ after = before' ++ after') (hbefore : ∀ a ∈ before, ¬p a)
    (hafter : ∀ a ∈ after, p a) (hbefore' : ∀ a ∈ before', ¬p a) (hafter' : ∀ a ∈ after', p a) :
    before = before' ∧ after = after' := by
  classical
  have hpart {front back : List α} (hfront : ∀ a ∈ front, ¬p a) (hback : ∀ a ∈ back, p a) :
      (front ++ back).filter (fun a => p a) = back := by
    have hnone : front.filter (fun a => p a) = [] :=
      List.filter_eq_nil_iff.2 fun a ha => by simpa using hfront a ha
    have hall : back.filter (fun a => p a) = back :=
      List.filter_eq_self.2 fun a ha => by simpa using hback a ha
    rw [List.filter_append, hnone, hall, List.nil_append]
  have heq : after = after' := by
    rw [← hpart hbefore hafter, h, hpart hbefore' hafter']
  subst heq
  exact ⟨List.append_cancel_right h, rfl⟩

namespace Record

/-- The record does not come after another one by batch and name. -/
def NotAfter (a b : Record) : Prop :=
  a.batch.toInt < b.batch.toInt ∨ a.batch = b.batch ∧ a.migration ≤ b.migration

instance : DecidableRel NotAfter := fun a b =>
  inferInstanceAs (Decidable (a.batch.toInt < b.batch.toInt ∨
    a.batch = b.batch ∧ a.migration ≤ b.migration))

/-- Records by batch and name, those that agree in both in the order of the list. -/
def inOrder (records : List Record) : List Record :=
  records.mergeSort fun a b => NotAfter a b

theorem NotAfter.trans {a b c : Record} (hab : NotAfter a b) (hbc : NotAfter b c) :
    NotAfter a c := by
  rcases hab with hab | ⟨hab, hnames⟩
  · rcases hbc with hbc | ⟨hbc, -⟩
    · exact .inl (Int.lt_trans hab hbc)
    · exact .inl (hbc ▸ hab)
  · rcases hbc with hbc | ⟨hbc, hnames'⟩
    · exact .inl (hab ▸ hbc)
    · exact .inr ⟨hab.trans hbc, hnames.trans hnames'⟩

theorem NotAfter.total (a b : Record) : NotAfter a b ∨ NotAfter b a := by
  rcases Int.lt_trichotomy a.batch.toInt b.batch.toInt with hlt | heq | hgt
  · exact .inl (.inl hlt)
  · have hbatch := Int64.toInt_inj.1 heq
    rcases le_total a.migration b.migration with hle | hle
    · exact .inl (.inr ⟨hbatch, hle⟩)
    · exact .inr (.inr ⟨hbatch.symm, hle⟩)
  · exact .inr (.inl hgt)

private theorem notAfter_trans (a b c : Record) (hab : decide (NotAfter a b) = true)
    (hbc : decide (NotAfter b c) = true) : decide (NotAfter a c) = true :=
  decide_eq_true ((of_decide_eq_true hab).trans (of_decide_eq_true hbc))

private theorem notAfter_total (a b : Record) :
    (decide (NotAfter a b) || decide (NotAfter b a)) = true := by
  simpa using NotAfter.total a b

theorem inOrder_perm (records : List Record) : (inOrder records).Perm records :=
  List.mergeSort_perm _ _

theorem pairwise_inOrder (records : List Record) : (inOrder records).Pairwise NotAfter :=
  (List.pairwise_mergeSort notAfter_trans notAfter_total records).imp of_decide_eq_true

theorem valueAt_batch (record : Record) (n : Int64) :
    (record.numbered n).valueAt "batch" = .int64 record.batch := by
  simp [Row.valueAt, numbered, Dict.get?_insert, get?_toRow]

theorem valueAt_migration (record : Record) (n : Int64) :
    (record.numbered n).valueAt "migration" = .string record.migration := by
  simp [Row.valueAt, numbered, Dict.get?_insert, get?_toRow]

theorem compareRows_name (a b : Record) (n m : Int64) :
    (compareRows [⟨"migration", false⟩] (a.numbered n) (b.numbered m) != .gt) =
      decide (a.migration ≤ b.migration) := by
  have hcompare : compareRows [⟨"migration", false⟩] (a.numbered n) (b.numbered m) =
      compare a.migration b.migration := by
    simp only [compareRows, SortKey.compare, valueAt_migration, Ordering.then_eq]
    rfl
  rw [hcompare, Bool.eq_iff_iff, bne_iff_ne, decide_eq_true_eq, Ne, compare_gt_iff_gt]
  exact not_lt

/-- Rows are sorted by batch and name as their records are. -/
theorem compareRows_numbered (a b : Record) (n m : Int64) :
    (compareRows Tracking.byBatchAndName (a.numbered n) (b.numbered m) != .gt) =
      decide (NotAfter a b) := by
  have hcompare : compareRows Tracking.byBatchAndName (a.numbered n) (b.numbered m) =
      (compare a.batch.toInt b.batch.toInt).then
        (compareRows [⟨"migration", false⟩] (a.numbered n) (b.numbered m)) := by
    simp only [Tracking.byBatchAndName, compareRows, SortKey.compare, valueAt_batch]
    rfl
  have hname := compareRows_name a b n m
  rw [hcompare, Bool.eq_iff_iff, decide_eq_true_eq, NotAfter]
  rcases Int.lt_trichotomy a.batch.toInt b.batch.toInt with hlt | heq | hgt
  · simp [compare_lt_iff_lt.2 hlt, hlt]
  · rw [compare_eq_iff_eq.2 heq, Ordering.eq_then, hname]
    simp [Int64.toInt_inj.1 heq]
  · have hne : a.batch ≠ b.batch := fun h => Int.lt_irrefl _ (h ▸ hgt)
    simp [compare_gt_iff_gt.2 hgt, hne, Int.le_of_lt hgt]

/-- A record that is put before all others stays before those that it does not come after. -/
theorem inOrder_cons (record : Record) (records : List Record) :
    ∃ before after, inOrder (record :: records) = before ++ record :: after ∧
      inOrder records = before ++ after ∧ (∀ other ∈ before, ¬NotAfter record other) ∧
      ∀ other ∈ after, NotAfter record other := by
  obtain ⟨before, after, hcons, hrecords, hbefore⟩ :=
    List.mergeSort_cons notAfter_trans notAfter_total record records
  have hsorted := pairwise_inOrder (record :: records)
  rw [inOrder, hcons] at hsorted
  exact ⟨before, after, hcons, hrecords, by simpa using hbefore,
    (List.pairwise_cons.1 (List.pairwise_append.1 hsorted).2.1).1⟩

/-- Taking records away does not change the order of the others. -/
theorem filter_inOrder (p : Record → Bool) (records : List Record) :
    (inOrder records).filter p = inOrder (records.filter p) := by
  induction records with
  | nil => simp [inOrder]
  | cons record rest ih =>
    obtain ⟨before, after, hcons, hrest, hbefore, hafter⟩ := inOrder_cons record rest
    rw [hrest, List.filter_append] at ih
    rw [hcons, List.filter_append, List.filter_cons, List.filter_cons]
    split
    · obtain ⟨before', after', hcons', hrest', hbefore', hafter'⟩ :=
        inOrder_cons record (rest.filter p)
      rw [hrest'] at ih
      obtain ⟨heq, heq'⟩ := eq_of_append_eq ih
        (fun other h => hbefore other (List.mem_filter.1 h).1)
        (fun other h => hafter other (List.mem_filter.1 h).1) hbefore' hafter'
      rw [hcons', heq, heq']
    · exact ih

end Record

namespace Tracking

variable {table : String} {s : Store} {t : Table}

/-- A query that accepts rows by their records, and sorts those that it accepts as their records are
sorted, selects the records that it accepts in order. -/
theorem select_eq_inOrder (ht : s.tables.get? table = some t) (h : t.Tracks) {q : Query}
    {p : Record → Bool} (hcolumns : q.columns = []) (hlimit : q.limit = none)
    (hoffset : q.offset = 0)
    (haccepts : ∀ record n, q.accepts (Record.numbered record n) = p { record with id := some n })
    (horder : ∀ a n b m, p { a with id := some n } = true → p { b with id := some m } = true →
      (compareRows q.order (Record.numbered a n) (Record.numbered b m) != .gt) =
        decide (Record.NotAfter a b)) :
    select table q s = .ok (Record.inOrder ((recorded table s).filter p)) := by
  have hproject : q.project = id := by
    funext row
    simp [Query.project, hcolumns]
  have hsorted : (q.sorted t.rows).map Record.ofRow =
      Record.inOrder ((t.rows.filter (p ∘ Record.ofRow)).map Record.ofRow) := by
    rw [Query.sorted, filter_accepts_of_tracks h haccepts]
    apply List.map_mergeSort
    intro a ha b hb
    obtain ⟨ha, hpa⟩ := List.mem_filter.1 ha
    obtain ⟨hb, hpb⟩ := List.mem_filter.1 hb
    obtain ⟨first, n, rfl, -⟩ := h.rows a ha
    obtain ⟨second, m, rfl, -⟩ := h.rows b hb
    simp only [Function.comp_apply, Record.ofRow_numbered] at hpa hpb ⊢
    exact horder first n second m hpa hpb
  rw [recorded_of_get? ht, List.filter_map, ← hsorted, select_eq ht, Query.select, Query.window,
    hlimit, hoffset, hproject, List.map_id]
  rfl

theorem records_eq_inOrder (ht : s.tables.get? table = some t) (h : t.Tracks) :
    records table s = .ok (Record.inOrder (recorded table s)) := by
  have hall : (recorded table s).filter (fun _ => true) = recorded table s :=
    List.filter_eq_self.2 fun _ _ => rfl
  rw [← hall]
  exact select_eq_inOrder ht h rfl rfl rfl (fun _ _ => rfl) fun a n b m _ _ =>
    Record.compareRows_numbered a b n m

/-- The records of a batch and of those after it, in order. -/
theorem fromBatch_eq_inOrder (ht : s.tables.get? table = some t) (h : t.Tracks) (batch : Int64) :
    fromBatch table batch s = .ok (Record.inOrder ((recorded table s).filter fun record =>
      batch.toInt ≤ record.batch.toInt)) :=
  select_eq_inOrder ht h rfl rfl rfl (accepts_fromBatch batch) fun a n b m _ _ =>
    Record.compareRows_numbered a b n m

/-- The records of a batch, which are sorted by their names alone, are in order. -/
theorem ofBatch_eq_inOrder (ht : s.tables.get? table = some t) (h : t.Tracks) (batch : Int64) :
    ofBatch table batch s = .ok (Record.inOrder ((recorded table s).filter fun record =>
      record.batch = batch)) := by
  apply select_eq_inOrder ht h rfl rfl rfl
  · intro record n
    have hcompare : (Value.int64 record.batch).compare? (.int64 batch) =
        some (compare record.batch.toInt batch.toInt) := rfl
    rw [Bool.eq_iff_iff, decide_eq_true_eq]
    simp [Query.whereEq, Query.accepts, Condition.holds, Record.valueAt_batch, hcompare,
      Comparison.accepts, Int64.toInt_inj]
  · intro a n b m ha hb
    have heq : a.batch = b.batch := (of_decide_eq_true ha).trans (of_decide_eq_true hb).symm
    refine (Record.compareRows_name a b n m).trans (decide_eq_decide.2 ?_)
    simp [Record.NotAfter, heq]

/-- The records of the last so many batches, in order. -/
theorem lastBatches_eq_inOrder (ht : s.tables.get? table = some t) (h : t.Tracks) (count : Nat) :
    lastBatches table count s = .ok (Record.inOrder ((recorded table s).filter fun record =>
      laterBatches (recorded table s) record.batch < count)) := by
  rw [← Record.filter_inOrder]
  have hread := records_eq_inOrder ht h
  simp only [lastBatches, hread, bind, Except.bind, pure, Except.pure]
  congr 1
  exact List.filter_congr fun record hr => contains_greatest (Record.inOrder_perm _) count hr

/-- The first logged record of a migration, if there is one. -/
theorem find_eq_find? (ht : s.tables.get? table = some t) (h : t.Tracks) (migration : String) :
    find table migration s =
      .ok ((recorded table s).find? fun record => record.migration == migration) := by
  let query := ({ limit := some 1 } : Query).whereEq "migration" (.string migration)
  have hsorted := Query.sorted_of_unordered (q := query) rfl t.rows
  have hrows : query.select t.rows = (t.rows.filter query.accepts).take 1 := by
    rw [← hsorted]
    exact List.map_id _
  have hfilter : t.rows.filter query.accepts =
      t.rows.filter fun row => (Record.ofRow row).migration == migration :=
    List.filter_congr fun row hrow => h.accepts_migration rfl migration hrow
  have hhead : (((t.rows.filter query.accepts).take 1).map Record.ofRow).head? =
      (t.rows.map Record.ofRow).find? fun record => record.migration == migration := by
    rw [hfilter, List.head?_map, List.head?_take, if_neg Nat.one_ne_zero, List.head?_filter,
      List.find?_map]
    rfl
  rw [recorded_of_get? ht, ← hhead, find, select_eq ht, hrows]
  rfl

end Tracking

end SchemaMigration
