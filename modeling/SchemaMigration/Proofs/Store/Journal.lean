import Mathlib
import SchemaMigration.Proofs.Store.InPlace
import SchemaMigration.Proofs.Store.Transaction

/-!
# The number of changes

A store counts the changes that are made of it. A request that fails changes nothing, and a request
that is not counted changes neither tables nor statements, unless it rolls a transaction back. So
where no transaction from earlier on is rolled back, the same number at two moments means the same
tables and the same statements.
-/

namespace SchemaMigration

/-- Whether a request is to be counted: one that creates or drops a table, inserts or updates a row
or runs a statement is if it succeeds, one that deletes rows if there are fewer of them afterwards,
and no other one is. -/
def Operation.counts (op : Operation) (succeeds : Bool) (s s' : Store) : Bool :=
  match op with
  | createTable _ _ | dropTable _ | insert _ _ | update _ _ _ | raw _ => succeeds
  | delete table _ => (s'.rows table).length < (s.rows table).length
  | _ => false

/-- A request that fails is not to be counted. -/
theorem Operation.counts_false (op : Operation) (s : Store) : op.counts false s s = false := by
  cases op with
  | delete => exact decide_eq_false (Nat.lt_irrefl _)
  | _ => rfl

/-- A request that found nothing to do is not to be counted. -/
theorem Operation.counts_of_idle (op : Operation) (succeeds : Bool) (s : Store)
    (h : op.alwaysActs = false) : op.counts succeeds s s = false := by
  cases op with
  | createTable | dropTable | insert | update | raw => cases h
  | delete => exact decide_eq_false (Nat.lt_irrefl _)
  | _ => rfl

namespace Store

variable {s s' : Store} {op : Operation} {ops : List Operation}

/-- An answered request that is not to be counted changes neither the number of changes nor the
statements, and the tables only if it rolls a transaction back. -/
structure Uncounted (s : Store) (op : Operation) (s' : Store) : Prop where
  mutations : s'.mutations = s.mutations
  statements : s'.statements = s.statements
  tables : s'.tables = s.tables ∨
    op = .rollback ∧ s.snapshot = some s'.tables ∧ s'.snapshot = none

theorem Uncounted.refl (s : Store) (op : Operation) : s.Uncounted op s :=
  ⟨rfl, rfl, .inl rfl⟩

/-- A deleted row shows in the number of rows. -/
theorem length_rows_delete_lt {table : String} {id : Value} {t : Table}
    (ht : s.tables.get? table = some t) :
    ((s.withTable table (t.delete id)).rows table).length < (s.rows table).length ↔
      t.rows.any (t.identifies id) = true := by
  rw [rows_of_get? (Dict.get?_insert_self _ _ _ : (s.withTable table _).tables.get? table = _),
    rows_of_get? ht, ← Edit.length_delete_bne, bne_iff_ne]
  exact ⟨Nat.ne_of_lt, Nat.lt_of_le_of_ne (List.length_filter_le _ _)⟩

theorem counted_or_uncounted {answer : op.Answer} (h : perform op s = .ok (answer, s')) :
    op.counts true s s' = true ∧ s'.mutations = s.mutations + 1 ∨
      op.counts true s s' = false ∧ s.Uncounted op s' := by
  cases answered h with
  | created | dropped | inserted | updated | ran => exact .inl ⟨rfl, rfl⟩
  | deleted found any => exact .inl ⟨decide_eq_true ((length_rows_delete_lt found).2 any), rfl⟩
  | idle idles => exact .inr ⟨op.counts_of_idle true s idles, .refl s op⟩
  | rejecting | opened | committed | locked | unlocked =>
    exact .inr ⟨rfl, rfl, rfl, .inl rfl⟩
  | rolledBack opened => exact .inr ⟨rfl, rfl, rfl, .inr ⟨rfl, opened, rfl⟩⟩

/-- Each request adds one to the number of changes if it is to be counted, and nothing otherwise. -/
theorem mutations_after (op : Operation) (s : Store) :
    (s.after op).mutations = s.mutations +
      if op.counts (Change.exec (perform op) s).1.isOk s (s.after op) then 1 else 0 := by
  obtain ⟨answer, h⟩ | ⟨⟨fault, h⟩, hafter⟩ := after_cases s op
  · have hexec : (Change.exec (perform op) s).1.isOk = true := by
      rw [Change.exec_of_ok h]
      rfl
    rw [hexec]
    obtain ⟨hcounts, hs'⟩ | ⟨hcounts, hs'⟩ := counted_or_uncounted h
    · rw [hcounts, hs']
      rfl
    · rw [hcounts, hs'.mutations]
      rfl
  · rw [Change.exec_of_error h, hafter, Except.isOk, Except.toBool, op.counts_false]
    rfl

theorem uncounted_of_mutations_eq (h : (s.after op).mutations = s.mutations) :
    s.Uncounted op (s.after op) := by
  obtain ⟨answer, hok⟩ | ⟨-, hafter⟩ := after_cases s op
  · obtain ⟨-, hs'⟩ | ⟨-, hs'⟩ := counted_or_uncounted hok
    · omega
    · exact hs'
  · rw [hafter]
    exact .refl s op

theorem mutations_le_afterAll (s : Store) (ops : List Operation) :
    s.mutations ≤ (s.afterAll ops).mutations := by
  induction ops generalizing s with
  | nil => exact Nat.le_refl _
  | cons op rest ih =>
    refine Nat.le_trans ?_ (ih (s.after op))
    rw [mutations_after]
    exact Nat.le_add_right _ _

/-- Some of the requests opened the transaction that is open after all of them: one found none and
opened it, and it has been open ever since. -/
def OpenedWithin (s : Store) (ops : List Operation) : Prop :=
  ∃ earlier later, ops = earlier ++ .begin :: later ∧
    (s.afterAll earlier).inTransaction = false ∧
    ∀ first, first <+: later → (s.afterAll (earlier ++ .begin :: first)).inTransaction = true

/-- A request for a rollback that closes a transaction closes one that the requests before it
opened. -/
def RollsBackOwn (s : Store) (ops : List Operation) : Prop :=
  ∀ earlier later, ops = earlier ++ .rollback :: later →
    (s.afterAll earlier).inTransaction = true →
    (s.afterAll (earlier ++ [.rollback])).inTransaction = false → s.OpenedWithin earlier

theorem RollsBackOwn.append_left {later : List Operation} (h : s.RollsBackOwn (ops ++ later)) :
    s.RollsBackOwn ops := by
  rintro before after rfl
  exact h before (after ++ later) (by simp)

/-- As long as a transaction stays open, the copy of the tables stays the same. -/
theorem snapshot_after_of_open {tables : Dict Table} (h : s.snapshot = some tables)
    (hopen : (s.after op).inTransaction = true) : (s.after op).snapshot = some tables := by
  obtain ⟨answer, hok⟩ | ⟨-, hafter⟩ := after_cases s op
  · have hanswered := answered hok
    generalize s.after op = s' at hanswered hopen ⊢
    cases hanswered with
    | opened closed => cases h.symm.trans closed
    | committed | rolledBack => cases hopen
    | _ => exact h
  · rw [hafter, h]

theorem snapshot_afterAll_of_open {tables : Dict Table} (h : s.snapshot = some tables)
    (hopen : ∀ first, first <+: ops → (s.afterAll first).inTransaction = true) :
    (s.afterAll ops).snapshot = some tables := by
  induction ops generalizing s with
  | nil => exact h
  | cons op rest ih =>
    have hfirst : (s.after op).inTransaction = true := hopen [op] (by simp)
    exact ih (snapshot_after_of_open h hfirst) fun first hprefix =>
      hopen (op :: first) (List.cons_prefix_cons.2 ⟨rfl, hprefix⟩)

theorem snapshot_of_opening (h : s.inTransaction = false)
    (hopen : (s.after .begin).inTransaction = true) :
    (s.after .begin).snapshot = some s.tables := by
  obtain ⟨answer, hok⟩ | ⟨-, hafter⟩ := after_cases s .begin
  · have hanswered := answered hok
    generalize s.after .begin = s' at hanswered hopen ⊢
    cases hanswered with
    | idle => cases hopen.symm.trans h
    | opened => rfl
  · rw [hafter, h] at hopen
    cases hopen

/-- A transaction that was opened on the way keeps the tables of the moment of its opening. -/
theorem OpenedWithin.snapshot (h : s.OpenedWithin ops) :
    ∃ earlier, earlier <+: ops ∧ (s.afterAll ops).snapshot = some (s.afterAll earlier).tables := by
  obtain ⟨earlier, later, rfl, hclosed, hopen⟩ := h
  refine ⟨earlier, List.prefix_append _ _, ?_⟩
  rw [afterAll_append, afterAll_cons]
  have hopening := hopen [] List.nil_prefix
  rw [afterAll_append] at hopening
  refine snapshot_afterAll_of_open (snapshot_of_opening hclosed hopening) fun first hprefix => ?_
  have hfirst := hopen first hprefix
  rwa [afterAll_append, afterAll_cons] at hfirst

/-- If the number of changes is the same in the end, then at every moment the tables and the
statements are those of the beginning. -/
theorem unchanged_of_mutations_eq (hown : s.RollsBackOwn ops)
    (h : (s.afterAll ops).mutations = s.mutations) :
    ∀ first, first <+: ops →
      (s.afterAll first).tables = s.tables ∧ (s.afterAll first).statements = s.statements := by
  induction ops using List.reverseRecOn with
  | nil =>
    intro first hfirst
    rw [List.prefix_nil.1 hfirst]
    exact ⟨rfl, rfl⟩
  | append_singleton earlier op ih =>
    have hlast : s.afterAll (earlier ++ [op]) = (s.afterAll earlier).after op :=
      afterAll_append s earlier [op]
    have hbefore := mutations_le_afterAll s earlier
    have hstep := mutations_le_afterAll (s.afterAll earlier) [op]
    rw [← afterAll_append] at hstep
    have hearlier := ih hown.append_left (by omega)
    intro first hfirst
    obtain rfl | hfirst := List.prefix_concat_iff.1 hfirst
    · have huncounted : (s.afterAll earlier).Uncounted op ((s.afterAll earlier).after op) :=
        uncounted_of_mutations_eq (by rw [← hlast]; omega)
      have hsame := hearlier earlier (List.prefix_refl _)
      rw [hlast]
      refine ⟨?_, huncounted.statements.trans hsame.2⟩
      obtain htables | ⟨rfl, hsnapshot, hclosed⟩ := huncounted.tables
      · exact htables.trans hsame.1
      · -- What is put back are the tables of a moment on the way, and so those of the beginning.
        have hopen : (s.afterAll earlier).inTransaction = true := by simp [inTransaction, hsnapshot]
        obtain ⟨opening, hopening, hcopy⟩ := (hown earlier [] rfl hopen
          (by rw [hlast, inTransaction, hclosed]; rfl)).snapshot
        rw [Option.some.inj (hsnapshot.symm.trans hcopy)]
        exact (hearlier opening hopening).1
    · exact hearlier first hfirst

/-- A request that fails, step by step as it is carried out, leaves the store as it was, also if a
number leaves its range, and each request adds one to the number of changes just if it is to be
counted. So after any requests that roll back no transaction but those that they opened, an
unchanged number means that the tables and the statements are unchanged. -/
theorem count_tells_changes :
    (∀ (op : Operation) (s s' : Store) (reply : Except Fault op.Answer),
      op.edit.exec s = (reply, s') →
        Change.exec (perform op) s = (reply, s') ∧
        (reply.isOk = false → s' = s) ∧
        s'.mutations = s.mutations + if op.counts reply.isOk s s' then 1 else 0) ∧
      ∀ (s : Store) (ops : List Operation), s.RollsBackOwn ops →
        (s.afterAll ops).mutations = s.mutations →
        (s.afterAll ops).tables = s.tables ∧ (s.afterAll ops).statements = s.statements := by
  constructor
  · intro op s s' reply h
    rw [op.exec_edit] at h
    refine ⟨h, fun hfails => ?_, ?_⟩
    · obtain ⟨answer, hok⟩ | ⟨⟨fault, herror⟩, -⟩ := after_cases s op
      · obtain ⟨rfl, -⟩ := Prod.mk.inj ((Change.exec_of_ok hok).symm.trans h)
        cases hfails
      · exact (Prod.mk.inj ((Change.exec_of_error herror).symm.trans h)).2.symm
    · have hcount := mutations_after op s
      rwa [after, h] at hcount
  · intro s ops hown hcount
    exact unchanged_of_mutations_eq hown hcount ops (List.prefix_refl _)

/-- Nothing is counted of an insertion for which no number is left, nor of a transaction that is
rolled back after a statement that is rejected and a removal that finds no row. -/
theorem futile_transaction_is_not_counted :
    let users : Table := { columns := [], nextId := Int64.maxValue }
    let s : Store :=
      { tables := Dict.ofList [("users", users)], rejections := ["drop"], mutations := 7 }
    let ops : List Operation := [.begin, .raw "drop users", .delete "users" (.int64 1), .rollback]
    (Operation.insert "users" ∅).edit.exec s = (.error .overflow, s) ∧
      s.RollsBackOwn ops ∧ (s.afterAll ops).mutations = 7 ∧
      (s.afterAll ops).tables = s.tables ∧ (s.afterAll ops).statements = [] := by
  intro users s ops
  obtain ⟨hstep, hrun⟩ := count_tells_changes
  have hoverflow : ((Operation.insert "users" ∅).edit.exec s).1 = .error .overflow := by cbv
  obtain ⟨-, hkept, -⟩ := hstep (.insert "users" ∅) s _ _ Prod.mk.eta.symm
  have hinserted := hkept (by rw [hoverflow]; rfl)
  have hopened : s.OpenedWithin [.begin, .raw "drop users", .delete "users" (.int64 1)] := by
    refine ⟨[], _, rfl, rfl, fun first hfirst => ?_⟩
    simp only [List.prefix_cons_iff, List.prefix_nil] at hfirst
    rcases hfirst with rfl | ⟨_, rfl, rfl | ⟨_, rfl, rfl⟩⟩ <;> cbv
  have hown : s.RollsBackOwn ops := by
    rintro (_ | ⟨_, _ | ⟨_, _ | ⟨_, _ | ⟨_, earlier⟩⟩⟩⟩) later h <;> simp [ops] at h
    obtain ⟨rfl, rfl, rfl, -⟩ := h
    exact fun _ _ => hopened
  have hcount : (s.afterAll ops).mutations = s.mutations := by cbv
  obtain ⟨htables, hstatements⟩ := hrun s ops hown hcount
  exact ⟨Prod.ext hoverflow hinserted, hown, hcount, htables, hstatements⟩

end Store

end SchemaMigration
