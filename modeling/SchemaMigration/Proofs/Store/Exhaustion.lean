import SchemaMigration.Proofs.Except
import SchemaMigration.Proofs.Store.Insertion

/-!
# Where numbers run out

Of all requests only an insertion can overflow. So a program overflows just if it comes, within its
time, to an insertion into a table that has no number left behind the one of the row. In the
tracking table a record is such a row, and the next batch overflows behind the greatest number.
-/

namespace SchemaMigration

namespace Store

variable {s : Store}

theorem ok_ne_overflow {α : Type} (x : α) : (Except.ok x : Except Fault α) ≠ .error .overflow := by
  rintro ⟨⟩

/-- Two steps of which neither overflows do not overflow. -/
theorem bind_ne_overflow {α β : Type} {x : Except Fault α} {f : α → Except Fault β}
    (hx : x ≠ .error .overflow) (hf : ∀ a, f a ≠ .error .overflow) :
    (x >>= f) ≠ .error .overflow := by
  rw [Ne, except_bind_eq_error]
  rintro (hfirst | ⟨a, -, hsecond⟩)
  · exact hx hfirst
  · exact hf a hsecond

theorem table_ne_overflow (name : String) : s.table name ≠ .error .overflow := by
  unfold table
  split <;> rintro ⟨⟩

theorem select_ne_overflow (name : String) (query : Query) :
    s.select name query ≠ .error .overflow :=
  bind_ne_overflow (table_ne_overflow name) fun _ => ok_ne_overflow _

theorem served_ne_overflow {α : Type} {serves : Store → Bool} {change : Change α}
    (h : change s ≠ .error .overflow) : served serves change s ≠ .error .overflow := by
  unfold served
  split
  · exact bind_ne_overflow h fun _ => ok_ne_overflow _
  · rintro ⟨⟩

/-- Of all requests only insertions overflow. -/
theorem perform_ne_overflow {op : Operation} (h : ∀ table row, op ≠ .insert table row) :
    perform op s ≠ .error .overflow := by
  cases op with
  | insert table row => exact absurd rfl (h table row)
  | hasTable | hasColumn | listTables | reject => rintro ⟨⟩
  | createTable | dropTable | raw =>
    simp only [perform, createTable, dropTable, raw]
    split <;> rintro ⟨⟩
  | select table query =>
    exact bind_ne_overflow (select_ne_overflow table query) fun _ => ok_ne_overflow _
  | update table id data =>
    refine bind_ne_overflow (table_ne_overflow table) fun t => ?_
    split <;> rintro ⟨⟩
  | delete table id =>
    refine bind_ne_overflow (table_ne_overflow table) fun t => ?_
    split <;> rintro ⟨⟩
  | begin | commit | rollback =>
    refine served_ne_overflow ?_
    simp only [begin, commit, rollback]
    split <;> rintro ⟨⟩
  | acquire | release =>
    simp only [perform, served]
    split <;> rintro ⟨⟩

/-- Only an insertion for which there is no number left overflows. -/
theorem perform_eq_overflow {op : Operation} : perform op s = .error .overflow ↔
    ∃ table row, op = .insert table row ∧ s.RunsOut table row := by
  constructor
  · intro h
    cases op with
    | insert table row => exact ⟨table, row, rfl, insert_eq_overflow.1 h⟩
    | _ => exact absurd h (perform_ne_overflow (by rintro _ _ ⟨⟩))
  · rintro ⟨table, row, rfl, hlast⟩
    exact insert_eq_overflow.2 hlast

end Store

namespace Program

variable {α : Type} {limit : Option Nat} {s : Store}

/-- A program that is carried out under a limit on its time comes to a request, and makes it in a
store. -/
inductive Reaches (op : Operation) (s' : Store) : Option Nat → Program α → Store → Prop where
  /-- The request is the first one. -/
  | here {limit left : Option Nat} {next : Except Error op.Answer → Program α}
      (timely : left? limit (s'.delay op) = some left) : Reaches op s' limit (.perform op next) s'
  /-- The request comes after a sleep. -/
  | slept {limit left : Option Nat} {millis : Nat} {next : Program α} {s : Store}
      (timely : left? limit millis = some left) (later : Reaches op s' left next s) :
      Reaches op s' limit (.sleep millis next) s
  /-- The request comes after one that is answered. -/
  | answered {limit left : Option Nat} {first : Operation} {answer : first.Answer}
      {next : Except Error first.Answer → Program α} {s s₁ : Store}
      (timely : left? limit (s.delay first) = some left)
      (performed : Store.perform first s = .ok (answer, s₁))
      (later : Reaches op s' left (next (.ok answer)) s₁) :
      Reaches op s' limit (.perform first next) s
  /-- The request comes after one that is refused. -/
  | refused {limit left : Option Nat} {first : Operation} {e : Error}
      {next : Except Error first.Answer → Program α} {s : Store}
      (timely : left? limit (s.delay first) = some left)
      (performed : Store.perform first s = .error (.failed e))
      (later : Reaches op s' left (next (.error e)) s) :
      Reaches op s' limit (.perform first next) s

/-- A program comes to an insertion for which there is no number left. -/
def RunsOut (limit : Option Nat) (p : Program α) (s : Store) : Prop :=
  ∃ table row s', Reaches (.insert table row) s' limit p s ∧ s'.RunsOut table row

/-- A program that comes to an insertion without a number overflows. -/
theorem Reaches.run_eq_overflow {table : String} {row : Row} {s' : Store} {p : Program α}
    (h : Reaches (.insert table row) s' limit p s) (hlast : s'.RunsOut table row) :
    (p.run limit s).1 = .overflow := by
  induction h with
  | here timely =>
    have hperform := Store.perform_eq_overflow.2 ⟨table, row, rfl, hlast⟩
    rw [run, timely]
    simp only [hperform]
  | slept timely later ih =>
    rw [run, timely]
    exact ih
  | answered timely performed later ih =>
    rw [run, timely]
    simp only [performed]
    exact ih
  | refused timely performed later ih =>
    rw [run, timely]
    simp only [performed]
    exact ih

/-- A program overflows just if it comes to an insertion for which there is no number left. -/
theorem run_eq_overflow {p : Program α} :
    (p.run limit s).1 = .overflow ↔ RunsOut limit p s := by
  refine ⟨fun h => ?_, fun ⟨_, _, _, hreaches, hlast⟩ => hreaches.run_eq_overflow hlast⟩
  induction p generalizing limit s with
  | pure result | fail error => cases h
  | sleep millis next ih =>
    rw [run] at h
    cases timely : left? limit millis with
    | none =>
      rw [timely] at h
      cases h
    | some left =>
      rw [timely] at h
      obtain ⟨table, row, s', hreaches, hlast⟩ := ih h
      exact ⟨table, row, s', .slept timely hreaches, hlast⟩
  | perform op next ih =>
    rw [run] at h
    cases timely : left? limit (s.delay op) with
    | none =>
      rw [timely] at h
      cases h
    | some left =>
      rw [timely] at h
      cases hperform : Store.perform op s with
      | ok answered =>
        rw [hperform] at h
        obtain ⟨table, row, s', hreaches, hlast⟩ := ih _ h
        exact ⟨table, row, s', .answered timely hperform hreaches, hlast⟩
      | error fault =>
        rw [hperform] at h
        cases fault with
        | failed e =>
          obtain ⟨table, row, s', hreaches, hlast⟩ := ih _ h
          exact ⟨table, row, s', .refused timely hperform hreaches, hlast⟩
        | overflow =>
          obtain ⟨table, row, rfl, hlast⟩ := Store.perform_eq_overflow.1 hperform
          exact ⟨table, row, s, .here timely, hlast⟩

theorem runFully_eq_overflow {p : Program α} :
    (p.runFully s).1 = .error .overflow ↔ RunsOut none p s := by
  rw [← run_eq_overflow, run_none]
  rcases (p.runFully s).1 with (_ | _) | _ <;> simp [Outcome.ofExcept]

end Program

namespace Tracking

variable {table : String} {s : Store}

/-- No record is logged just if it has a batch, but there is no number left for it. -/
theorem log_eq_overflow {record : Record} : log table record s = .error .overflow ↔
    1 ≤ record.batch.toInt ∧ s.RunsOut table record.toRow := by
  by_cases hreserved : record.batch.toInt < 1
  · rw [log_of_reserved hreserved]
    simp only [reduceCtorEq, false_iff, not_and, Except.error.injEq]
    omega
  · have hbatch : 1 ≤ record.batch.toInt := by omega
    rw [and_iff_right hbatch, ← Store.insert_eq_overflow]
    unfold log
    rw [if_neg hreserved, except_bind_eq_error]
    simp [pure, Except.pure]

theorem delete_ne_overflow (table migration : String) :
    delete table migration s ≠ .error .overflow := by
  cases hget : s.tables.get? table with
  | none =>
    rw [delete_of_missing hget]
    rintro ⟨⟩
  | some t =>
    obtain ⟨n, s', hdelete, -⟩ := deleteSelected_eq_ok
      (({} : Query).whereEq "migration" (.string migration)) hget
    rw [delete, hdelete]
    exact Store.ok_ne_overflow _

theorem following_eq_overflow {batch : Int64} :
    following batch = .error .overflow ↔ batch = Int64.maxValue := by
  rw [← successor?_eq_none, following]
  split <;> simp_all

theorem exists_following {batch : Int64} (h : batch ≠ Int64.maxValue) :
    ∃ next, following batch = .ok next := by
  obtain ⟨next, hnext⟩ := Option.ne_none_iff_exists'.1 (mt successor?_eq_none.1 h)
  exact ⟨next, by rw [following, hnext]⟩

/-- There is no next batch just if the last one has the greatest number. -/
theorem nextBatch_eq_overflow : nextBatch table s = .error .overflow ↔
    lastBatch table s = .ok Int64.maxValue := by
  have hlast : lastBatch table s ≠ .error .overflow :=
    Store.bind_ne_overflow (Store.select_ne_overflow table _) fun _ => Store.ok_ne_overflow _
  rw [nextBatch, except_bind_eq_error, or_iff_right hlast]
  simp [following_eq_overflow]

end Tracking

end SchemaMigration
