import SchemaMigration.Proofs.Action.Failure
import SchemaMigration.Proofs.Store.Changes
import SchemaMigration.Tracking

/-!
# What tracking tables fail with

The operations of tracking tables fail only if the store refuses, apart from logging a record that
has no batch.
-/

namespace SchemaMigration

/-- The error of a store that refuses. -/
def Error.IsRefusal (e : Error) : Prop :=
  ∃ cause, e = .adapter cause

variable {s : Store} {fault : Fault}

namespace Store

theorem table_refuses {name : String} (h : s.table name = .error fault) :
    fault.Is Error.IsRefusal := by
  unfold table at h
  split at h
  · cases h
  · obtain rfl := Except.error.inj h
    exact ⟨_, rfl⟩

theorem select_refuses {table : String} {q : Query} (h : s.select table q = .error fault) :
    fault.Is Error.IsRefusal := by
  rcases except_bind_eq_error.1 h with h | ⟨t, -, h⟩
  · exact table_refuses h
  · cases h

theorem insert_refuses {table : String} {row : Row} (h : insert table row s = .error fault) :
    fault.Is Error.IsRefusal := by
  rcases except_bind_eq_error.1 h with h | ⟨t, -, h⟩
  · exact table_refuses h
  · split at h
    · cases h
    · obtain rfl := Except.error.inj h
      trivial

theorem delete_refuses {table : String} {id : Value} (h : delete table id s = .error fault) :
    fault.Is Error.IsRefusal := by
  rcases except_bind_eq_error.1 h with h | ⟨t, -, h⟩
  · exact table_refuses h
  · split at h <;> cases h

theorem rollback_refuses (h : rollback s = .error fault) : fault.Is Error.IsRefusal := by
  unfold rollback at h
  split at h
  · cases h
  · obtain rfl := Except.error.inj h
    exact ⟨_, rfl⟩

end Store

namespace Tracking

variable {table : String}

theorem select_refuses {q : Query} (h : select table q s = .error fault) :
    fault.Is Error.IsRefusal := by
  rcases except_bind_eq_error.1 h with h | ⟨rows, -, h⟩
  · exact Store.select_refuses h
  · cases h

theorem lastBatch_refuses (h : lastBatch table s = .error fault) : fault.Is Error.IsRefusal := by
  rcases except_bind_eq_error.1 h with h | ⟨rows, -, h⟩
  · exact Store.select_refuses h
  · cases h

theorem lastBatches_refuses {count : Nat} (h : lastBatches table count s = .error fault) :
    fault.Is Error.IsRefusal := by
  rcases except_bind_eq_error.1 h with h | ⟨rows, -, h⟩
  · exact select_refuses h
  · cases h

theorem find_refuses {migration : String} (h : find table migration s = .error fault) :
    fault.Is Error.IsRefusal := by
  rcases except_bind_eq_error.1 h with h | ⟨rows, -, h⟩
  · exact select_refuses h
  · cases h

theorem deleteIds_refuses {ids : List Value} (h : deleteIds table ids s = .error fault) :
    fault.Is Error.IsRefusal := by
  induction ids generalizing s with
  | nil => cases h
  | cons id rest ih =>
    rcases except_bind_eq_error.1 h with h | ⟨⟨found, s₁⟩, -, h⟩
    · exact Store.delete_refuses h
    · rcases except_bind_eq_error.1 h with h | ⟨others, -, h⟩
      · exact ih h
      · cases h

theorem delete_refuses {migration : String} (h : delete table migration s = .error fault) :
    fault.Is Error.IsRefusal := by
  rcases except_bind_eq_error.1 h with h | ⟨rows, -, h⟩
  · exact Store.select_refuses h
  · exact deleteIds_refuses h

theorem log_fails {record : Record} (h : log table record s = .error fault) :
    fault.Is fun e => e.IsRefusal ∨
      e = .validation (.reservedBatch record.migration record.batch.toInt) := by
  unfold log at h
  split at h
  · obtain rfl := Except.error.inj h
    exact .inr rfl
  · rcases except_bind_eq_error.1 h with h | ⟨row, -, h⟩
    · exact (Store.insert_refuses h).mono fun e => .inl
    · cases h

end Tracking

end SchemaMigration
