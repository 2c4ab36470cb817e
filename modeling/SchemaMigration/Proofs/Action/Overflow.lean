import SchemaMigration.Proofs.Action.Exec

/-!
# Actions that overflow

An action overflows on a session if a number leaves its range while the action is carried out. This
is not caught: a sequence overflows just if its first part does, or returns and then the second one
does.
-/

namespace SchemaMigration

namespace Action

variable {α β : Type} {s : Session}

/-- A number leaves its range while the action is carried out. -/
def Overflows (a : Action α) (s : Session) : Prop :=
  (a.exec s).1 = .error .overflow

theorem overflows_bind {a : Action α} {f : α → Action β} : (a >>= f).Overflows s ↔
    a.Overflows s ∨ ∃ x s₁, a.exec s = (.ok x, s₁) ∧ (f x).Overflows s₁ := by
  rw [Overflows, Overflows, exec_bind]
  rcases a.exec s with ⟨fault | x, s₁⟩ <;> simp [Overflows, and_assoc]

@[simp] theorem overflows_attempt {a : Action α} : (attempt a).Overflows s ↔ a.Overflows s := by
  rw [Overflows, Overflows, exec_attempt]
  rcases a.exec s with ⟨(e | _) | x, s₁⟩ <;> simp

@[simp] theorem overflows_inMigration {migration : String} {a : Action α} :
    (inMigration migration a).Overflows s ↔ a.Overflows s := by
  rw [Overflows, Overflows, exec_inMigration]
  rcases a.exec s with ⟨(e | _) | x, s₁⟩ <;> simp

@[simp] theorem overflows_change {c : Change α} :
    (change c).Overflows s ↔ c s.store = .error .overflow := by
  rw [Overflows, exec_change]
  rcases c s.store with fault | ⟨x, store⟩ <;> simp

@[simp] theorem not_overflows_pure (x : α) : ¬(pure x : Action α).Overflows s := by
  rintro ⟨⟩

@[simp] theorem not_overflows_fail (e : Error) : ¬(fail e : Action α).Overflows s := by
  rintro ⟨⟩

end Action

end SchemaMigration
