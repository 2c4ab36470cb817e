import SchemaMigration.Proofs.Store.Changes

/-!
# Requests one after another

Requests are made of a store one after another, and the later ones are made whatever came of the
earlier ones. What no single request destroys is still there after all of them.
-/

namespace SchemaMigration

/-- What a change returns, and the store afterwards, which is the same as before if the change
fails. -/
def Change.exec {α : Type} (c : Change α) (s : Store) : Except Fault α × Store :=
  match c s with
  | .ok (x, s') => (.ok x, s')
  | .error fault => (.error fault, s)

namespace Change

variable {α : Type} {c : Change α} {s s' : Store}

theorem exec_of_ok {x : α} (h : c s = .ok (x, s')) : Change.exec c s = (.ok x, s') := by
  rw [Change.exec, h]

theorem exec_of_error {fault : Fault} (h : c s = .error fault) :
    Change.exec c s = (.error fault, s) := by
  rw [Change.exec, h]

end Change

namespace Store

/-- The store after a request, also if the request fails. -/
def after (s : Store) (op : Operation) : Store :=
  (Change.exec (perform op) s).2

/-- The store after requests, of which some may fail. -/
def afterAll (s : Store) (ops : List Operation) : Store :=
  ops.foldl after s

@[simp] theorem afterAll_cons (s : Store) (op : Operation) (rest : List Operation) :
    s.afterAll (op :: rest) = (s.after op).afterAll rest := rfl

@[simp] theorem afterAll_append (s : Store) (earlier later : List Operation) :
    s.afterAll (earlier ++ later) = (s.afterAll earlier).afterAll later :=
  List.foldl_append

theorem after_of_ok {s s' : Store} {op : Operation} {answer : op.Answer}
    (h : perform op s = .ok (answer, s')) : s.after op = s' := by
  rw [after, Change.exec_of_ok h]

theorem after_of_error {s : Store} {op : Operation} {fault : Fault}
    (h : perform op s = .error fault) : s.after op = s := by
  rw [after, Change.exec_of_error h]

/-- A request is answered, or it fails and leaves the store as it was. -/
theorem after_cases (s : Store) (op : Operation) :
    (∃ answer, perform op s = .ok (answer, s.after op)) ∨
      (∃ fault, perform op s = .error fault) ∧ s.after op = s := by
  cases h : perform op s with
  | error fault => exact .inr ⟨⟨fault, rfl⟩, after_of_error h⟩
  | ok result => exact .inl ⟨result.1, by rw [after_of_ok h]⟩

end Store

end SchemaMigration
