import SchemaMigration.Program

/-!
# What programs request

A program makes only requests of some kind if all requests that it could make, whatever the answers
to the earlier ones are, are of that kind. What every request of the kind preserves is preserved by
the whole program, however it ends.
-/

namespace SchemaMigration

/-- Whether a request may write a table. -/
def Operation.writes (table : String) : Operation → Bool
  | createTable name _ | dropTable name | insert name _ | update name _ _ | delete name _ =>
    name == table
  | _ => false

/-- Whether a request opens or closes a transaction. -/
def Operation.isTransactional : Operation → Bool
  | begin | commit | rollback => true
  | _ => false

/-- Whether a request takes a lock or gives one up. -/
def Operation.touchesLocks : Operation → Bool
  | acquire _ _ | release _ => true
  | _ => false

/-- Whether a request takes a certain lock or gives it up. -/
def Operation.touchesLock (lock : String) : Operation → Bool
  | acquire name _ | release name => name == lock
  | _ => false

/-- Whether a request that is answered has always changed tables or run a statement. -/
def Operation.alwaysActs : Operation → Bool
  | createTable _ _ | dropTable _ | insert _ _ | update _ _ _ | raw _ => true
  | _ => false

theorem Operation.touchesLock_of_touchesLocks {op : Operation} (h : op.touchesLocks = false)
    (lock : String) : op.touchesLock lock = false := by
  cases op with
  | acquire | release => cases h
  | _ => rfl

/-- A request that neither writes a table nor opens or closes a transaction. -/
structure Operation.Spares (table : String) (op : Operation) : Prop where
  writes : op.writes table = false
  isTransactional : op.isTransactional = false

/-- All requests of a program are of some kind, whatever the answers are. -/
def Program.Requests {α : Type} (kind : Operation → Prop) : Program α → Prop
  | pure _ | fail _ => True
  | sleep _ next => next.Requests kind
  | perform op next => kind op ∧ ∀ answer, (next answer).Requests kind

namespace Program

variable {α β γ : Type} {kind : Operation → Prop}

theorem Requests.mono {other : Operation → Prop} {p : Program α} (hp : p.Requests kind)
    (h : ∀ op, kind op → other op) : p.Requests other := by
  induction p with
  | pure | fail => trivial
  | sleep millis next ih => exact ih hp
  | perform op next ih => exact ⟨h op hp.1, fun answer => ih answer (hp.2 answer)⟩

theorem Requests.bind {p : Program α} {f : α → Program β} (hp : p.Requests kind)
    (hf : ∀ x, (f x).Requests kind) : (p.bind f).Requests kind := by
  induction p with
  | pure result => exact hf result
  | fail error => trivial
  | sleep millis next ih => exact ih hp
  | perform op next ih => exact ⟨hp.1, fun answer => ih answer (hp.2 answer)⟩

/-- The requests of every program are of some kind or other. -/
theorem requests_any (p : Program α) : p.Requests fun _ => True := by
  induction p with
  | pure | fail => trivial
  | sleep millis next ih => exact ih
  | perform op next ih => exact ⟨trivial, ih⟩

theorem requests_request {op : Operation} (h : kind op) : (request op).Requests kind :=
  ⟨h, fun answer => by cases answer <;> trivial⟩

/-- A request that takes no time is made under any limit. -/
theorem run_request (limit : Option Nat) {op : Operation} {s : Store} (h : s.delay op = 0) :
    (request op).run limit s =
      match Store.perform op s with
      | .ok (answer, s') => (.returned answer, s')
      | .error (.failed e) => (.failed e, s)
      | .error .overflow => (.overflow, s) := by
  have hleft : left? limit 0 = some limit := by
    cases limit <;> simp [left?]
  rcases hperformed : Store.perform op s with (e | _) | ⟨answer, s'⟩ <;>
    simp only [request, run, h, hleft, hperformed]

/-- What every request of a kind preserves is preserved by a program of such requests, also if it
fails or its time is over. -/
theorem Requests.run_preserves {I : Store → Prop} {p : Program α} (hp : p.Requests kind)
    (hI : ∀ op, kind op → ∀ s answer s', Store.perform op s = .ok (answer, s') → I s → I s')
    (limit : Option Nat) {s : Store} (hs : I s) : I (p.run limit s).2 := by
  induction p generalizing limit s with
  | pure result => exact hs
  | fail error => exact hs
  | sleep millis next ih =>
    rw [run]
    split
    · exact ih hp _ hs
    · exact hs
  | perform op next ih =>
    rw [run]
    split
    · exact hs
    · split
      · rename_i answer s' h
        exact ih (.ok answer) (hp.2 _) _ (hI op hp.1 s answer s' h hs)
      · exact ih _ (hp.2 _) _ hs
      · exact hs

theorem Requests.runFully_preserves {I : Store → Prop} {p : Program α} (hp : p.Requests kind)
    (hI : ∀ op, kind op → ∀ s answer s', Store.perform op s = .ok (answer, s') → I s → I s')
    {s : Store} (hs : I s) : I (p.runFully s).2 := by
  have h := hp.run_preserves hI none hs
  rwa [run_none] at h

end Program

namespace Store

variable {α : Type} {s s' : Store} {x : α}

/-- A change that is not served, or is and was made. -/
theorem served_eq_ok {serves : Store → Bool} {change : Change α} {answer : Option α}
    (h : served serves change s = .ok (answer, s')) :
    s' = s ∨ ∃ x, change s = .ok (x, s') := by
  unfold served at h
  split at h
  · rcases hc : change s with fault | ⟨x, s₁⟩
    · simp [hc, Bind.bind, Except.bind] at h
    · simp only [hc, Bind.bind, Except.bind, pure, Except.pure, Except.ok.injEq,
        Prod.mk.injEq] at h
      exact .inr ⟨x, by rw [h.2]⟩
  · exact .inl (Prod.mk.inj (Except.ok.inj h)).2.symm

end Store

end SchemaMigration
