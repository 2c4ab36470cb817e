import SchemaMigration.Proofs.Action.Exec

/-!
# Actions in step

Two actions are in step with respect to a relation on sessions if, from sessions in the relation,
they end the same way and leave sessions in the relation. Sequences of actions are in step if their
parts are.
-/

namespace SchemaMigration

/-- Two results are the same error, or values in a relation. -/
inductive SameEnd {ε α β : Type} (R : α → β → Prop) : Except ε α → Except ε β → Prop where
  /-- There is no error. -/
  | ok {x : α} {y : β} (related : R x y) : SameEnd R (.ok x) (.ok y)
  /-- There is an error. -/
  | error (e : ε) : SameEnd R (.error e) (.error e)

namespace SameEnd

variable {ε α β α' β' : Type} {R : α → β → Prop} {Q : α' → β' → Prop}

theorem bind {x : Except ε α} {y : Except ε β} {f : α → Except ε α'} {g : β → Except ε β'}
    (h : SameEnd R x y) (hf : ∀ a b, R a b → SameEnd Q (f a) (g b)) :
    SameEnd Q (x >>= f) (y >>= g) := by
  cases h with
  | ok related => exact hf _ _ related
  | error e => exact .error e

theorem mono {R' : α → β → Prop} {x : Except ε α} {y : Except ε β} (h : SameEnd R x y)
    (hR : ∀ a b, R a b → R' a b) : SameEnd R' x y := by
  cases h with
  | ok related => exact .ok (hR _ _ related)
  | error e => exact .error e

theorem refl (x : Except ε α) : SameEnd Eq x x := by
  cases x with
  | ok x => exact .ok rfl
  | error e => exact .error e

theorem eq {x y : Except ε α} (h : SameEnd Eq x y) : x = y := by
  cases h with
  | ok related => rw [related]
  | error e => rfl

end SameEnd

namespace Action

variable {α β α' β' : Type} {P : Session → Session → Prop} {R : α → β → Prop}
  {Q : α' → β' → Prop} {a : Action α} {b : Action β}

/-- From sessions in a relation, two actions end the same way, with results in a relation, and leave
sessions in the relation. -/
def InStep (P : Session → Session → Prop) (R : α → β → Prop) (a : Action α) (b : Action β) : Prop :=
  ∀ s s', P s s' → SameEnd R (a.exec s).1 (b.exec s').1 ∧ P (a.exec s).2 (b.exec s').2

namespace InStep

/-- If the first actions end in step and the second ones are in step, so are both together. -/
theorem exec_bind_of {f : α → Action α'} {g : β → Action β'} {s s' : Session}
    (h : SameEnd R (a.exec s).1 (b.exec s').1 ∧ P (a.exec s).2 (b.exec s').2)
    (hf : ∀ x y, R x y → InStep P Q (f x) (g y)) :
    SameEnd Q ((a >>= f).exec s).1 ((b >>= g).exec s').1 ∧
      P ((a >>= f).exec s).2 ((b >>= g).exec s').2 := by
  rw [exec_bind, exec_bind]
  generalize a.exec s = first at h ⊢
  generalize b.exec s' = second at h ⊢
  obtain ⟨x, u⟩ := first
  obtain ⟨y, u'⟩ := second
  obtain ⟨hend, hu⟩ := h
  cases hend with
  | ok related => exact hf _ _ related u u' hu
  | error fault => exact ⟨.error fault, hu⟩

theorem bind {f : α → Action α'} {g : β → Action β'} (h : InStep P R a b)
    (hf : ∀ x y, R x y → InStep P Q (f x) (g y)) : InStep P Q (a >>= f) (b >>= g) :=
  fun s s' hs => exec_bind_of (h s s' hs) hf

theorem ite {c : Prop} [Decidable c] {a' : Action α} {b' : Action β}
    (h : c → InStep P R a b) (h' : ¬c → InStep P R a' b') :
    InStep P R (if c then a else a') (if c then b else b') := by
  split
  · exact h ‹_›
  · exact h' ‹_›

theorem attempt (h : InStep P R a b) :
    InStep P (SameEnd R) (Action.attempt a) (Action.attempt b) := by
  intro s s' hs
  have hab := h s s' hs
  rw [exec_attempt, exec_attempt]
  generalize a.exec s = first at hab ⊢
  generalize b.exec s' = second at hab ⊢
  obtain ⟨x, u⟩ := first
  obtain ⟨y, u'⟩ := second
  obtain ⟨hend, hu⟩ := hab
  cases hend with
  | ok related => exact ⟨.ok (.ok related), hu⟩
  | error fault =>
    cases fault with
    | failed e => exact ⟨.ok (.error e), hu⟩
    | overflow => exact ⟨.error Fault.overflow, hu⟩

theorem inMigration (h : InStep P R a b) (migration : String) :
    InStep P R (Action.inMigration migration a) (Action.inMigration migration b) := by
  refine h.attempt.bind fun x y hxy => ?_
  cases hxy with
  | ok related => exact fun _ _ hs => ⟨.ok related, hs⟩
  | error e => exact fun _ _ hs => ⟨.error _, hs⟩

end InStep

theorem inStep_pure {x : α} {y : β} (h : R x y) : InStep P R (pure x) (pure y) :=
  fun _ _ hs => ⟨.ok h, hs⟩

theorem inStep_fail (e : Error) : InStep P R (fail e) (fail e) :=
  fun _ _ hs => ⟨.error _, hs⟩

theorem inStep_resume (x : Except Fault α) : InStep P Eq (resume x) (resume x) := by
  intro s s' hs
  rw [exec_resume, exec_resume]
  exact ⟨.refl x, hs⟩

/-- What follows an inspection may rely on what was found. -/
theorem inStep_inspectFiles_bind (hfiles : ∀ s s', P s s' → s.files = s'.files)
    {f : Files → Except Error α} {g : α → Action α'} {g' : α → Action β'}
    (hg : ∀ files x, f files = .ok x → InStep P Q (g x) (g' x)) :
    InStep P Q (inspectFiles f >>= g) (inspectFiles f >>= g') := by
  intro s s' hs
  rw [exec_bind, exec_bind, exec_inspectFiles, exec_inspectFiles, hfiles s s' hs]
  rcases hf : f s'.files with e | x
  · exact ⟨.error _, hs⟩
  · exact hg s'.files x hf s s' hs

/-- Changes are in step if they end the same way and leave stores that make no difference. -/
theorem inStep_change {c : Change α} {d : Change β}
    (h : ∀ s s', P s s' → SameEnd (fun x y => R x.1 y.1 ∧ P { s with store := x.2 }
      { s' with store := y.2 }) (c s.store) (d s'.store)) : InStep P R (change c) (change d) := by
  intro s s' hs
  have hcd := h s s' hs
  rw [exec_change, exec_change]
  generalize c s.store = first at hcd ⊢
  generalize d s'.store = second at hcd ⊢
  cases hcd with
  | ok related => exact ⟨.ok related.1, related.2⟩
  | error fault => exact ⟨.error fault, hs⟩

end Action

end SchemaMigration
