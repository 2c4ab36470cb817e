import SchemaMigration.Proofs.Action.Exec

/-!
# What actions fail with

An action fails with errors of a kind if every error that ends it is of that kind. A sequence of
actions does if its parts do; a part whose error is caught may be left out of account if what
follows deals with the error.
-/

namespace SchemaMigration

/-- An error of a kind, or a number that left its range. -/
def Fault.Is (kind : Error → Prop) : Fault → Prop
  | .failed e => kind e
  | .overflow => True

theorem Fault.Is.mono {kind kind' : Error → Prop} {fault : Fault} (h : fault.Is kind)
    (himp : ∀ e, kind e → kind' e) : fault.Is kind' := by
  cases fault with
  | failed e => exact himp e h
  | overflow => trivial

namespace Action

variable {α β : Type} {kind : Error → Prop}

/-- Whatever fault an action ends with, it is of a kind. -/
def FailsWith (kind : Error → Prop) (a : Action α) : Prop :=
  ∀ s fault s', a.exec s = (.error fault, s') → fault.Is kind

namespace FailsWith

theorem mono {kind' : Error → Prop} {a : Action α} (ha : a.FailsWith kind)
    (himp : ∀ e, kind e → kind' e) : a.FailsWith kind' :=
  fun s fault s' h => (ha s fault s' h).mono himp

/-- What follows an action may rely on its having returned. -/
theorem bind_of_ok {a : Action α} {f : α → Action β} (ha : a.FailsWith kind)
    (hf : ∀ s x s', a.exec s = (.ok x, s') → (f x).FailsWith kind) : (a >>= f).FailsWith kind := by
  intro s fault s' h
  rw [exec_bind] at h
  rcases hexec : a.exec s with ⟨fault' | x, s₁⟩
  · rw [hexec] at h
    obtain rfl := Except.error.inj (Prod.mk.inj h).1
    exact ha s _ s₁ hexec
  · rw [hexec] at h
    exact hf s x s₁ hexec s₁ fault s' h

theorem bind {a : Action α} {f : α → Action β} (ha : a.FailsWith kind)
    (hf : ∀ x, (f x).FailsWith kind) : (a >>= f).FailsWith kind :=
  ha.bind_of_ok fun _ x _ _ => hf x

theorem ite {c : Prop} [Decidable c] {a b : Action α} (ha : a.FailsWith kind)
    (hb : b.FailsWith kind) : (if c then a else b).FailsWith kind := by
  split
  · exact ha
  · exact hb

/-- What follows an action may rely on the kind of the error that was caught. -/
theorem attempt_bind {caught : Error → Prop} {a : Action α} {f : Except Error α → Action β}
    (ha : a.FailsWith caught) (hok : ∀ x, (f (.ok x)).FailsWith kind)
    (herror : ∀ e, caught e → (f (.error e)).FailsWith kind) :
    (attempt a >>= f).FailsWith kind := by
  refine bind_of_ok (fun s fault s' h => ?_) fun s x s' h => ?_
  · rw [exec_attempt] at h
    rcases hexec : a.exec s with ⟨(e | _) | x, s₁⟩
    · simp [hexec] at h
    · rw [hexec] at h
      obtain rfl := Except.error.inj (Prod.mk.inj h).1
      trivial
    · simp [hexec] at h
  · rw [exec_attempt] at h
    rcases hexec : a.exec s with ⟨(e | _) | y, s₁⟩
    · rw [hexec] at h
      obtain rfl := Except.ok.inj (Prod.mk.inj h).1
      exact herror e (ha s _ s₁ hexec)
    · simp [hexec] at h
    · rw [hexec] at h
      obtain rfl := Except.ok.inj (Prod.mk.inj h).1
      exact hok y

end FailsWith

/-- An action that always returns does not fail. -/
theorem failsWith_of_ok {a : Action α} (h : ∀ s, ∃ x s', a.exec s = (.ok x, s')) :
    a.FailsWith kind := by
  intro s fault s' hexec
  obtain ⟨x, s₁, hok⟩ := h s
  rw [hok] at hexec
  cases hexec

theorem failsWith_pure (x : α) : (pure x : Action α).FailsWith kind :=
  failsWith_of_ok fun s => ⟨x, s, rfl⟩

theorem failsWith_get : (get : Action Session).FailsWith kind :=
  failsWith_of_ok fun s => ⟨s, s, rfl⟩

theorem failsWith_now : now.FailsWith kind :=
  failsWith_of_ok fun s => ⟨_, _, exec_now s⟩

theorem failsWith_advance (f : Progress → Progress) : (advance f).FailsWith kind :=
  failsWith_of_ok fun s => ⟨_, _, exec_advance f s⟩

theorem failsWith_fail {e : Error} (he : kind e) : (fail e : Action α).FailsWith kind := by
  intro s fault s' h
  obtain rfl := Except.error.inj (Prod.mk.inj h).1
  exact he

theorem failsWith_read {f : Store → Except Fault α}
    (hf : ∀ s fault, f s = .error fault → fault.Is kind) : (read f).FailsWith kind := by
  intro s fault s' h
  rw [exec_read] at h
  exact hf s.store fault (Prod.mk.inj h).1

theorem failsWith_change {c : Change α} (hc : ∀ s fault, c s = .error fault → fault.Is kind) :
    (change c).FailsWith kind := by
  intro s fault s' h
  rw [exec_change] at h
  rcases hchange : c s.store with fault' | ⟨x, store⟩
  · rw [hchange] at h
    obtain rfl := Except.error.inj (Prod.mk.inj h).1
    exact hc s.store _ hchange
  · simp [hchange] at h

theorem failsWith_inspectFiles {f : Files → Except Error α}
    (hf : ∀ files e, f files = .error e → kind e) : (inspectFiles f).FailsWith kind := by
  intro s fault s' h
  rw [exec_inspectFiles] at h
  rcases hfiles : f s.files with e | x
  · rw [hfiles] at h
    obtain rfl := Except.error.inj (Prod.mk.inj h).1
    exact hf s.files e hfiles
  · simp [hfiles, mapError_ok] at h

/-- An action that is part of a migration fails with an error that names the migration. -/
theorem failsWith_inMigration {migration : String}
    (hkind : ∀ e : Error, kind (e.inMigration migration)) (a : Action α) :
    (inMigration migration a).FailsWith kind := by
  intro s fault s' h
  rw [exec_inMigration] at h
  rcases hexec : a.exec s with ⟨(e | _) | x, s₁⟩
  · rw [hexec] at h
    obtain rfl := Except.error.inj (Prod.mk.inj h).1
    exact hkind e
  · rw [hexec] at h
    obtain rfl := Except.error.inj (Prod.mk.inj h).1
    trivial
  · simp [hexec] at h

end Action

end SchemaMigration
