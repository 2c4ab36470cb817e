import SchemaMigration.Proofs.Action.Exec

/-!
# What actions preserve

An action preserves an assertion on sessions if it holds after the action whenever it held before,
whether the action returns or ends early. Sequences of actions preserve what their parts preserve.
That a view of the session stays as it is, is the case of the assertions `view s = x`.
-/

namespace SchemaMigration

namespace Action

variable {α β : Type} {I : Session → Prop}

/-- If an assertion holds of a session, it holds of the session that an action leaves. -/
def Preserves (I : Session → Prop) (a : Action α) : Prop :=
  ∀ s, I s → I (a.exec s).2

namespace Preserves

/-- What holds after the first action and is preserved by the second one holds after both. -/
theorem exec_bind_of {a : Action α} {f : α → Action β} {s : Session} (ha : I (a.exec s).2)
    (hf : ∀ x, (f x).Preserves I) : I ((a >>= f).exec s).2 := by
  rw [exec_bind]
  generalize a.exec s = outcome at ha ⊢
  rcases outcome with ⟨fault | x, s'⟩
  · exact ha
  · exact hf x s' ha

theorem bind {a : Action α} {f : α → Action β} (ha : a.Preserves I)
    (hf : ∀ x, (f x).Preserves I) : (a >>= f).Preserves I :=
  fun s hs => exec_bind_of (ha s hs) hf

theorem map {a : Action α} (f : α → β) (ha : a.Preserves I) : (f <$> a).Preserves I := by
  intro s hs
  rw [exec_map]
  exact ha s hs

theorem ite {c : Prop} [Decidable c] {a b : Action α} (ha : c → a.Preserves I)
    (hb : ¬c → b.Preserves I) : (if c then a else b).Preserves I := by
  split
  · exact ha ‹_›
  · exact hb ‹_›

theorem attempt {a : Action α} (ha : a.Preserves I) : (Action.attempt a).Preserves I := by
  intro s hs
  have h := ha s hs
  rw [exec_attempt]
  generalize a.exec s = outcome at h ⊢
  rcases outcome with ⟨(e | _) | x, s'⟩ <;> exact h

theorem inMigration {a : Action α} (migration : String) (ha : a.Preserves I) :
    (Action.inMigration migration a).Preserves I := by
  intro s hs
  have h := ha s hs
  rw [exec_inMigration]
  generalize a.exec s = outcome at h ⊢
  rcases outcome with ⟨(e | _) | x, s'⟩ <;> exact h

end Preserves

theorem preserves_pure (x : α) : (pure x : Action α).Preserves I := fun _ hs => hs

theorem preserves_throw (fault : Fault) : (throw fault : Action α).Preserves I := fun _ hs => hs

theorem preserves_fail (e : Error) : (fail e : Action α).Preserves I := fun _ hs => hs

theorem preserves_get : (get : Action Session).Preserves I := fun _ hs => hs

theorem preserves_resume (x : Except Fault α) : (resume x).Preserves I := fun s hs => by
  rwa [exec_resume]

theorem preserves_orFail (x : Except Error α) : (orFail x).Preserves I := fun s hs => by
  rwa [exec_orFail]

theorem preserves_read (f : Store → Except Fault α) : (read f).Preserves I := fun s hs => by
  rwa [exec_read]

theorem preserves_inspectFiles (f : Files → Except Error α) : (inspectFiles f).Preserves I :=
  fun s hs => by rwa [exec_inspectFiles]

/-- What follows an inspection may rely on what was found. -/
theorem preserves_inspectFiles_bind {f : Files → Except Error α} {g : α → Action β}
    (hg : ∀ files x, f files = .ok x → (g x).Preserves I) : (inspectFiles f >>= g).Preserves I := by
  intro s hs
  rw [exec_bind, exec_inspectFiles]
  rcases hf : f s.files with e | x
  · exact hs
  · exact hg s.files x hf s hs

theorem preserves_change {c : Change α}
    (h : ∀ s x store, I s → c s.store = .ok (x, store) → I { s with store }) :
    (change c).Preserves I := by
  intro s hs
  rw [exec_change]
  rcases hc : c s.store with fault | ⟨x, store⟩
  · exact hs
  · exact h s x store hs hc

theorem preserves_runProgram {limit : Option Nat} {program : Program α}
    (h : ∀ s, I s → I { s with store := (program.run limit s.store).2 }) :
    (runProgram limit program).Preserves I := fun s hs => by
  rw [exec_runProgram]
  exact h s hs

theorem preserves_runFully {program : Program α}
    (h : ∀ s, I s → I { s with store := (program.runFully s.store).2 }) :
    (runFully program).Preserves I := fun s hs => by
  rw [exec_runFully]
  exact h s hs

end Action

end SchemaMigration
