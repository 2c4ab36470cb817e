import SchemaMigration.Proofs.Runner.Invariant

/-!
# Pretences change nothing

A pretence only narrates, whether it returns or fails. So no table, statement or transaction is
touched, and no program of a migration is run.
-/

namespace SchemaMigration

namespace Runner

variable (r : Runner)

/-- A pretence preserves every assertion that ignores narration. -/
theorem preserves_call_of_pretend {I : Session → Prop} (hI : Session.IgnoresNarration I)
    {c : Command} (hc : c.pretend = true) : (r.call c).Preserves I :=
  preserves_call r hI fun h => by simp [hc] at h

/-- Whether a pretended call returns or fails, the tables, the transaction, the statements and the
number of changes are what they were, no program of a migration was run, and no tracking table was
created. -/
theorem pretence_changes_nothing {c : Command} (hc : c.pretend = true) (s : Session) :
    let after := ((r.call c).exec s).2
    after.store.tables = s.store.tables ∧
      after.store.snapshot = s.store.snapshot ∧
      after.store.statements = s.store.statements ∧
      after.store.mutations = s.store.mutations ∧
      after.invocations = s.invocations ∧
      after.store.hasTable r.config.table = s.store.hasTable r.config.table := by
  intro after
  have kept {γ : Type} (view : Store → γ) (h : ∀ (s : Store) (locks : List String) (n : Nat),
      view { s with locks, lockAcquisitions := n } = view s) : view after.store = view s.store := by
    have hI : Session.IgnoresNarration fun s' => view s'.store = view s.store :=
      ⟨fun _ _ _ h => h, fun _ _ h => h, fun _ _ h => h, fun _ _ _ hs => (h _ _ _).trans hs⟩
    exact preserves_call_of_pretend r hI hc s rfl
  have invocations : Session.IgnoresNarration fun s' => s'.invocations = s.invocations :=
    ⟨fun _ entries h hs => by simp [h, hs], fun _ _ h => h, fun _ _ h => h, fun _ _ _ h => h⟩
  refine ⟨kept _ fun _ _ _ => rfl, kept _ fun _ _ _ => rfl, kept _ fun _ _ _ => rfl,
    kept _ fun _ _ _ => rfl, preserves_call_of_pretend r invocations hc s rfl, ?_⟩
  exact kept (·.hasTable r.config.table) fun _ _ _ => rfl

/-- A pretended `fresh` inside a transaction, on a store with a table that it would drop. -/
theorem pretended_fresh_changes_nothing :
    let table : Table := { columns := [], rows := [∅] }
    let tables := Dict.ofList [("users", table), ("arcanox_migrations", table)]
    let s : Session := { store := { tables, snapshot := some ∅, statements := ["vacuum"] } }
    let c := Command.fresh { pretend := true, seed := true }
    let after := ((({} : Runner).call c).exec s).2
    c.pretend = true ∧ after.store.tables = tables ∧ after.store.snapshot.isSome ∧
      after.store.statements = ["vacuum"] ∧ after.store.mutations = 0 ∧ after.invocations = [] ∧
      after.store.hasTable "arcanox_migrations" := by
  intro table tables s c after
  obtain ⟨h₁, h₂, h₃, h₄, h₅, h₆⟩ := pretence_changes_nothing {} (c := c) rfl s
  exact ⟨rfl, h₁, congrArg Option.isSome h₂, h₃, h₄, h₅, h₆.trans (by decide)⟩

end Runner

end SchemaMigration
