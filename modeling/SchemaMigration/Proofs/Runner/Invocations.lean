import SchemaMigration.Proofs.Runner.Task

/-!
# Which programs are run

A task runs no other program than its own, and it runs this one if it returns. Nothing else that
calls do runs a program of a migration.
-/

namespace SchemaMigration

namespace Session

/-- Programs are read off the journal alone. -/
theorem invocations_of_journal {s s' : Session} (h : s'.journal = s.journal) :
    s'.invocations = s.invocations := by
  rw [invocations, h, invocations]

theorem invocations_clock (s : Session) (clock : Instant) :
    ({ s with clock } : Session).invocations = s.invocations :=
  invocations_of_journal rfl

theorem ignoresNarration_invocations (programs : List (String × Direction)) :
    IgnoresNarration fun s => s.invocations = programs where
  journaled s entries h hs := by
    rw [invocations_journaled, h, List.append_nil, hs]
  progress _ _ h := h
  clock _ _ h := h
  locks _ _ _ h := h

end Session

namespace Runner

variable {r : Runner} {t : Task} {m : Migration} {s : Session}

theorem journal_track (r : Runner) (t : Task) (started : Instant) (s : Session) :
    ((r.track t started).exec s).2.journal = s.journal := by
  cases hdirection : t.direction with
  | up =>
    rw [exec_track_up hdirection]
    cases Tracking.log r.config.table (recordOf t started s) s.store <;> rfl
  | down =>
    rw [exec_track_down hdirection]
    cases Tracking.delete r.config.table t.name s.store <;> rfl

theorem invocations_runBody (r : Runner) (t : Task) (m : Migration) (s : Session) :
    ((r.runBody t m).exec s).2.invocations = s.invocations ++ [(t.name, t.direction)] := by
  rw [exec_runBody]
  generalize (m.body t.direction).run r.config.timeout s.store = outcome
  obtain ⟨result, store⟩ := outcome
  have hinvoked : (s.journaled [.invoked t.name t.direction (r.isLocked s.store)]).invocations =
      s.invocations ++ [(t.name, t.direction)] := Session.invocations_journaled _ _
  cases result with
  | returned | failed | timedOut | overflow => exact hinvoked

theorem invocations_invokeOpened (r : Runner) (t : Task) (m : Migration) (transactional : Bool)
    (s : Session) :
    ((r.invokeOpened t m transactional).exec s).2.invocations =
      s.invocations ++ [(t.name, t.direction)] := by
  have kept {α : Type} (c : Change α) : (Action.change c).Preserves fun u =>
      u.invocations = s.invocations ++ [(t.name, t.direction)] :=
    Action.preserves_change fun _ _ _ hu _ => hu
  apply Action.Preserves.exec_bind_of (I := fun u =>
    u.invocations = s.invocations ++ [(t.name, t.direction)]) (invocations_runBody r t m s)
  intro outcome
  cases outcome with
  | ok => exact .ite (fun _ => (kept _).inMigration _) fun _ => Action.preserves_pure _
  | error e =>
    exact .ite (fun _ => .bind (kept _).attempt fun _ => Action.preserves_fail e) fun _ =>
      Action.preserves_fail e

/-- If the transaction of the program can be opened, the program is run. -/
theorem invocations_invoke (r : Runner) (t : Task) (h : m.CanStart s.store) :
    ((r.invoke t m).exec s).2.invocations = s.invocations ++ [(t.name, t.direction)] := by
  rw [exec_invoke_of_canStart h, invocations_invokeOpened]
  rfl

/-- A task runs its own program or none. -/
theorem invocations_carryOut (r : Runner) (t : Task) (s : Session) :
    ((r.carryOut t).exec s).2.invocations = s.invocations ++ [(t.name, t.direction)] ∨
      ((r.carryOut t).exec s).2.invocations = s.invocations ∧
        (t.pretend = false → ∃ fault, ((r.carryOut t).exec s).1 = .error fault) := by
  cases hload : Discovery.load r.migrations t.path s.files with
  | error e =>
    have hcarry : (r.carryOut t).exec s = (.error (.failed e), s) := by
      simp [carryOut, hload, mapError_error]
    rw [hcarry]
    exact .inr ⟨rfl, fun _ => ⟨_, rfl⟩⟩
  | ok m =>
    cases hreal : t.pretend with
    | true =>
      right
      simp [carryOut, hload, mapError_ok, hreal, exec_elapsedSince, Session.invocations]
    | false =>
      rw [exec_carryOut_of_load hreal hload]
      by_cases hstart : m.CanStart s.store
      · have hinvoked := invocations_invoke (s := { s with clock := s.clock.next }) r t hstart
        rw [Session.invocations_clock s s.clock.next] at hinvoked
        left
        generalize (r.invoke t m).exec { s with clock := s.clock.next } = outcome at hinvoked ⊢
        obtain ⟨fault | ⟨⟩, s₁⟩ := outcome
        · exact hinvoked
        · have htracked := Session.invocations_of_journal (journal_track r t s.clock s₁)
          dsimp only
          generalize (r.track t s.clock).exec s₁ = tracked at htracked ⊢
          obtain ⟨fault | ⟨⟩, s₂⟩ := tracked
          · exact htracked.trans hinvoked
          · exact (Session.invocations_clock s₂ _).trans (htracked.trans hinvoked)
      · right
        rw [exec_invoke_of_not_canStart (s := { s with clock := s.clock.next }) hstart]
        exact ⟨Session.invocations_clock s _, fun _ => ⟨_, rfl⟩⟩

/-- A task runs its own program or none, and it does run it if it is real and returns. -/
theorem invocations_execute (r : Runner) (t : Task) (s : Session) :
    ((r.execute t).exec s).2.invocations = s.invocations ++ [(t.name, t.direction)] ∨
      ((r.execute t).exec s).2.invocations = s.invocations ∧
        (t.pretend = false → ∃ fault, ((r.execute t).exec s).1 = .error fault) := by
  have hcarried := invocations_carryOut r t (r.begun t s)
  have hbegun : (r.begun t s).invocations = s.invocations := by
    simp [begun, Session.invocations]
  rw [hbegun] at hcarried
  rw [exec_execute]
  generalize (r.carryOut t).exec (r.begun t s) = outcome at hcarried ⊢
  obtain ⟨(e | _) | elapsed, s₁⟩ := outcome
  · have habandoned : (r.abandoned t e s₁).invocations = s₁.invocations := by
      simp [abandoned, Session.invocations]
    rw [← habandoned] at hcarried
    exact hcarried.imp id fun h => ⟨h.1, fun _ => ⟨_, rfl⟩⟩
  · exact hcarried.imp id fun h => ⟨h.1, fun _ => ⟨_, rfl⟩⟩
  · have hfinished : (r.finished t elapsed s₁).invocations = s₁.invocations := by
      simp [finished, Session.invocations]
    rw [← hfinished] at hcarried
    refine hcarried.imp id fun h => ⟨h.1, fun hreal => ?_⟩
    obtain ⟨fault, hfault⟩ := h.2 hreal
    cases hfault

theorem invocations_of_execute_eq_ok {s' : Session} (hreal : t.pretend = false)
    (h : (r.execute t).exec s = (.ok (), s')) :
    s'.invocations = s.invocations ++ [(t.name, t.direction)] := by
  have hran := invocations_execute r t s
  rw [h] at hran
  rcases hran with hran | ⟨-, hfails⟩
  · exact hran
  · obtain ⟨fault, hfault⟩ := hfails hreal
    cases hfault

/-- Whatever becomes of a task, what it runs is a part of its own program. -/
theorem exists_invocations_execute (r : Runner) (t : Task) (s : Session) :
    ∃ own, own.Sublist [(t.name, t.direction)] ∧
      ((r.execute t).exec s).2.invocations = s.invocations ++ own := by
  rcases invocations_execute r t s with hran | ⟨hnone, -⟩
  · exact ⟨_, List.Sublist.refl _, hran⟩
  · exact ⟨[], List.nil_sublist _, by rw [hnone, List.append_nil]⟩

end Runner

end SchemaMigration
