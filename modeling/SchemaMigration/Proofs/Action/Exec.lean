import SchemaMigration.Runner.Session

/-!
# What actions return and leave

`Action.exec` carries an action out on a session and keeps the session also when the action ends
early. There is one equation for each way of building actions, so that longer actions can be
carried out step by step.
-/

namespace SchemaMigration

/-- The session with more entries at the end of its journal. -/
def Session.journaled (s : Session) (entries : List Entry) : Session :=
  { s with journal := s.journal ++ entries }

namespace Session

@[simp] theorem store_journaled (s : Session) (entries : List Entry) :
    (s.journaled entries).store = s.store := rfl

@[simp] theorem files_journaled (s : Session) (entries : List Entry) :
    (s.journaled entries).files = s.files := rfl

@[simp] theorem journal_journaled (s : Session) (entries : List Entry) :
    (s.journaled entries).journal = s.journal ++ entries := rfl

@[simp] theorem journaled_nil (s : Session) : s.journaled [] = s := by
  simp [journaled]

@[simp] theorem journaled_journaled (s : Session) (first second : List Entry) :
    (s.journaled first).journaled second = s.journaled (first ++ second) := by
  simp [journaled]

end Session

theorem mapError_ok {ε ε' α : Type} (f : ε → ε') (x : α) :
    (Except.ok x : Except ε α).mapError f = .ok x := rfl

theorem mapError_error {ε ε' α : Type} (f : ε → ε') (e : ε) :
    (Except.error e : Except ε α).mapError f = .error (f e) := rfl

namespace Action

variable {α β : Type}

/-- What an action returns, and the session that it leaves. -/
def exec (a : Action α) (s : Session) : Except Fault α × Session :=
  a.run.run s

@[simp] theorem exec_pure (x : α) (s : Session) : (pure x : Action α).exec s = (.ok x, s) := rfl

@[simp] theorem exec_throw (fault : Fault) (s : Session) :
    (throw fault : Action α).exec s = (.error fault, s) := rfl

@[simp] theorem exec_fail (e : Error) (s : Session) :
    (fail e : Action α).exec s = (.error (.failed e), s) := rfl

@[simp] theorem exec_get (s : Session) : (get : Action Session).exec s = (.ok s, s) := rfl

@[simp] theorem exec_modify (f : Session → Session) (s : Session) :
    (modify f : Action Unit).exec s = (.ok (), f s) := rfl

/-- The second action is carried out where the first one returned, and only then. -/
@[simp] theorem exec_bind (a : Action α) (f : α → Action β) (s : Session) :
    (a >>= f).exec s =
      match a.exec s with
      | (.ok x, s') => (f x).exec s'
      | (.error fault, s') => (.error fault, s') := by
  unfold exec
  rcases h : a.run.run s with ⟨fault | x, s'⟩ <;>
    simp only [ExceptT.run_bind, StateT.run_bind, h] <;> rfl

@[simp] theorem exec_ite {c : Prop} [Decidable c] (a b : Action α) (s : Session) :
    (if c then a else b).exec s = if c then a.exec s else b.exec s := by
  split <;> rfl

@[simp] theorem exec_map (f : α → β) (a : Action α) (s : Session) :
    (f <$> a).exec s = ((a.exec s).1.map f, (a.exec s).2) := by
  rw [map_eq_pure_bind, exec_bind]
  rcases a.exec s with ⟨fault | x, s'⟩ <;> rfl

@[simp] theorem exec_resume (x : Except Fault α) (s : Session) :
    (resume x).exec s = (x, s) := by
  cases x <;> rfl

@[simp] theorem exec_orFail (x : Except Error α) (s : Session) :
    (orFail x).exec s = (x.mapError .failed, s) := by
  cases x <;> rfl

@[simp] theorem exec_read (f : Store → Except Fault α) (s : Session) :
    (read f).exec s = (f s.store, s) := by
  simp [read]

@[simp] theorem exec_inspectFiles (f : Files → Except Error α) (s : Session) :
    (inspectFiles f).exec s = ((f s.files).mapError .failed, s) := by
  simp [inspectFiles]

@[simp] theorem exec_changeFiles (path : String) (f : Files → Except FileProblem Files)
    (s : Session) :
    (changeFiles path f).exec s =
      match f s.files with
      | .ok files => (.ok (), { s with files })
      | .error problem => (.error (.failed (.io path problem)), s) := by
  rcases h : f s.files with problem | files <;>
    simp only [changeFiles, exec_bind, exec_get, h] <;> rfl

/-- What was made is there also if a problem arose. -/
@[simp] theorem exec_makeDirectories (path : String) (s : Session) :
    (makeDirectories path).exec s =
      (match (s.files.makeDirectories path).2 with
        | none => .ok ()
        | some problem => .error (.failed (.io path problem)),
        { s with files := (s.files.makeDirectories path).1 }) := by
  rcases h : s.files.makeDirectories path with ⟨files, _ | problem⟩ <;>
    simp only [makeDirectories, exec_bind, exec_get, h] <;> rfl

@[simp] theorem exec_now (s : Session) :
    now.exec s = (.ok s.clock, { s with clock := s.clock.next }) := rfl

@[simp] theorem exec_note (entry : Entry) (s : Session) :
    (note entry).exec s = (.ok (), s.journaled [entry]) := rfl

@[simp] theorem exec_advance (f : Progress → Progress) (s : Session) :
    (advance f).exec s = (.ok (), { s with progress := f s.progress }) := rfl

@[simp] theorem exec_change (c : Change α) (s : Session) :
    (change c).exec s =
      match c s.store with
      | .ok (x, store) => (.ok x, { s with store })
      | .error fault => (.error fault, s) := by
  rcases h : c s.store with fault | ⟨x, store⟩ <;>
    simp only [change, exec_bind, exec_get, h] <;> rfl

@[simp] theorem exec_runProgram (limit : Option Nat) (program : Program α) (s : Session) :
    (runProgram limit program).exec s =
      (.ok (program.run limit s.store).1, { s with store := (program.run limit s.store).2 }) := rfl

@[simp] theorem exec_runFully (program : Program α) (s : Session) :
    (runFully program).exec s =
      ((program.runFully s.store).1, { s with store := (program.runFully s.store).2 }) := by
  simp [runFully]

/-- An error is caught, an overflow is not. -/
@[simp] theorem exec_attempt (a : Action α) (s : Session) :
    (attempt a).exec s =
      match a.exec s with
      | (.ok x, s') => (.ok (.ok x), s')
      | (.error (.failed e), s') => (.ok (.error e), s')
      | (.error .overflow, s') => (.error .overflow, s') := by
  have caught (f : Fault → Action (Except Error α)) (b : Action (Except Error α)) :
      (tryCatch b f).exec s =
        match b.exec s with
        | (.ok x, s') => (.ok x, s')
        | (.error fault, s') => (f fault).exec s' := by
    unfold exec
    rcases h : b.run.run s with ⟨fault | x, s'⟩ <;>
      simp only [ExceptT.run_tryCatch, StateT.run_bind, h] <;> rfl
  rw [attempt, caught, exec_bind]
  rcases a.exec s with ⟨(e | _) | x, s'⟩ <;> rfl

/-- The error of an action that is part of a migration names the migration. -/
@[simp] theorem exec_inMigration (migration : String) (a : Action α) (s : Session) :
    (inMigration migration a).exec s =
      match a.exec s with
      | (.ok x, s') => (.ok x, s')
      | (.error (.failed e), s') => (.error (.failed (e.inMigration migration)), s')
      | (.error .overflow, s') => (.error .overflow, s') := by
  rw [inMigration, exec_bind, exec_attempt]
  rcases a.exec s with ⟨(e | _) | x, s'⟩ <;> rfl

@[simp] theorem exec_forM_note {γ : Type} (entry : γ → Entry) (items : List γ) (s : Session) :
    Action.exec (forM items fun item => note (entry item)) s =
      (.ok (), s.journaled (items.map entry)) := by
  induction items generalizing s with
  | nil => simp
  | cons item rest ih => simp [ih]

/-- An action returns if and only if its first part returns and then the second one does. -/
theorem exec_bind_eq_ok {a : Action α} {f : α → Action β} {s s' : Session} {y : β} :
    (a >>= f).exec s = (.ok y, s') ↔
      ∃ x s₁, a.exec s = (.ok x, s₁) ∧ (f x).exec s₁ = (.ok y, s') := by
  rw [exec_bind]
  constructor
  · rcases a.exec s with ⟨fault | x, s₁⟩ <;> intro h
    · simp at h
    · exact ⟨x, s₁, rfl, h⟩
  · rintro ⟨x, s₁, ha, hf⟩
    simp [ha, hf]

theorem exec_map_eq_ok {f : α → β} {a : Action α} {s s' : Session} {y : β} :
    (f <$> a).exec s = (.ok y, s') ↔ ∃ x, a.exec s = (.ok x, s') ∧ f x = y := by
  rw [map_eq_pure_bind, exec_bind_eq_ok]
  constructor
  · rintro ⟨x, s₁, ha, hy⟩
    obtain ⟨hx, rfl⟩ := Prod.mk.inj hy
    exact ⟨x, ha, Except.ok.inj hx⟩
  · rintro ⟨x, ha, rfl⟩
    exact ⟨x, s', ha, rfl⟩

end Action

end SchemaMigration
