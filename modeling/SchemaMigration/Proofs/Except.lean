/-!
# Outcomes in sequence

Two steps of which each may fail succeed just if both do, and fail where the first one fails that
does.
-/

namespace SchemaMigration

variable {ε α β : Type} {x : Except ε α} {f : α → Except ε β}

theorem except_bind_eq_ok {y : β} : (x >>= f) = .ok y ↔ ∃ a, x = .ok a ∧ f a = .ok y := by
  cases x <;> simp [Bind.bind, Except.bind]

theorem except_bind_eq_error {e : ε} :
    (x >>= f) = .error e ↔ x = .error e ∨ ∃ a, x = .ok a ∧ f a = .error e := by
  cases x <;> simp [Bind.bind, Except.bind]

theorem exists_bind_pure_eq_ok {g : α → β} :
    (∃ y, (x >>= fun a => pure (g a)) = .ok y) ↔ ∃ a, x = .ok a := by
  cases x <;> simp [Bind.bind, Except.bind, Pure.pure, Except.pure]

/-- What comes of a list item by item comes of its items. -/
theorem exists_of_mem_mapM {xs : List α} {ys : List β} (h : xs.mapM f = .ok ys) :
    ∀ y ∈ ys, ∃ a ∈ xs, f a = .ok y := by
  induction xs generalizing ys with
  | nil =>
    cases h
    simp
  | cons a xs ih =>
    rw [List.mapM_cons, except_bind_eq_ok] at h
    obtain ⟨first, hfirst, h⟩ := h
    obtain ⟨rest, hrest, h⟩ := except_bind_eq_ok.1 h
    cases h
    intro y hy
    rcases List.mem_cons.1 hy with rfl | hy
    · exact ⟨a, List.mem_cons_self, hfirst⟩
    · obtain ⟨b, hb, hmade⟩ := ih hrest y hy
      exact ⟨b, List.mem_cons_of_mem a hb, hmade⟩

/-- Each item of a list has come to something. -/
theorem exists_mem_of_mapM {xs : List α} {ys : List β} (h : xs.mapM f = .ok ys) :
    ∀ a ∈ xs, ∃ y ∈ ys, f a = .ok y := by
  induction xs generalizing ys with
  | nil => exact nofun
  | cons a xs ih =>
    rw [List.mapM_cons, except_bind_eq_ok] at h
    obtain ⟨first, hfirst, h⟩ := h
    obtain ⟨rest, hrest, h⟩ := except_bind_eq_ok.1 h
    cases h
    intro b hb
    rcases List.mem_cons.1 hb with rfl | hb
    · exact ⟨first, List.mem_cons_self, hfirst⟩
    · obtain ⟨y, hy, hmade⟩ := ih hrest b hb
      exact ⟨y, List.mem_cons_of_mem first hy, hmade⟩

theorem exists_mapM_eq_ok {xs : List α} (h : ∀ a ∈ xs, ∃ y, f a = .ok y) :
    ∃ ys, xs.mapM f = .ok ys := by
  induction xs with
  | nil => exact ⟨[], rfl⟩
  | cons a xs ih =>
    obtain ⟨first, hfirst⟩ := h a List.mem_cons_self
    obtain ⟨rest, hrest⟩ := ih fun b hb => h b (List.mem_cons_of_mem a hb)
    exact ⟨first :: rest, by rw [List.mapM_cons, hfirst, hrest]; rfl⟩

theorem toOption_bind_pure {g : α → β} :
    (x >>= fun a => pure (g a)).toOption = x.toOption.map g := by
  cases x <;> rfl

/-- If each item of a list and its image succeed alike, so do the list and its image. -/
theorem toOption_mapM_map {γ : Type} {image : α → γ} {g : γ → Except ε β} {erase : β → β}
    (h : ∀ a, (g (image a)).toOption = (f a).toOption.map erase) (xs : List α) :
    ((xs.map image).mapM g).toOption = (xs.mapM f).toOption.map (List.map erase) := by
  induction xs with
  | nil => rfl
  | cons a xs ih =>
    rw [List.map_cons, List.mapM_cons, List.mapM_cons]
    have ha := h a
    cases hf : f a with
    | error e =>
      rw [hf] at ha
      cases hg : g (image a) with
      | error e' => rfl
      | ok y =>
        rw [hg] at ha
        cases ha
    | ok y =>
      rw [hf] at ha
      cases hg : g (image a) with
      | error e =>
        rw [hg] at ha
        cases ha
      | ok z =>
        rw [hg] at ha
        obtain rfl : z = erase y := Option.some.inj ha
        change Except.toOption (_ >>= fun rest => pure (erase y :: rest)) =
          (Except.toOption (_ >>= fun rest => pure (y :: rest))).map _
        rw [toOption_bind_pure, toOption_bind_pure, ih, Option.map_map, Option.map_map]
        rfl

end SchemaMigration
