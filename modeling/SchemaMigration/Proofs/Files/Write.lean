import SchemaMigration.Proofs.Files.Tree
import SchemaMigration.Proofs.Text.Bytes

/-!
# What writing changes

A file that is written has its new content at the place that its path denotes, and the files
everywhere else stay as they are. Directories that are made on the way change no file at all.
-/

namespace SchemaMigration.Files

variable {f f' f'' : Files} {path : String} {place other : Place} {parts : List String}
  {node : Node} {content : List UInt8}

/-- The content of the file at a place, if there is one. -/
def content? (f : Files) (place : Place) : Option (List UInt8) :=
  match f.node? place with
  | some (.file content) => some content
  | _ => none

/-- One file came into being, and no other one changed. -/
def AddsOneFile (f f' : Files) : Prop :=
  ∃ place, f.content? place = none ∧ (f'.content? place).isSome ∧
    ∀ other, other ≠ place → f'.content? other = f.content? other

/-- There may be directories where nothing was; everything else is as it was. -/
def OnlyMakesDirectories (f f' : Files) : Prop :=
  ∀ place, f'.node? place = f.node? place ∨
    f.node? place = none ∧ f'.node? place = some .directory

theorem node?_here (f : Files) : f.node? [] = some .directory := by
  simp [node?]

/-! ### A node at a place -/

theorem lookup_map_of_ne (h : other ≠ place) (nodes : List (Place × Node)) :
    (nodes.map fun entry => if entry.1 = place then (place, node) else entry).lookup other =
      nodes.lookup other := by
  induction nodes with
  | nil => rfl
  | cons entry nodes ih =>
    rw [List.map_cons]
    split
    · rename_i hentry
      rw [List.lookup_cons, List.lookup_cons, ih, hentry, beq_false_of_ne h]
    · rw [List.lookup_cons, List.lookup_cons, ih]

theorem lookup_map_self {nodes : List (Place × Node)} (h : (nodes.lookup place).isSome) :
    (nodes.map fun entry => if entry.1 = place then (place, node) else entry).lookup place =
      some node := by
  induction nodes with
  | nil => cases h
  | cons entry nodes ih =>
    rw [List.map_cons]
    by_cases hentry : entry.1 = place
    · rw [if_pos hentry, List.lookup_cons, beq_self_eq_true]
    · have hne : (place == entry.1) = false := beq_false_of_ne (Ne.symm hentry)
      rw [List.lookup_cons, hne] at h
      rw [if_neg hentry, List.lookup_cons, hne]
      exact ih h

/-- What is put at a place is found there, and what is at other places stays. -/
theorem lookup_put (f : Files) (place other : Place) (node : Node) :
    (f.put place node).nodes.lookup other =
      if other = place then some node else f.nodes.lookup other := by
  unfold put
  by_cases hthere : (f.nodes.lookup place).isSome <;> by_cases hother : other = place
  · rw [if_pos hthere, if_pos hother, hother, lookup_map_self hthere]
  · rw [if_pos hthere, if_neg hother, lookup_map_of_ne hother]
  · rw [if_neg hthere, if_pos hother, hother, List.lookup_append,
      Option.not_isSome_iff_eq_none.1 hthere, List.lookup_cons, beq_self_eq_true]
    rfl
  · rw [if_neg hthere, if_neg hother, List.lookup_append, List.lookup_cons,
      beq_false_of_ne hother]
    exact Option.or_none

theorem node?_put (h : f.node? place ≠ some .directory) (node : Node) (other : Place) :
    (f.put place node).node? other = if other = place then some node else f.node? other := by
  have hhere : place ≠ [] := fun heq => h (heq ▸ f.node?_here)
  have hroot : place ≠ root := fun heq => h (heq ▸ f.node?_root)
  simp only [node?, lookup_put]
  split
  · rename_i hfixed
    rw [if_neg]
    rintro rfl
    simp [hhere, hroot] at hfixed
  · rfl

/-! ### Paths -/

/-- Paths lead where they led as long as all directories are still there. -/
theorem follow_of_directories
    (h : ∀ place, f.node? place = some .directory → f'.node? place = some .directory)
    (hfollow : f.follow place parts = .ok other) : f'.follow place parts = .ok other := by
  induction parts generalizing place with
  | nil => exact hfollow
  | cons part parts ih =>
    simp only [follow] at hfollow ⊢
    split at hfollow
    · cases hfollow
    · cases hfollow
    · rename_i hdirectory
      simp only [h place hdirectory]
      split_ifs at hfollow ⊢
      all_goals exact ih hfollow

theorem locate_of_directories
    (h : ∀ place, f.node? place = some .directory → f'.node? place = some .directory)
    (hlocate : f.locate path = .ok place) : f'.locate path = .ok place := by
  unfold locate at hlocate ⊢
  split at hlocate
  · cases hlocate
  · rename_i hnonempty
    rw [if_neg hnonempty]
    exact follow_of_directories h hlocate

/-! ### Directories on the way -/

namespace OnlyMakesDirectories

theorem refl (f : Files) : OnlyMakesDirectories f f := fun _ => .inl rfl

theorem trans (h : OnlyMakesDirectories f f') (h' : OnlyMakesDirectories f' f'') :
    OnlyMakesDirectories f f'' := by
  intro place
  rcases h place with hsame | ⟨hnone, hmade⟩
  · rw [← hsame]
    exact h' place
  · rcases h' place with hsame' | ⟨hnone', -⟩
    · exact .inr ⟨hnone, hsame'.trans hmade⟩
    · cases hnone'.symm.trans hmade

/-- No file is made, removed or written to. -/
theorem content?_eq (h : OnlyMakesDirectories f f') (place : Place) :
    f'.content? place = f.content? place := by
  rcases h place with hsame | ⟨hnone, hmade⟩
  · simp only [content?, hsame]
  · simp only [content?, hnone, hmade]

theorem makeDirectory {start : Place} (h : f.makeDirectory start parts = .ok f') :
    OnlyMakesDirectories f f' := by
  obtain ⟨place, -, h⟩ := except_bind_eq_ok.1 h
  split at h
  · cases h
  · rename_i hnone
    have hnone : f.node? place = none := Option.not_isSome_iff_eq_none.1 hnone
    cases h
    intro other
    rw [node?_put (by simp [hnone])]
    split
    · rename_i hother
      exact .inr ⟨hother ▸ hnone, rfl⟩
    · exact .inl rfl

theorem makeFirst (f : Files) (start : Place) (directories : List (List String)) :
    OnlyMakesDirectories f (f.makeFirst start directories).1 := by
  induction directories generalizing f with
  | nil => exact refl f
  | cons parts outer ih =>
    have houter := ih f
    unfold Files.makeFirst
    dsimp only
    split
    · rename_i hmake
      exact makeDirectory hmake
    · split
      · rename_i hfirst
        exact hfirst ▸ houter
      · rename_i hrest
        rw [hrest] at houter
        split
        · rename_i hmake
          exact houter.trans (makeDirectory hmake)
        · exact houter
    · exact refl f

theorem makeDirectories (f : Files) (path : String) :
    OnlyMakesDirectories f (f.makeDirectories path).1 := by
  unfold Files.makeDirectories
  split
  · exact refl f
  · exact makeFirst f _ _

end OnlyMakesDirectories

/-! ### Writing a file -/

theorem write_eq_ok : f.write path content = .ok f' ↔ ∃ place, f.locate path = .ok place ∧
    f.node? place ≠ some .directory ∧ f' = f.put place (.file content) := by
  unfold write
  rw [except_bind_eq_ok]
  refine exists_congr fun place => and_congr_right fun _ => ?_
  split
  · rename_i hdirectory
    simp [hdirectory]
  · rename_i hother
    constructor
    · rintro h
      cases h
      exact ⟨hother, rfl⟩
    · rintro ⟨-, rfl⟩
      rfl

/-- A file that is written is found at its place, and the files at other places stay. -/
theorem content?_of_write (h : f.write path content = .ok f') : ∃ place,
    f'.locate path = .ok place ∧ f'.content? place = some content ∧
      ∀ other, other ≠ place → f'.content? other = f.content? other := by
  obtain ⟨place, hplace, hnode, rfl⟩ := write_eq_ok.1 h
  have hput := node?_put hnode (.file content)
  refine ⟨place, locate_of_directories (fun other hother => ?_) hplace, ?_, fun other hother => ?_⟩
  · rw [hput, if_neg, hother]
    rintro rfl
    exact hnode hother
  · simp only [content?, hput, if_true]
  · simp only [content?, hput, if_neg hother]

theorem read_eq_ok : f.read path = .ok content ↔
    ∃ place, f.locate path = .ok place ∧ f.content? place = some content := by
  unfold read
  rw [except_bind_eq_ok]
  simp only [find_eq_ok, content?]
  constructor
  · rintro ⟨node, ⟨place, hplace, hnode⟩, hcontent⟩
    refine ⟨place, hplace, ?_⟩
    rw [hnode]
    cases node with
    | file found =>
      cases hcontent
      rfl
    | directory => cases hcontent
  · rintro ⟨place, hplace, hcontent⟩
    split at hcontent
    · rename_i found hnode
      cases hcontent
      exact ⟨_, ⟨place, hplace, hnode⟩, rfl⟩
    · cases hcontent

/-- A text is read as it was written. -/
theorem readText_of_content? {text : String} (hplace : f.locate path = .ok place)
    (hcontent : f.content? place = some text.toUTF8.toList) : f.readText path = .ok text := by
  have hread : f.read path = .ok text.toUTF8.toList := read_eq_ok.2 ⟨place, hplace, hcontent⟩
  unfold readText
  rw [hread]
  dsimp only [Bind.bind, Except.bind]
  rw [Text.fromUTF8?_toList]
  rfl

end SchemaMigration.Files
