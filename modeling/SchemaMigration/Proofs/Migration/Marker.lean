import SchemaMigration.Migration.SectionFile
import SchemaMigration.Proofs.Text.Blank
import SchemaMigration.Proofs.Text.LowerCase

/-!
# Lines that start sections

A line starts a section if it is, in any case and between blanks, two hyphens and the word for a
direction, after which there is nothing, a colon or the word for migrations. Such a line is a
comment, and it starts a section for one direction only.
-/

namespace SchemaMigration

open Text

theorem dropStart?_eq_some {start text rest : List Char} :
    dropStart? start text = some rest ↔ text = start ++ rest := by
  induction start generalizing text with
  | nil => simp [dropStart?]
  | cons c start ih =>
    cases text with
    | nil => simp [dropStart?]
    | cons d text =>
      rw [dropStart?]
      split
      · next h => simp [ih, h]
      · next h => simp [Ne.symm h]

namespace SectionFile

variable {direction : Direction} {line rest : List Char}

/-- What may follow the word for a direction: blanks, a colon, or the word for migrations. -/
inductive EndsMarker : List Char → Prop where
  /-- Nothing but blanks follows. -/
  | blank {rest : List Char} (blanks : ∀ c ∈ rest, isBlank c = true) : EndsMarker rest
  /-- A colon follows. -/
  | colon (rest : List Char) : EndsMarker (':' :: rest)
  /-- The word for migrations follows, perhaps after blanks. -/
  | word {blanks : List Char} (before : ∀ c ∈ blanks, isBlank c = true) (rest : List Char) :
      EndsMarker (blanks ++ "migration".toList ++ rest)

/-- A line starts a section for a direction. -/
inductive IsMarker (direction : Direction) (line : List Char) : Prop where
  /-- Two hyphens, perhaps blanks, the word for the direction, and what may follow it. -/
  | intro (blanks rest : List Char) (before : ∀ c ∈ blanks, isBlank c = true)
      (after : EndsMarker rest)
      (eq : lowerChars (trim line) = ['-', '-'] ++ (blanks ++ (direction.name.toList ++ rest)))

theorem marks_eq_true {comment : List Char} : marks comment direction = true ↔
    ∃ rest, comment = direction.name.toList ++ rest ∧
      (rest = [] ∨ rest.head? = some ':' ∨ "migration".toList <+: trimStart rest) := by
  unfold marks
  cases hdrop : dropStart? direction.name.toList comment with
  | none =>
    refine ⟨nofun, ?_⟩
    rintro ⟨rest, hrest, -⟩
    cases hdrop.symm.trans (dropStart?_eq_some.2 hrest)
  | some rest =>
    rw [dropStart?_eq_some] at hdrop
    subst hdrop
    simp [startsWith, or_assoc]

/-- What may follow the word for a direction is recognized without the blanks at its end. -/
theorem EndsMarker.trimEnd (h : EndsMarker rest) :
    trimEnd rest = [] ∨ (trimEnd rest).head? = some ':' ∨
      "migration".toList <+: trimStart (trimEnd rest) := by
  cases h with
  | blank blanks => exact .inl (trimEnd_eq_nil blanks)
  | colon rest =>
    have hcolon : Text.trimEnd (':' :: rest) = ':' :: Text.trimEnd rest :=
      trimEnd_append_cons (by decide) [] rest
    exact .inr (.inl (by rw [hcolon, List.head?_cons]))
  | @word blanks before rest =>
    have hword : Text.trimEnd (blanks ++ "migration".toList ++ rest) =
        blanks ++ ("migration".toList ++ Text.trimEnd rest) := by
      have hend : isBlank 'n' = false := by decide
      simpa using trimEnd_append_cons hend (blanks ++ "migratio".toList) rest
    rw [hword, trimStart_append_of_blank before]
    exact .inr (.inr ⟨_, (trimStart_cons_of_not_blank (by decide) _).symm⟩)

/-- Blanks may stand behind what is recognized. -/
theorem EndsMarker.append_blank {blanks : List Char} (hblanks : ∀ c ∈ blanks, isBlank c = true)
    (h : rest = [] ∨ rest.head? = some ':' ∨ "migration".toList <+: trimStart rest) :
    EndsMarker (rest ++ blanks) := by
  rcases h with rfl | hcolon | ⟨behind, hword⟩
  · exact .blank hblanks
  · obtain ⟨behind, rfl⟩ := List.head?_eq_some_iff.1 hcolon
    exact .colon (behind ++ blanks)
  · obtain ⟨front, hfront, hrest⟩ := exists_trimStart rest
    rw [← hword] at hrest
    have hsplit : rest ++ blanks = front ++ "migration".toList ++ (behind ++ blanks) := by
      rw [hrest]
      simp only [List.append_assoc]
    rw [hsplit]
    exact .word hfront _

/-- A name begins and ends with a letter, so it is not trimmed. -/
theorem trim_name_append (direction : Direction) (rest : List Char) :
    trim (direction.name.toList ++ rest) = direction.name.toList ++ trimEnd rest := by
  cases direction with
  | up =>
    have hstart : trimStart ("up".toList ++ rest) = ['u'] ++ 'p' :: rest :=
      trimStart_cons_of_not_blank (by decide) _
    exact (congrArg trimEnd hstart).trans (trimEnd_append_cons (by decide) _ _)
  | down =>
    have hstart : trimStart ("down".toList ++ rest) = ['d', 'o', 'w'] ++ 'n' :: rest :=
      trimStart_cons_of_not_blank (by decide) _
    exact (congrArg trimEnd hstart).trans (trimEnd_append_cons (by decide) _ _)

/-- A trimmed comment marks a direction just if it names it between blanks. -/
theorem marks_trim {text : List Char} : marks (trim text) direction = true ↔
    ∃ blanks rest, (∀ c ∈ blanks, isBlank c = true) ∧ EndsMarker rest ∧
      text = blanks ++ (direction.name.toList ++ rest) := by
  rw [marks_eq_true]
  constructor
  · rintro ⟨rest, hname, hrest⟩
    obtain ⟨front, hfront, htext⟩ := exists_trimStart text
    obtain ⟨back, hback, hstart⟩ := exists_trimEnd (trimStart text)
    have htrim : trimEnd (trimStart text) = direction.name.toList ++ rest := hname
    refine ⟨front, rest ++ back, hfront, .append_blank hback hrest, ?_⟩
    rw [htext, hstart, htrim, List.append_assoc]
  · rintro ⟨blanks, rest, hblanks, hrest, rfl⟩
    refine ⟨trimEnd rest, ?_, hrest.trimEnd⟩
    rw [← trim_name_append, trim, trimStart_append_of_blank hblanks, trim]

/-- A comment marks one direction only. -/
theorem marks_unique {comment : List Char} (hup : marks comment .up = true) :
    marks comment .down = false := by
  obtain ⟨rest, rfl, -⟩ := marks_eq_true.1 hup
  rfl

theorem isMarker_iff : IsMarker direction line ↔
    ∃ comment, comment? line = some comment ∧ marks comment direction = true := by
  simp only [comment?, Option.map_eq_some_iff, dropStart?_eq_some]
  constructor
  · rintro ⟨blanks, rest, before, after, eq⟩
    exact ⟨_, ⟨_, eq, rfl⟩, marks_trim.2 ⟨blanks, rest, before, after, rfl⟩⟩
  · rintro ⟨comment, ⟨text, heq, rfl⟩, hmarks⟩
    obtain ⟨blanks, rest, before, after, rfl⟩ := marks_trim.1 hmarks
    exact ⟨blanks, rest, before, after, heq⟩

/-- A line starts a section just as it is written. -/
theorem marker?_eq_some : marker? line = some direction ↔ IsMarker direction line := by
  rw [isMarker_iff, marker?]
  cases hcomment : comment? line with
  | none => simp
  | some comment =>
    cases hup : marks comment .up with
    | true => cases direction <;> simp [hup, marks_unique hup]
    | false =>
      cases hdown : marks comment .down <;> cases direction <;> simp [hup, hdown]

instance (direction : Direction) : DecidablePred (IsMarker direction) := fun _ =>
  decidable_of_iff _ marker?_eq_some

theorem marker?_eq_none : marker? line = none ↔ ∀ direction, ¬IsMarker direction line := by
  simp only [← marker?_eq_some]
  cases marker? line <;> simp

/-- A line that starts a section is a comment. -/
theorem IsMarker.hyphens (h : IsMarker direction line) : ['-', '-'] <+: trim line := by
  obtain ⟨blanks, rest, -, -, heq⟩ := h
  exact hyphens_of_lowerChars heq

end SectionFile

end SchemaMigration
