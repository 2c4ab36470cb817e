import SchemaMigration.Proofs.Files.Path
import SchemaMigration.Proofs.Text.LowerCase
import SchemaMigration.Proofs.Text.Lines

/-!
# Words of names

The words of a name stand between underscores, hyphens and points in its lower case. An underscore
ends a word: what stands on one side of it does not change the lower case of the other side. A point
does not, since a letter behind it can make a capital sigma in front of it stand inside a word.
-/

namespace SchemaMigration.Text

variable {c : Char} {text rest before after : List Char}

/-- Whether a character ends a name's word. -/
def cutsWords (c : Char) : Bool :=
  c == '_' || c == '-' || c == '.'

/-- The words of a name in lower case. -/
def nameWords (name : String) : List (List Char) :=
  splitFrom cutsWords [] (lowerChars name.toList)

/-! ### Lower case on both sides of an underscore -/

theorem isCaseIgnorable_underscore : isCaseIgnorable '_' = false := by
  decide +kernel

theorem isCased_underscore : isCased '_' = false := by
  decide +kernel

/-- What stands behind an underscore is not looked at. -/
theorem meetsCased_append_underscore (text rest : List Char) :
    meetsCased (text ++ '_' :: rest) = meetsCased text := by
  induction text with
  | nil => simp [meetsCased, isCaseIgnorable_underscore, isCased_underscore]
  | cons c text ih =>
    by_cases hc : isCaseIgnorable c = true
    · simpa only [meetsCased, List.cons_append, List.dropWhile_cons, hc, if_true] using ih
    · simp only [meetsCased, List.cons_append, List.dropWhile_cons, hc, Bool.false_eq_true,
        if_false]

/-- The lower case of a text does not depend on what stands in front of an underscore. -/
theorem lowerFrom_underscore (before : List Char) (read : List Char) (text : List Char) :
    lowerFrom (read ++ '_' :: before) text = lowerFrom read text := by
  induction text generalizing read with
  | nil => rfl
  | cons c text ih =>
    rw [lowerFrom, lowerFrom, endsWord, endsWord, meetsCased_append_underscore, ← List.cons_append,
      ih]

theorem lowerFrom_append_underscore (text rest before : List Char) :
    lowerFrom before (text ++ '_' :: rest) = lowerFrom before text ++ '_' :: lowerChars rest := by
  induction text generalizing before with
  | nil => exact congrArg ('_' :: ·) (lowerFrom_underscore before [] rest)
  | cons c text ih =>
    rw [List.cons_append, lowerFrom, lowerFrom, ih, endsWord, endsWord,
      meetsCased_append_underscore, List.append_assoc]

/-- The lower case of pieces joined by underscores is that of the pieces, joined again. -/
theorem lowerChars_joinChars (pieces : List (List Char)) :
    lowerChars (joinChars ['_'] pieces) = joinChars ['_'] (pieces.map lowerChars) := by
  induction pieces with
  | nil => rfl
  | cons piece pieces ih =>
    by_cases hne : pieces = []
    · rw [hne]
      rfl
    · rw [List.map_cons, joinChars_cons_of_ne_nil _ hne, joinChars_cons_of_ne_nil _ (by simpa),
        List.append_assoc, List.append_assoc, ← ih]
      exact lowerFrom_append_underscore piece _ []

/-! ### Cutting and joining -/

theorem splitFrom_ne_nil (cut : Char → Bool) (read text : List Char) :
    splitFrom cut read text ≠ [] := by
  induction text generalizing read with
  | nil => exact List.cons_ne_nil _ _
  | cons c text ih =>
    rw [splitFrom]
    split
    · exact List.cons_ne_nil _ _
    · exact ih _

/-- Joining undoes cutting. -/
theorem joinChars_splitAt (c : Char) (text : List Char) :
    joinChars [c] (splitAt c text) = text := by
  have hfrom (read : List Char) :
      joinChars [c] (splitFrom (· == c) read text) = read.reverse ++ text := by
    induction text generalizing read with
    | nil => simp [splitFrom, joinChars]
    | cons first text ih =>
      rw [splitFrom]
      split
      · next hcut =>
        rw [joinChars_cons_of_ne_nil _ (splitFrom_ne_nil _ _ _), ih, eq_of_beq hcut]
        simp
      · rw [ih, List.reverse_cons, List.append_assoc, List.singleton_append]
  exact hfrom []

/-- The pieces of a join are those of what was joined, if it was joined by a cut. -/
theorem splitFrom_joinChars {cut : Char → Bool} (hc : cut c = true) {pieces : List (List Char)}
    (hne : pieces ≠ []) :
    splitFrom cut [] (joinChars [c] pieces) = pieces.flatMap (splitFrom cut []) := by
  induction pieces with
  | nil => exact absurd rfl hne
  | cons piece pieces ih =>
    by_cases hlast : pieces = []
    · simp [hlast, joinChars]
    · rw [joinChars_cons_of_ne_nil _ hlast, List.append_assoc, List.singleton_append,
        splitFrom_append_cons hc, ih hlast, List.flatMap_cons]

/-- With underscores for hyphens and points, what stands between underscores is what stood between
any of them. -/
theorem splitAt_map_underscore (text : List Char) :
    splitAt '_' (text.map fun c => if c = '-' ∨ c = '.' then '_' else c) =
      splitFrom cutsWords [] text := by
  have hfrom (read : List Char) :
      splitFrom (· == '_') read (text.map fun c => if c = '-' ∨ c = '.' then '_' else c) =
        splitFrom cutsWords read text := by
    induction text generalizing read with
    | nil => rfl
    | cons c text ih =>
      rw [List.map_cons, splitFrom, splitFrom]
      by_cases hsign : c = '-' ∨ c = '.'
      · have hcut : cutsWords c = true := by
          rcases hsign with rfl | rfl <;> rfl
        rw [if_pos hsign, if_pos hcut, ih]
        rfl
      · obtain ⟨hhyphen, hpoint⟩ := not_or.1 hsign
        have hcut : cutsWords c = (c == '_') := by
          rw [cutsWords, beq_false_of_ne hhyphen, beq_false_of_ne hpoint, Bool.or_false,
            Bool.or_false]
        rw [if_neg hsign, hcut, ih, ih]
  exact hfrom []

theorem mem_joinChars {separator : List Char} {pieces : List (List Char)} {c : Char}
    (h : c ∈ joinChars separator pieces) : c ∈ separator ∨ ∃ piece ∈ pieces, c ∈ piece := by
  induction pieces with
  | nil => cases h
  | cons piece pieces ih =>
    by_cases hne : pieces = []
    · rw [hne] at h
      exact .inr ⟨piece, List.mem_cons_self, h⟩
    · rw [joinChars_cons_of_ne_nil _ hne, List.mem_append, List.mem_append] at h
      rcases h with (h | h) | h
      · exact .inr ⟨piece, List.mem_cons_self, h⟩
      · exact .inl h
      · rcases ih h with h | ⟨piece, hpiece, h⟩
        · exact .inl h
        · exact .inr ⟨piece, List.mem_cons_of_mem _ hpiece, h⟩

theorem toList_join (separator : String) (pieces : List String) :
    (join separator pieces).toList = joinChars separator.toList (pieces.map String.toList) := by
  rw [join, String.toList_intercalate]
  induction pieces with
  | nil => rfl
  | cons piece pieces ih =>
    cases pieces with
    | nil => exact List.intercalate_singleton
    | cons next pieces =>
      rw [List.map_cons, List.map_cons, List.intercalate_cons_cons, joinChars, ← List.map_cons, ih]
      exact List.cons_ne_nil _ _

end SchemaMigration.Text
