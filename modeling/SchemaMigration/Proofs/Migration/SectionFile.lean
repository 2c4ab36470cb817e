import SchemaMigration.Proofs.Migration.Marker

/-!
# Reading section files

A section file is read as it was written: the statements of a direction are the lines of its
sections, one after another, wherever blank lines and comments stand between them, whether lines
end with line feeds or with carriage returns and line feeds, and whatever stands before the first
section. A file is rejected just if no line starts a section that applies the migration.
-/

namespace SchemaMigration

open Text

namespace SectionFile

variable {direction : Direction} {line : List Char}

/-- A line with statements on it, which is read as it is written. -/
structure IsStatement (line : List Char) : Prop where
  whole : '\n' ∉ line
  returnless : line.getLast? ≠ some '\r'
  nonblank : trim line ≠ []
  uncommented : ¬['-', '-'] <+: trim line

instance : DecidablePred IsStatement := fun line =>
  decidable_of_iff ('\n' ∉ line ∧ line.getLast? ≠ some '\r' ∧ trim line ≠ [] ∧
      ¬['-', '-'] <+: trim line)
    ⟨fun ⟨whole, returnless, nonblank, uncommented⟩ =>
      ⟨whole, returnless, nonblank, uncommented⟩,
      fun h => ⟨h.whole, h.returnless, h.nonblank, h.uncommented⟩⟩

/-- A line that is passed over: it is blank, or a comment that does not start a section. -/
def IsPassedOver (line : List Char) : Prop :=
  trim line = [] ∨ ['-', '-'] <+: trim line ∧ ∀ direction, ¬IsMarker direction line

instance : DecidablePred IsPassedOver := fun _ =>
  decidable_of_iff (_ ∨ _ ∧ marker? _ = none) (or_congr_right (and_congr_right' marker?_eq_none))

/-- A section of a file: the line that starts it, and lines of statements. -/
structure Section where
  /-- The direction. -/
  direction : Direction
  /-- The line that starts the section. -/
  marker : List Char
  /-- The lines of statements. -/
  body : List (List Char)
  isMarker : IsMarker direction marker
  isStatement : ∀ line ∈ body, IsStatement line

/-- The lines of a section. -/
def Section.lines (s : Section) : List (List Char) :=
  s.marker :: s.body

/-- The lines of statements in the sections for a direction, in the order of the sections. -/
def bodyLines (direction : Direction) (sections : List Section) : List (List Char) :=
  (sections.filter (·.direction = direction)).flatMap (·.body)

/-- Lines between which other ones were put that are passed over. -/
inductive Padded : List (List Char) → List (List Char) → Prop where
  /-- No lines. -/
  | nil : Padded [] []
  /-- A line is kept. -/
  | keep {lines file : List (List Char)} (line : List Char) (rest : Padded lines file) :
      Padded (line :: lines) (line :: file)
  /-- A line is put in. -/
  | insert {line : List Char} {lines file : List (List Char)} (passed : IsPassedOver line)
      (rest : Padded lines file) : Padded lines (line :: file)

theorem isStatementLine_eq_true : isStatementLine line = true ↔
    trim line ≠ [] ∧ ¬['-', '-'] <+: trim line := by
  rw [isStatementLine, startsWith, Bool.and_eq_true, Bool.not_eq_true', Bool.not_eq_true',
    ← List.isPrefixOf_iff_prefix, Bool.not_eq_true, List.isEmpty_eq_false_iff]

theorem IsStatement.marker? (h : IsStatement line) : marker? line = none :=
  marker?_eq_none.2 fun _ hmarker => h.uncommented hmarker.hyphens

theorem IsPassedOver.marker? (h : IsPassedOver line) : marker? line = none := by
  refine marker?_eq_none.2 fun direction hmarker => ?_
  rcases h with hblank | ⟨-, hnone⟩
  · have hprefix := hmarker.hyphens
    rw [hblank, List.prefix_nil] at hprefix
    cases hprefix
  · exact hnone direction hmarker

theorem IsPassedOver.isStatementLine (h : IsPassedOver line) : isStatementLine line = false := by
  rw [← Bool.not_eq_true, isStatementLine_eq_true]
  rintro ⟨hnonblank, huncommented⟩
  rcases h with hblank | ⟨hcomment, -⟩
  · exact hnonblank hblank
  · exact huncommented hcomment

theorem marker?_congr {other : List Char} (h : trim other = trim line) :
    SectionFile.marker? other = SectionFile.marker? line := by
  simp only [SectionFile.marker?, comment?, h]

theorem isStatementLine_congr {other : List Char} (h : trim other = trim line) :
    isStatementLine other = isStatementLine line := by
  simp only [isStatementLine, h]

/-- A line that is read differs from what was written only in blanks at its end. -/
theorem trim_read {found : List Char} (h : found = line ∨ found = dropReturn line) :
    trim found = trim line := by
  rcases h with rfl | rfl
  · rfl
  · exact trim_dropReturn line

section StatementLines

variable {start : Option Direction} {rest : List (List Char)}

theorem statementLines_of_marker (h : marker? line = some direction) :
    statementLines start (line :: rest) = statementLines (some direction) rest := by
  simp only [statementLines, h]

theorem statementLines_of_outside (h : marker? line = none) :
    statementLines none (line :: rest) = statementLines none rest := by
  simp only [statementLines, h]

theorem statementLines_of_inside (h : marker? line = none) :
    statementLines (some direction) (line :: rest) =
      if isStatementLine line then (direction, line) :: statementLines (some direction) rest
      else statementLines (some direction) rest := by
  simp only [statementLines, h]

theorem statementLines_of_passedOver (h : IsPassedOver line) :
    statementLines start (line :: rest) = statementLines start rest := by
  cases start with
  | none => exact statementLines_of_outside h.marker?
  | some direction =>
    rw [statementLines_of_inside h.marker?, h.isStatementLine, if_neg Bool.false_ne_true]

/-- Lines without one that starts a section have statements only behind one that does. -/
theorem statementLines_preamble {preamble : List (List Char)}
    (h : ∀ line ∈ preamble, ∀ direction, ¬IsMarker direction line) :
    statementLines none (preamble ++ rest) = statementLines none rest := by
  induction preamble with
  | nil => rfl
  | cons line preamble ih =>
    rw [List.cons_append, statementLines_of_outside (marker?_eq_none.2 (h line List.mem_cons_self)),
      ih fun other hother => h other (List.mem_cons_of_mem line hother)]

theorem statementLines_body {body : List (List Char)} (h : ∀ line ∈ body, IsStatement line) :
    statementLines (some direction) (body ++ rest) =
      body.map (direction, ·) ++ statementLines (some direction) rest := by
  induction body with
  | nil => rfl
  | cons line body ih =>
    have hline := h line List.mem_cons_self
    have hstatement : isStatementLine line = true :=
      isStatementLine_eq_true.2 ⟨hline.nonblank, hline.uncommented⟩
    rw [List.cons_append, statementLines_of_inside hline.marker?, if_pos hstatement,
      ih fun other hother => h other (List.mem_cons_of_mem line hother), List.map_cons,
      List.cons_append]

/-- The statements of sections are their bodies, whatever section they follow. -/
theorem statementLines_sections (sections : List Section) :
    statementLines start (sections.flatMap Section.lines) =
      sections.flatMap fun s => s.body.map (s.direction, ·) := by
  induction sections generalizing start with
  | nil => rfl
  | cons s sections ih =>
    rw [List.flatMap_cons, List.flatMap_cons, Section.lines, List.cons_append,
      statementLines_of_marker (marker?_eq_some.2 s.isMarker), statementLines_body s.isStatement,
      ih]

/-- Lines that are passed over do not count. -/
theorem Padded.statementLines {lines file : List (List Char)} (h : Padded lines file)
    (start : Option Direction) :
    SectionFile.statementLines start file = SectionFile.statementLines start lines := by
  induction h generalizing start with
  | nil => rfl
  | keep line _ ih => simp only [SectionFile.statementLines, ih]
  | insert passed _ ih => rw [statementLines_of_passedOver passed, ih]

/-- Nor do carriage returns at the ends of lines, unless they are on lines of statements. -/
theorem statementLines_read {file read : List (List Char)}
    (h : List.Forall₂ (fun line read => read = line ∨ read = dropReturn line) file read)
    (start : Option Direction)
    (hreturnless : ∀ line ∈ statementLines start file, dropReturn line.2 = line.2) :
    statementLines start read = statementLines start file := by
  induction h generalizing start with
  | nil => rfl
  | @cons line found file read hfound _ ih =>
    have htrim := trim_read hfound
    cases hmarker : marker? line with
    | some direction =>
      have hmarker' : marker? found = some direction := by rw [marker?_congr htrim, hmarker]
      rw [statementLines_of_marker hmarker] at hreturnless
      rw [statementLines_of_marker hmarker, statementLines_of_marker hmarker', ih _ hreturnless]
    | none =>
      have hmarker' : marker? found = none := by rw [marker?_congr htrim, hmarker]
      cases start with
      | none =>
        rw [statementLines_of_outside hmarker] at hreturnless
        rw [statementLines_of_outside hmarker, statementLines_of_outside hmarker',
          ih _ hreturnless]
      | some direction =>
        rw [statementLines_of_inside hmarker] at hreturnless
        rw [statementLines_of_inside hmarker, statementLines_of_inside hmarker',
          isStatementLine_congr htrim]
        split at hreturnless
        · next hstatement =>
          have hsame : found = line := by
            have hline : dropReturn line = line := hreturnless (direction, line) List.mem_cons_self
            rcases hfound with rfl | rfl
            · rfl
            · exact hline
          rw [if_pos hstatement, if_pos hstatement, hsame,
            ih _ fun other hother => hreturnless other (List.mem_cons_of_mem _ hother)]
        · next hstatement => rw [if_neg hstatement, if_neg hstatement, ih _ hreturnless]

end StatementLines

/-- The lines that are read start the same sections as those that were written. -/
theorem any_marker?_read {file read : List (List Char)}
    (h : List.Forall₂ (fun line read => read = line ∨ read = dropReturn line) file read) :
    read.any (fun line => marker? line == some direction) = true ↔
      ∃ line ∈ file, IsMarker direction line := by
  simp only [← marker?_eq_some]
  induction h with
  | nil => simp
  | cons hfound _ ih => simp [ih, marker?_congr (trim_read hfound)]

/-- What is put in between lines does not start a section. -/
theorem Padded.exists_marker {lines file : List (List Char)} (h : Padded lines file) :
    (∃ line ∈ file, IsMarker direction line) ↔ ∃ line ∈ lines, IsMarker direction line := by
  simp only [← marker?_eq_some]
  induction h with
  | nil => rfl
  | keep line _ ih => simp [ih]
  | insert passed _ ih => simp [ih, passed.marker?]

/-- The statements of a direction are the lines of its sections. -/
theorem body_sections (sections : List Section) :
    body direction (sections.flatMap fun s => s.body.map (s.direction, ·)) =
      String.ofList (trim (joinChars ['\n'] (bodyLines direction sections))) := by
  have hown : ((sections.flatMap fun s => s.body.map (s.direction, ·)).filter
      fun line => line.1 = direction).map (·.2) = bodyLines direction sections := by
    induction sections with
    | nil => rfl
    | cons s sections ih =>
      rw [List.flatMap_cons, List.filter_append, List.map_append, ih, bodyLines, bodyLines,
        List.filter_cons, List.filter_map]
      by_cases hs : s.direction = direction <;> simp [hs, Function.comp_def]
  rw [body, hown]

variable {name text : String} {file : List (List Char)}

theorem parse_eq_ok (h : Written file text.toList) (hup : ∃ line ∈ file, IsMarker .up line) :
    parse name text = .ok {
      name
      up := body .up (statementLines none (lines text.toList))
      down := body .down (statementLines none (lines text.toList)) } := by
  rw [parse, if_pos ((any_marker?_read h.lines_eq).2 hup)]

/-- A file is rejected just if no line starts a section that applies the migration. -/
theorem parse_eq_error (h : Written file text.toList) :
    (∃ e, parse name text = .error e) ↔ ∀ line ∈ file, ¬IsMarker .up line := by
  by_cases hup : ∃ line ∈ file, IsMarker .up line
  · rw [parse_eq_ok h hup]
    simpa using hup
  · rw [parse, if_neg (mt (any_marker?_read h.lines_eq).1 hup)]
    simpa using hup

/-- A file is read as it was written. -/
theorem parse_of_padded {preamble : List (List Char)} {sections : List Section}
    (hpreamble : ∀ line ∈ preamble, ∀ direction, ¬IsMarker direction line)
    (hup : ∃ s ∈ sections, s.direction = .up)
    (hpadded : Padded (preamble ++ sections.flatMap Section.lines) file)
    (hwritten : Written file text.toList) :
    parse name text = .ok {
      name
      up := String.ofList (trim (joinChars ['\n'] (bodyLines .up sections)))
      down := String.ofList (trim (joinChars ['\n'] (bodyLines .down sections))) } := by
  have hstatements : statementLines none file =
      sections.flatMap fun s => s.body.map (s.direction, ·) := by
    rw [hpadded.statementLines, statementLines_preamble hpreamble, statementLines_sections]
  have hreturnless : ∀ line ∈ statementLines none file, dropReturn line.2 = line.2 := by
    rw [hstatements]
    intro line hline
    obtain ⟨s, -, hs⟩ := List.mem_flatMap.1 hline
    obtain ⟨statement, hstatement, rfl⟩ := List.mem_map.1 hs
    exact if_neg (s.isStatement statement hstatement).returnless
  have hmarker : ∃ line ∈ file, IsMarker .up line := by
    obtain ⟨s, hs, hdirection⟩ := hup
    refine hpadded.exists_marker.2 ⟨s.marker, ?_, hdirection ▸ s.isMarker⟩
    exact List.mem_append_right _ (List.mem_flatMap.2 ⟨s, hs, List.mem_cons_self⟩)
  rw [parse_eq_ok hwritten hmarker, statementLines_read hwritten.lines_eq none hreturnless,
    hstatements, body_sections, body_sections]

/-- Every text is written in lines. It is rejected just if none of them starts a section that
applies the migration. If it is written as sections, with other lines in front and lines that are
passed over anywhere, the statements of each direction are read back, however the lines end and
however the statements are divided into sections. -/
theorem parse_reads_sections (name text : String) :
    (∃ file, Written file text.toList) ∧ ∀ file, Written file text.toList →
      ((∃ e, parse name text = .error e) ↔ ∀ line ∈ file, ¬IsMarker .up line) ∧
      ∀ preamble sections, (∀ line ∈ preamble, ∀ direction, ¬IsMarker direction line) →
        (∃ s ∈ sections, s.direction = .up) →
        Padded (preamble ++ sections.flatMap Section.lines) file →
        parse name text = .ok {
          name
          up := String.ofList (trim (joinChars ['\n'] (bodyLines .up sections)))
          down := String.ofList (trim (joinChars ['\n'] (bodyLines .down sections))) } :=
  ⟨exists_written _, fun _ hwritten => ⟨parse_eq_error hwritten,
    fun _ _ hpreamble hup hpadded => parse_of_padded hpreamble hup hpadded hwritten⟩⟩

/-- A file with a line before its sections, a blank line, a comment, two sections that apply the
migration, and both kinds of line ends. -/
theorem mixed_file_is_read :
    parse "m" "a;\r\n-- UP\nb;\r\n\n-- c\nd;\n--down: e\r\n f; \n -- Up migration\ng;" =
      .ok { name := "m", up := "b;\nd;\ng;", down := "f;" } := by
  let first : Section := {
    direction := .up, marker := "-- UP".toList, body := ["b;".toList, "d;".toList]
    isMarker := by decide, isStatement := by decide }
  let second : Section := {
    direction := .down, marker := "--down: e".toList, body := [" f; ".toList]
    isMarker := by decide, isStatement := by decide }
  let third : Section := {
    direction := .up, marker := " -- Up migration".toList, body := ["g;".toList]
    isMarker := by decide, isStatement := by decide }
  have hpadded : Padded (["a;".toList] ++ [first, second, third].flatMap Section.lines)
      ["a;".toList, "-- UP".toList, "b;".toList, [], "-- c".toList, "d;".toList,
        "--down: e".toList, " f; ".toList, " -- Up migration".toList, "g;".toList] :=
    .keep _ (.keep _ (.keep _ (.insert (by decide) (.insert (by decide) (.keep _ (.keep _
      (.keep _ (.keep _ (.keep _ .nil)))))))))
  have hwritten : Written _ ("a;".toList ++ '\r' :: '\n' :: ("-- UP".toList ++ '\n' ::
      ("b;".toList ++ '\r' :: '\n' :: ([] ++ '\n' :: ("-- c".toList ++ '\n' ::
      ("d;".toList ++ '\n' :: ("--down: e".toList ++ '\r' :: '\n' :: (" f; ".toList ++ '\n' ::
      (" -- Up migration".toList ++ '\n' :: "g;".toList))))))))) :=
    .returnFeed (by decide) (.feed (by decide) (.returnFeed (by decide) (.feed (by decide)
      (.feed (by decide) (.feed (by decide) (.returnFeed (by decide) (.feed (by decide)
      (.feed (by decide) (.last (by decide) (by decide))))))))))
  have hpreamble : ∀ line ∈ ["a;".toList], ∀ direction, ¬IsMarker direction line := by
    simp only [← marker?_eq_none]
    decide
  exact ((parse_reads_sections "m" (String.ofList _)).2 _ hwritten).2 _ _ hpreamble
    ⟨first, by simp, rfl⟩ hpadded

end SectionFile

end SchemaMigration
