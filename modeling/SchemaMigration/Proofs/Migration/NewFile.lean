import SchemaMigration.Proofs.Calendar.Stamp
import SchemaMigration.Proofs.Migration.Quotation
import SchemaMigration.Runner.Scaffold

/-!
# Reading new section files

A new section file begins with its title in a comment and has no statements of its own. But only the
first line of the title stands in the comment. The lines behind it are read like any others, so
statements are found just if one of these lines starts a section and a line of statements stands
behind it.
-/

namespace SchemaMigration

open Text

namespace SectionFile

variable {direction : Direction} {line : List Char} {l rest : List (List Char)}
  {start : Option Direction}

/-- A line starts a section, and behind it stands one that is neither blank nor a comment. -/
def HasStatement (l : List (List Char)) : Prop :=
  ∃ marker statement, [marker, statement].Sublist l ∧ (∃ direction, IsMarker direction marker) ∧
    trim statement ≠ [] ∧ ¬['-', '-'] <+: trim statement

theorem statementLines_eq_nil (h : ∀ line ∈ rest, isStatementLine line = false) :
    statementLines start rest = [] := by
  refine List.eq_nil_iff_forall_not_mem.2 fun statement hstatement => ?_
  obtain ⟨hmem, hline⟩ := mem_statementLines hstatement
  cases (h _ hmem).symm.trans hline

/-- Lines that are none of statements do not count behind others. -/
theorem statementLines_append_of_forall (h : ∀ line ∈ rest, isStatementLine line = false)
    (start : Option Direction) (l : List (List Char)) :
    statementLines start (l ++ rest) = statementLines start l := by
  obtain ⟨statements, stop, hl⟩ := exists_statementLines_append start l
  have hnothing : statementLines stop [] = statementLines stop rest := (statementLines_eq_nil h).symm
  rw [hl, ← hnothing, ← hl, List.append_nil]

theorem statementLines_some_ne_nil : statementLines (some direction) l ≠ [] ↔
    ∃ line ∈ l, isStatementLine line = true := by
  induction l generalizing direction with
  | nil => simp [statementLines]
  | cons line l ih =>
    rw [List.exists_mem_cons_iff]
    cases hmarker : marker? line with
    | some other =>
      have hline := isStatementLine_of_isMarker (marker?_eq_some.1 hmarker)
      rw [statementLines_of_marker hmarker, ih, hline]
      simp
    | none =>
      rw [statementLines_of_inside hmarker]
      split
      · rename_i hline
        simp [hline]
      · rename_i hline
        simp [ih, hline]

theorem pair_sublist_cons {α : Type} {a b c : α} {l : List α} :
    [a, b].Sublist (c :: l) ↔ a = c ∧ b ∈ l ∨ [a, b].Sublist l := by
  rw [List.sublist_cons_iff, or_comm]
  simp

/-- There are statements just if a line of them stands behind one that starts a section. -/
theorem statementLines_ne_nil : statementLines none l ≠ [] ↔ HasStatement l := by
  have hline {line : List Char} : isStatementLine line = true ↔
      trim line ≠ [] ∧ ¬['-', '-'] <+: trim line := isStatementLine_eq_true
  induction l with
  | nil => simp [statementLines, HasStatement]
  | cons line l ih =>
    unfold HasStatement at ih ⊢
    simp only [← hline, pair_sublist_cons] at ih ⊢
    cases hmarker : marker? line with
    | some direction =>
      rw [statementLines_of_marker hmarker, statementLines_some_ne_nil]
      constructor
      · rintro ⟨statement, hmem, hstatement⟩
        exact ⟨line, statement, .inl ⟨rfl, hmem⟩, ⟨direction, marker?_eq_some.1 hmarker⟩, hstatement⟩
      · rintro ⟨marker, statement, hbehind, -, hstatement⟩
        refine ⟨statement, ?_, hstatement⟩
        rcases hbehind with ⟨-, hmem⟩ | hsub
        · exact hmem
        · exact hsub.subset (by simp)
    | none =>
      rw [statementLines_of_outside hmarker]
      refine ih.trans (exists_congr fun marker => exists_congr fun statement => and_congr_left ?_)
      rintro ⟨⟨direction, hdirection⟩, -⟩
      have hne : marker ≠ line := by
        rintro rfl
        exact marker?_eq_none.1 hmarker direction hdirection
      simp [hne]

/-- A direction has an empty text just if no line of statements is one for it. -/
theorem body_eq_empty {statements : List (Direction × List Char)}
    (h : ∀ line ∈ statements, isStatementLine line.2 = true) :
    body direction statements = "" ↔ ∀ line ∈ statements, line.1 ≠ direction := by
  have hempty (own : List (List Char)) (hown : ∀ line ∈ own, isStatementLine line = true) :
      trim (joinChars ['\n'] own) = [] ↔ own = [] := by
    constructor
    · intro hblank
      refine List.eq_nil_iff_forall_not_mem.2 fun line hmem => ?_
      obtain ⟨earlier, later, rfl⟩ := List.append_of_mem hmem
      have hwithin : joinChars ['\n'] [line] <:+: joinChars ['\n'] (earlier ++ ([line] ++ later)) :=
        infix_joinChars_append earlier (List.cons_ne_nil _ _) later
      refine (isStatementLine_eq_true.1 (hown line hmem)).1 (trim_eq_nil.2 fun c hc => ?_)
      exact trim_eq_nil.1 hblank c (hwithin.subset hc)
    · rintro rfl
      rfl
  rw [body, ← String.toList_eq_nil_iff, String.toList_ofList, hempty, List.map_eq_nil_iff,
    List.filter_eq_nil_iff]
  · simp
  · intro line hline
    obtain ⟨statement, hmem, rfl⟩ := List.mem_map.1 hline
    exact h statement (List.mem_of_mem_filter hmem)

theorem bodies_eq_empty {statements : List (Direction × List Char)}
    (h : ∀ line ∈ statements, isStatementLine line.2 = true) :
    body .up statements = "" ∧ body .down statements = "" ↔ statements = [] := by
  rw [body_eq_empty h, body_eq_empty h, List.eq_nil_iff_forall_not_mem]
  constructor
  · rintro ⟨hup, hdown⟩ ⟨direction, line⟩ hmem
    cases direction with
    | up => exact hup _ hmem rfl
    | down => exact hdown _ hmem rfl
  · exact fun hnone => ⟨fun line hmem => absurd hmem (hnone line),
      fun line hmem => absurd hmem (hnone line)⟩

/-- A comment that begins with a letter that no direction begins with is passed over. -/
theorem isPassedOver_comment {c d : Char} (rest : List Char) (hc : isBlank c = false)
    (hlower : ∀ rest, lowerFrom [' ', '-', '-'] (c :: rest) =
      d :: lowerFrom [c, ' ', '-', '-'] rest)
    (hd : isBlank d = false) (hup : d ≠ 'u') (hdown : d ≠ 'd') :
    IsPassedOver ('-' :: '-' :: ' ' :: c :: rest) := by
  have htrim : trim ('-' :: '-' :: ' ' :: c :: rest) = '-' :: '-' :: ' ' :: c :: trimEnd rest := by
    rw [trim, trimStart_cons_of_not_blank (by decide)]
    exact trimEnd_append_cons hc ['-', '-', ' '] rest
  refine .inr ⟨htrim ▸ ⟨_, rfl⟩, fun direction => ?_⟩
  rintro ⟨blanks, behind, hblanks, -, heq⟩
  have hchars : lowerChars ('-' :: '-' :: ' ' :: c :: trimEnd rest) =
      '-' :: '-' :: ' ' :: lowerFrom [' ', '-', '-'] (c :: trimEnd rest) := rfl
  rw [htrim, hchars, hlower] at heq
  simp only [List.cons_append, List.nil_append, List.cons.injEq, true_and] at heq
  rcases blanks with _ | ⟨first, _ | ⟨second, blanks⟩⟩
  · cases direction <;> simp [Direction.name] at heq
  · cases direction <;> simp [Direction.name, hup, hdown] at heq
  · obtain ⟨-, rfl, -⟩ := by simpa using heq
    cases (hblanks d (by simp)).symm.trans hd

theorem isPassedOver_dropReturn : IsPassedOver (dropReturn line) ↔ IsPassedOver line := by
  simp only [IsPassedOver, ← marker?_eq_none, trim_dropReturn, marker?_congr (trim_dropReturn line)]

end SectionFile

namespace Scaffold

open SectionFile

/-- The lines of a title behind the first one. -/
def laterLines (title : String) : List (List Char) :=
  (lines (title ++ "\n").toList).tail

/-- The text behind the comments of a new section file. -/
def emptySections : String :=
  "\n-- Up migration\n\n\n-- Down migration\n\n"

theorem lines_emptySections : lines emptySections.toList =
    [[], "-- Up migration".toList, [], [], "-- Down migration".toList, []] := by
  decide

/-- A new section file has comments with its title, its name and a time, and sections without
statements. -/
theorem exists_toList_sections (title name : String) (created : Instant) :
    ∃ moment, '\n' ∉ moment ∧ (sections title name created).toList =
      "-- Migration: ".toList ++ title.toList ++ '\n' ::
        ("-- Name: ".toList ++ name.toList ++ '\n' ::
          ("-- Created: ".toList ++ moment ++ '\n' :: emptySections.toList)) := by
  obtain ⟨hdate, htime⟩ := Instant.feed_not_mem_dateText_timeText created
  have hname : "\n-- Name: ".toList = '\n' :: "-- Name: ".toList := rfl
  have hcreated : "\n-- Created: ".toList = '\n' :: "-- Created: ".toList := rfl
  have hblank : " ".toList = [' '] := rfl
  have hempty : " UTC\n\n-- Up migration\n\n\n-- Down migration\n\n".toList =
      " UTC".toList ++ '\n' :: emptySections.toList := rfl
  refine ⟨created.dateText.toList ++ ' ' :: (created.timeText.toList ++ " UTC".toList),
    by simp [hdate, htime], ?_⟩
  unfold sections
  generalize created.dateText = date
  generalize created.timeText = time
  simp only [String.toList_append, hname, hcreated, hblank, hempty, List.append_assoc,
    List.cons_append, List.nil_append]

/-- The comments of a new section file are passed over. -/
theorem isPassedOver_heading {heading : String}
    (h : heading ∈ ["-- Migration: ", "-- Name: ", "-- Created: "]) (rest : List Char) :
    IsPassedOver (heading.toList ++ rest) := by
  simp only [List.mem_cons, List.not_mem_nil, or_false] at h
  rcases h with rfl | rfl | rfl
  · exact isPassedOver_comment ("igration: ".toList ++ rest) (by decide) (fun _ => rfl) (by decide)
      (by decide) (by decide : 'm' ≠ 'd')
  · exact isPassedOver_comment ("ame: ".toList ++ rest) (by decide) (fun _ => rfl) (by decide)
      (by decide) (by decide : 'n' ≠ 'd')
  · exact isPassedOver_comment ("reated: ".toList ++ rest) (by decide) (fun _ => rfl) (by decide)
      (by decide) (by decide : 'c' ≠ 'd')

theorem laterLines_eq (title : String) :
    laterLines title = (splitAt '\n' title.toList).tail.map dropReturn := by
  have hfeed : (title ++ "\n").toList = title.toList ++ ['\n'] := by simp
  rw [laterLines, hfeed, lines_append_eq_splitAt title.toList [], List.map_tail]
  exact congrArg List.tail (List.append_nil _)

/-- The lines of a new section file are the first line of its title in a comment, the other lines of
the title, and the lines of a file without statements. -/
theorem exists_lines_sections (title : String) {name : String} (hname : '\n' ∉ name.toList)
    (created : Instant) : ∃ first rest,
      lines (sections title name created).toList = first :: (laterLines title ++ rest) ∧
      IsPassedOver first ∧ (∀ line ∈ rest, isStatementLine line = false) ∧
      "-- Up migration".toList ∈ rest := by
  obtain ⟨moment, hmoment, htext⟩ := exists_toList_sections title name created
  have hnameLine : '\n' ∉ "-- Name: ".toList ++ name.toList := by simp [hname]
  have hcreatedLine : '\n' ∉ "-- Created: ".toList ++ moment := by simp [hmoment]
  refine ⟨dropReturn ("-- Migration: ".toList ++ (splitAt '\n' title.toList).headD []),
    dropReturn ("-- Name: ".toList ++ name.toList) ::
      dropReturn ("-- Created: ".toList ++ moment) :: lines emptySections.toList,
    ?_, isPassedOver_dropReturn.2 (isPassedOver_heading (by simp) _), ?_,
    by simp [lines_emptySections]⟩
  · rw [htext, lines_append_eq_splitAt, splitAt_append_left (by decide), List.map_cons,
      lines_append_feed hnameLine, lines_append_feed hcreatedLine, laterLines_eq, List.cons_append]
  · rw [List.forall_mem_cons, List.forall_mem_cons, lines_emptySections]
    exact ⟨(isPassedOver_dropReturn.2 (isPassedOver_heading (by simp) _)).isStatementLine,
      (isPassedOver_dropReturn.2 (isPassedOver_heading (by simp) _)).isStatementLine, by decide⟩

/-- A new section file can be read, and its statements are those on the lines of its title behind the
first one. -/
theorem parse_sections (title : String) {name : String} (hname : '\n' ∉ name.toList)
    (created : Instant) :
    parse name (sections title name created) = .ok {
      name
      up := body .up (statementLines none (laterLines title))
      down := body .down (statementLines none (laterLines title)) } := by
  obtain ⟨first, rest, hlines, hfirst, hrest, hup⟩ := exists_lines_sections title hname created
  have hstatements : statementLines none (lines (sections title name created).toList) =
      statementLines none (laterLines title) := by
    rw [hlines, statementLines_of_outside hfirst.marker?, statementLines_append_of_forall hrest]
  have hmarked : (lines (sections title name created).toList).any
      (fun line => marker? line == some .up) = true := by
    rw [hlines]
    exact List.any_eq_true.2 ⟨_, List.mem_cons_of_mem _ (List.mem_append_right _ hup), by decide⟩
  rw [parse, hstatements, if_pos hmarked]

end Scaffold

end SchemaMigration
