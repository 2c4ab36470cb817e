import SchemaMigration.Proofs.Migration.SectionFile
import SchemaMigration.Proofs.Text.Lines
import SchemaMigration.Value.Text

/-!
# Quoted texts in section files

A section file is read line by line, and a line is looked at in the same way whether or not it
continues a quoted text. So a quoted text in a section is read as it is written, line feeds standing
for all ends of lines, just if none of its lines is blank or begins with two hyphens. Of any other
one these lines are missing, as long as none of them starts a section for the other direction.
-/

namespace SchemaMigration

namespace Text

variable {front rest : List Char} {c : Char}

/-- What begins a text without a character ends before the character. -/
theorem prefix_append_cons_iff {start : List Char} (hstart : c ∉ start) :
    start <+: front ++ c :: rest ↔ start <+: front := by
  induction front generalizing start with
  | nil =>
    cases start with
    | nil => simp
    | cons d start =>
      have hd : d ≠ c := fun h => hstart (h ▸ List.mem_cons_self)
      simp [List.cons_prefix_cons, hd]
  | cons d front ih =>
    cases start with
    | nil => simp
    | cons e start =>
      rw [List.cons_append, List.cons_prefix_cons, List.cons_prefix_cons,
        ih fun h => hstart (List.mem_cons_of_mem e h)]

end Text

open Text

namespace SectionFile

variable {direction : Direction} {line : List Char} {l rest : List (List Char)}

/-- Lines end in a section for a direction: a line starts one, and none behind it starts another. -/
def InSection (direction : Direction) (l : List (List Char)) : Prop :=
  ∃ earlier marker later, l = earlier ++ marker :: later ∧ IsMarker direction marker ∧
    ∀ line ∈ later, ∀ other, ¬IsMarker other line

theorem isStatementLine_of_isMarker (h : IsMarker direction line) :
    isStatementLine line = false := by
  rw [← Bool.not_eq_true, isStatementLine_eq_true]
  exact fun hline => hline.2 h.hyphens

theorem trim_quote (front rest : List Char) :
    trim (front ++ '\x27' :: rest) = trimStart front ++ '\x27' :: trimEnd rest := by
  rw [trim, trimStart_append_cons (by decide), trimEnd_append_cons (by decide)]

/-- A line with a quote on it is one of statements, unless there are two hyphens in front of the
quote. -/
theorem isStatementLine_quote (front rest : List Char) :
    isStatementLine (front ++ '\x27' :: rest) = true ↔ ¬['-', '-'] <+: trimStart front := by
  rw [isStatementLine_eq_true, trim_quote, prefix_append_cons_iff (by decide)]
  simp

/-- Lines in a section that start no section for another direction leave those of statements. -/
theorem statementLines_inside
    (h : ∀ line ∈ l, ∀ other, IsMarker other line → other = direction) :
    statementLines (some direction) (l ++ rest) =
      (l.filter isStatementLine).map (direction, ·) ++ statementLines (some direction) rest := by
  induction l with
  | nil => rfl
  | cons line l ih =>
    obtain ⟨hline, hl⟩ := List.forall_mem_cons.1 h
    cases hmarker : marker? line with
    | some other =>
      rw [marker?_eq_some] at hmarker
      obtain rfl := hline other hmarker
      rw [List.cons_append, statementLines_of_marker (marker?_eq_some.2 hmarker), ih hl,
        List.filter_cons_of_neg (by simp [isStatementLine_of_isMarker hmarker])]
    | none =>
      rw [List.cons_append, statementLines_of_inside hmarker, ih hl, List.filter_cons]
      split <;> simp

/-- What lines of statements come of further lines depends on the section in which the lines in
front of them end. -/
theorem exists_statementLines_append (start : Option Direction) (l : List (List Char)) :
    ∃ statements stop, ∀ rest, statementLines start (l ++ rest) =
      statements ++ statementLines stop rest := by
  induction l generalizing start with
  | nil => exact ⟨[], start, fun _ => rfl⟩
  | cons line l ih =>
    cases hmarker : marker? line with
    | some direction =>
      obtain ⟨statements, stop, h⟩ := ih (some direction)
      exact ⟨statements, stop, fun rest => (statementLines_of_marker hmarker).trans (h rest)⟩
    | none =>
      cases start with
      | none =>
        obtain ⟨statements, stop, h⟩ := ih none
        exact ⟨statements, stop, fun rest => (statementLines_of_outside hmarker).trans (h rest)⟩
      | some direction =>
        obtain ⟨statements, stop, h⟩ := ih (some direction)
        by_cases hline : isStatementLine line = true
        · refine ⟨(direction, line) :: statements, stop, fun rest => ?_⟩
          rw [List.cons_append, statementLines_of_inside hmarker, if_pos hline, h, List.cons_append]
        · refine ⟨statements, stop, fun rest => ?_⟩
          rw [List.cons_append, statementLines_of_inside hmarker, if_neg hline, h]

theorem InSection.exists_statementLines (h : InSection direction l) :
    ∃ statements, ∀ rest, statementLines none (l ++ rest) =
      statements ++ statementLines (some direction) rest := by
  obtain ⟨earlier, marker, later, rfl, hmarker, hlater⟩ := h
  obtain ⟨statements, stop, hearlier⟩ := exists_statementLines_append none earlier
  refine ⟨statements ++ (later.filter isStatementLine).map (direction, ·), fun rest => ?_⟩
  rw [List.append_assoc, hearlier, List.cons_append,
    statementLines_of_marker (marker?_eq_some.2 hmarker),
    statementLines_inside fun line hline other hother => absurd hother (hlater line hline other),
    List.append_assoc]

theorem InSection.exists_marker (h : InSection direction l) :
    ∃ line ∈ l, IsMarker direction line := by
  obtain ⟨earlier, marker, later, rfl, hmarker, -⟩ := h
  exact ⟨marker, by simp, hmarker⟩

/-- Lines of statements are lines of the text. -/
theorem mem_statementLines {start : Option Direction} {statement : Direction × List Char}
    (h : statement ∈ statementLines start l) :
    statement.2 ∈ l ∧ isStatementLine statement.2 = true := by
  induction l generalizing start with
  | nil => cases h
  | cons line l ih =>
    cases hmarker : marker? line with
    | some direction =>
      rw [statementLines_of_marker hmarker] at h
      exact (ih h).imp_left (List.mem_cons_of_mem line)
    | none =>
      cases start with
      | none =>
        rw [statementLines_of_outside hmarker] at h
        exact (ih h).imp_left (List.mem_cons_of_mem line)
      | some direction =>
        rw [statementLines_of_inside hmarker] at h
        split at h
        · next hline =>
          rcases List.mem_cons.1 h with rfl | h
          · exact ⟨List.mem_cons_self, hline⟩
          · exact (ih h).imp_left (List.mem_cons_of_mem line)
        · exact (ih h).imp_left (List.mem_cons_of_mem line)

/-- The lines of statements for a direction. -/
def ownLines (direction : Direction) (text : List Char) : List (List Char) :=
  ((statementLines none (lines text)).filter fun line => line.1 = direction).map (·.2)

theorem of_mem_ownLines {text : List Char} (h : line ∈ ownLines direction text) :
    '\n' ∉ line ∧ isStatementLine line = true := by
  obtain ⟨statement, hstatement, rfl⟩ := List.mem_map.1 h
  obtain ⟨hmem, hline⟩ := mem_statementLines (List.mem_of_mem_filter hstatement)
  exact ⟨not_mem_of_mem_lines hmem, hline⟩

/-- Lines in a section that start no section for another direction have their lines of statements
side by side. -/
theorem InSection.exists_ownLines {earlier more : List (List Char)} {text : List Char}
    (h : InSection direction earlier) (htext : lines text = earlier ++ (l ++ more))
    (hl : ∀ line ∈ l, ∀ other, IsMarker other line → other = direction) :
    ∃ front back, ownLines direction text = front ++ (l.filter isStatementLine ++ back) := by
  obtain ⟨statements, hstatements⟩ := h.exists_statementLines
  have hown : ((l.filter isStatementLine).map (direction, ·)).filter
      (fun line => line.1 = direction) = (l.filter isStatementLine).map (direction, ·) := by
    refine List.filter_eq_self.2 fun statement hstatement => ?_
    obtain ⟨line, -, rfl⟩ := List.mem_map.1 hstatement
    exact decide_eq_true rfl
  rw [ownLines, htext, hstatements, statementLines_inside hl, List.filter_append,
    List.filter_append, hown, List.map_append, List.map_append, List.map_map]
  exact ⟨_, _, congrArg (fun own => _ ++ (own ++ _)) (List.map_id _)⟩

/-- A file with a section that applies the migration is read. -/
theorem InSection.parse_eq {earlier more : List (List Char)} {text : String}
    (h : InSection .up earlier) (name : String) (htext : lines text.toList = earlier ++ more) :
    parse name text = .ok {
      name
      up := String.ofList (trim (joinChars ['\n'] (ownLines .up text.toList)))
      down := String.ofList (trim (joinChars ['\n'] (ownLines .down text.toList))) } := by
  obtain ⟨marker, hmem, hmarker⟩ := h.exists_marker
  refine if_pos (List.any_eq_true.2 ⟨marker, ?_, by rw [marker?_eq_some.2 hmarker]; rfl⟩)
  rw [htext]
  exact List.mem_append_left _ hmem

/-- The lines of a quoted text: the first one begins with a quote, and the last one ends with
one. -/
structure QuotedLines (part : List (List Char)) : Prop where
  opens : ∃ line rest, part = ('\x27' :: line) :: rest
  closes : ∃ front line, part = front ++ [line ++ ['\x27']]

theorem toList_quoteLiteral_eq (content : String) : (quoteLiteral content).toList =
    '\x27' :: (double '\x27' content.toList ++ ['\x27']) :=
  String.toList_ofList

theorem getLast?_quoteLiteral (content : String) :
    (quoteLiteral content).toList.getLast? = some '\x27' := by
  rw [toList_quoteLiteral_eq, ← List.cons_append, List.getLast?_concat]

theorem quotedLines (content : String) : QuotedLines (lines (quoteLiteral content).toList) := by
  rw [toList_quoteLiteral_eq]
  constructor
  · exact exists_lines_cons (by decide) (by decide) _
  · rw [← List.cons_append]
    exact exists_lines_concat (by decide) _

namespace QuotedLines

variable {part found own : List (List Char)} {start tail : List Char}

/-- A quoted text that spans several lines has the opening quote on the first one and the closing
quote on the last one. -/
theorem cases_lines (h : QuotedLines part) : (∃ line, part = ['\x27' :: line]) ∨
    ∃ first middle last, part = ('\x27' :: first) :: (middle ++ [last ++ ['\x27']]) := by
  obtain ⟨first, rest, hfirst⟩ := h.opens
  obtain ⟨front, last, hlast⟩ := h.closes
  cases front with
  | nil =>
    rw [hfirst, List.nil_append, List.cons.injEq] at hlast
    exact .inl ⟨first, by rw [hfirst, hlast.2]⟩
  | cons line middle =>
    rw [hfirst, List.cons_append, List.cons.injEq] at hlast
    exact .inr ⟨first, middle, last, by rw [hfirst, hlast.2]⟩

theorem head?_join (h : QuotedLines part) : (joinChars ['\n'] part).head? = some '\x27' := by
  obtain ⟨line, rest, rfl⟩ := h.opens
  cases rest <;> rfl

theorem getLast?_join (h : QuotedLines part) : (joinChars ['\n'] part).getLast? = some '\x27' := by
  obtain ⟨front, line, rfl⟩ := h.closes
  by_cases hfront : front = []
  · simp [hfront, joinChars]
  · rw [joinChars_append hfront (by simp), joinChars, ← List.append_assoc, List.getLast?_concat]

theorem exists_of_getLast? (h : QuotedLines part) {last : List Char}
    (hlast : part.getLast? = some last) : ∃ line, last = line ++ ['\x27'] := by
  obtain ⟨front, line, rfl⟩ := h.closes
  exact ⟨line, by simpa using hlast.symm⟩

theorem isStatementLine_first (line : List Char) : isStatementLine ('\x27' :: line) = true :=
  (isStatementLine_quote [] line).2 (by decide)

/-- The closing quote is on a line of statements: two hyphens do not begin the last line. -/
def Closes (part : List (List Char)) : Prop :=
  ∀ line, part.getLast? = some line → isStatementLine line = true

theorem filter (h : QuotedLines part) (hcloses : Closes part) :
    QuotedLines (part.filter isStatementLine) := by
  constructor
  · obtain ⟨line, rest, rfl⟩ := h.opens
    exact ⟨line, rest.filter isStatementLine,
      List.filter_cons_of_pos (isStatementLine_first line)⟩
  · obtain ⟨front, line, rfl⟩ := h.closes
    have hline := hcloses (line ++ ['\x27']) (by simp)
    exact ⟨front.filter isStatementLine, line, by simp [hline]⟩

/-- A quoted text whose opening quote does not follow two hyphens, and whose closing quote does not
either, is found on the lines of statements without those of its lines that are none. -/
theorem within_filter (h : QuotedLines part) (hwithin : Within start tail part found)
    (hstart : ¬['-', '-'] <+: trimStart start) (hcloses : Closes part) :
    Within start tail (part.filter isStatementLine) (found.filter isStatementLine) ∧
      ∀ line ∈ found, line ∈ part ∨ isStatementLine line = true := by
  have hfirst {line : List Char} {rest : List (List Char)} (heq : part = line :: rest)
      (behind : List Char) : isStatementLine line = true ∧
        isStatementLine (start ++ (line ++ behind)) = true := by
    obtain ⟨quoted, others, hopens⟩ := h.opens
    obtain rfl := (List.cons.inj (heq.symm.trans hopens)).1
    exact ⟨isStatementLine_first quoted, (isStatementLine_quote start _).2 hstart⟩
  cases hwithin with
  | one line =>
    obtain ⟨hline, hfound⟩ := hfirst rfl tail
    rw [List.filter_cons_of_pos hline, List.filter_cons_of_pos hfound]
    exact ⟨.one line, by simp [hfound]⟩
  | more first middle last =>
    obtain ⟨hline, hfound⟩ := hfirst rfl []
    have hclosing : (first :: (middle ++ [last])).getLast? = some last := by
      rw [← List.cons_append, List.getLast?_concat]
    have hlast : isStatementLine last = true := hcloses last hclosing
    have hlast' : isStatementLine (last ++ tail) = true := by
      obtain ⟨line, rfl⟩ := h.exists_of_getLast? hclosing
      rw [isStatementLine_quote] at hlast
      rw [List.append_assoc, List.singleton_append, isStatementLine_quote]
      exact hlast
    rw [List.append_nil] at hfound
    simp only [List.filter_cons_of_pos hline, List.filter_cons_of_pos hfound, List.filter_append,
      List.filter_cons_of_pos hlast, List.filter_cons_of_pos hlast', List.filter_nil]
    refine ⟨.more first _ last, fun line hmem => ?_⟩
    simp only [List.mem_cons, List.mem_append, List.not_mem_nil, or_false] at hmem ⊢
    rcases hmem with rfl | hmiddle | rfl
    · exact .inr hfound
    · exact .inl (.inr (.inl hmiddle))
    · exact .inr hlast'

/-- Only a quoted text all of whose lines are lines of statements is a part of such lines. -/
theorem isStatementLine_of_part (h : QuotedLines part) (hpart : ∀ line ∈ part, '\n' ∉ line)
    (hown : ∀ line ∈ own, '\n' ∉ line ∧ isStatementLine line = true)
    (hwithin : joinChars ['\n'] part <:+: joinChars ['\n'] own) :
    ∀ line ∈ part, isStatementLine line = true := by
  obtain ⟨line, rfl⟩ | ⟨first, middle, last, rfl⟩ := h.cases_lines
  · simp [isStatementLine_first]
  obtain ⟨front, back, heq⟩ := hwithin
  have hne : own ≠ [] := by
    rintro rfl
    simp [joinChars] at heq
  have hcut : splitAt '\n' (joinChars ['\n'] own) = own :=
    splitAt_joinChars hne fun line hline => (hown line hline).1
  have hlast : '\n' ∉ last ++ ['\x27'] := hpart _ (by simp)
  obtain ⟨tail, more, htail⟩ := exists_splitAt_append hlast back
  have hpieces : own = splitAt '\n' (front ++ '\x27' :: first) ++
      (middle ++ (last ++ ['\x27'] ++ tail) :: more) := by
    rw [← htail, ← splitAt_joinChars_append fun line hline => hpart line (by simp [hline]),
      ← splitAt_append_cons, ← hcut, ← heq, joinChars_cons_of_ne_nil _ (by simp)]
    simp
  -- Behind the first line feed these are lines of statements, the last one with what follows it.
  intro line hline
  simp only [List.mem_cons, List.mem_append, List.not_mem_nil, or_false] at hline
  rcases hline with rfl | hmiddle | rfl
  · exact isStatementLine_first first
  · exact (hown line (by simp [hpieces, hmiddle])).2
  · have hstatement := (hown (last ++ ['\x27'] ++ tail) (by simp [hpieces])).2
    rw [List.append_assoc, List.singleton_append, isStatementLine_quote] at hstatement
    exact (isStatementLine_quote last []).2 hstatement

end QuotedLines

section Parse

variable {name before start content after : String}

/-- Among the lines of a file with a quoted text are those of the text. -/
theorem exists_lines_of_quoted (before after : String) (hstart : '\n' ∉ start.toList)
    (content : String) : ∃ tail more found,
      Within start.toList tail (lines (quoteLiteral content).toList) found ∧
      lines (before ++ "\n" ++ start ++ quoteLiteral content ++ after).toList =
        lines (before ++ "\n").toList ++ (found ++ more) := by
  obtain ⟨tail, more, hwithin⟩ := exists_within after.toList
  obtain ⟨found, hfound, hlines⟩ := hwithin start.toList (quoteLiteral content).toList '\x27' hstart
    (.inr (by simp [toList_quoteLiteral_eq])) (getLast?_quoteLiteral content) (by decide)
    (by decide)
  refine ⟨tail, more, found, hfound, ?_⟩
  have hfeed : "\n".toList = ['\n'] := rfl
  have htext : (before ++ "\n" ++ start ++ quoteLiteral content ++ after).toList = before.toList ++
      '\n' :: (start.toList ++ ((quoteLiteral content).toList ++ after.toList)) := by
    simp
  rw [htext, lines_append, hlines, String.toList_append, hfeed]

/-- A quoted text that begins in a section without a comment in front of it, and in which no section
for reverting begins, is read without the lines that are blank or begin with two hyphens, unless the
last one does. -/
theorem infix_up_of_inSection (after : String)
    (hsection : InSection .up (lines (before ++ "\n").toList))
    (hstart : '\n' ∉ start.toList) (huncommented : ¬['-', '-'] <+: trimStart start.toList)
    (hup : ∀ line ∈ lines (quoteLiteral content).toList, ¬IsMarker .down line)
    (hcloses : QuotedLines.Closes (lines (quoteLiteral content).toList)) :
    joinChars ['\n'] ((lines (quoteLiteral content).toList).filter isStatementLine) <:+:
      trim (joinChars ['\n'] (ownLines .up
        (before ++ "\n" ++ start ++ quoteLiteral content ++ after).toList)) := by
  have hquoted := quotedLines content
  obtain ⟨tail, more, found, hfound, hlines⟩ := exists_lines_of_quoted before after hstart content
  obtain ⟨hkept, hmem⟩ := hquoted.within_filter hfound huncommented hcloses
  have hmarkers (line : List Char) (hline : line ∈ found) (other : Direction)
      (hother : IsMarker other line) : other = .up := by
    rcases hmem line hline with hpart | hstatement
    · cases other with
      | up => rfl
      | down => exact absurd hother (hup line hpart)
    · rw [isStatementLine_of_isMarker hother] at hstatement
      cases hstatement
  obtain ⟨front, back, hown⟩ := hsection.exists_ownLines hlines hmarkers
  have hpart := hquoted.filter hcloses
  refine infix_trim hpart.head?_join (by decide) hpart.getLast?_join (by decide) ?_
  rw [hown]
  refine List.IsInfix.trans ⟨start.toList, tail, ?_⟩
    (infix_joinChars_append front hkept.ne_nil back)
  rw [hkept.join_eq, List.append_assoc]

/-- A quoted text that begins in a section for applying a migration, without a comment in front of
it, is read as it is written, with line feeds for all ends of lines, just if none of its lines is
blank or begins with two hyphens. If some are, and none starts a section for reverting and the last
one does not begin with hyphens, just these lines are missing. -/
theorem parse_keeps_quoted_iff (name content after : String)
    (hsection : InSection .up (lines (before ++ "\n").toList)) (hstart : '\n' ∉ start.toList)
    (huncommented : ¬['-', '-'] <+: trimStart start.toList) :
    let quoted := (quoteLiteral content).toList
    ∃ file, parse name (before ++ "\n" ++ start ++ quoteLiteral content ++ after) = .ok file ∧
      (joinChars ['\n'] (lines quoted) <:+: file.up.toList ↔
        ∀ line ∈ lines quoted, trim line ≠ [] ∧ ¬['-', '-'] <+: trim line) ∧
      (¬['\r', '\n'] <:+: quoted → joinChars ['\n'] (lines quoted) = quoted) ∧
      ((∀ line ∈ lines quoted, ¬IsMarker .down line) →
        (∀ line, (lines quoted).getLast? = some line → ¬['-', '-'] <+: trim line) →
        joinChars ['\n'] ((lines quoted).filter fun line =>
          trim line ≠ [] ∧ ¬['-', '-'] <+: trim line) <:+: file.up.toList) := by
  intro quoted
  have hquoted : QuotedLines (lines quoted) := quotedLines content
  have hsame : ¬['\r', '\n'] <:+: quoted → joinChars ['\n'] (lines quoted) = quoted :=
    joinChars_lines (by simp [quoted, getLast?_quoteLiteral])
  obtain ⟨tail, more, found, -, hlines⟩ := exists_lines_of_quoted before after hstart content
  have hfilter : (fun line => decide (trim line ≠ [] ∧ ¬['-', '-'] <+: trim line)) =
      isStatementLine := by
    funext line
    rw [Bool.eq_iff_iff, decide_eq_true_eq, isStatementLine_eq_true]
  refine ⟨_, hsection.parse_eq name hlines, ?_, hsame, fun hup hcloses => ?_⟩
  · simp only [String.toList_ofList, ← isStatementLine_eq_true]
    constructor
    · intro hwithin
      exact hquoted.isStatementLine_of_part (fun line => not_mem_of_mem_lines)
        (fun line => of_mem_ownLines) (hwithin.trans (trim_infix_self _))
    · intro hall
      have h := infix_up_of_inSection after hsection hstart huncommented
        (fun line hline hmarker => by
          simpa [isStatementLine_of_isMarker hmarker] using hall line hline)
        (fun line hline => hall line (List.mem_of_getLast? hline))
      rwa [List.filter_eq_self.2 hall] at h
  · rw [hfilter, String.toList_ofList]
    refine infix_up_of_inSection after hsection hstart huncommented hup fun line hline => ?_
    obtain ⟨front, rfl⟩ := hquoted.exists_of_getLast? hline
    exact isStatementLine_eq_true.2 ⟨by simp [trim_quote], hcloses _ hline⟩

/-- A quoted text over three lines is read as it is written. -/
theorem three_quoted_lines_are_read :
    let before := "-- Up migration"
    let start := "INSERT INTO t VALUES ("
    let content := "it's\n - b\nup"
    InSection .up (lines (before ++ "\n").toList) ∧ '\n' ∉ start.toList ∧
      ¬['-', '-'] <+: trimStart start.toList ∧
      ∃ file, parse "m" (before ++ "\n" ++ start ++ quoteLiteral content ++ ");\n") = .ok file ∧
        (quoteLiteral content).toList <:+: file.up.toList := by
  intro before start content
  have hsection : InSection .up (lines (before ++ "\n").toList) :=
    ⟨[], before.toList, [], by decide, by decide, by simp⟩
  have hstart : '\n' ∉ start.toList := by decide
  have huncommented : ¬['-', '-'] <+: trimStart start.toList := by decide
  obtain ⟨file, hfile, hkept, hsame, -⟩ :=
    parse_keeps_quoted_iff "m" content ");\n" hsection hstart huncommented
  have hlines : lines (quoteLiteral content).toList =
      ["'it''s".toList, " - b".toList, "up'".toList] := by decide
  have hreturn : '\r' ∉ (quoteLiteral content).toList := by decide
  refine ⟨hsection, hstart, huncommented, file, hfile, ?_⟩
  rw [hsame fun h => hreturn (h.subset List.mem_cons_self), hlines] at hkept
  exact hkept.2 (by decide)

/-- A quoted text with a carriage return at the end of a line, a blank line and a line that begins
with two hyphens is read without them. -/
theorem quoted_lines_are_left_out :
    let before := "-- Up migration"
    let start := "INSERT INTO t VALUES ("
    let quoted := quoteLiteral "a\r\n\n-- b\nc"
    InSection .up (lines (before ++ "\n").toList) ∧ '\n' ∉ start.toList ∧
      ¬['-', '-'] <+: trimStart start.toList ∧
      ∃ file, parse "m" (before ++ "\n" ++ start ++ quoted ++ ");\n") = .ok file ∧
        file.up = "INSERT INTO t VALUES ('a\nc');" ∧ ¬quoted.toList <:+: file.up.toList := by
  intro before start quoted
  refine ⟨⟨[], before.toList, [], by decide, by decide, by simp⟩, by decide, by decide,
    ⟨"m", "INSERT INTO t VALUES ('a\nc');", ""⟩, by decide +kernel, rfl, fun h => ?_⟩
  have hhyphen : '-' ∈ quoted.toList := by decide
  exact absurd (h.subset hhyphen) (by decide)

end Parse

end SectionFile

end SchemaMigration
