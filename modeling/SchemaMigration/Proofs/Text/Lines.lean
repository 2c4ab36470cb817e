import SchemaMigration.Proofs.Files.Path
import SchemaMigration.Proofs.Text.Blank

/-!
# The lines of a part of a text

A part of a text has the lines of the whole text, but for what stands before the part on its first
line and behind it on its last one. Lines that are joined again are found in a text only where they
are lines of it, but for what stands before the first one and behind the last one.
-/

namespace SchemaMigration.Text

variable {line text : List Char} {c d : Char}

/-- A text is a line, or a line and a line feed in front of another text. -/
@[elab_as_elim]
theorem lineInduction {motive : List Char → Prop} (last : ∀ line, '\n' ∉ line → motive line)
    (feed : ∀ line rest, '\n' ∉ line → motive rest → motive (line ++ '\n' :: rest))
    (text : List Char) : motive text := by
  have hfront (line : List Char) (hline : '\n' ∉ line) : motive (line ++ text) := by
    induction text generalizing line with
    | nil => simpa using last line hline
    | cons c rest ih =>
      by_cases hc : c = '\n'
      · exact hc ▸ feed line rest hline (ih [] List.not_mem_nil)
      · have hlonger : '\n' ∉ line ++ [c] := by simp [hline, Ne.symm hc]
        simpa using ih (line ++ [c]) hlonger
  exact hfront [] List.not_mem_nil

section Lines

theorem lines_ne_nil (hne : text ≠ []) : lines text ≠ [] := by
  cases text using lineInduction with
  | last line hline =>
    rw [lines_of_whole hline hne]
    nofun
  | feed line rest hline =>
    rw [lines_append_feed hline]
    nofun

/-- A line feed ends a line wherever it stands. -/
theorem lines_append (before after : List Char) :
    lines (before ++ '\n' :: after) = lines (before ++ ['\n']) ++ lines after := by
  induction before using lineInduction with
  | last line hline =>
    rw [lines_append_feed hline, lines_append_feed hline]
    rfl
  | feed line rest hline ih =>
    rw [List.append_assoc, List.append_assoc, List.cons_append, List.cons_append,
      lines_append_feed hline, lines_append_feed hline, ih, List.cons_append]

theorem dropReturn_append (start : List Char) (hne : line ≠ []) :
    dropReturn (start ++ line) = start ++ dropReturn line := by
  rw [dropReturn, dropReturn, List.getLast?_append_of_ne_nil _ hne]
  split
  · rw [List.dropLast_append_of_ne_nil hne]
  · rfl

theorem dropReturn_of_getLast? (hlast : line.getLast? = some d) (hd : d ≠ '\r') :
    dropReturn line = line := by
  rw [dropReturn, if_neg (by simp [hlast, hd])]

theorem not_mem_of_mem_lines (h : line ∈ lines text) : '\n' ∉ line := by
  have hreturn {line : List Char} (hline : '\n' ∉ line) : '\n' ∉ dropReturn line := by
    unfold dropReturn
    split
    · exact fun hmem => hline (List.dropLast_subset line hmem)
    · exact hline
  induction text using lineInduction with
  | last whole hwhole =>
    by_cases hne : whole = []
    · subst hne
      cases h
    · rw [lines_of_whole hwhole hne, List.mem_singleton] at h
      exact h ▸ hwhole
  | feed whole rest hwhole ih =>
    rw [lines_append_feed hwhole] at h
    rcases List.mem_cons.1 h with rfl | h
    · exact hreturn hwhole
    · exact ih h

/-- What follows in a text is the end of a line and further lines. -/
theorem exists_lineEnd (after : List Char) : ∃ tail more, ∀ line : List Char, ∀ d, '\n' ∉ line →
    line.getLast? = some d → d ≠ '\r' → lines (line ++ after) = (line ++ tail) :: more := by
  by_cases hfeed : '\n' ∈ after
  · obtain ⟨front, rest, rfl, hfront⟩ := List.eq_append_cons_of_mem hfeed
    refine ⟨dropReturn front, lines rest, fun line d hline hlast hd => ?_⟩
    rw [← List.append_assoc, lines_append_feed (by simp [hline, hfront])]
    by_cases hne : front = []
    · rw [hne, List.append_nil, dropReturn_of_getLast? hlast hd]
      exact congrArg (· :: lines rest) (List.append_nil line).symm
    · rw [dropReturn_append line hne]
  · refine ⟨after, [], fun line d hline hlast _ => ?_⟩
    have hne : line ++ after ≠ [] := by
      rintro h
      rw [(List.append_eq_nil_iff.1 h).1] at hlast
      cases hlast
    exact lines_of_whole (by simp [hline, hfeed]) hne

/-- The first line of a text begins as the text does. -/
theorem exists_lines_cons (hc : c ≠ '\n') (hc' : c ≠ '\r') (text : List Char) :
    ∃ line rest, lines (c :: text) = (c :: line) :: rest := by
  obtain ⟨tail, more, h⟩ := exists_lineEnd text
  exact ⟨tail, more, h [c] c (by simp [Ne.symm hc]) rfl hc'⟩

/-- The last line of a text ends as the text does, if this does not end with a line feed. -/
theorem exists_lines_concat (hd : d ≠ '\n') (text : List Char) :
    ∃ front line, lines (text ++ [d]) = front ++ [line ++ [d]] := by
  induction text using lineInduction with
  | last line hline => exact ⟨[], line, lines_of_whole (by simp [hline, Ne.symm hd]) (by simp)⟩
  | feed line rest hline ih =>
    obtain ⟨front, last, h⟩ := ih
    refine ⟨dropReturn line :: front, last, ?_⟩
    rw [List.append_assoc, List.cons_append, lines_append_feed hline, h, List.cons_append]

/-- The lines of a text with a line feed behind it are its pieces between line feeds. -/
theorem lines_append_eq_splitAt (text rest : List Char) :
    lines (text ++ '\n' :: rest) = (splitAt '\n' text).map dropReturn ++ lines rest := by
  induction text using lineInduction with
  | last line hline =>
    rw [lines_append_feed hline, splitAt_of_not_mem hline]
    rfl
  | feed line text hline ih =>
    rw [List.append_assoc, List.cons_append, lines_append_feed hline, ih, splitAt_append_cons,
      splitAt_of_not_mem hline]
    rfl

end Lines

/-- Lines are found with a text put in front of the first of them and another one behind the
last. -/
inductive Within (start tail : List Char) : List (List Char) → List (List Char) → Prop where
  /-- There is one line. -/
  | one (line : List Char) : Within start tail [line] [start ++ (line ++ tail)]
  /-- There are more lines. -/
  | more (first : List Char) (middle : List (List Char)) (last : List Char) :
      Within start tail (first :: (middle ++ [last]))
        ((start ++ first) :: (middle ++ [last ++ tail]))

variable {start tail : List Char} {part found : List (List Char)}

theorem Within.ne_nil (h : Within start tail part found) : found ≠ [] := by
  cases h <;> nofun

theorem Within.cons (h : Within [] tail part found) (line : List Char) :
    Within start tail (line :: part) ((start ++ line) :: found) := by
  cases h with
  | one last => exact .more line [] last
  | more first middle last => exact .more line (first :: middle) last

/-- The lines of a part of a text are found among those of the text. -/
theorem exists_within (after : List Char) : ∃ tail more, ∀ start text : List Char, ∀ d,
    '\n' ∉ start → (start = [] ∨ text.head? ≠ some '\n') → text.getLast? = some d →
    d ≠ '\n' → d ≠ '\r' → ∃ found, Within start tail (lines text) found ∧
      lines (start ++ (text ++ after)) = found ++ more := by
  obtain ⟨tail, more, htail⟩ := exists_lineEnd after
  refine ⟨tail, more, fun start text d hstart hhead hlast hd hd' => ?_⟩
  induction text using lineInduction generalizing start with
  | last line hline =>
    have hne : line ≠ [] := by
      rintro rfl
      cases hlast
    have hwhole : '\n' ∉ start ++ line := by simp [hstart, hline]
    have hlast' : (start ++ line).getLast? = some d := by
      rw [List.getLast?_append_of_ne_nil _ hne, hlast]
    rw [lines_of_whole hline hne, ← List.append_assoc, htail _ d hwhole hlast' hd',
      List.append_assoc]
    exact ⟨_, .one line, rfl⟩
  | feed line rest hline ih =>
    have hne : rest ≠ [] := by
      rintro rfl
      rw [List.getLast?_append_of_ne_nil _ (List.cons_ne_nil _ _)] at hlast
      exact hd (Option.some.inj hlast).symm
    have hlast' : rest.getLast? = some d := by
      rwa [List.getLast?_append_of_ne_nil _ (List.cons_ne_nil _ _),
        List.getLast?_cons_of_ne_nil hne] at hlast
    obtain ⟨found, hwithin, hlines⟩ := ih [] List.not_mem_nil (.inl rfl) hlast'
    -- A carriage return that is dropped is one of the part, which does not begin with a line feed.
    have hreturn : dropReturn (start ++ line) = start ++ dropReturn line := by
      rcases hhead with rfl | hhead
      · rfl
      · refine dropReturn_append start ?_
        rintro rfl
        exact hhead rfl
    have htext : start ++ (line ++ '\n' :: rest ++ after) =
        (start ++ line) ++ '\n' :: (rest ++ after) := by simp
    refine ⟨(start ++ dropReturn line) :: found, lines_append_feed hline rest ▸ hwithin.cons _, ?_⟩
    rw [htext, lines_append_feed (by simp [hstart, hline]), hreturn]
    exact congrArg (_ :: ·) hlines

section Join

variable {separator : List Char}

theorem joinChars_cons_of_ne_nil (piece : List Char) {pieces : List (List Char)}
    (hne : pieces ≠ []) : joinChars separator (piece :: pieces) =
      piece ++ separator ++ joinChars separator pieces := by
  cases pieces with
  | nil => cases hne rfl
  | cons next rest => rfl

/-- The join of pieces is that of the front ones, a separator and that of the others. -/
theorem joinChars_append {front back : List (List Char)} (hfront : front ≠ []) (hback : back ≠ []) :
    joinChars separator (front ++ back) =
      joinChars separator front ++ separator ++ joinChars separator back := by
  induction front with
  | nil => cases hfront rfl
  | cons piece front ih =>
    rw [List.cons_append]
    cases front with
    | nil => exact joinChars_cons_of_ne_nil piece hback
    | cons next rest =>
      rw [joinChars_cons_of_ne_nil piece (by simp), ih (by simp),
        joinChars_cons_of_ne_nil piece (List.cons_ne_nil next rest)]
      simp only [List.append_assoc]

/-- The join of neighbours is in the join of all. -/
theorem infix_joinChars_append (earlier : List (List Char)) (hne : part ≠ [])
    (later : List (List Char)) :
    joinChars separator part <:+: joinChars separator (earlier ++ (part ++ later)) := by
  have hlater : joinChars separator part <:+: joinChars separator (part ++ later) := by
    by_cases h : later = []
    · simp only [h, List.append_nil, List.infix_rfl]
    · rw [joinChars_append hne h, List.append_assoc]
      exact (List.prefix_append _ _).isInfix
  by_cases h : earlier = []
  · rwa [h, List.nil_append]
  · rw [joinChars_append h (by simp [hne])]
    exact hlater.trans (List.suffix_append _ _).isInfix

/-- Joined again, lines that are found have around them what was put there. -/
theorem Within.join_eq (h : Within start tail part found) :
    joinChars separator found = start ++ (joinChars separator part ++ tail) := by
  cases h with
  | one line => rfl
  | more first middle last =>
    have hmiddle : joinChars separator (middle ++ [last ++ tail]) =
        joinChars separator (middle ++ [last]) ++ tail := by
      cases middle with
      | nil => rfl
      | cons line middle =>
        rw [joinChars_append (by simp) (by simp), joinChars_append (by simp) (by simp)]
        simp [joinChars]
    rw [joinChars_cons_of_ne_nil _ (by simp), joinChars_cons_of_ne_nil _ (by simp), hmiddle]
    simp only [List.append_assoc]

/-- A text without carriage returns before line feeds is its lines joined again, if it does not end
with a line feed. -/
theorem joinChars_lines (hlast : text.getLast? ≠ some '\n') (hreturn : ¬['\r', '\n'] <:+: text) :
    joinChars ['\n'] (lines text) = text := by
  induction text using lineInduction with
  | last line hline =>
    by_cases hne : line = []
    · rw [hne]
      rfl
    · rw [lines_of_whole hline hne]
      rfl
  | feed line rest hline ih =>
    have hne : rest ≠ [] := by
      rintro rfl
      exact hlast (by simp)
    have hlast' : rest.getLast? ≠ some '\n' := by
      rwa [List.getLast?_append_of_ne_nil _ (List.cons_ne_nil _ _),
        List.getLast?_cons_of_ne_nil hne] at hlast
    have hrest : ¬['\r', '\n'] <:+: rest := fun h =>
      hreturn (h.trans ((List.suffix_cons _ _).trans (List.suffix_append _ _)).isInfix)
    have hline' : dropReturn line = line := by
      unfold dropReturn
      split
      · next hend =>
        obtain ⟨front, rfl⟩ := List.getLast?_eq_some_iff.1 hend
        exact absurd ⟨front, rest, by simp⟩ hreturn
      · rfl
    rw [lines_append_feed hline, hline', joinChars_cons_of_ne_nil _ (lines_ne_nil hne),
      ih hlast' hrest]
    simp

/-- Cutting undoes joining, up to what is put behind the last piece. -/
theorem splitAt_joinChars_append {front : List (List Char)} (hfront : ∀ piece ∈ front, c ∉ piece)
    (last rest : List Char) : splitAt c (joinChars [c] (front ++ [last]) ++ rest) =
      front ++ splitAt c (last ++ rest) := by
  induction front with
  | nil => rfl
  | cons piece front ih =>
    obtain ⟨hpiece, hfront⟩ := List.forall_mem_cons.1 hfront
    rw [List.cons_append, joinChars_cons_of_ne_nil _ (by simp), List.append_assoc,
      List.append_assoc, List.singleton_append, splitAt_append_cons, splitAt_of_not_mem hpiece,
      ih hfront]
    rfl

/-- Cutting undoes joining. -/
theorem splitAt_joinChars {pieces : List (List Char)} (hne : pieces ≠ [])
    (hpieces : ∀ piece ∈ pieces, c ∉ piece) : splitAt c (joinChars [c] pieces) = pieces := by
  have hlast := splitAt_of_not_mem (hpieces _ (List.getLast_mem hne))
  have hfront (piece : List Char) (h : piece ∈ pieces.dropLast) : c ∉ piece :=
    hpieces piece (List.dropLast_subset pieces h)
  have h := splitAt_joinChars_append hfront (pieces.getLast hne) []
  rwa [List.append_nil, List.append_nil, hlast, List.dropLast_concat_getLast] at h

/-- What is put in front of a text is put in front of its first piece. -/
theorem splitAt_append_left {front : List Char} (hfront : c ∉ front) (text : List Char) :
    splitAt c (front ++ text) =
      (front ++ (splitAt c text).headD []) :: (splitAt c text).tail := by
  by_cases hc : c ∈ text
  · obtain ⟨first, rest, rfl, hfirst⟩ := List.eq_append_cons_of_mem hc
    rw [← List.append_assoc, splitAt_append_cons, splitAt_append_cons, splitAt_of_not_mem hfirst,
      splitAt_of_not_mem (by simp [hfront, hfirst])]
    rfl
  · rw [splitAt_of_not_mem hc, splitAt_of_not_mem (by simp [hfront, hc])]
    rfl

theorem exists_splitAt_append (hline : c ∉ line) (rest : List Char) :
    ∃ tail more, splitAt c (line ++ rest) = (line ++ tail) :: more :=
  ⟨_, _, splitAt_append_left hline rest⟩

end Join

end SchemaMigration.Text
