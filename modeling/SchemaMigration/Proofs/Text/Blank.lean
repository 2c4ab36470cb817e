import Mathlib.Data.List.Forall2
import Mathlib.Data.List.TakeWhile
import SchemaMigration.Text.Blank

/-!
# Trimmed texts and lines of texts

Blanks at the ends of a text do not count when it is trimmed. A text is written in lines if each of
them ends with a line feed or with a carriage return and a line feed, the last one perhaps with
nothing; reading finds these lines again, up to a carriage return at their ends.
-/

namespace SchemaMigration.Text

section Trim

variable {text blanks : List Char}

theorem trimStart_append_of_blank (h : ∀ c ∈ blanks, isBlank c = true) (text : List Char) :
    trimStart (blanks ++ text) = trimStart text := by
  rw [trimStart, trimStart, List.dropWhile_append_of_pos h]

theorem trimEnd_append_of_blank (text : List Char) (h : ∀ c ∈ blanks, isBlank c = true) :
    trimEnd (text ++ blanks) = trimEnd text := by
  rw [trimEnd, trimEnd, List.reverse_append, List.dropWhile_append_of_pos (by simpa using h)]

theorem trimStart_eq_nil : trimStart text = [] ↔ ∀ c ∈ text, isBlank c = true :=
  List.dropWhile_eq_nil_iff

/-- A text is its leading blanks and what is left when they are trimmed. -/
theorem exists_trimStart (text : List Char) :
    ∃ blanks, (∀ c ∈ blanks, isBlank c = true) ∧ text = blanks ++ trimStart text :=
  ⟨text.takeWhile isBlank, fun _ h => List.mem_takeWhile_imp h,
    List.takeWhile_append_dropWhile.symm⟩

theorem trimStart_cons_of_not_blank {c : Char} (h : isBlank c = false) (text : List Char) :
    trimStart (c :: text) = c :: text := by
  rw [trimStart, List.dropWhile_cons_of_neg (by simp [h])]

theorem trimStart_append_of_ne_nil (h : trimStart text ≠ []) (rest : List Char) :
    trimStart (text ++ rest) = trimStart text ++ rest := by
  induction text with
  | nil => cases h rfl
  | cons c text ih =>
    by_cases hc : isBlank c = true
    · have hcons (others : List Char) : trimStart (c :: others) = trimStart others :=
        List.dropWhile_cons_of_pos hc
      rw [hcons] at h
      rw [List.cons_append, hcons, hcons, ih h]
    · have hc : isBlank c = false := by simpa using hc
      rw [List.cons_append, trimStart_cons_of_not_blank hc, trimStart_cons_of_not_blank hc,
        List.cons_append]

/-- A character that is not blank keeps what stands before it from being trimmed. -/
theorem trimEnd_append_cons {c : Char} (h : isBlank c = false) (front rest : List Char) :
    trimEnd (front ++ c :: rest) = front ++ c :: trimEnd rest := by
  have hdrop (l : List Char) : (l ++ c :: front.reverse).dropWhile isBlank =
      l.dropWhile isBlank ++ c :: front.reverse := by
    induction l with
    | nil => simp [h]
    | cons d l ih =>
      by_cases hd : isBlank d = true
      · rw [List.cons_append, List.dropWhile_cons_of_pos hd, ih, List.dropWhile_cons_of_pos hd]
      · rw [List.cons_append, List.dropWhile_cons_of_neg hd, List.dropWhile_cons_of_neg hd,
          List.cons_append]
  simp [trimEnd, hdrop]

theorem trimEnd_eq_nil (h : ∀ c ∈ text, isBlank c = true) : trimEnd text = [] := by
  rw [trimEnd, List.dropWhile_eq_nil_iff.2 (by simpa using h), List.reverse_nil]

/-- A text is what is left when its trailing blanks are trimmed, and these blanks. -/
theorem exists_trimEnd (text : List Char) :
    ∃ blanks, (∀ c ∈ blanks, isBlank c = true) ∧ text = trimEnd text ++ blanks := by
  refine ⟨(text.reverse.takeWhile isBlank).reverse, fun c h => ?_, ?_⟩
  · exact List.mem_takeWhile_imp (List.mem_reverse.1 h)
  · rw [trimEnd, ← List.reverse_append, List.takeWhile_append_dropWhile, List.reverse_reverse]

/-- Nothing is left of a text when it is trimmed just if it is blank. -/
theorem trim_eq_nil : trim text = [] ↔ ∀ c ∈ text, isBlank c = true := by
  constructor
  · intro h
    obtain ⟨back, hback, hstart⟩ := exists_trimEnd (trimStart text)
    obtain ⟨front, hfront, htext⟩ := exists_trimStart text
    have hnil : trimEnd (trimStart text) = [] := h
    rw [hnil, List.nil_append] at hstart
    rw [htext, hstart]
    exact fun c hc => (List.mem_append.1 hc).elim (hfront c) (hback c)
  · intro h
    rw [trim, trimStart_eq_nil.2 h]
    rfl

theorem trim_append_of_blank (text : List Char) (h : ∀ c ∈ blanks, isBlank c = true) :
    trim (text ++ blanks) = trim text := by
  by_cases hnil : trimStart text = []
  · have hall : ∀ c ∈ text ++ blanks, isBlank c = true := by
      intro c hc
      rcases List.mem_append.1 hc with hc | hc
      · exact trimStart_eq_nil.1 hnil c hc
      · exact h c hc
    rw [trim, trim, hnil, trimStart_eq_nil.2 hall]
  · rw [trim, trim, trimStart_append_of_ne_nil hnil, trimEnd_append_of_blank _ h]

theorem trimStart_append_cons {c : Char} (hc : isBlank c = false) (front rest : List Char) :
    trimStart (front ++ c :: rest) = trimStart front ++ c :: rest := by
  by_cases hfront : trimStart front = []
  · rw [hfront, trimStart_append_of_blank (trimStart_eq_nil.1 hfront),
      trimStart_cons_of_not_blank hc, List.nil_append]
  · rw [trimStart_append_of_ne_nil hfront]

/-- A trimmed text is a part of the text. -/
theorem trim_infix_self (text : List Char) : trim text <:+: text := by
  obtain ⟨front, -, hfront⟩ := exists_trimStart text
  obtain ⟨back, -, hback⟩ := exists_trimEnd (trimStart text)
  refine ⟨front, back, ?_⟩
  rw [trim, List.append_assoc, ← hback, ← hfront]

/-- A part that neither begins nor ends with a blank is left when a text is trimmed. -/
theorem infix_trim {c d : Char} {part : List Char} (hhead : part.head? = some c)
    (hc : isBlank c = false) (hlast : part.getLast? = some d) (hd : isBlank d = false)
    (h : part <:+: text) : part <:+: trim text := by
  obtain ⟨front, back, rfl⟩ := h
  have hstart : trimStart (front ++ part ++ back) = trimStart front ++ part ++ back := by
    obtain ⟨others, rfl⟩ := List.head?_eq_some_iff.1 hhead
    rw [List.append_assoc, List.cons_append, trimStart_append_cons hc, List.append_assoc,
      List.cons_append]
  have hend : trimEnd (trimStart front ++ part ++ back) =
      trimStart front ++ part ++ trimEnd back := by
    obtain ⟨others, rfl⟩ := List.getLast?_eq_some_iff.1 hlast
    have hsplit (behind : List Char) : trimStart front ++ (others ++ [d]) ++ behind =
        (trimStart front ++ others) ++ d :: behind := by simp
    rw [hsplit, trimEnd_append_cons hd, ← hsplit]
  rw [trim, hstart, hend]
  exact ⟨_, _, rfl⟩

theorem dropReturn_concat (line : List Char) : dropReturn (line ++ ['\r']) = line := by
  simp [dropReturn]

theorem trim_dropReturn (line : List Char) : trim (dropReturn line) = trim line := by
  unfold dropReturn
  split
  · next h =>
    obtain ⟨front, rfl⟩ := List.getLast?_eq_some_iff.1 h
    have hblank : ∀ c ∈ ['\r'], isBlank c = true := fun c hc => List.mem_singleton.1 hc ▸ rfl
    rw [List.dropLast_concat, trim_append_of_blank front hblank]
  · rfl

end Trim

/-- Lines are written as a text: each of them ends with a line feed or with a carriage return and a
line feed, and the last one may end with the text. -/
inductive Written : List (List Char) → List Char → Prop where
  /-- Nothing is written. -/
  | nil : Written [] []
  /-- The last line ends with the text. -/
  | last {line : List Char} (some : line ≠ []) (whole : '\n' ∉ line) : Written [line] line
  /-- A line ends with a line feed. -/
  | feed {line text : List Char} {lines : List (List Char)} (whole : '\n' ∉ line)
      (rest : Written lines text) : Written (line :: lines) (line ++ '\n' :: text)
  /-- A line ends with a carriage return and a line feed. -/
  | returnFeed {line text : List Char} {lines : List (List Char)} (whole : '\n' ∉ line)
      (rest : Written lines text) : Written (line :: lines) (line ++ '\r' :: '\n' :: text)

theorem linesFrom_append_of_not_mem {line : List Char} (h : '\n' ∉ line) (read rest : List Char) :
    linesFrom read (line ++ rest) = linesFrom (line.reverse ++ read) rest := by
  induction line generalizing read with
  | nil => rfl
  | cons c line ih =>
    have hc : c ≠ '\n' := fun hc => h (hc ▸ List.mem_cons_self)
    have hline : '\n' ∉ line := fun hmem => h (List.mem_cons_of_mem c hmem)
    rw [List.cons_append, linesFrom, if_neg hc, ih hline]
    simp

theorem lines_append_feed {line : List Char} (h : '\n' ∉ line) (text : List Char) :
    lines (line ++ '\n' :: text) = dropReturn line :: lines text := by
  rw [lines, linesFrom_append_of_not_mem h, linesFrom, if_pos rfl, List.append_nil,
    List.reverse_reverse, lines]

theorem lines_of_whole {line : List Char} (hline : '\n' ∉ line) (hne : line ≠ []) :
    lines line = [line] := by
  have h := linesFrom_append_of_not_mem hline [] []
  rw [List.append_nil, List.append_nil, linesFrom] at h
  rw [lines, h]
  simp [hne]

/-- The lines of a written text are those that were written, up to a carriage return. -/
theorem Written.lines_eq {written : List (List Char)} {text : List Char}
    (h : Written written text) :
    List.Forall₂ (fun line read => read = line ∨ read = dropReturn line) written (lines text) := by
  induction h with
  | nil => exact .nil
  | @last line some whole =>
    rw [lines_of_whole whole some]
    exact .cons (.inl rfl) .nil
  | feed whole _ ih =>
    rw [lines_append_feed whole]
    exact .cons (.inr rfl) ih
  | @returnFeed line text _ whole _ ih =>
    have hwhole : '\n' ∉ line ++ ['\r'] := by simpa using whole
    have htext : line ++ '\r' :: '\n' :: text = (line ++ ['\r']) ++ '\n' :: text := by simp
    rw [htext, lines_append_feed hwhole, dropReturn_concat]
    exact .cons (.inl rfl) ih

/-- Every text is written in lines. -/
theorem exists_written (text : List Char) : ∃ lines, Written lines text := by
  induction text with
  | nil => exact ⟨[], .nil⟩
  | cons c text ih =>
    obtain ⟨lines, h⟩ := ih
    by_cases hc : c = '\n'
    · exact ⟨[] :: lines, hc ▸ .feed List.not_mem_nil h⟩
    have hcons {line : List Char} (hline : '\n' ∉ line) : '\n' ∉ c :: line := by
      simp [hline, Ne.symm hc]
    cases h with
    | nil => exact ⟨[[c]], .last nofun (hcons List.not_mem_nil)⟩
    | last some whole => exact ⟨[c :: text], .last nofun (hcons whole)⟩
    | feed whole rest => exact ⟨_, .feed (hcons whole) rest⟩
    | returnFeed whole rest => exact ⟨_, .returnFeed (hcons whole) rest⟩

end SchemaMigration.Text
