import Mathlib.Data.List.Induction
import SchemaMigration.Ddl.Compile
import SchemaMigration.Proofs.Ddl.Skeleton

/-!
# Reading what is quoted

By the default rules of all dialects a quote that is written twice stands for one. In literals of
MySQL, moreover, a backslash and the character behind it stand for something else. A text that is
quoted by writing its quotes twice is read back, and the reader stops at its end; but in MySQL it is
just if its backslashes stand only in front of the wildcards of patterns, where they are kept.
-/

namespace SchemaMigration

open Skeleton Text

/-! ### Readers -/

/-- What a backslash and a character behind it stand for in a literal of MySQL. In front of a
wildcard of patterns the backslash is kept, and in front of most characters it is dropped. -/
def unescaped (c : Char) : List Char :=
  if c = '%' ∨ c = '_' then ['\\', c]
  else match c with
    | '0' => ['\x00']
    | 'b' => ['\x08']
    | 'n' => ['\n']
    | 'r' => ['\r']
    | 't' => ['\t']
    | 'Z' => ['\x1a']
    | c => [c]

/-- Reads as far as the quote at the end of something quoted; returns what is quoted and what follows
the quote. A quote that is written twice stands for one. Backslashes may be escape characters. -/
def readQuoted? (escapes : Bool) (quote : Char) : List Char → Option (List Char × List Char)
  | [] => none
  | [c] => if c = quote then some ([], []) else none
  | c :: d :: rest =>
    if escapes = true ∧ c = '\\' then
      (readQuoted? escapes quote rest).map (Prod.map (unescaped d ++ ·) id)
    else if c = quote then
      if d = quote then (readQuoted? escapes quote rest).map (Prod.map (quote :: ·) id)
      else some ([], d :: rest)
    else (readQuoted? escapes quote (d :: rest)).map (Prod.map (c :: ·) id)

/-- Reads something quoted; returns the text that it stands for and what follows it. -/
def readEnclosed? (escapes : Bool) (quote : Char) : List Char → Option (String × List Char)
  | [] => none
  | c :: rest =>
    if c = quote then (readQuoted? escapes quote rest).map (Prod.map String.ofList id) else none

namespace Dialect

/-- Whether backslashes are escape characters in literals. -/
def escapes : Dialect → Bool
  | mysql => true
  | _ => false

/-- Reads a literal; returns the text that it stands for and what follows it. -/
def readLiteral? (d : Dialect) : List Char → Option (String × List Char) :=
  readEnclosed? d.escapes '\x27'

/-- Reads an identifier; returns the name and what follows it. -/
def readName? (d : Dialect) : List Char → Option (String × List Char) :=
  readEnclosed? false d.quote

end Dialect

/-- Backslashes stand only in front of the wildcards of patterns. -/
inductive EscapesWildcards : List Char → Prop where
  /-- There is nothing. -/
  | nil : EscapesWildcards []
  /-- There is another character. -/
  | plain {c : Char} {text : List Char} (hc : c ≠ '\\') (rest : EscapesWildcards text) :
      EscapesWildcards (c :: text)
  /-- There is a backslash in front of a wildcard. -/
  | wildcard {c : Char} {text : List Char} (hc : c = '%' ∨ c = '_')
      (rest : EscapesWildcards text) : EscapesWildcards ('\\' :: c :: text)

/-! ### Steps of reading -/

section Steps

variable {escapes : Bool} {quote c : Char} {text rest : List Char}

theorem double_cons_self (quote : Char) (content : List Char) :
    double quote (quote :: content) = quote :: quote :: double quote content := by
  simp [double]

theorem double_cons_of_ne (hc : c ≠ quote) (content : List Char) :
    double quote (c :: content) = c :: double quote content := by
  simp [double, hc]

theorem readQuoted?_cons (hc : c ≠ quote) (hescape : ¬(escapes = true ∧ c = '\\'))
    (text : List Char) : readQuoted? escapes quote (c :: text) =
      (readQuoted? escapes quote text).map (Prod.map (c :: ·) id) := by
  cases text with
  | nil => simp [readQuoted?, hc]
  | cons d rest => rw [readQuoted?, if_neg hescape, if_neg hc]

theorem readQuoted?_escape (hescapes : escapes = true) (quote c : Char) (text : List Char) :
    readQuoted? escapes quote ('\\' :: c :: text) =
      (readQuoted? escapes quote text).map (Prod.map (unescaped c ++ ·) id) := by
  rw [readQuoted?, if_pos ⟨hescapes, rfl⟩]

variable (hquote : quote ≠ '\\')

include hquote

theorem readQuoted?_quote_quote (text : List Char) :
    readQuoted? escapes quote (quote :: quote :: text) =
      (readQuoted? escapes quote text).map (Prod.map (quote :: ·) id) := by
  rw [readQuoted?, if_neg fun h => hquote h.2, if_pos rfl, if_pos rfl]

theorem readQuoted?_end (hrest : rest.head? ≠ some quote) :
    readQuoted? escapes quote (quote :: rest) = some ([], rest) := by
  cases rest with
  | nil => simp [readQuoted?]
  | cons d rest =>
    have hd : d ≠ quote := fun h => hrest (congrArg some h)
    rw [readQuoted?, if_neg fun h => hquote h.2, if_pos rfl, if_neg hd]

/-- A character that is no escape character is read as it was quoted. -/
theorem readQuoted?_double_cons (hescape : ¬(escapes = true ∧ c = '\\'))
    (content text : List Char) : readQuoted? escapes quote (double quote (c :: content) ++ text) =
      (readQuoted? escapes quote (double quote content ++ text)).map (Prod.map (c :: ·) id) := by
  by_cases hc : c = quote
  · subst hc
    rw [double_cons_self, List.cons_append, List.cons_append, readQuoted?_quote_quote hquote]
  · rw [double_cons_of_ne hc, List.cons_append, readQuoted?_cons hc hescape]

end Steps

/-! ### Reading back -/

section ReadBack

variable {quote : Char} {content rest : List Char}

theorem readEnclosed?_enclosed_iff {escapes : Bool} {content : String} :
    readEnclosed? escapes quote (enclosed quote content.toList ++ rest) = some (content, rest) ↔
      readQuoted? escapes quote (double quote content.toList ++ quote :: rest) =
        some (content.toList, rest) := by
  have hsplit : enclosed quote content.toList ++ rest =
      quote :: (double quote content.toList ++ quote :: rest) := by
    simp [enclosed]
  rw [hsplit, readEnclosed?, if_pos rfl]
  constructor
  · intro h
    obtain ⟨⟨found, behind⟩, hfound, heq⟩ := Option.map_eq_some_iff.1 h
    obtain ⟨rfl, rfl⟩ := Prod.mk.inj heq
    rw [hfound, String.toList_ofList]
    rfl
  · intro h
    rw [h, Option.map_some, Prod.map_apply, String.ofList_toList]
    rfl

theorem unescaped_of_wildcard {c : Char} (hc : c = '%' ∨ c = '_') : unescaped c = ['\\', c] :=
  if_pos hc

/-- Without escape characters whatever is quoted is read back. -/
theorem readQuoted?_double (hquote : quote ≠ '\\') (content : List Char)
    (hrest : rest.head? ≠ some quote) :
    readQuoted? false quote (double quote content ++ quote :: rest) = some (content, rest) := by
  induction content with
  | nil => exact readQuoted?_end hquote hrest
  | cons c content ih =>
    rw [readQuoted?_double_cons hquote (by simp), ih]
    rfl

/-- With escape characters it is read back as well, if these stand only in front of wildcards. -/
theorem EscapesWildcards.readQuoted? (h : EscapesWildcards content)
    (hrest : rest.head? ≠ some '\x27') :
    readQuoted? true '\x27' (double '\x27' content ++ '\x27' :: rest) = some (content, rest) := by
  have hquote : '\x27' ≠ '\\' := by decide
  induction h with
  | nil => exact readQuoted?_end hquote hrest
  | plain hc _ ih =>
    rw [readQuoted?_double_cons hquote (by simp [hc]), ih]
    rfl
  | @wildcard c content hc _ ih =>
    have hc' : c ≠ '\x27' := by rcases hc with rfl | rfl <;> decide
    rw [double_cons_of_ne hquote.symm, double_cons_of_ne hc', List.cons_append, List.cons_append,
      readQuoted?_escape rfl, ih, unescaped_of_wildcard hc]
    rfl

end ReadBack

/-! ### Where reading stops -/

section Stops

variable {escapes : Bool} {quote : Char} {content rest found text behind : List Char}

theorem exists_of_map_eq_some {read : Option (List Char × List Char)}
    {f : List Char → List Char} (h : read.map (Prod.map f id) = some (found, behind)) :
    ∃ found', read = some (found', behind) ∧ found = f found' := by
  obtain ⟨⟨found', behind'⟩, hread, heq⟩ := Option.map_eq_some_iff.1 h
  obtain ⟨rfl, rfl⟩ := Prod.mk.inj heq
  exact ⟨found', hread, rfl⟩

/-- What follows something quoted is shorter than what was read. -/
theorem length_lt_of_readQuoted? (h : readQuoted? escapes quote text = some (found, behind)) :
    behind.length < text.length := by
  fun_induction readQuoted? escapes quote text generalizing found with
  | case1 => cases h
  | case2 => cases h; simp
  | case3 => cases h
  | case4 c d rest _ ih | case5 rest _ ih | case7 c d rest _ _ ih =>
    obtain ⟨found', hread, -⟩ := exists_of_map_eq_some h
    have := ih hread
    simp only [List.length_cons] at *
    omega
  | case6 => cases h; simp

/-- Nothing that is read from a text leaves the whole text. -/
theorem readQuoted?_ne_self (text found : List Char) :
    readQuoted? escapes quote text ≠ some (found, text) :=
  fun h => absurd (length_lt_of_readQuoted? h) (Nat.lt_irrefl _)

variable (hquote : quote ≠ '\\')

include hquote

/-- Behind the first of two quotes that were written for one, reading never stops at the end of what
was quoted. -/
theorem readQuoted?_misaligned (content rest found : List Char) :
    readQuoted? escapes quote (quote :: (double quote content ++ quote :: rest)) ≠
      some (found, rest) := by
  induction content generalizing found with
  | nil =>
    intro h
    rw [double, List.flatMap_nil, List.nil_append, readQuoted?_quote_quote hquote] at h
    obtain ⟨found', hread, -⟩ := exists_of_map_eq_some h
    exact readQuoted?_ne_self rest found' hread
  | cons c content ih =>
    intro h
    by_cases hc : c = quote
    · subst hc
      rw [double_cons_self, List.cons_append, List.cons_append, readQuoted?_quote_quote hquote] at h
      obtain ⟨found', hread, -⟩ := exists_of_map_eq_some h
      exact ih found' hread
    · rw [double_cons_of_ne hc, List.cons_append,
        readQuoted?_end hquote (by simpa using hc)] at h
      have hlength := congrArg List.length (Prod.mk.inj (Option.some.inj h)).2
      simp only [List.length_cons, List.length_append] at hlength
      omega

end Stops

/-- What a backslash and a character stand for is shorter than they are, unless the character is a
wildcard. -/
theorem length_unescaped (c : Char) :
    (unescaped c).length = if c = '%' ∨ c = '_' then 2 else 1 := by
  unfold unescaped
  split
  · rfl
  · split <;> rfl

/-- If a literal of MySQL is read as far as its end, a character is missing for each backslash that
does not stand in front of a wildcard. -/
def LosesEscapes (rest content : List Char) : Prop :=
  ∀ found, readQuoted? true '\x27' (double '\x27' content ++ '\x27' :: rest) = some (found, rest) →
    found.length ≤ content.length ∧ (found.length = content.length → EscapesWildcards content)

namespace LosesEscapes

variable {content rest : List Char} {c : Char}

theorem nil : LosesEscapes rest [] := by
  intro found h
  rw [double, List.flatMap_nil, List.nil_append] at h
  have hfound : found = [] := by
    by_cases hrest : rest.head? = some '\x27'
    · obtain ⟨more, rfl⟩ := List.head?_eq_some_iff.1 hrest
      rw [readQuoted?_quote_quote (by decide)] at h
      obtain ⟨found', hread, -⟩ := exists_of_map_eq_some h
      have hlength := length_lt_of_readQuoted? hread
      simp only [List.length_cons] at hlength
      omega
    · rw [readQuoted?_end (by decide) hrest] at h
      cases h
      rfl
  simp [hfound, EscapesWildcards.nil]

theorem cons (hc : c ≠ '\\') (ih : LosesEscapes rest content) :
    LosesEscapes rest (c :: content) := by
  intro found h
  rw [readQuoted?_double_cons (by decide) (by simp [hc])] at h
  obtain ⟨found', hread, rfl⟩ := exists_of_map_eq_some h
  obtain ⟨hle, hescapes⟩ := ih found' hread
  exact ⟨Nat.succ_le_succ hle, fun heq => .plain hc (hescapes (Nat.succ.inj heq))⟩

/-- A backslash at the end hides the quote behind it. -/
theorem backslash : LosesEscapes rest ['\\'] := by
  intro found h
  have hstep := readQuoted?_escape rfl '\x27' '\x27' rest
  obtain ⟨found', hread, -⟩ := exists_of_map_eq_some (hstep.symm.trans h)
  exact absurd hread (readQuoted?_ne_self rest found')

theorem escape (c : Char) (ih : LosesEscapes rest content) :
    LosesEscapes rest ('\\' :: c :: content) := by
  intro found h
  have hquote : '\x27' ≠ '\\' := by decide
  rw [double_cons_of_ne hquote.symm, List.cons_append] at h
  by_cases hc : c = '\x27'
  · subst hc
    rw [double_cons_self, List.cons_append, List.cons_append, readQuoted?_escape rfl] at h
    obtain ⟨found', hread, -⟩ := exists_of_map_eq_some h
    exact absurd hread (readQuoted?_misaligned hquote content rest found')
  · rw [double_cons_of_ne hc, List.cons_append, readQuoted?_escape rfl] at h
    obtain ⟨found', hread, rfl⟩ := exists_of_map_eq_some h
    obtain ⟨hle, hescapes⟩ := ih found' hread
    rw [List.length_append, length_unescaped, List.length_cons, List.length_cons]
    split
    · next hwildcard =>
      exact ⟨by omega, fun heq => .wildcard hwildcard (hescapes (by omega))⟩
    · exact ⟨by omega, fun heq => absurd heq (by omega)⟩

end LosesEscapes

theorem losesEscapes (rest content : List Char) : LosesEscapes rest content := by
  -- A backslash is read with the character behind it, hence the induction by two characters.
  induction content using List.twoStepInduction with
  | nil => exact .nil
  | singleton c =>
    by_cases hc : c = '\\'
    · exact hc ▸ .backslash
    · exact .cons hc .nil
  | cons_cons c d content ih ih' =>
    by_cases hc : c = '\\'
    · exact hc ▸ .escape d ih
    · exact .cons hc (ih' d)

/-- A text with its quotes written twice is read back by the rules of MySQL just if its backslashes
stand only in front of wildcards. -/
theorem readQuoted?_double_iff {content rest : List Char} (hrest : rest.head? ≠ some '\x27') :
    readQuoted? true '\x27' (double '\x27' content ++ '\x27' :: rest) = some (content, rest) ↔
      EscapesWildcards content :=
  ⟨fun h => (losesEscapes rest content content h).2 rfl, fun h => h.readQuoted? hrest⟩

end SchemaMigration
