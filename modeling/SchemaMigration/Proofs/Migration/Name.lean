import Mathlib
import SchemaMigration.Migration.Name
import SchemaMigration.Proofs.Text.Lines

/-!
# Words in snake case

Of any text `snakeCase` makes words of lower-case letters and digits with single underscores between
neighbours, or nothing if the text has neither letters nor digits. These are kept, in order and in
lower case, and a text that is in snake case already stays as it is.
-/

namespace SchemaMigration

open Text

variable {c : Char} {text word written rest : List Char}

/-- Whether a character may stand in a word: a lower-case letter or a digit, both of ASCII. -/
def isWordChar (c : Char) : Bool :=
  ('a' ≤ c && c ≤ 'z') || ('0' ≤ c && c ≤ '9')

/-- A run of lower-case letters and digits that is not empty. -/
structure IsWord (word : List Char) : Prop where
  nonempty : word ≠ []
  plain : ∀ c ∈ word, isWordChar c = true

/-- One or more words with single underscores between neighbours. -/
def InSnakeCase (text : List Char) : Prop :=
  ∃ words ≠ [], (∀ word ∈ words, IsWord word) ∧ text = joinChars ['_'] words

/-! ### Letters and digits -/

theorem isWordChar_eq (c : Char) : isWordChar c = (c.isLower || c.isDigit) := by
  simp [isWordChar, Char.isLower, Char.isDigit, Char.le_def]

/-- The letters and digits are the capitals and what may stand in a word. -/
theorem isAlphanum_eq (c : Char) : c.isAlphanum = (c.isUpper || isWordChar c) := by
  rw [isWordChar_eq, Char.isAlphanum, Char.isAlpha, Bool.or_assoc]

theorem isUpper_of_isWordChar (h : isWordChar c = true) : c.isUpper = false := by
  rw [← Bool.not_eq_true]
  intro hupper
  simp [isWordChar, Char.isUpper, Char.le_def, UInt32.le_iff_toNat_le] at h hupper
  omega

theorem toLower_of_isWordChar (h : isWordChar c = true) : c.toLower = c :=
  Char.toLower_eq_of_not_isUpper (Bool.eq_false_iff.1 (isUpper_of_isWordChar h))

theorem isAlphanum_of_isWordChar (h : isWordChar c = true) : c.isAlphanum = true := by
  rw [isAlphanum_eq, h, Bool.or_true]

/-- A letter or a digit may stand in a word when it is in lower case. -/
theorem isWordChar_toLower (h : c.isAlphanum = true) : isWordChar c.toLower = true := by
  cases hupper : c.isUpper with
  | true =>
    rw [isWordChar_eq, Char.isLower_toLower_eq_isAlpha, Char.isAlpha, hupper, Bool.true_or,
      Bool.true_or]
  | false =>
    rw [isAlphanum_eq, hupper, Bool.false_or] at h
    rwa [toLower_of_isWordChar h]

theorem ne_underscore_of_isWordChar (h : isWordChar c = true) : c ≠ '_' := by
  rintro rfl
  cases h

/-! ### How words in snake case grow -/

theorem joinChars_concat_append (separator : List Char) (front : List (List Char))
    (last more : List Char) :
    joinChars separator (front ++ [last ++ more]) =
      joinChars separator (front ++ [last]) ++ more := by
  cases front with
  | nil => rfl
  | cons piece front =>
    rw [joinChars_append (List.cons_ne_nil _ _) (by simp),
      joinChars_append (List.cons_ne_nil _ _) (by simp), joinChars, joinChars]
    simp only [List.append_assoc]

theorem isWord_singleton (h : isWordChar c = true) : IsWord [c] :=
  ⟨List.cons_ne_nil c [], by simpa using h⟩

theorem IsWord.concat (h : IsWord word) (hc : isWordChar c = true) : IsWord (word ++ [c]) := by
  refine ⟨by simp, fun d hd => ?_⟩
  rcases List.mem_append.1 hd with hd | hd
  · exact h.plain d hd
  · exact List.mem_singleton.1 hd ▸ hc

namespace InSnakeCase

theorem singleton (h : isWordChar c = true) : InSnakeCase [c] :=
  ⟨[[c]], List.cons_ne_nil _ _, by simpa using isWord_singleton h, rfl⟩

theorem exists_last (h : InSnakeCase text) : ∃ front last, (∀ word ∈ front, IsWord word) ∧
    IsWord last ∧ text = joinChars ['_'] (front ++ [last]) := by
  obtain ⟨words, hne, hwords, rfl⟩ := h
  obtain ⟨front, last, rfl⟩ := (List.eq_nil_or_concat' words).resolve_left hne
  rw [List.forall_mem_append, List.forall_mem_singleton] at hwords
  exact ⟨front, last, hwords.1, hwords.2, rfl⟩

/-- A letter or a digit makes the last word longer. -/
theorem concat (h : InSnakeCase text) (hc : isWordChar c = true) : InSnakeCase (text ++ [c]) := by
  obtain ⟨front, last, hfront, hlast, rfl⟩ := h.exists_last
  refine ⟨front ++ [last ++ [c]], by simp, ?_, (joinChars_concat_append _ _ _ _).symm⟩
  rw [List.forall_mem_append, List.forall_mem_singleton]
  exact ⟨hfront, hlast.concat hc⟩

/-- A letter or a digit behind an underscore starts another word. -/
theorem concat_word (h : InSnakeCase text) (hc : isWordChar c = true) :
    InSnakeCase (text ++ ['_', c]) := by
  obtain ⟨words, hne, hwords, rfl⟩ := h
  refine ⟨words ++ [[c]], by simp, ?_, ?_⟩
  · rw [List.forall_mem_append, List.forall_mem_singleton]
    exact ⟨hwords, isWord_singleton hc⟩
  · rw [joinChars_append hne (List.cons_ne_nil _ _), joinChars, List.append_assoc,
      List.singleton_append]

/-- Words in snake case end with a letter or a digit. -/
theorem exists_concat (h : InSnakeCase text) :
    ∃ front c, text = front ++ [c] ∧ isWordChar c = true := by
  obtain ⟨front, last, -, hlast, rfl⟩ := h.exists_last
  obtain ⟨start, c, rfl⟩ := (List.eq_nil_or_concat' last).resolve_left hlast.nonempty
  exact ⟨_, c, joinChars_concat_append _ _ _ _, hlast.plain c (by simp)⟩

end InSnakeCase

/-! ### Reading on -/

/-- What was written so far, in reverse, and whether an underscore belongs in front of a capital:
nothing was written, or words in snake case, or such words and an underscore. -/
inductive Begun : List Char → Bool → Prop where
  /-- Nothing was written. -/
  | nothing : Begun [] false
  /-- Words were written. -/
  | words {written : List Char} (h : InSnakeCase written.reverse) (afterLower : Bool) :
      Begun written afterLower
  /-- Words and an underscore were written. -/
  | underscore {written : List Char} (h : InSnakeCase written.reverse) :
      Begun ('_' :: written) false

variable {afterLower : Bool}

theorem snakeFrom_of_isAlphanum (h : c.isAlphanum = true) :
    snakeFrom written afterLower (c :: rest) =
      snakeFrom (c.toLower :: if c.isUpper && afterLower then '_' :: written else written)
        (!c.isUpper) rest :=
  if_pos h

theorem snakeFrom_of_not_isAlphanum (h : c.isAlphanum = false) :
    snakeFrom written afterLower (c :: rest) =
      snakeFrom (if written.isEmpty || written.head? == some '_' then written else '_' :: written)
        false rest :=
  if_neg (by simp [h])

/-- A letter or a digit is written behind what was written so far. -/
theorem Begun.letter (h : Begun written afterLower) (hc : c.isAlphanum = true) :
    Begun (c.toLower :: if c.isUpper && afterLower then '_' :: written else written)
      (!c.isUpper) := by
  have hword := isWordChar_toLower hc
  refine .words ?_ _
  split
  · next hcapital =>
    cases h with
    | nothing => simp at hcapital
    | words h => simpa using h.concat_word hword
    | underscore h => simp at hcapital
  · cases h with
    | nothing => exact .singleton hword
    | words h => simpa using h.concat hword
    | underscore h => simpa using h.concat_word hword

/-- Of several other characters one is written as an underscore. -/
theorem Begun.other (h : Begun written afterLower) :
    Begun (if written.isEmpty || written.head? == some '_' then written else '_' :: written)
      false := by
  cases h with
  | nothing => exact .nothing
  | words h =>
    split
    · exact .words h false
    · exact .underscore h
  | underscore h => exact .underscore h

theorem Begun.inSnakeCase (h : Begun written afterLower) :
    (written.dropWhile (· == '_')).reverse = [] ∨
      InSnakeCase (written.dropWhile (· == '_')).reverse := by
  have hwords {written : List Char} (h : InSnakeCase written.reverse) :
      written.dropWhile (· == '_') = written := by
    obtain ⟨front, c, hfront, hc⟩ := h.exists_concat
    obtain rfl : written = c :: front.reverse := by
      rw [← List.reverse_reverse written, hfront, List.reverse_concat]
    exact List.dropWhile_cons_of_neg (by simpa using ne_underscore_of_isWordChar hc)
  cases h with
  | nothing => exact .inl rfl
  | words h => exact .inr (by rwa [hwords h])
  | underscore h => exact .inr (by rwa [List.dropWhile_cons_of_pos rfl, hwords h])

/-- What is read behind words is more words, and no underscore is left at their end. -/
theorem Begun.snakeFrom (h : Begun written afterLower) (text : List Char) :
    snakeFrom written afterLower text = [] ∨ InSnakeCase (snakeFrom written afterLower text) := by
  induction text generalizing written afterLower with
  | nil => exact h.inSnakeCase
  | cons c text ih =>
    cases hc : c.isAlphanum with
    | true =>
      rw [snakeFrom_of_isAlphanum hc]
      exact ih (h.letter hc)
    | false =>
      rw [snakeFrom_of_not_isAlphanum hc]
      exact ih h.other

/-- Without underscores there is what was written so far, and the letters and digits that are read,
in lower case. -/
theorem filter_snakeFrom (written : List Char) (afterLower : Bool) (text : List Char) :
    (snakeFrom written afterLower text).filter (· != '_') =
      written.reverse.filter (· != '_') ++ (text.filter Char.isAlphanum).map Char.toLower := by
  induction text generalizing written afterLower with
  | nil =>
    have hdropped : (written.dropWhile (· == '_')).filter (· != '_') =
        written.filter (· != '_') := by
      induction written with
      | nil => rfl
      | cons c written ih =>
        by_cases hc : c = '_'
        · simp [hc, ih]
        · rw [List.dropWhile_cons_of_neg (by simpa using hc)]
    simp only [SchemaMigration.snakeFrom, List.filter_reverse, hdropped, List.filter_nil,
      List.map_nil, List.append_nil]
  | cons c text ih =>
    cases hc : c.isAlphanum with
    | true =>
      have hword : (c.toLower != '_') = true :=
        bne_iff_ne.2 (ne_underscore_of_isWordChar (isWordChar_toLower hc))
      rw [snakeFrom_of_isAlphanum hc, ih, List.filter_cons_of_pos hc]
      split <;> simp [hword]
    | false =>
      rw [snakeFrom_of_not_isAlphanum hc, ih, List.filter_cons_of_neg (by simp [hc])]
      split <;> simp

/-- A word is written as it is. -/
theorem snakeFrom_word (h : IsWord word) (rest : List Char) :
    snakeFrom written afterLower (word ++ rest) = snakeFrom (word.reverse ++ written) true rest := by
  obtain ⟨hne, hplain⟩ := h
  induction word generalizing written afterLower with
  | nil => exact absurd rfl hne
  | cons c word ih =>
    obtain ⟨hc, hplain⟩ := List.forall_mem_cons.1 hplain
    have hupper := isUpper_of_isWordChar hc
    rw [List.cons_append, snakeFrom_of_isAlphanum (isAlphanum_of_isWordChar hc), hupper,
      toLower_of_isWordChar hc, Bool.false_and, if_neg Bool.false_ne_true, Bool.not_false]
    by_cases hlast : word = []
    · simp [hlast]
    · rw [ih hlast hplain]
      simp

/-- Words in snake case are written as they are. -/
theorem snakeFrom_joinChars {words : List (List Char)} (hne : words ≠ [])
    (h : ∀ word ∈ words, IsWord word) :
    snakeFrom written afterLower (joinChars ['_'] words) =
      written.reverse ++ joinChars ['_'] words := by
  induction words generalizing written afterLower with
  | nil => exact absurd rfl hne
  | cons word words ih =>
    obtain ⟨hword, hwords⟩ := List.forall_mem_cons.1 h
    obtain ⟨front, c, rfl⟩ := (List.eq_nil_or_concat' word).resolve_left hword.nonempty
    have hc : c ≠ '_' := ne_underscore_of_isWordChar (hword.plain c (by simp))
    by_cases hlast : words = []
    · rw [hlast, joinChars, ← List.append_nil (front ++ [c]), snakeFrom_word hword, snakeFrom]
      simp [hc]
    · have hunderscore : '_'.isAlphanum = false := rfl
      rw [joinChars_cons_of_ne_nil _ hlast, List.append_assoc, snakeFrom_word hword,
        List.singleton_append, snakeFrom_of_not_isAlphanum hunderscore,
        if_neg (by simp [hc]), ih hlast hwords]
      simp

/-! ### The normal form -/

theorem toList_snakeCase (text : String) :
    (snakeCase text).toList = snakeFrom [] false text.toList :=
  String.toList_ofList

theorem snakeCase_cases (text : String) :
    snakeCase text = "" ∨ InSnakeCase (snakeCase text).toList := by
  rw [← String.toList_eq_nil_iff, toList_snakeCase]
  exact Begun.nothing.snakeFrom text.toList

theorem filter_snakeCase (text : String) : (snakeCase text).toList.filter (· != '_') =
    (text.toList.filter Char.isAlphanum).map Char.toLower := by
  rw [toList_snakeCase, filter_snakeFrom]
  rfl

/-- Nothing is made of a text just if it has neither letters nor digits. -/
theorem snakeCase_eq_empty_iff (text : String) :
    snakeCase text = "" ↔ ∀ c ∈ text.toList, c.isAlphanum = false := by
  have hfilter := filter_snakeCase text
  constructor
  · intro h
    rw [h] at hfilter
    simpa using hfilter.symm
  · intro h
    refine (snakeCase_cases text).resolve_right fun hwords => ?_
    obtain ⟨front, c, hconcat, hc⟩ := hwords.exists_concat
    have hmem : c ∈ (snakeCase text).toList.filter (· != '_') := by
      rw [hconcat]
      simp [ne_underscore_of_isWordChar hc]
    rw [hfilter, List.filter_eq_nil_iff.2 (by simpa using h)] at hmem
    cases hmem

theorem snakeCase_of_inSnakeCase {text : String} (h : InSnakeCase text.toList) :
    snakeCase text = text := by
  obtain ⟨words, hne, hwords, htext⟩ := h
  rw [← String.toList_inj, toList_snakeCase, htext, snakeFrom_joinChars hne hwords]
  rfl

/-- Of a text without ASCII letters and digits nothing is made. Of any other one words of lower-case
letters and digits are made, with single underscores between neighbours, and without the underscores
these are the letters and digits of the text, in order and in lower case. Made of words in snake
case, they are the same words. -/
theorem snakeCase_normal_form (text : String) :
    (snakeCase text = "" ↔ ∀ c ∈ text.toList, c.isAlphanum = false) ∧
      (snakeCase text = "" ∨ InSnakeCase (snakeCase text).toList) ∧
      (snakeCase text).toList.filter (· != '_') =
        (text.toList.filter Char.isAlphanum).map Char.toLower ∧
      snakeCase (snakeCase text) = snakeCase text := by
  refine ⟨snakeCase_eq_empty_iff text, snakeCase_cases text, filter_snakeCase text, ?_⟩
  rcases snakeCase_cases text with hempty | hwords
  · rw [hempty]
    rfl
  · exact snakeCase_of_inSnakeCase hwords

example : snakeCase "--Add2ÄEmails  toUSERS_" = "add2_emails_to_users" := by decide

end SchemaMigration
