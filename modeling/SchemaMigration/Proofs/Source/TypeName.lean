import SchemaMigration.Proofs.Migration.Name
import SchemaMigration.Proofs.Source.Reader
import SchemaMigration.Runner.Scaffold

/-!
# Names of types

The words of a migration in snake case make the name of a type: each word gets a capital, and a name
that would begin with a digit gets a word in front. So it is an identifier, and as it begins with a
capital, one word only makes it a reserved word.
-/

namespace SchemaMigration

open Text

variable {c : Char} {pieces : List (List Char)}

namespace Source

/-- An identifier of ASCII letters, digits and underscores, the first of which is a letter. -/
structure IsIdentifier (text : String) : Prop where
  first : ∃ c, text.toList.head? = some c ∧ c.isAlpha = true
  parts : ∀ c ∈ text.toList, isWordPart c = true

/-- The words that cannot be identifiers. -/
def reservedWords : List String :=
  ["as", "break", "const", "continue", "crate", "else", "enum", "extern", "false", "fn", "for",
    "if", "impl", "in", "let", "loop", "match", "mod", "move", "mut", "pub", "ref", "return",
    "self", "Self", "static", "struct", "super", "trait", "true", "type", "unsafe", "use", "where",
    "while", "async", "await", "dyn", "abstract", "become", "box", "do", "final", "gen", "macro",
    "override", "priv", "try", "typeof", "unsized", "virtual", "yield"]

theorem eq_of_mem_reservedWords : ∀ word ∈ reservedWords,
    (word.toList.head?.any Char.isUpper) = true → word = "Self" := by
  decide +kernel

theorem IsIdentifier.ne_empty {text : String} (h : IsIdentifier text) : text ≠ "" := by
  rintro rfl
  obtain ⟨c, hc, -⟩ := h.first
  cases hc

end Source

open Source

namespace Scaffold

/-! ### Capitals -/

/-- With a capital, the first character of a word is a capital or a digit. -/
theorem isUpper_or_isDigit_toUpper (h : isWordChar c = true) :
    c.toUpper.isUpper = true ∨ c.toUpper.isDigit = true := by
  rw [isWordChar_eq, Bool.or_eq_true] at h
  by_cases hlower : c.isLower = true
  · rw [Char.isUpper_toUpper_eq_isAlpha, Char.isAlpha, hlower, Bool.or_true]
    exact .inl rfl
  · rw [Char.toUpper_eq_of_not_isLower hlower]
    exact .inr (h.resolve_left hlower)

theorem eq_of_toUpper_eq (h : isWordChar c = true) (hupper : c.toUpper = 'S') : c = 's' := by
  rw [← toLower_of_isWordChar h, ← Char.toLower_toUpper_eq_toLower, hupper]
  rfl

/-! ### The name of a type -/

theorem exists_capitalized {word : List Char} (h : IsWord word) :
    ∃ c rest, word = c :: rest ∧ isWordChar c = true ∧ capitalized word = c.toUpper :: rest := by
  obtain ⟨c, rest, rfl⟩ := List.exists_cons_of_ne_nil h.nonempty
  exact ⟨c, rest, rfl, h.plain c List.mem_cons_self, rfl⟩

theorem isAlphanum_of_mem_capitalized {word : List Char} (h : IsWord word) :
    ∀ c ∈ capitalized word, c.isAlphanum = true := by
  obtain ⟨first, rest, rfl, hfirst, heq⟩ := exists_capitalized h
  rw [heq, List.forall_mem_cons]
  refine ⟨?_, fun c hc => isAlphanum_of_isWordChar (h.plain c (List.mem_cons_of_mem _ hc))⟩
  rcases isUpper_or_isDigit_toUpper hfirst with hupper | hdigit
  · simp [Char.isAlphanum, Char.isAlpha, hupper]
  · simp [Char.isAlphanum, hdigit]

/-- The name of a type for words in snake case: it is made of the words with capitals, or has a word
with a capital in front of them. -/
theorem exists_typeName (text : String) : ∃ front pieces, (∀ word ∈ pieces, IsWord word) ∧
    (snakeCase text).toList = joinChars ['_'] pieces ∧
    typeName (snakeCase text) = String.ofList (front ++ pieces.flatMap capitalized) ∧
    (front = "Migration".toList ∨ front = [] ∧
      ∃ c, (pieces.flatMap capitalized).head? = some c ∧ c.isAlpha = true) := by
  rcases snakeCase_cases text with hempty | ⟨pieces, hne, hwords, heq⟩
  · refine ⟨"Migration".toList, [], nofun, ?_, ?_, .inl rfl⟩
    · rw [hempty]
      rfl
    · rw [hempty]
      rfl
  · have hpieces : splitAt '_' (snakeCase text).toList = pieces := by
      rw [heq]
      refine splitAt_joinChars hne fun word hword hmem => ?_
      exact ne_underscore_of_isWordChar ((hwords word hword).plain _ hmem) rfl
    have hname : ((splitAt '_' (snakeCase text).toList).map capitalized).flatten =
        pieces.flatMap capitalized := by
      rw [hpieces, List.flatMap_def]
    cases hhead : (pieces.flatMap capitalized).head? with
    | none =>
      refine ⟨"Migration".toList, pieces, hwords, heq, ?_, .inl rfl⟩
      simp only [typeName, hname, hhead]
      rw [List.head?_eq_none_iff.1 hhead]
      rfl
    | some c =>
      by_cases halpha : c.isAlpha = true
      · refine ⟨[], pieces, hwords, heq, ?_, .inr ⟨rfl, c, hhead, halpha⟩⟩
        simp only [typeName, hname, hhead, if_pos halpha, List.nil_append]
      · refine ⟨"Migration".toList, pieces, hwords, heq, ?_, .inl rfl⟩
        simp only [typeName, hname, hhead, if_neg halpha]
        rw [String.ofList_append, String.ofList_toList]

/-- The name of a type is an identifier that begins with a capital. -/
theorem isIdentifier_typeName (text : String) : IsIdentifier (typeName (snakeCase text)) ∧
    (typeName (snakeCase text)).toList.head?.any Char.isUpper = true := by
  obtain ⟨front, pieces, hwords, -, hname, hfront⟩ := exists_typeName text
  have hparts : ∀ c ∈ pieces.flatMap capitalized, c.isAlphanum = true := by
    intro c hc
    obtain ⟨word, hword, hc⟩ := List.mem_flatMap.1 hc
    exact isAlphanum_of_mem_capitalized (hwords word hword) c hc
  rw [hname]
  rcases hfront with rfl | ⟨rfl, c, hhead, halpha⟩
  · refine ⟨⟨⟨'M', by simp, rfl⟩, fun c hc => ?_⟩, by simp⟩
    rw [String.toList_ofList, List.mem_append] at hc
    rcases hc with hc | hc
    · have hletters : "Migration".toList.all isWordPart = true := rfl
      exact List.all_eq_true.1 hletters c hc
    · rw [isWordPart, hparts c hc, Bool.true_or]
  · obtain ⟨word, rest, rfl⟩ : ∃ word rest, pieces = word :: rest := by
      cases pieces with
      | nil => cases hhead
      | cons word rest => exact ⟨word, rest, rfl⟩
    obtain ⟨d, others, -, hd, hcapital⟩ := exists_capitalized (hwords word List.mem_cons_self)
    have hc : c = d.toUpper := by simpa [hcapital] using hhead.symm
    have hupper : c.isUpper = true := by
      rwa [Char.isAlpha, hc, Char.isLower_toUpper_eq_false, Bool.or_false, ← hc] at halpha
    refine ⟨⟨⟨c, by simpa using hhead, halpha⟩, fun c hc => ?_⟩, ?_⟩
    · rw [String.toList_ofList, List.nil_append] at hc
      rw [isWordPart, hparts c hc, Bool.true_or]
    · rw [String.toList_ofList, List.nil_append, hhead, Option.any_some, hupper]

/-- The name of a type is a reserved word for one word only. -/
theorem typeName_mem_reservedWords_iff (text : String) :
    typeName (snakeCase text) ∈ reservedWords ↔ snakeCase text = "self" := by
  constructor
  · intro hmem
    have hself := eq_of_mem_reservedWords _ hmem (isIdentifier_typeName text).2
    obtain ⟨front, pieces, hwords, heq, hname, hfront⟩ := exists_typeName text
    rw [hname] at hself
    have hchars : front ++ pieces.flatMap capitalized = ['S', 'e', 'l', 'f'] := by
      simpa using congrArg String.toList hself
    rcases hfront with rfl | ⟨rfl, -⟩
    · simp at hchars
    cases pieces with
    | nil => cases hchars
    | cons word pieces =>
      obtain ⟨hword, hothers⟩ := List.forall_mem_cons.1 hwords
      obtain ⟨c, rest, rfl, hc, hcapital⟩ := exists_capitalized hword
      rw [List.nil_append, List.flatMap_cons, hcapital, List.cons_append, List.cons.injEq] at hchars
      obtain ⟨hfirst, hrest⟩ := hchars
      obtain rfl := eq_of_toUpper_eq hc hfirst
      cases pieces with
      | nil =>
        rw [List.flatMap_nil, List.append_nil] at hrest
        rw [hrest] at heq
        exact String.toList_inj.1 heq
      | cons other pieces =>
        -- The capital of a second word would be one of the letters behind the first capital.
        obtain ⟨d, others, rfl, hd, hcapital⟩ := exists_capitalized (hothers _ List.mem_cons_self)
        have hmem : d.toUpper ∈ ['e', 'l', 'f'] := by
          rw [← hrest, List.flatMap_cons, hcapital]
          simp
        have hletters : ['e', 'l', 'f'].all Char.isLower = true := rfl
        cases (List.all_eq_true.1 hletters _ hmem).symm.trans (Char.isLower_toUpper_eq_false d)
  · intro hself
    rw [hself]
    decide +kernel

end Scaffold

end SchemaMigration
