import SchemaMigration.Migration.Basic
import SchemaMigration.Proofs.Files.Path
import SchemaMigration.Proofs.Store.Requests
import SchemaMigration.Proofs.Text.Blank
import SchemaMigration.Value.Text

/-!
# Literals in the statements of a text

A quote opens a literal or closes it, and one that is written twice closes a literal and opens it
again. A text that can be read is split into statements that are written anew, whatever their
literals hold. Any other one is cut at every semicolon, so a literal stays whole just if no
semicolon stands in it.
-/

namespace SchemaMigration

open Text

namespace Sql

/-- Whether a literal is open behind a text, from whether one is open in front of it. -/
def isOpenBehind (opened : Bool) (text : List Char) : Bool :=
  text.foldl (fun opened c => if c = '\x27' then !opened else opened) opened

/-- Every literal of a text is closed in it. -/
def Balanced (text : List Char) : Prop :=
  isOpenBehind false text = false

instance (text : List Char) : Decidable (Balanced text) :=
  inferInstanceAs (Decidable (_ = _))

/-- A character stands in a literal of a text. -/
def InLiteral (c : Char) (text : List Char) : Prop :=
  ∃ front back, text = front ++ c :: back ∧ isOpenBehind false front = true

variable {text front back : List Char} {opened : Bool}

/-! ### Balanced texts -/

theorem isOpenBehind_append (opened : Bool) (front back : List Char) :
    isOpenBehind opened (front ++ back) = isOpenBehind (isOpenBehind opened front) back :=
  List.foldl_append

theorem isOpenBehind_of_not_mem (h : '\x27' ∉ text) : isOpenBehind opened text = opened := by
  induction text with
  | nil => rfl
  | cons c text ih =>
    rw [List.mem_cons, not_or] at h
    rw [isOpenBehind, List.foldl_cons, if_neg (Ne.symm h.1)]
    exact ih h.2

theorem Balanced.append_iff (h : Balanced front) : Balanced (front ++ back) ↔ Balanced back := by
  rw [Balanced, isOpenBehind_append, h, Balanced]

theorem balanced_append_of_not_mem (h : '\x27' ∉ back) :
    Balanced (front ++ back) ↔ Balanced front := by
  rw [Balanced, isOpenBehind_append, isOpenBehind_of_not_mem h, Balanced]

theorem not_mem_of_blank (h : ∀ c ∈ text, isBlank c = true) : '\x27' ∉ text :=
  fun hmem => nomatch h _ hmem

/-- Blanks are no quotes, so trimming neither opens nor closes a literal. -/
theorem balanced_trim (text : List Char) : Balanced (trim text) ↔ Balanced text := by
  obtain ⟨front, hfront, htext⟩ := exists_trimStart text
  obtain ⟨back, hback, htrimmed⟩ := exists_trimEnd (trimStart text)
  have hquoteless : Balanced front := isOpenBehind_of_not_mem (not_mem_of_blank hfront)
  calc Balanced (trim text)
      ↔ Balanced (trim text ++ back) :=
        (balanced_append_of_not_mem (not_mem_of_blank hback)).symm
    _ ↔ Balanced (trimStart text) := by rw [trim, ← htrimmed]
    _ ↔ Balanced text := by rw [← hquoteless.append_iff, ← htext]

/-! ### Cutting at semicolons -/

/-- The pieces between the semicolons of a text are balanced if literals are closed at its end and
at each of the semicolons. -/
theorem forall_balanced_splitFrom_iff (read text : List Char) :
    (∀ piece ∈ splitFrom (· == ';') read text, Balanced piece) ↔
      Balanced (read.reverse ++ text) ∧
        ∀ front back, text = front ++ ';' :: back → Balanced (read.reverse ++ front) := by
  induction text generalizing read with
  | nil => simp [splitFrom]
  | cons c rest ih =>
    rw [splitFrom]
    split
    · next hc =>
      obtain rfl : c = ';' := by simpa using hc
      rw [List.forall_mem_cons, ih []]
      have hsemicolon (hread : Balanced read.reverse) (others : List Char) :
          Balanced (read.reverse ++ ';' :: others) ↔ Balanced others := hread.append_iff
      constructor
      · rintro ⟨hread, hrest, hcuts⟩
        refine ⟨(hsemicolon hread rest).2 hrest, fun front back heq => ?_⟩
        cases front with
        | nil => simpa using hread
        | cons d front =>
          obtain ⟨rfl, hrest⟩ := List.cons.inj heq
          exact (hsemicolon hread front).2 (hcuts front back hrest)
      · rintro ⟨hwhole, hcuts⟩
        have hread : Balanced read.reverse := by simpa using hcuts [] rest rfl
        exact ⟨hread, (hsemicolon hread rest).1 hwhole, fun front back heq =>
          (hsemicolon hread front).1 (hcuts (';' :: front) back (by rw [heq, List.cons_append]))⟩
    · next hc =>
      have hne : c ≠ ';' := by simpa using hc
      rw [ih (c :: read), List.reverse_cons, List.append_assoc, List.singleton_append]
      refine and_congr_right fun _ => ⟨fun hcuts front back heq => ?_, fun hcuts front back heq => ?_⟩
      · cases front with
        | nil => exact absurd (List.cons.inj heq).1 hne
        | cons d front =>
          obtain ⟨rfl, hrest⟩ := List.cons.inj heq
          simpa using hcuts front back hrest
      · simpa using hcuts (c :: front) back (by rw [heq, List.cons_append])

theorem forall_balanced_splitAt_iff (hbalanced : Balanced text) :
    (∀ piece ∈ splitAt ';' text, Balanced piece) ↔ ¬InLiteral ';' text := by
  rw [splitAt, forall_balanced_splitFrom_iff, InLiteral]
  simp only [List.reverse_nil, List.nil_append, Balanced, not_exists, not_and, Bool.not_eq_true]
  exact and_iff_right hbalanced

theorem forall_balanced_splitPlainly_iff (hbalanced : Balanced text) :
    (∀ piece ∈ splitPlainly text, Balanced piece) ↔ ¬InLiteral ';' text := by
  rw [← forall_balanced_splitAt_iff hbalanced]
  simp only [splitPlainly, List.mem_filter, List.mem_map, and_imp, forall_exists_index,
    forall_apply_eq_imp_iff₂, balanced_trim]
  refine forall₂_congr fun piece _ => ⟨fun h => ?_, fun h _ => h⟩
  -- A piece of blanks only is not among the statements, but it is balanced as well.
  by_cases hpiece : trim piece = []
  · rw [← balanced_trim, hpiece]
    rfl
  · exact h (by simpa using hpiece)

/-- The statements that a reader finds in a text, as it writes them, if it can read all of it.
Otherwise the text is cut at every semicolon. -/
def splitWith (read : List Char → Option (List String)) (text : String) : List String :=
  match read text.toList with
  | some statements => statements.map (· ++ ";")
  | none => (splitPlainly text.toList).map (fun piece => String.ofList piece ++ ";")

/-- The statements of a text in normal form, if all of it can be read. -/
def written? (text : List Char) : Option (List String) :=
  (read? text).map (List.map Statement.render)

theorem split_eq_splitWith (text : String) : split text = splitWith written? text := by
  unfold split splitWith written?
  cases read? text.toList with
  | none => rfl
  | some statements => simp

section Reader

variable {read : List Char → Option (List String)} {text : String}

/-- A statement that is cut out has no semicolon but the one put behind it. -/
theorem exists_of_mem_splitWith {statement : String} (hread : read text.toList = none)
    (h : statement ∈ splitWith read text) :
    ∃ piece, statement = piece ++ ";" ∧ ';' ∉ piece.toList := by
  simp only [splitWith, hread, List.mem_map] at h
  obtain ⟨piece, hpiece, rfl⟩ := h
  obtain ⟨cut, hcut, rfl⟩ := List.mem_map.1 (List.mem_of_mem_filter hpiece)
  refine ⟨_, rfl, ?_⟩
  rw [String.toList_ofList]
  exact fun hmem => not_mem_of_mem_splitAt hcut ((trim_infix_self cut).subset hmem)

/-- The semicolon behind a statement is in no literal. -/
theorem balanced_semicolon (statement : String) :
    Balanced (statement ++ ";").toList ↔ Balanced statement.toList := by
  rw [String.toList_append, balanced_append_of_not_mem (by decide)]

theorem forall_balanced_splitWith_iff (hread : read text.toList = none)
    (hbalanced : Balanced text.toList) :
    (∀ statement ∈ splitWith read text, Balanced statement.toList) ↔
      ¬InLiteral ';' text.toList := by
  rw [← forall_balanced_splitPlainly_iff hbalanced]
  simp only [splitWith, hread, List.forall_mem_map, balanced_semicolon, String.toList_ofList]

end Reader

/-! ### Literals -/

/-- Whatever a literal holds, it is open as far as the quote at its end. -/
theorem isOpenBehind_double (content : List Char) : isOpenBehind opened (double '\x27' content) =
    opened := by
  induction content with
  | nil => rfl
  | cons c content ih =>
    have hcons : double '\x27' (c :: content) =
        (if c = '\x27' then ['\x27', '\x27'] else [c]) ++ double '\x27' content :=
      List.flatMap_cons
    rw [hcons, isOpenBehind_append]
    by_cases hc : c = '\x27'
    · simpa [hc, isOpenBehind] using ih
    · simpa [hc, isOpenBehind] using ih

/-- What a literal holds, its quotes apart, stands in a literal. -/
theorem inLiteral_of_mem {c : Char} {content : List Char} (hfront : Balanced front)
    (hmem : c ∈ content) (hc : c ≠ '\x27') (back : List Char) :
    InLiteral c (front ++ '\x27' :: (double '\x27' content ++ '\x27' :: back)) := by
  obtain ⟨before, after, rfl⟩ := List.append_of_mem hmem
  have hdouble : double '\x27' (before ++ c :: after) =
      double '\x27' before ++ c :: double '\x27' after := by
    simp [double, hc]
  refine ⟨front ++ '\x27' :: double '\x27' before, double '\x27' after ++ '\x27' :: back,
    by simp [hdouble], ?_⟩
  rw [isOpenBehind_append, hfront]
  exact isOpenBehind_double before

end Sql

/-! ### Statements of section files -/

/-- The statements of a section file for a direction. -/
def SectionFile.text (f : SectionFile) : Direction → String
  | .up => f.up
  | .down => f.down

namespace Migration

open Sql

/-- The program of some statements requests only these. -/
theorem requests_runAll_iff {kind : String → Prop} (statements : List String) :
    (runAll statements).Requests (fun op => ∃ statement, op = .raw statement ∧ kind statement) ↔
      ∀ statement ∈ statements, kind statement := by
  induction statements with
  | nil => simp [runAll, Program.Requests]
  | cons statement rest ih =>
    rw [List.forall_mem_cons, ← ih]
    constructor
    · rintro ⟨⟨_, ⟨⟩, hstatement⟩, hrest⟩
      exact ⟨hstatement, hrest (.ok 0)⟩
    · rintro ⟨hstatement, hrest⟩
      exact .bind (Program.requests_request ⟨statement, rfl, hstatement⟩) fun _ => hrest

theorem requests_runText_iff {kind : String → Prop} (text : String) :
    (runText text).Requests (fun op => ∃ statement, op = .raw statement ∧ kind statement) ↔
      ∀ statement ∈ split text, kind statement := by
  unfold runText
  split
  · next hempty =>
    obtain rfl : text = "" := by simpa using hempty
    have hnone : split "" = [] := by decide +kernel
    simp [Program.Requests, hnone]
  · exact requests_runAll_iff _

theorem body_ofSections (f : SectionFile) (direction : Direction) :
    (ofSections f).body direction = runText (f.text direction) := by
  cases direction <;> rfl

end Migration

namespace Sql

/-- Whatever can be read and however it is written: a text with closed literals that can be read is
split into statements with closed literals just if they are written so. One that cannot be read is
cut at every semicolon: its statements have closed literals just if no semicolon stands in a
literal, and no literal with a semicolon in it stays whole. The migration of a section file runs
statements with closed literals just if its text is split into such. -/
theorem split_keeps_literals_iff {text : String} (hbalanced : Balanced text.toList) :
    split text = splitWith written? text ∧
    (∀ read : List Char → Option (List String),
      ((∀ statement ∈ splitWith read text, Balanced statement.toList) ↔
        (∀ written, read text.toList = some written →
          ∀ statement ∈ written, Balanced statement.toList) ∧
        (read text.toList = none → ¬InLiteral ';' text.toList)) ∧
      (read text.toList = none →
        (∀ statement ∈ splitWith read text,
          ∃ piece, statement = piece ++ ";" ∧ ';' ∉ piece.toList) ∧
        ∀ front content back, text = front ++ quoteLiteral content ++ back →
          Balanced front.toList → ';' ∈ content.toList →
          ∃ statement ∈ splitWith read text, ¬Balanced statement.toList)) ∧
    ∀ (f : SectionFile) (direction : Direction), f.text direction = text →
      (((Migration.ofSections f).body direction).Requests
          (fun op => ∃ statement, op = .raw statement ∧ Balanced statement.toList) ↔
        ∀ statement ∈ split text, Balanced statement.toList) := by
  refine ⟨split_eq_splitWith text, fun read => ⟨?_, fun hread => ⟨fun statement => ?_, ?_⟩⟩,
    fun f direction htext => ?_⟩
  · cases hread : read text.toList with
    | none => simpa using forall_balanced_splitWith_iff hread hbalanced
    | some written =>
      simp only [splitWith, hread, List.forall_mem_map, balanced_semicolon]
      simp
  · exact exists_of_mem_splitWith hread
  · rintro front content back rfl hfront hsemicolon
    have hcut := inLiteral_of_mem hfront hsemicolon (by decide) back.toList
    have hliteral : (front ++ quoteLiteral content ++ back).toList = front.toList ++
        '\x27' :: (double '\x27' content.toList ++ '\x27' :: back.toList) := by
      simp [quoteLiteral]
    by_contra hall
    push Not at hall
    exact (forall_balanced_splitWith_iff hread hbalanced).1 hall (hliteral ▸ hcut)
  · rw [Migration.body_ofSections, htext, Migration.requests_runText_iff]

/-- Of two statements that cannot be read, the second one has a literal with a semicolon in it. -/
theorem second_literal_is_cut :
    let text := "BOGUS a 'it''s'; BOGUS 'b; c' d"
    Balanced text.toList ∧ read? text.toList = none ∧
      (∀ statement ∈ split text, ∃ piece, statement = piece ++ ";" ∧ ';' ∉ piece.toList) ∧
      ∃ statement ∈ split text, ¬Balanced statement.toList := by
  intro text
  have hbalanced : Balanced text.toList := by decide
  have hread : read? text.toList = none := by decide +kernel
  obtain ⟨hsplit, hany, -⟩ := split_keeps_literals_iff hbalanced
  obtain ⟨hcut, hopen⟩ := (hany written?).2 (by rw [written?, hread]; rfl)
  rw [hsplit]
  exact ⟨hbalanced, hread, hcut,
    hopen "BOGUS a 'it''s'; BOGUS " "b; c" " d" rfl (by decide) (by decide)⟩

/-- A semicolon in a literal ends a statement of a text that has no comments and cannot be read. -/
theorem semicolon_in_literal_ends_statement :
    let text := "BOGUS 'a;b'"
    Balanced text.toList ∧ occursIn ['-', '-'] text.toList = false ∧
      occursIn ['/', '*'] text.toList = false ∧ read? text.toList = none ∧
      split text = ["BOGUS 'a;", "b';"] ∧ ¬Balanced "BOGUS 'a;".toList ∧
      ((Migration.ofSections ⟨"m", text, ""⟩).up.runFully {}).2.statements =
        ["BOGUS 'a;", "b';"] := by
  refine ⟨by decide, by decide, by decide, ?_, ?_, by decide, ?_⟩ <;> decide +kernel

end Sql

end SchemaMigration
