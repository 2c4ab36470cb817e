import SchemaMigration.Proofs.Source.Reader
import SchemaMigration.Runner.Scaffold

/-!
# Reading the source text of all tables

The source text that stands for all tables declares a type and calls one method for each table in
order, and another one in reverse. The tables are read back from the calls just if their names have
neither quotes nor backslashes nor carriage returns, because they are not escaped.
-/

namespace SchemaMigration

namespace Source

variable {method other table : String} {after : List Token} {front back : List Char}

/-- The tokens of a call with a text. -/
def callTokens (method content : String) (after : List Token) : List Token :=
  .word "schema" :: .mark '.' :: .word method :: .mark '(' :: .quoted content :: after

/-- A call is read back if its text is plain. -/
theorem run_call (hfront : run .code front =
      ([.word "schema", .mark '.', .word method, .mark '('], .quoted [] .none))
    (hback : run .code back = (after, .code)) (h : ∀ c ∈ table.toList, isPlain c = true) :
    run .code (front ++ (table.toList ++ '"' :: back)) = (callTokens method table after, .code) := by
  rw [run_append, hfront, run_quoted_append h, hback]
  rfl

theorem run_flatMap {α : Type} {text : α → List Char} {tokens : α → List Token} {l : List α}
    (h : ∀ a ∈ l, run .code (text a) = (tokens a, .code)) :
    run .code (l.flatMap text) = (l.flatMap tokens, .code) := by
  induction l with
  | nil => rfl
  | cons a l ih =>
    obtain ⟨ha, hl⟩ := List.forall_mem_cons.1 h
    rw [List.flatMap_cons, List.flatMap_cons, run_append, ha, ih hl]

theorem calls_callTokens (other content : String) (after : List Token) :
    calls method (callTokens other content after) =
      (if other = method then [content] else []) ++ calls method after := by
  simp only [callTokens, calls, called?]
  split <;> simp

/-- Of calls of one method with all texts of a list these texts are found, and of another method
nothing. -/
theorem calls_flatMap_callTokens
    (hafter : ∀ rest, calls method (after ++ rest) = calls method rest) (other : String)
    (tables : List String) (rest : List Token) :
    calls method (tables.flatMap (callTokens other · after) ++ rest) =
      (if other = method then tables else []) ++ calls method rest := by
  induction tables with
  | nil => simp
  | cons table tables ih =>
    have hcall (more : List Token) :
        callTokens other table after ++ more = callTokens other table (after ++ more) := rfl
    rw [List.flatMap_cons, List.append_assoc, hcall, calls_callTokens, hafter, ih]
    split <;> simp

end Source

namespace Scaffold

open Source

/-! ### The lines for a table -/

/-- The tokens behind the text of a call that creates a table. -/
def createEnd : List Token :=
  [.mark ',', .mark '|', .word "table", .mark '|', .mark '{', .word "let", .word "_", .mark '=',
    .word "table", .mark ';', .mark '}', .mark ')', .mark '.', .word "await", .mark '?', .mark ';']

/-- The tokens behind the text of a call that drops a table. -/
def dropEnd : List Token :=
  [.mark ')', .mark '.', .word "await", .mark '?', .mark ';']

/-- What stands in front of a table in the lines that create it. -/
def createStart : String :=
  "        schema\n            .create(\""

theorem run_createStart : run .code createStart.toList =
    ([.word "schema", .mark '.', .word "create", .mark '('], .quoted [] .none) := by
  decide +kernel

theorem toList_createLines (table : String) : (createLines table).toList =
    createStart.toList ++ (table.toList ++ '"' ::
      (", |table| \x7b\n".toList ++
        ("                // Columns are not reconstructed; fill them in.\n".toList ++
          "                let _ = table;\n            \x7d)\n            .await?;\n".toList))) := by
  unfold createLines createStart
  simp only [String.toList_append, List.append_assoc]
  rfl

theorem toList_dropLine (table : String) : (dropLine table).toList =
    "        schema.drop_if_exists(\"".toList ++ (table.toList ++ '"' :: ").await?;\n".toList) := by
  unfold dropLine
  simp only [String.toList_append, List.append_assoc]
  rfl

theorem run_createLines {table : String} (h : ∀ c ∈ table.toList, isPlain c = true) :
    run .code (createLines table).toList = (callTokens "create" table createEnd, .code) := by
  rw [toList_createLines]
  exact run_call run_createStart (by decide +kernel) h

theorem run_dropLine {table : String} (h : ∀ c ∈ table.toList, isPlain c = true) :
    run .code (dropLine table).toList = (callTokens "drop_if_exists" table dropEnd, .code) := by
  rw [toList_dropLine]
  exact run_call (by decide +kernel) (by decide +kernel) h

theorem calls_createEnd (method : String) (rest : List Token) :
    calls method (createEnd ++ rest) = calls method rest := by
  simp [createEnd, calls, called?]

theorem calls_dropEnd (method : String) (rest : List Token) :
    calls method (dropEnd ++ rest) = calls method rest := by
  simp [dropEnd, calls, called?]

/-! ### The whole text -/

/-- The text between the number of tables and the name of the type. -/
def countEnd : String :=
  " table(s)\n\nuse arcanox::prelude::*;\n\n" ++ "#[derive(Default)]\npub struct "

/-- The text between the two places where the name of the type stands. -/
def typeEnd : String :=
  ";\n\n#[async_trait]\nimpl Migration for "

/-- The text between the name of the type and the calls that create tables. -/
def upStart : String :=
  " \x7b\n" ++ "    async fn up(&self, schema: &Schema) -> ArcanoxResult<()> \x7b\n"

/-- The text in front of the first call. -/
def opening (type : String) (count : Nat) : String :=
  "//! Squashed schema: " ++ (toString count ++ (countEnd ++ (type ++ (typeEnd ++ (type ++
    upStart)))))

/-- The text between the calls that create tables and those that drop them. -/
def between : String :=
  "        Ok(())\n    \x7d\n\n" ++
    "    async fn down(&self, schema: &Schema) -> ArcanoxResult<()> \x7b\n"

/-- The text behind the last call. -/
def ending : String :=
  "        Ok(())\n    \x7d\n\x7d\n"

theorem toList_source (words : String) (tables : List String) : (source words tables).toList =
    (opening (typeName words) tables.length).toList ++
      (tables.flatMap (fun table => (createLines table).toList) ++ (between.toList ++
        (tables.reverse.flatMap (fun table => (dropLine table).toList) ++ ending.toList))) := by
  have hsource : source words tables = opening (typeName words) tables.length ++
      (String.join (tables.map createLines) ++ (between ++
        (String.join (tables.reverse.map dropLine) ++ ending))) := by
    unfold source opening countEnd typeEnd upStart between ending
    simp only [String.append_assoc]
  rw [hsource, String.toList_append, String.toList_append, String.toList_append,
    String.toList_append, String.toList_join, String.toList_join, List.flatMap_map, List.flatMap_map]

/-- In front of the first call a type is declared, and nothing is called. -/
theorem exists_run_opening {type : String} (hne : type ≠ "")
    (hpart : ∀ c ∈ type.toList, isWordPart c = true) (count : Nat) : ∃ front back,
      run .code (opening type count).toList =
        (front ++ .word "struct" :: .word type :: back, .code) ∧
      .word "struct" ∉ front ∧ .mark '.' ∉ front ++ .word "struct" :: .word type :: back := by
  have hdigits : '\n' ∉ (toString count).toList := by
    rw [Nat.toString_eq_ofList_toDigits, String.toList_ofList]
    exact fun h => absurd (Nat.isDigit_of_mem_toDigits (by decide) (by decide) h) (by decide)
  have hcount : run .code "//! Squashed schema: ".toList = ([], .comment) := by decide +kernel
  obtain ⟨front, hfront, hstruct, hpoint⟩ : ∃ front, run .comment countEnd.toList =
      (front ++ [.word "struct"], .code) ∧ .word "struct" ∉ front ∧ .mark '.' ∉ front :=
    ⟨(run .comment countEnd.toList).1.dropLast, by decide +kernel, by decide +kernel,
      by decide +kernel⟩
  obtain ⟨middle, hmiddle, hmiddlePoint⟩ :
      ∃ middle, run .code typeEnd.toList = (middle, .code) ∧ .mark '.' ∉ middle :=
    ⟨(run .code typeEnd.toList).1, by decide +kernel, by decide +kernel⟩
  obtain ⟨back, hback, hbackPoint⟩ :
      ∃ back, run .code upStart.toList = (back, .code) ∧ .mark '.' ∉ back :=
    ⟨(run .code upStart.toList).1, by decide +kernel, by decide +kernel⟩
  have hfirst := run_word_append hne hpart (by decide) hmiddle
  have hsecond := run_word_append hne hpart (by decide) hback
  have htext : (opening type count).toList = "//! Squashed schema: ".toList ++
      ((toString count).toList ++ (countEnd.toList ++
        ((type.toList ++ typeEnd.toList) ++ (type.toList ++ upStart.toList)))) := by
    unfold opening
    simp only [String.toList_append, List.append_assoc]
  refine ⟨front, middle ++ .word type :: back, ?_, hstruct, ?_⟩
  · rw [htext, run_append, hcount, run_append, run_comment hdigits, run_append, hfront, run_append,
      hfirst, hsecond]
    simp
  · simp [hpoint, hmiddlePoint, hbackPoint]

section Source

variable {words : String} {tables : List String}

/-- The type that is declared is the one that the words name, whatever the tables are. -/
theorem declared?_source (hne : typeName words ≠ "")
    (hpart : ∀ c ∈ (typeName words).toList, isWordPart c = true) (tables : List String) :
    declared? (tokens (source words tables)) = some (typeName words) := by
  obtain ⟨front, back, hopening, hstruct, -⟩ := exists_run_opening hne hpart tables.length
  rw [tokens, toList_source, List.append_assoc, run_append, hopening, List.append_assoc]
  exact declared?_append hstruct _ _

/-- Plain tables are read back from the calls. -/
theorem calls_source (hne : typeName words ≠ "")
    (hpart : ∀ c ∈ (typeName words).toList, isWordPart c = true)
    (hplain : ∀ table ∈ tables, ∀ c ∈ table.toList, isPlain c = true) :
    (tokens? (source words tables)).map (calls "create") = some tables ∧
      (tokens? (source words tables)).map (calls "drop_if_exists") = some tables.reverse := by
  obtain ⟨front, back, hopening, -, hpoint⟩ := exists_run_opening hne hpart tables.length
  obtain ⟨middle, hbetween, hmiddle⟩ :
      ∃ middle, run .code between.toList = (middle, .code) ∧ .mark '.' ∉ middle :=
    ⟨(run .code between.toList).1, by decide +kernel, by decide +kernel⟩
  obtain ⟨last, hending, hlast⟩ :
      ∃ last, run .code (ending.toList ++ ['\n']) = (last, .code) ∧ .mark '.' ∉ last :=
    ⟨(run .code (ending.toList ++ ['\n'])).1, by decide +kernel, by decide +kernel⟩
  have hcreates := run_flatMap fun table htable => run_createLines (hplain table htable)
  have hdrops := run_flatMap fun table htable =>
    run_dropLine (hplain table (List.mem_reverse.1 htable))
  have hrun : run .code ((source words tables).toList ++ ['\n']) =
      (front ++ .word "struct" :: .word (typeName words) :: back ++
        (tables.flatMap (callTokens "create" · createEnd) ++ (middle ++
          (tables.reverse.flatMap (callTokens "drop_if_exists" · dropEnd) ++ last))), .code) := by
    rw [toList_source]
    simp only [List.append_assoc, run_append, hopening, hcreates, hbetween, hdrops, hending]
  have hcalls (method : String) : (tokens? (source words tables)).map (calls method) =
      some ((if "create" = method then tables else []) ++
        (if "drop_if_exists" = method then tables.reverse else [])) := by
    have hlast : calls method last = [] := by
      simpa [calls] using calls_append_of_not_mem hlast []
    rw [tokens?, tokens, hrun, if_pos rfl, Option.map_some, calls_append_of_not_mem hpoint,
      calls_flatMap_callTokens (calls_createEnd method), calls_append_of_not_mem hmiddle,
      calls_flatMap_callTokens (calls_dropEnd method), hlast, List.append_nil]
  exact ⟨by simp [hcalls], by simp [hcalls]⟩

/-- The text up to one of the tables, the quote behind it, and more text. -/
theorem exists_toList_source (words : String) {good later : List String} {table : String}
    (htables : tables = good ++ table :: later) : ∃ more, (source words tables).toList ++ ['\n'] =
      (opening (typeName words) tables.length).toList ++
        (good.flatMap (fun table => (createLines table).toList) ++
          (createStart.toList ++ (table.toList ++ '"' :: more))) := by
  obtain ⟨after, hlines⟩ : ∃ after, (createLines table).toList =
      createStart.toList ++ (table.toList ++ '"' :: after) :=
    ⟨_, toList_createLines table⟩
  have hcreates : tables.flatMap (fun table => (createLines table).toList) =
      good.flatMap (fun table => (createLines table).toList) ++
        (createStart.toList ++ (table.toList ++ '"' :: after) ++
          later.flatMap (fun table => (createLines table).toList)) := by
    rw [htables, List.flatMap_append, List.flatMap_cons, hlines]
  refine ⟨after ++ (later.flatMap (fun table => (createLines table).toList) ++ (between.toList ++
    (tables.reverse.flatMap (fun table => (dropLine table).toList) ++
      (ending.toList ++ ['\n'])))), ?_⟩
  rw [toList_source, hcreates]
  simp only [List.append_assoc, List.cons_append]

/-- Tables that are read back are plain. -/
theorem isPlain_of_calls (hne : typeName words ≠ "")
    (hpart : ∀ c ∈ (typeName words).toList, isWordPart c = true)
    (hcalls : (tokens? (source words tables)).map (calls "create") = some tables) :
    ∀ table ∈ tables, ∀ c ∈ table.toList, isPlain c = true := by
  by_contra hbad
  -- The first table that is not plain is misread, and those in front of it are read back.
  have hfind : (tables.find? fun table => !table.toList.all isPlain).isSome := by
    simpa [List.find?_isSome] using hbad
  obtain ⟨table, hfind⟩ := Option.isSome_iff_exists.1 hfind
  obtain ⟨htable, good, later, htables, hgood⟩ := List.find?_eq_some_iff_append.1 hfind
  have hgood : ∀ other ∈ good, ∀ c ∈ other.toList, isPlain c = true := by simpa using hgood
  have htable : ∃ c ∈ table.toList, isPlain c = false := by simpa using htable
  obtain ⟨more, htext⟩ := exists_toList_source words htables
  obtain ⟨front, back, hopening, -, hpoint⟩ := exists_run_opening hne hpart tables.length
  have hcreates := run_flatMap fun table htable => run_createLines (hgood table htable)
  have hmisread := misreads_of_not_isPlain htable more
  rw [tokens?, tokens, htext, run_append, hopening, run_append, hcreates, run_append,
    run_createStart] at hcalls
  generalize run (.quoted [] .none) (table.toList ++ '"' :: more) = result at hmisread hcalls
  dsimp only at hcalls
  by_cases hend : result.2 = .code
  · obtain ⟨other, out, hout, hother⟩ := hmisread.resolve_right fun hstop => hstop.2 hend
    have hcall : [.word "schema", .mark '.', .word "create", .mark '('] ++ .quoted other :: out =
        callTokens "create" other out := rfl
    rw [if_pos hend, Option.map_some, hout, hcall, calls_append_of_not_mem hpoint,
      calls_flatMap_callTokens (calls_createEnd _), if_pos rfl, calls_callTokens, if_pos rfl,
      htables] at hcalls
    exact hother (List.cons.inj (List.append_cancel_left (Option.some.inj hcalls))).1
  · rw [if_neg hend] at hcalls
    cases hcalls

end Source

end Scaffold

end SchemaMigration
