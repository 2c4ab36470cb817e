import SchemaMigration.Proofs.Ddl.Literal
import SchemaMigration.Proofs.Ddl.Reading
import SchemaMigration.Proofs.Ddl.Spacing
import SchemaMigration.Proofs.Migration.Marker
import SchemaMigration.Proofs.Text.Lines

/-!
# Reading lists of names

Identifiers in quotes with commas between them are read back, whatever stands in the names: a quote
that is written twice does not end a name, and neither does a comma. So keys, indexes and references
with other columns have other texts.
-/

namespace SchemaMigration

open Piece Skeleton Text

/-! ### Lists -/

section Lists

variable {α : Type}

/-- Reads items with a separator between neighbours, at most as many as given; returns them and what
follows the last one. -/
def readItems? (read? : List Char → Option (α × List Char)) (separator : List Char) :
    Nat → List Char → Option (List α × List Char)
  | 0, _ => none
  | most + 1, text => do
    let (item, rest) ← read? text
    match dropStart? separator rest with
    | none => return ([item], rest)
    | some further =>
      let (items, rest) ← readItems? read? separator most further
      return (item :: items, rest)

/-- Reads all items that stand in front of a text. There are none unless the text begins with the
character with which every item begins. -/
def readList? (start : Char) (read? : List Char → Option (α × List Char))
    (separator text : List Char) : Option (List α × List Char) :=
  if text.head? = some start then readItems? read? separator (text.length + 1) text
  else some ([], text)

variable {read? : List Char → Option (α × List Char)} {separator text rest further : List Char}
  {item : α}

theorem readItems?_last (hitem : read? text = some (item, rest))
    (hstop : dropStart? separator rest = none) (most : Nat) :
    readItems? read? separator (most + 1) text = some ([item], rest) := by
  rw [readItems?, hitem]
  simp [hstop]

theorem readItems?_further (hitem : read? text = some (item, separator ++ further)) (most : Nat) :
    readItems? read? separator (most + 1) text =
      (readItems? read? separator most further).map (Prod.map (item :: ·) id) := by
  have hfurther : dropStart? separator (separator ++ further) = some further :=
    dropStart?_eq_some.2 rfl
  rw [readItems?, hitem]
  cases hitems : readItems? read? separator most further with
  | none => simp [hfurther, hitems]
  | some found =>
    simp only [hfurther, hitems, Option.bind_eq_bind, Option.bind_some]
    rfl

/-- There are no more items than characters. -/
theorem length_le_length_joinChars (hne : separator ≠ []) (piece : List Char)
    (pieces : List (List Char)) :
    pieces.length ≤ (joinChars separator (piece :: pieces)).length := by
  induction pieces generalizing piece with
  | nil => exact Nat.zero_le _
  | cons next pieces ih =>
    have hpos := List.length_pos_iff.2 hne
    have hrest := ih next
    rw [joinChars_cons_of_ne_nil piece (by simp)]
    simp only [List.length_append, List.length_cons] at hrest ⊢
    omega

section Format

variable {write : α → List Char} {start mark : Char}

-- Every item begins with one character and is read back in front of everything else. The separator
-- begins with another character, its mark.
variable (hmark : mark ≠ start)
  (hread : ∀ item {rest : List Char}, rest.head? ≠ some start →
    read? (write item ++ rest) = some (item, rest))
  (hrest : rest.head? ≠ some start) (hstop : dropStart? (mark :: separator) rest = none)

include hmark hread hrest hstop

theorem readItems?_joinChars (item : α) (items : List α) {most : Nat}
    (hmost : items.length < most) :
    readItems? read? (mark :: separator) most
        (joinChars (mark :: separator) ((item :: items).map write) ++ rest) =
      some (item :: items, rest) := by
  induction items generalizing item most with
  | nil =>
    obtain ⟨most, rfl⟩ := Nat.exists_eq_succ_of_ne_zero (Nat.ne_zero_of_lt hmost)
    exact readItems?_last (hread item hrest) hstop most
  | cons next items ih =>
    obtain ⟨most, rfl⟩ := Nat.exists_eq_succ_of_ne_zero (Nat.ne_zero_of_lt hmost)
    have hseparator (text : List Char) : (mark :: separator ++ text).head? ≠ some start := by
      simpa using hmark
    rw [List.map_cons, joinChars_cons_of_ne_nil _ (by simp), List.append_assoc, List.append_assoc,
      readItems?_further (hread item (hseparator _)), ih next (Nat.lt_of_succ_lt_succ hmost)]
    rfl

/-- All items that were joined are read back, also if there are none. -/
theorem readList?_joinChars (hstart : ∀ item, (write item).head? = some start) (items : List α) :
    readList? start read? (mark :: separator)
        (joinChars (mark :: separator) (items.map write) ++ rest) = some (items, rest) := by
  cases items with
  | nil => exact if_neg hrest
  | cons item items =>
    have hhead (pieces : List (List Char)) :
        (joinChars (mark :: separator) (write item :: pieces) ++ rest).head? = some start := by
      have hitem (more : List Char) : (write item ++ more).head? = some start := by
        rw [List.head?_append, hstart, Option.some_or]
      cases pieces with
      | nil => exact hitem rest
      | cons next pieces =>
        rw [joinChars_cons_of_ne_nil _ (by simp), List.append_assoc, List.append_assoc, hitem]
    have hlength := length_le_length_joinChars (List.cons_ne_nil mark separator) (write item)
      (items.map write)
    rw [readList?, List.map_cons, if_pos (hhead _), ← List.map_cons]
    refine readItems?_joinChars hmark hread hrest hstop item items ?_
    rw [List.length_map] at hlength
    rw [List.length_append, List.map_cons]
    omega

end Format

end Lists

/-! ### Names -/

theorem Piece.toList_render_append (d : Dialect) (xs ys : List Piece) :
    (render d (xs ++ ys)).toList = (render d xs).toList ++ (render d ys).toList := by
  simp [render]

theorem Piece.toList_render_separated (d : Dialect) (separator : String)
    (lists : List (List Piece)) : (render d (separated separator lists)).toList =
      joinChars separator.toList (lists.map fun pieces => (render d pieces).toList) := by
  induction lists with
  | nil => rfl
  | cons pieces rest ih =>
    cases rest with
    | nil => rfl
    | cons next rest =>
      rw [separated_cons_cons, toList_render_append, toList_render_cons, ih, ← List.append_assoc]
      rfl

/-- One reader reads one thing from one text. -/
theorem eq_of_read {α : Type} {read? : List Char → Option (α × List Char)}
    {text text' rest rest' : List Char} {item item' : α} (h : read? text = some (item, rest))
    (h' : read? text' = some (item', rest')) (heq : text = text') : item = item' ∧ rest = rest' := by
  rw [heq, h'] at h
  obtain ⟨rfl, rfl⟩ := Prod.mk.inj (Option.some.inj h)
  exact ⟨rfl, rfl⟩

/-- What follows the first occurrence of a character is determined by the whole. -/
theorem eq_of_append_cons {c : Char} {front front' rest rest' : List Char} (h : c ∉ front)
    (h' : c ∉ front') (heq : front ++ c :: rest = front' ++ c :: rest') : rest = rest' := by
  induction front generalizing front' with
  | nil =>
    cases front' with
    | nil => exact (List.cons.inj heq).2
    | cons d front' => exact absurd ((List.cons.inj heq).1 ▸ List.mem_cons_self) h'
  | cons d front ih =>
    cases front' with
    | nil => exact absurd ((List.cons.inj heq).1 ▸ List.mem_cons_self) h
    | cons e front' =>
      exact ih (fun hc => h (List.mem_cons_of_mem d hc)) (fun hc => h' (List.mem_cons_of_mem e hc))
        (List.cons.inj heq).2

namespace Dialect

variable {d : Dialect} {name name' : String} {names names' : List String}
  {words words' rest rest' : List Char}

/-- Reads names with commas between them; returns the names and what follows the last one. -/
def readNames? (d : Dialect) : List Char → Option (List String × List Char) :=
  readList? d.quote d.readName? ", ".toList

theorem quote_ne_backslash (d : Dialect) : d.quote ≠ '\\' := by
  cases d <;> decide

/-- A text does not begin with a name if its first character is no quote. -/
theorem head?_cons_ne_quote {c : Char} (hc : c ∉ ['"', '\x60']) (rest : List Char) :
    (c :: rest).head? ≠ some d.quote := by
  rw [List.mem_cons, List.mem_singleton, not_or] at hc
  cases d with
  | postgresql | sqlite => exact fun h => hc.1 (Option.some.inj h)
  | mysql => exact fun h => hc.2 (Option.some.inj h)

/-- A name in quotes is read back. -/
theorem readName?_quoted (name : String) (hrest : rest.head? ≠ some d.quote) :
    d.readName? ((d.quoted name).toList ++ rest) = some (name, rest) := by
  rw [toList_quoted, readName?, readEnclosed?_enclosed_iff]
  exact readQuoted?_double d.quote_ne_backslash _ hrest

/-- Names in quotes are read back. -/
theorem readNames?_names (names : List String) (hrest : rest.head? ≠ some d.quote)
    (hstop : dropStart? ", ".toList rest = none) :
    d.readNames? ((render d (Piece.names names)).toList ++ rest) = some (names, rest) := by
  have hmark : ',' ≠ d.quote := by cases d <;> decide
  have hstart (name : String) : (d.quoted name).toList.head? = some d.quote := by
    rw [toList_quoted]
    rfl
  have hname (name : String) : (render d [.name name]).toList = (d.quoted name).toList := by
    simp [render, text]
  have htext : (render d (Piece.names names)).toList =
      joinChars ", ".toList (names.map fun name => (d.quoted name).toList) := by
    rw [Piece.names, toList_render_separated, List.map_map]
    exact congrArg _ (List.map_congr_left fun name _ => hname name)
  rw [htext]
  exact readList?_joinChars hmark (fun name {_} => readName?_quoted name) hrest hstop hstart names

theorem quoted_append_inj (h : (d.quoted name).toList ++ rest = (d.quoted name').toList ++ rest')
    (hrest : rest.head? ≠ some d.quote) (hrest' : rest'.head? ≠ some d.quote) :
    name = name' ∧ rest = rest' :=
  eq_of_read (readName?_quoted name hrest) (readName?_quoted name' hrest') h

theorem names_append_inj
    (h : (render d (Piece.names names)).toList ++ ')' :: rest =
      (render d (Piece.names names')).toList ++ ')' :: rest') : names = names' ∧ rest = rest' := by
  have hread (names : List String) (rest : List Char) :
      d.readNames? ((render d (Piece.names names)).toList ++ ')' :: rest) =
        some (names, ')' :: rest) :=
    readNames?_names names (head?_cons_ne_quote (by decide) rest) rfl
  obtain ⟨hnames, hrest⟩ := eq_of_read (hread names rest) (hread names' rest') h
  exact ⟨hnames, (List.cons.inj hrest).2⟩

/-- The words in front of a name end at its quote. -/
theorem eq_behind_words (hwords : d.quote ∉ words) (hwords' : d.quote ∉ words')
    (h : words ++ ((d.quoted name).toList ++ rest) =
      words' ++ ((d.quoted name').toList ++ rest')) :
    (d.quoted name).toList ++ rest = (d.quoted name').toList ++ rest' := by
  rw [toList_quoted, toList_quoted, enclosed, enclosed, List.cons_append, List.cons_append] at h ⊢
  rw [eq_of_append_cons hwords hwords' h]

end Dialect

/-! ### Keys, references and indexes -/

variable {d : Dialect}

theorem TablePart.primaryKey_inj {columns columns' : List String}
    (h : render d ((primaryKey columns).pieces d) = render d ((primaryKey columns').pieces d)) :
    columns = columns' := by
  have hlayout (columns : List String) : (render d ((primaryKey columns).pieces d)).toList =
      "PRIMARY KEY (".toList ++ ((render d (names columns)).toList ++ [')']) := by
    simp [pieces, render, text]
  have htext := congrArg String.toList h
  rw [hlayout, hlayout, List.append_cancel_left_eq] at htext
  exact (Dialect.names_append_inj htext).1

namespace ForeignKey

theorem toList_render_pieces (d : Dialect) (k : ForeignKey) (target : String) :
    ∃ rest, (render d (k.pieces d target)).toList =
      "CONSTRAINT ".toList ++ ((d.quoted k.constraintName).toList ++ (" FOREIGN KEY (".toList ++
        ((render d (names k.columns)).toList ++ ')' :: (" REFERENCES ".toList ++
          ((d.quoted target).toList ++ (" (".toList ++
            ((render d (names k.referencedColumns)).toList ++ ')' :: rest))))))) := by
  refine ⟨(render d (actionPieces " ON DELETE " k.onDelete ++ actionPieces " ON UPDATE " k.onUpdate
    ++ codeIf (k.deferrable && d != .mysql) " DEFERRABLE INITIALLY DEFERRED")).toList, ?_⟩
  have hreferences : ") REFERENCES ".toList = ')' :: " REFERENCES ".toList := by decide
  have hclose : ")".toList = [')'] := by decide
  simp only [pieces, toList_render_cons, toList_render_append, Piece.text, hreferences, hclose,
    List.cons_append, List.nil_append]

/-- Two foreign keys with one text have the same columns and refer to the same ones. -/
theorem columns_of_render {k k' : ForeignKey} {target target' : String}
    (h : render d (k.pieces d target) = render d (k'.pieces d target')) :
    k.columns = k'.columns ∧ target = target' ∧ k.referencedColumns = k'.referencedColumns := by
  have hspace (rest : List Char) : (' ' :: rest).head? ≠ some d.quote :=
    Dialect.head?_cons_ne_quote (by decide) rest
  have htext := congrArg String.toList h
  obtain ⟨rest, hk⟩ := toList_render_pieces d k target
  obtain ⟨rest', hk'⟩ := toList_render_pieces d k' target'
  rw [hk, hk', List.append_cancel_left_eq] at htext
  obtain ⟨-, htext⟩ := Dialect.quoted_append_inj htext (hspace _) (hspace _)
  obtain ⟨hcolumns, htext⟩ := Dialect.names_append_inj (List.append_cancel_left htext)
  obtain ⟨htarget, htext⟩ :=
    Dialect.quoted_append_inj (List.append_cancel_left htext) (hspace _) (hspace _)
  obtain ⟨hreferenced, -⟩ := Dialect.names_append_inj (List.append_cancel_left htext)
  exact ⟨hcolumns, htarget, hreferenced⟩

end ForeignKey

namespace Index

variable {i i' : Index} {table table' : String}

/-- The words of columns in an index of words. -/
def words (columns : List String) : List Piece :=
  separated " || " (columns.map fun column =>
    [code "to_tsvector(", .literal "english", code ", ", .name column, code ")"])

/-- Reads the words of a column; returns the column and what follows. -/
def readWords? (d : Dialect) (text : List Char) : Option (String × List Char) := do
  let (column, rest) ← d.readName? (← dropStart? "to_tsvector('english', ".toList text)
  return (column, ← dropStart? [')'] rest)

theorem toList_render_words (d : Dialect) (columns : List String) :
    (render d (words columns)).toList = joinChars " || ".toList (columns.map fun column =>
      "to_tsvector('english', ".toList ++ ((d.quoted column).toList ++ [')'])) := by
  have hwords (column : String) : (render d [code "to_tsvector(", .literal "english", code ", ",
      .name column, code ")"]).toList =
        "to_tsvector('english', ".toList ++ ((d.quoted column).toList ++ [')']) := by
    have henglish : (quoteLiteral "english").toList = "'english'".toList := by decide
    simp [render, text, henglish]
  rw [words, toList_render_separated, List.map_map]
  exact congrArg _ (List.map_congr_left fun column _ => hwords column)

theorem words_append_inj {columns columns' : List String} {rest rest' : List Char}
    (h : (render d (words columns)).toList ++ ')' :: rest =
      (render d (words columns')).toList ++ ')' :: rest') : columns = columns' ∧ rest = rest' := by
  have hcolumn (column : String) {rest : List Char} : readWords? d
      (("to_tsvector('english', ".toList ++ ((d.quoted column).toList ++ [')'])) ++ rest) =
        some (column, rest) := by
    have hclose : (')' :: rest).head? ≠ some d.quote :=
      Dialect.head?_cons_ne_quote (by decide) rest
    have hname : d.readName? ((d.quoted column).toList ++ ')' :: rest) =
        some (column, ')' :: rest) := Dialect.readName?_quoted column hclose
    have hstart (more : List Char) : dropStart? "to_tsvector('english', ".toList
        ("to_tsvector('english', ".toList ++ more) = some more := dropStart?_eq_some.2 rfl
    rw [readWords?, List.append_assoc, List.append_assoc, hstart]
    simp [hname, dropStart?]
  have hread (columns : List String) (rest : List Char) :
      readList? 't' (readWords? d) " || ".toList
        ((render d (words columns)).toList ++ ')' :: rest) = some (columns, ')' :: rest) := by
    have hclose : (')' :: rest).head? ≠ some 't' := by simp
    have hstart (column : String) :
        ("to_tsvector('english', ".toList ++ ((d.quoted column).toList ++ [')'])).head? =
          some 't' := by
      rw [List.head?_append]
      rfl
    rw [toList_render_words]
    exact readList?_joinChars (by decide) (fun column {_} _ => hcolumn column) hclose rfl hstart
      columns
  obtain ⟨hcolumns, hrest⟩ := eq_of_read (hread columns rest) (hread columns' rest') h
  exact ⟨hcolumns, (List.cons.inj hrest).2⟩

/-- The columns of an index between the parentheses around them. -/
def keyText (d : Dialect) (i : Index) : List Char :=
  if d = .postgresql ∧ i.method = some .fulltext then
    '(' :: ((render d (words i.columns)).toList ++ [')'])
  else (render d (names i.columns)).toList

theorem head?_names (d : Dialect) (columns : List String) (rest : List Char) :
    ((render d (names columns)).toList ++ ')' :: rest).head? ≠ some '(' := by
  cases columns with
  | nil => simp [names, separated, render]
  | cons column columns =>
    have hhead (pieces : List Piece) :
        ((render d (.name column :: pieces)).toList ++ ')' :: rest).head? = some d.quote := by
      rw [toList_render_cons, text, toList_quoted]
      rfl
    have hnames : ∃ pieces, names (column :: columns) = .name column :: pieces := by
      cases columns <;> exact ⟨_, rfl⟩
    obtain ⟨pieces, hpieces⟩ := hnames
    rw [hpieces, hhead]
    cases d <;> decide

theorem keyText_append_inj {rest rest' : List Char}
    (h : i.keyText d ++ ')' :: rest = i'.keyText d ++ ')' :: rest') :
    i.columns = i'.columns ∧ rest = rest' := by
  have hwords (columns : List String) (rest : List Char) :
      '(' :: ((render d (words columns)).toList ++ [')']) ++ ')' :: rest =
        '(' :: ((render d (words columns)).toList ++ ')' :: ')' :: rest) := by
    simp
  rw [keyText, keyText] at h
  split at h
  · split at h
    · rw [hwords, hwords] at h
      obtain ⟨hcolumns, hrest⟩ := words_append_inj (List.cons.inj h).2
      exact ⟨hcolumns, (List.cons.inj hrest).2⟩
    · exact absurd (h ▸ rfl) (head?_names d i'.columns rest')
  · split at h
    · exact absurd (h ▸ rfl) (head?_names d i.columns rest)
    · exact Dialect.names_append_inj h

/-- What stands behind the columns of an index. -/
def behindKey (d : Dialect) (i : Index) : List Piece :=
  match d with
  | .mysql => [code (IndexMethod.mysqlUsing i.method)]
  | .postgresql =>
    (if i.included.isEmpty then [] else code " INCLUDE (" :: (names i.included ++ [code ")"]))
      ++ optionalRaw " WHERE " i.predicate
  | .sqlite => optionalRaw " WHERE " i.predicate

theorem toList_render_keyPieces (i : Index) : (render .postgresql i.keyPieces).toList =
    ' ' :: '(' :: (i.keyText .postgresql ++ [')']) := by
  have hopen : " (".toList = [' ', '('] ∧ " ((".toList = [' ', '(', '('] ∧
    ")".toList = [')'] ∧ "))".toList = [')', ')'] := by decide
  obtain ⟨hone, htwo, hcloseOne, hcloseTwo⟩ := hopen
  rw [keyPieces, keyText]
  by_cases hmethod : i.method = some .fulltext
  · rw [if_pos hmethod, if_pos ⟨rfl, hmethod⟩, toList_render_cons, toList_render_append]
    simp [render, text, htwo, hcloseTwo, words]
  · rw [if_neg hmethod, if_neg fun h => hmethod h.2, toList_render_cons, toList_render_append]
    simp [render, text, hone, hcloseOne]

/-- The words in front of the name of an index. -/
def kindWords (d : Dialect) (i : Index) : String :=
  "CREATE " ++ (if d = .mysql ∧ i.unique = false then IndexMethod.mysqlKind i.method
    else i.kindText) ++ " "

/-- The words between the table of an index and its columns, which only PostgreSQL has. -/
def methodWords (d : Dialect) (i : Index) : List Char :=
  if d = .postgresql then
    match i.method with
    | some method => ("USING " ++ method.postgresqlName ++ " ").toList
    | none => []
  else []

theorem kindWords_mem (d : Dialect) (i : Index) : i.kindWords d ∈ ["CREATE INDEX ",
    "CREATE UNIQUE INDEX ", "CREATE FULLTEXT INDEX ", "CREATE SPATIAL INDEX "] := by
  have hkind (method : Option IndexMethod) : "CREATE " ++ IndexMethod.mysqlKind method ++ " " ∈
      ["CREATE INDEX ", "CREATE UNIQUE INDEX ", "CREATE FULLTEXT INDEX ",
        "CREATE SPATIAL INDEX "] := by
    cases method with
    | none => decide
    | some method => cases method <;> decide
  unfold kindWords
  split
  · exact hkind i.method
  · rw [kindText]
    cases i.unique <;> decide

theorem quote_not_mem_kindWords (d : Dialect) (i : Index) : d.quote ∉ (i.kindWords d).toList := by
  have hwords : ∀ words ∈ ["CREATE INDEX ", "CREATE UNIQUE INDEX ", "CREATE FULLTEXT INDEX ",
      "CREATE SPATIAL INDEX "], '"' ∉ words.toList ∧ '\x60' ∉ words.toList := by
    decide
  have h := hwords _ (i.kindWords_mem d)
  cases d with
  | postgresql | sqlite => exact h.1
  | mysql => exact h.2

theorem parenthesis_not_mem_methodWords (d : Dialect) (i : Index) : '(' ∉ i.methodWords d := by
  unfold methodWords
  split
  · cases i.method with
    | none => exact List.not_mem_nil
    | some method => cases method <;> decide
  · exact List.not_mem_nil

theorem toList_render_pieces (d : Dialect) (table : String) (i : Index) :
    (render d (i.pieces d table)).toList =
      (i.kindWords d).toList ++ ((d.quoted (i.nameFor table)).toList ++ (" ON ".toList ++
        ((d.quoted table).toList ++ ' ' :: (i.methodWords d ++ '(' :: (i.keyText d ++
          ')' :: (render d (i.behindKey d)).toList))))) := by
  have hopen : " (".toList = [' ', '('] := by decide
  have hclose : ")".toList = [')'] := by decide
  cases d with
  | mysql =>
    cases hunique : i.unique <;>
      simp [pieces, heading, behindKey, keyText, kindWords, kindText, methodWords, text, hunique,
        hopen, hclose, render]
  | postgresql =>
    have husing : " USING ".toList = ' ' :: "USING ".toList := by decide
    have hkind : i.kindWords .postgresql = "CREATE " ++ i.kindText ++ " " := rfl
    cases hmethod : i.method with
    | none =>
      rw [pieces, behindKey, methodWords, if_pos rfl, hmethod, hkind]
      simp only [toList_render_append, toList_render_keyPieces]
      simp [heading, text, render]
    | some method =>
      rw [pieces, behindKey, methodWords, if_pos rfl, hmethod, hkind]
      simp only [toList_render_append, toList_render_keyPieces]
      simp [heading, text, render, husing]
  | sqlite =>
    simp [pieces, heading, behindKey, keyText, kindWords, methodWords, text, hopen, hclose, render]

theorem toList_behindKey_of_eq_nil (h : i.included = []) :
    (render .postgresql (i.behindKey .postgresql)).toList = [] ∨
      ∃ rest, (render .postgresql (i.behindKey .postgresql)).toList =
        ' ' :: ("WHERE ".toList ++ rest) := by
  have hwhere : " WHERE ".toList = ' ' :: "WHERE ".toList := by decide
  rw [behindKey, h]
  cases i.predicate with
  | none => exact .inl rfl
  | some predicate => exact .inr ⟨predicate.toList, by simp [optionalRaw, render, text, hwhere]⟩

theorem toList_behindKey_of_ne_nil (h : i.included ≠ []) :
    ∃ rest, (render .postgresql (i.behindKey .postgresql)).toList = ' ' :: ("INCLUDE (".toList ++
      ((render .postgresql (names i.included)).toList ++ ')' :: rest)) := by
  have hinclude : " INCLUDE (".toList = ' ' :: "INCLUDE (".toList := by decide
  have hclose : ")".toList = [')'] := by decide
  exact ⟨(render .postgresql (optionalRaw " WHERE " i.predicate)).toList,
    by simp [behindKey, h, render, text, hinclude, hclose]⟩

/-- The words for columns that are kept along differ from those for a condition. -/
theorem behindKey_ne (h : i.included = []) (h' : i'.included ≠ []) :
    (render .postgresql (i.behindKey .postgresql)).toList ≠
      (render .postgresql (i'.behindKey .postgresql)).toList := by
  obtain ⟨rest', hrest'⟩ := toList_behindKey_of_ne_nil h'
  rw [hrest']
  rcases toList_behindKey_of_eq_nil h with hnil | ⟨rest, hrest⟩
  · simp [hnil]
  · simp [hrest]

theorem included_of_behindKey (h : (render .postgresql (i.behindKey .postgresql)).toList =
    (render .postgresql (i'.behindKey .postgresql)).toList) : i.included = i'.included := by
  by_cases hi : i.included = [] <;> by_cases hi' : i'.included = []
  · rw [hi, hi']
  · exact absurd h (behindKey_ne hi hi')
  · exact absurd h.symm (behindKey_ne hi' hi)
  · obtain ⟨rest, hrest⟩ := toList_behindKey_of_ne_nil hi
    obtain ⟨rest', hrest'⟩ := toList_behindKey_of_ne_nil hi'
    rw [hrest, hrest'] at h
    exact (Dialect.names_append_inj (List.append_cancel_left (List.cons.inj h).2)).1

/-- Two indexes with one text agree in each part of it. -/
theorem parts_of_render (h : render d (i.pieces d table) = render d (i'.pieces d table')) :
    i.kindWords d = i'.kindWords d ∧ i.nameFor table = i'.nameFor table' ∧ table = table' ∧
      i.columns = i'.columns ∧
      (render d (i.behindKey d)).toList = (render d (i'.behindKey d)).toList := by
  have hspace (rest : List Char) : (' ' :: rest).head? ≠ some d.quote :=
    Dialect.head?_cons_ne_quote (by decide) rest
  have htext := congrArg String.toList h
  rw [toList_render_pieces, toList_render_pieces] at htext
  have hbehind := Dialect.eq_behind_words (i.quote_not_mem_kindWords d)
    (i'.quote_not_mem_kindWords d) htext
  have hkind : (i.kindWords d).toList = (i'.kindWords d).toList := by
    rwa [hbehind, List.append_cancel_right_eq] at htext
  obtain ⟨hname, htext⟩ := Dialect.quoted_append_inj hbehind (hspace _) (hspace _)
  obtain ⟨htable, htext⟩ :=
    Dialect.quoted_append_inj (List.append_cancel_left htext) (hspace _) (hspace _)
  obtain ⟨hcolumns, htext⟩ := keyText_append_inj (eq_of_append_cons
    (i.parenthesis_not_mem_methodWords d) (i'.parenthesis_not_mem_methodWords d)
    (List.cons.inj htext).2)
  exact ⟨String.toList_inj.1 hkind, hname, htable, hcolumns, htext⟩

/-- Two indexes with one text have the same columns, and in PostgreSQL they keep the same columns
along. -/
theorem columns_of_render (h : render d (i.pieces d table) = render d (i'.pieces d table')) :
    i.columns = i'.columns ∧ (d = .postgresql → i.included = i'.included) := by
  obtain ⟨-, -, -, hcolumns, hbehind⟩ := parts_of_render h
  refine ⟨hcolumns, ?_⟩
  rintro rfl
  exact included_of_behindKey hbehind

end Index

/-- The names in a list are read back, whatever stands in them, both at the end of a text and in
front of a parenthesis. So primary keys with one text have the same columns, indexes with one text
have the same columns, and foreign keys with one text have the same columns and refer to the same
ones. -/
theorem Dialect.names_are_read_back (d : Dialect) :
    (∀ names : List String,
      d.readNames? (render d (Piece.names names)).toList = some (names, []) ∧
        ∀ rest, d.readNames? ((render d (Piece.names names)).toList ++ ')' :: rest) =
          some (names, ')' :: rest)) ∧
    (∀ columns columns', render d ((TablePart.primaryKey columns).pieces d) =
      render d ((TablePart.primaryKey columns').pieces d) ↔ columns = columns') ∧
    (∀ table table' i i', (Ddl.createIndex table i).text d = (Ddl.createIndex table' i').text d →
      i.columns = i'.columns ∧ (d = .postgresql → i.included = i'.included)) ∧
    ∀ (k k' : ForeignKey) target target',
      render d (k.pieces d target) = render d (k'.pieces d target') →
        k.columns = k'.columns ∧ k.referencedColumns = k'.referencedColumns := by
  refine ⟨fun names => ⟨?_, fun rest => ?_⟩, ?_, ?_, ?_⟩
  · have hread : d.readNames? ((render d (Piece.names names)).toList ++ []) = some (names, []) :=
      readNames?_names names nofun rfl
    rwa [List.append_nil] at hread
  · exact readNames?_names names (head?_cons_ne_quote (by decide) rest) rfl
  · intro columns columns'
    exact ⟨TablePart.primaryKey_inj, fun h => h ▸ rfl⟩
  · intro table table' i i' h
    exact Index.columns_of_render h
  · intro k k' target target' h
    obtain ⟨hcolumns, -, hreferenced⟩ := ForeignKey.columns_of_render h
    exact ⟨hcolumns, hreferenced⟩

/-- A name that is given may be the one that is made of the table and the columns, and an empty list
of references stands for one column. Then two texts agree, and so do the columns in them. Quotes and
a comma in one name do not make two names of it. -/
theorem Dialect.names_with_quotes_are_told_apart :
    let odd : String := "a\", \"b"
    let index : Index := { columns := ["c", odd], included := [odd] }
    let named : Index := { index with name := some "t_c_a\", \"b_index" }
    let key : ForeignKey := { table := "t", columns := [odd], target := some "u" }
    let spelled : ForeignKey := { key with references := ["id"] }
    postgresql.readNames? (render postgresql (Piece.names [odd, "c"])).toList =
        some ([odd, "c"], []) ∧
      render postgresql ((TablePart.primaryKey [odd]).pieces postgresql) ≠
        render postgresql ((TablePart.primaryKey ["a", "b"]).pieces postgresql) ∧
      (Ddl.createIndex "t" index).text postgresql = (Ddl.createIndex "t" named).text postgresql ∧
      index.columns = named.columns ∧ index.included = named.included ∧
      render postgresql (key.pieces postgresql "u") =
        render postgresql (spelled.pieces postgresql "u") ∧
      key.referencedColumns = spelled.referencedColumns := by
  intro odd index named key spelled
  obtain ⟨hread, hprimary, hindex, hkey⟩ := names_are_read_back postgresql
  have hindexes : (Ddl.createIndex "t" index).text postgresql =
      (Ddl.createIndex "t" named).text postgresql := by
    decide +kernel
  have hkeys : render postgresql (key.pieces postgresql "u") =
      render postgresql (spelled.pieces postgresql "u") := rfl
  obtain ⟨hcolumns, hincluded⟩ := hindex _ _ _ _ hindexes
  exact ⟨(hread _).1, fun h => absurd ((hprimary _ _).1 h) (by decide), hindexes, hcolumns,
    hincluded rfl, hkeys, (hkey _ _ _ _ hkeys).2⟩

end SchemaMigration
