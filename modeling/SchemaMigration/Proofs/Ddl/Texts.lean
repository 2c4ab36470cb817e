import SchemaMigration.Proofs.Ddl.Literal
import SchemaMigration.Proofs.Ddl.Reading

/-!
# Texts in statements

Statements have texts in single quotes: those that an enumeration or a set lists, defaults, and
remarks. All of them are quoted in one way, by writing their quotes twice, and are read back in
PostgreSQL and SQLite. In MySQL, where backslashes are escape characters, a text is read back just if
its backslashes stand only in front of wildcards.
-/

namespace SchemaMigration

open Skeleton Text

/-! ### Texts in quotes -/

/-- The text in the quotes of a value, if it is written as one. -/
def Value.content? : Value → Option String
  | null | bool _ | int32 _ | int64 _ | float64 _ | bytes _ => none
  | string text => some text
  | uuid id => some id.text
  | datetime time => some time.rfc3339
  | value => some value.toJson.write

theorem Value.literal_of_content? {v : Value} {content : String} (h : v.content? = some content) :
    v.literal = quoteLiteral content := by
  cases v with
  | null | bool | int32 | int64 | float64 | bytes => cases h
  | string | uuid | datetime | json | array =>
    obtain rfl := Option.some.inj h
    rfl

namespace Piece

/-- The text that a piece has in single quotes. -/
def content? : Piece → Option String
  | literal content => some content
  | value v => v.content?
  | _ => none

theorem text_of_content? {p : Piece} {content : String} (h : p.content? = some content)
    (d : Dialect) : p.text d = quoteLiteral content := by
  cases p with
  | code | raw | name => cases h
  | literal =>
    obtain rfl := Option.some.inj h
    rfl
  | value v => exact v.literal_of_content? h

/-- The texts that pieces have in single quotes. -/
def contents (pieces : List Piece) : List String :=
  pieces.filterMap content?

@[simp] theorem contents_nil : contents [] = [] := rfl

@[simp] theorem contents_append (xs ys : List Piece) :
    contents (xs ++ ys) = contents xs ++ contents ys :=
  List.filterMap_append

@[simp] theorem contents_code (words : String) (rest : List Piece) :
    contents (code words :: rest) = contents rest := rfl

@[simp] theorem contents_raw (fragment : String) (rest : List Piece) :
    contents (raw fragment :: rest) = contents rest := rfl

@[simp] theorem contents_name (identifier : String) (rest : List Piece) :
    contents (name identifier :: rest) = contents rest := rfl

@[simp] theorem contents_literal (content : String) (rest : List Piece) :
    contents (literal content :: rest) = content :: contents rest := rfl

theorem contents_separated (separator : String) (lists : List (List Piece)) :
    contents (separated separator lists) = lists.flatMap contents := by
  induction lists with
  | nil => rfl
  | cons pieces rest ih =>
    cases rest with
    | nil => simp [separated]
    | cons next rest =>
      rw [separated_cons_cons, contents_append, contents_code, ih]
      rfl

@[simp] theorem contents_names (identifiers : List String) : contents (names identifiers) = [] := by
  rw [names, contents_separated, List.flatMap_map]
  exact List.flatMap_eq_nil_iff.2 fun _ _ => rfl

@[simp] theorem contents_literals (texts : List String) : contents (literals texts) = texts := by
  rw [literals, contents_separated, List.flatMap_map]
  exact List.flatMap_singleton' texts

@[simp] theorem contents_remark (words : String) (content : Option String) :
    contents (remark words content) = content.toList := by
  cases content <;> rfl

@[simp] theorem contents_optionalRaw (words : String) (fragment : Option String) :
    contents (optionalRaw words fragment) = [] := by
  cases fragment <;> rfl

@[simp] theorem contents_codeIf (condition : Bool) (words : String) :
    contents (codeIf condition words) = [] := by
  cases condition <;> rfl

end Piece

open Piece

/-- The texts that a kind lists in a dialect: MySQL has enumerations and sets, and PostgreSQL a
condition on the column of an enumeration. -/
def ColumnKind.listed (d : Dialect) : ColumnKind → List String
  | enum values => if d = .sqlite then [] else values
  | set values => if d = .mysql then values else []
  | array element => if d = .postgresql then element.listed d else []
  | _ => []

/-- The texts that a default has in quotes. The current time is computed from one in SQLite. -/
def ColumnDefault.texts (d : Dialect) : ColumnDefault → List String
  | value v => v.content?.toList
  | expression _ => []
  | currentTimestamp => if d = .sqlite then ["now"] else []

/-- The texts that the definition of a column has in quotes. -/
def Column.texts (d : Dialect) (c : Column) : List String :=
  c.kind.listed d ++ c.default.toList.flatMap (·.texts d) ++
    if d = .mysql then c.comment.toList else []

/-- The texts that a statement has in quotes. -/
def Ddl.texts (d : Dialect) : Ddl → List String
  | createTable _ _ parts comment =>
    parts.flatMap (fun
      | .column c => c.texts d
      | _ => []) ++ comment.toList
  | createIndex _ index =>
    if d = .postgresql ∧ index.method = some .fulltext then index.columns.map fun _ => "english"
    else []
  | commentOnTable _ comment => [comment]
  | commentOnColumn _ _ comment => [comment]
  | addColumn _ column => column.texts d
  | _ => []

/-! ### Texts of definitions -/

namespace ColumnKind

theorem contents_postgresql (column : String) (kind : ColumnKind) :
    contents (kind.postgresql column) = kind.listed .postgresql := by
  induction kind with
  | array element ih => simp [postgresql, listed, ih]
  | enum values => simp [postgresql, listed]
  | float precision => cases precision <;> rfl
  | _ => rfl

theorem contents_mysql (kind : ColumnKind) : contents kind.mysql = kind.listed .mysql := by
  cases kind with
  | enum values | set values => simp [mysql, listed]
  | float precision => cases precision <;> rfl
  | binary length => cases length <;> rfl
  | _ => rfl

theorem contents_sqlite (kind : ColumnKind) : contents kind.sqlite = kind.listed .sqlite := by
  cases kind <;> rfl

theorem listed_of_serial? {kind : ColumnKind} {serial : String} (h : kind.serial? = some serial)
    (d : Dialect) : kind.listed d = [] := by
  cases kind <;> first | rfl | cases h

end ColumnKind

theorem ColumnDefault.contents_pieces (d : Dialect) (default : ColumnDefault) :
    contents (default.pieces d) = default.texts d := by
  cases default with
  | expression => rfl
  | currentTimestamp => cases d <;> rfl
  | value v =>
    cases v with
    | bool b => cases d <;> rfl
    | _ => rfl

theorem Generated.contents_pieces (d : Dialect) (generated : Generated) :
    contents (generated.pieces d) = [] := by
  cases generated <;> rfl

namespace Column

theorem contents_typePieces (d : Dialect) (c : Column) :
    contents (c.typePieces d) = c.kind.listed d := by
  cases d with
  | mysql => simp [typePieces, ColumnKind.contents_mysql]
  | sqlite => exact c.kind.contents_sqlite
  | postgresql =>
    rw [typePieces]
    split
    · next serial hserial =>
      rw [Option.ite_none_right_eq_some] at hserial
      exact (ColumnKind.listed_of_serial? hserial.2 .postgresql).symm
    · exact c.kind.contents_postgresql c.name

theorem contents_pieces (d : Dialect) (c : Column) : contents (c.pieces d) = c.texts d := by
  rw [pieces, texts]
  -- The expression, the default and what only MySQL has may be missing.
  cases c.generation <;> cases c.default <;> by_cases hd : d = .mysql <;>
    simp [contents_typePieces, Generated.contents_pieces, ColumnDefault.contents_pieces, hd]

end Column

theorem ForeignKey.contents_pieces (d : Dialect) (k : ForeignKey) (target : String) :
    contents (k.pieces d target) = [] := by
  have haction (words : String) (action : Option ReferentialAction) :
      contents (actionPieces words action) = [] := by
    cases action <;> rfl
  simp [pieces, haction]

theorem Check.contents_pieces (c : Check) : contents c.pieces = [] := by
  unfold pieces
  split <;> rfl

namespace Index

/-- The name of a language is in quotes for each column of an index of words. -/
theorem contents_keyPieces (i : Index) : contents i.keyPieces =
    if i.method = some .fulltext then i.columns.map fun _ => "english" else [] := by
  unfold keyPieces
  split
  · simp only [contents_code, contents_append, contents_separated, contents_nil, List.flatMap_map,
      List.append_nil]
    exact List.map_eq_flatMap.symm
  · simp

theorem contents_pieces (d : Dialect) (table : String) (i : Index) :
    contents (i.pieces d table) =
      if d = .postgresql ∧ i.method = some .fulltext then i.columns.map fun _ => "english"
      else [] := by
  have hheading (kind : String) : contents (i.heading kind table) = [] := rfl
  cases d with
  | mysql | sqlite => simp [pieces, hheading]
  | postgresql =>
    rw [pieces]
    cases hmethod : i.method <;> by_cases hincluded : i.included = [] <;>
      simp [hheading, contents_keyPieces, hmethod, hincluded]

end Index

theorem Placement.contents_pieces (d : Dialect) (placement : Option Placement) :
    contents (Placement.pieces d placement) = [] := by
  unfold pieces
  split
  · split <;> rfl
  · rfl

theorem TablePart.contents_pieces (d : Dialect) (p : TablePart) :
    contents (p.pieces d) = match p with
      | .column c => c.texts d
      | _ => [] := by
  cases p with
  | column c => exact c.contents_pieces d
  | primaryKey columns => simp [pieces]
  | foreignKey k target => exact k.contents_pieces d target
  | check c => exact c.contents_pieces

/-- The texts that the pieces of a statement have in single quotes are, in order, those that its
columns and its remarks have. -/
theorem Ddl.contents_pieces (d : Dialect) (s : Ddl) : contents (s.pieces d) = s.texts d := by
  have haltering (table words : String) : contents (altering table words) = [] := rfl
  cases s with
  | createTable temporary table parts comment =>
    simp [pieces, texts, contents_separated, List.flatMap_map, TablePart.contents_pieces]
  | createIndex table index => exact index.contents_pieces d table
  | addColumn table column =>
    simp [pieces, texts, haltering, column.contents_pieces, Placement.contents_pieces]
  | addForeignKey table key target => simp [pieces, texts, haltering, key.contents_pieces]
  | addCheck table check => simp [pieces, texts, haltering, check.contents_pieces]
  | dropIndex | dropPrimaryKey =>
    rw [pieces]
    split <;> rfl
  | _ => rfl

/-! ### Reading texts back -/

/-- The reader of a dialect gives back a text in quotes and stops at its end, except that in MySQL
backslashes have to stand in front of wildcards. -/
theorem Piece.readLiteral?_eq_some_iff {p : Piece} {content : String}
    (hcontent : p.content? = some content) (d : Dialect) {rest : List Char}
    (hrest : rest.head? ≠ some '\x27') :
    d.readLiteral? ((p.text d).toList ++ rest) = some (content, rest) ↔
      (d = .mysql → EscapesWildcards content.toList) := by
  rw [text_of_content? hcontent, toList_quoteLiteral, Dialect.readLiteral?,
    readEnclosed?_enclosed_iff]
  cases d with
  | mysql => exact (readQuoted?_double_iff hrest).trans (by simp)
  | postgresql | sqlite =>
    exact iff_of_true (readQuoted?_double (by decide) _ hrest) nofun

/-- The texts in quotes of a statement are those that its columns and its remarks have. In
PostgreSQL and SQLite each of them is read back, whatever stands in it, and in MySQL just if its
backslashes stand only in front of wildcards. -/
theorem Ddl.texts_are_read_back_iff (d : Dialect) (s : Ddl) :
    contents (s.pieces d) = s.texts d ∧
      ∀ p ∈ s.pieces d, ∀ content, p.content? = some content →
        ∀ rest : List Char, rest.head? ≠ some '\x27' →
          (d.readLiteral? ((p.text d).toList ++ rest) = some (content, rest) ↔
            (d = .mysql → EscapesWildcards content.toList)) :=
  ⟨s.contents_pieces d, fun _ _ _ hcontent _ hrest => readLiteral?_eq_some_iff hcontent d hrest⟩

/-- Adds a column whose default ends in a backslash. -/
def Ddl.addFolder : Ddl :=
  .addColumn "t" { name := "folder", kind := .string 255, default := some (.value (.string "a\\")) }

theorem Ddl.backslash_hides_end_of_literal :
    addFolder.text .mysql =
        "ALTER TABLE \x60t\x60 ADD COLUMN \x60folder\x60 VARCHAR(255) NOT NULL DEFAULT 'a\\'" ∧
      addFolder.texts .mysql = ["a\\"] ∧ ¬EscapesWildcards "a\\".toList ∧
      Piece.value (.string "a\\") ∈ addFolder.pieces .mysql ∧
      Dialect.mysql.readLiteral? ((Piece.value (.string "a\\")).text .mysql).toList ≠
        some ("a\\", []) := by
  have hbackslash : ¬EscapesWildcards "a\\".toList := by
    rintro (_ | ⟨-, _ | ⟨hc, -⟩⟩)
    exact hc rfl
  have hpiece : Piece.value (.string "a\\") ∈ addFolder.pieces .mysql := by
    simp [addFolder, pieces, Column.pieces, ColumnDefault.pieces]
  refine ⟨by decide +kernel, rfl, hbackslash, hpiece, fun hread => ?_⟩
  have hread' := (texts_are_read_back_iff .mysql addFolder).2 _ hpiece "a\\" rfl [] nofun
  rw [List.append_nil] at hread'
  exact hbackslash (hread'.1 hread rfl)

end SchemaMigration
