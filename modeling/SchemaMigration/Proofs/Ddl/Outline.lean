import SchemaMigration.Proofs.Ddl.Spacing

/-!
# Outlines of blueprints

The outline of a blueprint is the blueprint with every text that a statement quotes made empty:
names, remarks, the texts of enumerations and sets, and defaults that are texts, JSON trees or
lists. All else is kept, so that two blueprints with one outline have lists of the same lengths, the
same flags and the same optional parts. For the dialects with double quotes, the skeletons of all
statements are determined by the outline.
-/

namespace SchemaMigration

open Skeleton Text

/-! ### Outlines -/

/-- What is left of a text that is quoted. -/
def blank (_ : String) : String :=
  ""

/-- The value without the texts in it. -/
def Value.outline : Value → Value
  | string _ => string ""
  | json _ => json .null
  | array _ => array []
  | v => v

/-- The kind without the texts that it allows. -/
def ColumnKind.outline : ColumnKind → ColumnKind
  | enum values => enum (values.map blank)
  | set values => set (values.map blank)
  | array element => array element.outline
  | kind => kind

/-- The default without the texts in its value. -/
def ColumnDefault.outline : ColumnDefault → ColumnDefault
  | value v => value v.outline
  | default => default

/-- The placement without the name of a column. -/
def Placement.outline : Placement → Placement
  | first => first
  | after _ => after ""

/-- The column without names, remarks and texts in values. -/
def Column.outline (c : Column) : Column :=
  { c with
    name := ""
    kind := c.kind.outline
    default := c.default.map ColumnDefault.outline
    comment := c.comment.map blank
    placement := c.placement.map Placement.outline }

/-- The index without names. -/
def Index.outline (i : Index) : Index :=
  { i with
    columns := i.columns.map blank
    name := i.name.map blank
    included := i.included.map blank }

/-- The foreign key without names. -/
def ForeignKey.outline (k : ForeignKey) : ForeignKey :=
  { k with
    table := ""
    columns := k.columns.map blank
    references := k.references.map blank
    target := k.target.map blank
    name := k.name.map blank }

/-- The check without names. -/
def Check.outline (c : Check) : Check :=
  { c with table := "", name := c.name.map blank }

/-- The blueprint without names, remarks and texts in values. -/
def Blueprint.outline (b : Blueprint) : Blueprint where
  table := ""
  columns := b.columns.map Column.outline
  indexes := b.indexes.map Index.outline
  foreignKeys := b.foreignKeys.map ForeignKey.outline
  checks := b.checks.map Check.outline
  primaryKey := b.primaryKey.map blank
  droppedColumns := b.droppedColumns.map blank
  renamedColumns := b.renamedColumns.map (fun (old, new) => (blank old, blank new))
  droppedIndexes := b.droppedIndexes.map blank
  droppedForeignKeys := b.droppedForeignKeys.map blank
  dropsPrimary := b.dropsPrimary
  comment := b.comment.map blank
  temporary := b.temporary

/-- The part of a table without names, remarks and texts in values. -/
def TablePart.outline : TablePart → TablePart
  | column c => column c.outline
  | primaryKey columns => primaryKey (columns.map blank)
  | foreignKey k _ => foreignKey k.outline ""
  | check c => check c.outline

/-- The statement without names, remarks and texts in values. -/
def Ddl.outline : Ddl → Ddl
  | createTable temporary _ parts comment =>
    createTable temporary "" (parts.map TablePart.outline) (comment.map blank)
  | dropTable _ ifExists => dropTable "" ifExists
  | createIndex _ index => createIndex "" index.outline
  | commentOnTable _ _ => commentOnTable "" ""
  | commentOnColumn _ _ _ => commentOnColumn "" "" ""
  | addColumn _ column => addColumn "" column.outline
  | renameColumn _ _ _ => renameColumn "" "" ""
  | dropColumn _ _ => dropColumn "" ""
  | dropForeignKey _ _ => dropForeignKey "" ""
  | dropIndex _ _ => dropIndex "" ""
  | dropPrimaryKey _ => dropPrimaryKey ""
  | addForeignKey _ key _ => addForeignKey "" key.outline ""
  | addCheck _ check => addCheck "" check.outline

/-- The piece without what it quotes. -/
def Piece.outline : Piece → Piece
  | name _ => name ""
  | literal _ => literal ""
  | value v => value v.outline
  | code words => code words
  | raw fragment => raw fragment

/-! ### Outlines of pieces -/

variable {d : Dialect}

theorem Value.skeleton_outline (v : Value) :
    skeleton v.outline.literal.toList = skeleton v.literal.toList := by
  cases v with
  | string | json | array =>
    exact (skeleton_quoteLiteral _).trans (skeleton_quoteLiteral _).symm
  | _ => rfl

namespace Piece

/-- What is quoted does not show in the marks of a piece. -/
theorem marks_outline (hd : d ≠ .mysql) (p : Piece) : p.outline.marks d = p.marks d := by
  cases p with
  | code | raw => rfl
  | name => exact (skeleton_quoted hd _).trans (skeleton_quoted hd _).symm
  | literal => exact (skeleton_quoteLiteral _).trans (skeleton_quoteLiteral _).symm
  | value v => exact v.skeleton_outline

theorem outline_separated (separator : String) (lists : List (List Piece)) :
    (separated separator lists).map outline =
      separated separator (lists.map (List.map outline)) := by
  induction lists with
  | nil => rfl
  | cons pieces rest ih =>
    cases rest with
    | nil => rfl
    | cons next rest =>
      simp only [separated, List.map_append, List.map_cons, outline] at ih ⊢
      rw [ih]

theorem outline_names (identifiers : List String) :
    (names (identifiers.map blank)).map outline = (names identifiers).map outline := by
  simp only [names, outline_separated, List.map_map]
  rfl

theorem outline_literals (texts : List String) :
    (literals (texts.map blank)).map outline = (literals texts).map outline := by
  simp only [literals, outline_separated, List.map_map]
  rfl

theorem outline_remark (words : String) (content : Option String) :
    (remark words (content.map blank)).map outline = (remark words content).map outline := by
  cases content <;> rfl

end Piece

/-! ### Outlines of definitions -/

open Piece

namespace ColumnKind

theorem outline_postgresql (kind : ColumnKind) (column : String) :
    (kind.outline.postgresql "").map Piece.outline =
      (kind.postgresql column).map Piece.outline := by
  induction kind with
  | array element ih =>
    simp only [outline, postgresql, List.map_append, ih]
  | enum values =>
    simp only [outline, postgresql, List.map_append, List.map_cons, outline_literals, Piece.outline]
  | float precision => cases precision <;> rfl
  | _ => rfl

theorem outline_sqlite (kind : ColumnKind) : kind.outline.sqlite = kind.sqlite := by
  cases kind <;> rfl

theorem serial?_outline (kind : ColumnKind) : kind.outline.serial? = kind.serial? := by
  cases kind <;> rfl

end ColumnKind

theorem ColumnDefault.outline_pieces (d : Dialect) (default : ColumnDefault) :
    (default.outline.pieces d).map Piece.outline = (default.pieces d).map Piece.outline := by
  cases default with
  | expression | currentTimestamp => rfl
  | value v => cases v <;> rfl

namespace Column

theorem generation_outline (c : Column) : c.outline.generation = c.generation := by
  unfold generation
  cases hkind : c.kind <;> simp [outline, hkind, ColumnKind.outline]

theorem outline_typePieces (hd : d ≠ .mysql) (c : Column) :
    (c.outline.typePieces d).map Piece.outline = (c.typePieces d).map Piece.outline := by
  cases d with
  | mysql => exact absurd rfl hd
  | sqlite => exact congrArg _ c.kind.outline_sqlite
  | postgresql =>
    have hserial : c.outline.kind.serial? = c.kind.serial? := c.kind.serial?_outline
    have hnumbers : c.outline.autoIncrement = c.autoIncrement := rfl
    simp only [typePieces, hserial, hnumbers]
    cases (if c.autoIncrement then c.kind.serial? else none) with
    | some serial => rfl
    | none => exact c.kind.outline_postgresql c.name

theorem outline_pieces (hd : d ≠ .mysql) (c : Column) :
    (c.outline.pieces d).map Piece.outline = (c.pieces d).map Piece.outline := by
  have hdefault : c.outline.default = c.default.map ColumnDefault.outline := rfl
  simp only [pieces, if_neg hd, List.map_append, List.map_cons, outline_typePieces hd,
    generation_outline, hdefault]
  cases c.default with
  | none => rfl
  | some default =>
    simp only [Option.map_some, List.map_cons, ColumnDefault.outline_pieces]
    rfl

end Column

namespace ForeignKey

theorem referencedColumns_outline (k : ForeignKey) :
    (names k.outline.referencedColumns).map Piece.outline =
      (names k.referencedColumns).map Piece.outline := by
  rw [outline, referencedColumns, referencedColumns]
  cases k.references with
  | nil => rfl
  | cons => exact outline_names _

theorem outline_pieces (d : Dialect) (k : ForeignKey) (target : String) :
    (k.outline.pieces d "").map Piece.outline = (k.pieces d target).map Piece.outline := by
  have hcolumns :
      (names k.outline.columns).map Piece.outline = (names k.columns).map Piece.outline :=
    outline_names k.columns
  simp only [pieces, List.map_cons, List.map_append, referencedColumns_outline, hcolumns]
  rfl

end ForeignKey

theorem Check.outline_pieces (c : Check) :
    c.outline.pieces.map Piece.outline = c.pieces.map Piece.outline := by
  cases c with
  | mk table expression name => cases name <;> rfl

namespace Index

/-- The expression for the words in a column. -/
theorem outline_words (columns : List String) :
    (separated " || " ((columns.map blank).map (fun column =>
      [code "to_tsvector(", .literal "english", code ", ", .name column, code ")"]))).map
        Piece.outline =
    (separated " || " (columns.map (fun column =>
      [code "to_tsvector(", .literal "english", code ", ", .name column, code ")"]))).map
        Piece.outline := by
  simp only [outline_separated, List.map_map]
  rfl

theorem outline_keyPieces (i : Index) :
    i.outline.keyPieces.map Piece.outline = i.keyPieces.map Piece.outline := by
  have hmethod : i.outline.method = i.method := rfl
  have hcolumns : i.outline.columns = i.columns.map blank := rfl
  rw [keyPieces, keyPieces, hmethod, hcolumns]
  split
  · simp only [List.map_cons, List.map_append, outline_words]
  · simp only [List.map_cons, List.map_append, outline_names]

theorem outline_pieces (d : Dialect) (i : Index) (table : String) :
    (i.outline.pieces d "").map Piece.outline = (i.pieces d table).map Piece.outline := by
  have hcolumns : i.outline.columns = i.columns.map blank := rfl
  have hincluded : i.outline.included = i.included.map blank := rfl
  have hmethod : i.outline.method = i.method := rfl
  cases d with
  | mysql | sqlite =>
    simp only [pieces, List.map_cons, List.map_append, hcolumns, outline_names]
    rfl
  | postgresql =>
    simp only [pieces, List.map_append, outline_keyPieces, hmethod, hincluded, List.isEmpty_map]
    congr 2
    split
    · rfl
    · simp only [List.map_cons, List.map_append, outline_names]

end Index

theorem TablePart.outline_pieces (hd : d ≠ .mysql) (p : TablePart) :
    (p.outline.pieces d).map Piece.outline = (p.pieces d).map Piece.outline := by
  cases p with
  | column c => exact c.outline_pieces hd
  | foreignKey k target => exact k.outline_pieces d target
  | check c => exact c.outline_pieces
  | primaryKey columns =>
    simp only [outline, pieces, List.map_cons, List.map_append, outline_names]

/-- A statement and its outline quote something in the same places. -/
theorem Ddl.outline_pieces (hd : d ≠ .mysql) (s : Ddl) :
    (s.outline.pieces d).map Piece.outline = (s.pieces d).map Piece.outline := by
  cases s with
  | createTable temporary table parts comment =>
    have hparts : parts.map (List.map Piece.outline ∘ TablePart.pieces d ∘ TablePart.outline) =
        parts.map (List.map Piece.outline ∘ TablePart.pieces d) :=
      List.map_congr_left fun p _ => p.outline_pieces hd
    simp only [outline, pieces, List.map_cons, List.map_append, outline_separated, List.map_map,
      outline_remark, hparts]
    rfl
  | createIndex table index => exact index.outline_pieces d table
  | addColumn table column =>
    have hplacement (placement : Option Placement) : Placement.pieces d placement = [] := if_neg hd
    simp only [outline, pieces, List.map_append, column.outline_pieces hd, hplacement]
    rfl
  | addForeignKey table key target =>
    simp only [outline, pieces, List.map_append, key.outline_pieces d target]
    rfl
  | addCheck table check =>
    simp only [outline, pieces, List.map_append, check.outline_pieces]
    rfl
  | dropForeignKey | dropIndex | dropPrimaryKey =>
    simp only [outline, pieces, if_neg hd]
    rfl
  | _ => rfl

/-- What a statement quotes does not show in the marks of its pieces. -/
theorem Ddl.marks_outline (hd : d ≠ .mysql) (s : Ddl) :
    (s.outline.pieces d).flatMap (marks d) = (s.pieces d).flatMap (marks d) := by
  have hmarks (pieces : List Piece) :
      (pieces.map Piece.outline).flatMap (marks d) = pieces.flatMap (marks d) := by
    simp only [List.flatMap_map, Piece.marks_outline hd]
  rw [← hmarks, s.outline_pieces hd, hmarks]

/-! ### Outlines of the statements of a blueprint -/

/-- A key and its outline agree on whether they say which table they refer to. The errors differ,
as they name the table and the columns of the key. -/
theorem ForeignKey.target?_outline (k : ForeignKey) :
    k.outline.target?.toOption = k.target?.toOption.map blank := by
  rw [target?, target?, outline]
  cases k.target <;> rfl

theorem ForeignKey.mapM_outline {α : Type} {f g : ForeignKey → String → α} {erase : α → α}
    (herase : ∀ k target, g k.outline "" = erase (f k target)) (keys : List ForeignKey) :
    ((keys.map outline).mapM fun (k : ForeignKey) => return g k (← k.target?)).toOption =
      (keys.mapM fun (k : ForeignKey) => return f k (← k.target?)).toOption.map
        (List.map erase) := by
  refine toOption_mapM_map (fun k => ?_) keys
  rw [toOption_bind_pure, toOption_bind_pure, target?_outline, Option.map_map, Option.map_map]
  exact congrArg (Option.map · _) (funext (herase k))

namespace Blueprint

theorem columnIndexes_outline (b : Blueprint) :
    b.outline.columnIndexes = b.columnIndexes.map Ddl.outline := by
  simp only [columnIndexes, outline, List.filter_map, List.map_map]
  rfl

theorem indexStatements_outline (b : Blueprint) :
    b.outline.indexStatements = b.indexStatements.map Ddl.outline := by
  simp only [indexStatements, outline, List.map_map]
  rfl

theorem commentStatements_outline (b : Blueprint) :
    b.outline.commentStatements = b.commentStatements.map Ddl.outline := by
  have htable : b.outline.comment.toList = b.comment.toList.map blank := by
    rw [outline]
    cases b.comment <;> rfl
  have hcolumn (c : Column) : c.outline.comment.toList = c.comment.toList.map blank := by
    rw [Column.outline]
    cases c.comment <;> rfl
  have hcolumns : b.outline.columns = b.columns.map Column.outline := rfl
  simp only [commentStatements, htable, hcolumns, List.flatMap_map, hcolumn, List.map_map,
    List.map_append, List.map_flatMap]
  rfl

theorem parts_outline (b : Blueprint) :
    b.outline.parts.toOption = b.parts.toOption.map (List.map TablePart.outline) := by
  have herase (k : ForeignKey) (target : String) :
      TablePart.foreignKey k.outline "" = (TablePart.foreignKey k target).outline := rfl
  have hkeys := ForeignKey.mapM_outline herase b.foreignKeys
  have hforeign : b.outline.foreignKeys = b.foreignKeys.map ForeignKey.outline := rfl
  rw [parts, parts, hforeign, toOption_bind_pure, toOption_bind_pure, hkeys, Option.map_map,
    Option.map_map]
  congr 1
  funext keys
  simp only [outline, Function.comp, List.map_append, List.map_map, List.isEmpty_map]
  cases b.primaryKey <;> rfl

theorem create_outline (d : Dialect) (b : Blueprint) :
    (b.outline.create d).toOption = (b.create d).toOption.map (List.map Ddl.outline) := by
  rw [create, create, toOption_bind_pure, toOption_bind_pure, parts_outline, Option.map_map,
    Option.map_map]
  congr 1
  funext parts
  simp only [Function.comp, List.map_cons, List.map_append, columnIndexes_outline,
    indexStatements_outline, commentStatements_outline]
  cases d <;> rfl

theorem alter_outline (b : Blueprint) :
    b.outline.alter.toOption = b.alter.toOption.map (List.map Ddl.outline) := by
  have herase (k : ForeignKey) (target : String) :
      Ddl.addForeignKey "" k.outline "" = (Ddl.addForeignKey b.table k target).outline := rfl
  have hkeys := ForeignKey.mapM_outline herase b.foreignKeys
  have hforeign : b.outline.foreignKeys = b.foreignKeys.map ForeignKey.outline := rfl
  have htable : b.outline.table = "" := rfl
  rw [alter, alter, hforeign, htable, toOption_bind_pure, toOption_bind_pure, hkeys, Option.map_map,
    Option.map_map]
  congr 1
  funext keys
  simp only [Function.comp, List.map_append, columnIndexes_outline, indexStatements_outline]
  have hprimary : (if b.outline.dropsPrimary then [Ddl.dropPrimaryKey ""] else []) =
      (if b.dropsPrimary then [Ddl.dropPrimaryKey b.table] else []).map Ddl.outline := by
    rw [outline]
    split <;> rfl
  rw [hprimary]
  simp only [outline, List.map_map]
  rfl

end Blueprint

/-! ### Skeletons of the statements of a blueprint -/

/-- The skeletons of the statements that a blueprint is compiled to, if it is compiled. -/
def Ddl.skeletons (d : Dialect) (compiled : Except Error (List Ddl)) : Option (List (List Mark)) :=
  compiled.toOption.map (List.map fun s => skeleton (s.text d).toList)

/-- The skeletons of spaced statements are those of their outlines. -/
theorem Ddl.skeletons_eq (hd : d ≠ .mysql) {compiled : Except Error (List Ddl)}
    (h : ∀ statements, compiled = .ok statements → ∀ s ∈ statements, Spaced false (s.pieces d)) :
    skeletons d compiled = (compiled.toOption.map (List.map Ddl.outline)).map
      (List.map fun s => (s.pieces d).flatMap (marks d)) := by
  cases compiled with
  | error e => rfl
  | ok statements =>
    change some _ = some _
    rw [List.map_map, Option.some_inj]
    refine List.map_congr_left fun s hs => ?_
    rw [Function.comp, s.marks_outline hd]
    exact (h statements rfl s hs).skeleton hd

namespace Blueprint

/-- For the dialects with double quotes, what is quoted in the statements of a blueprint without raw
fragments does not show in their skeletons: two blueprints with one outline either both fail or are
compiled to statements with the same skeletons in the same order, both for creating the table and
for changing it. Whatever is quoted ends. -/
theorem skeletons_eq_of_outline_eq (hd : d ≠ .mysql) {b b' : Blueprint}
    (houtline : b.outline = b'.outline) (hraw : b.rawFragments = [])
    (hraw' : b'.rawFragments = []) :
    Ddl.skeletons d (b.create d) = Ddl.skeletons d (b'.create d) ∧
      Ddl.skeletons d b.alter = Ddl.skeletons d b'.alter ∧
      ∀ statements, b.create d = .ok statements ∨ b.alter = .ok statements →
        ∀ s ∈ statements, .unterminated ∉ skeleton (s.text d).toList := by
  refine ⟨?_, ?_, ?_⟩
  · rw [Ddl.skeletons_eq hd fun _ => spaced_create hd hraw,
      Ddl.skeletons_eq hd fun _ => spaced_create hd hraw', ← create_outline, ← create_outline,
      houtline]
  · rw [Ddl.skeletons_eq hd fun _ => spaced_alter hd hraw,
      Ddl.skeletons_eq hd fun _ => spaced_alter hd hraw', ← alter_outline, ← alter_outline,
      houtline]
  · rintro statements (hcreate | halter) s hs
    · exact (spaced_create hd hraw hcreate s hs).ended hd
    · exact (spaced_alter hd hraw halter s hs).ended hd

/-- A table of accounts with a column that allows two texts, an index and a key to itself. -/
def accounts (table column role remark : String) : Blueprint where
  table
  columns := [
    { name := "id", kind := .bigInteger, primary := true, autoIncrement := true },
    { name := column, kind := .enum [role, "guest"], default := some (.value (.string role)),
      index := true, comment := some remark }]
  foreignKeys := [{ table, columns := [column], target := some table }]
  droppedIndexes := [column]
  comment := some remark

theorem quotes_in_accounts_do_not_show :
    let plain := accounts "accounts" "role" "admin" "all accounts"
    let quotes := accounts "\"; DROP TABLE a; --" "a\"\"'" "'); --" "''' \""
    plain.outline = quotes.outline ∧ plain.rawFragments = [] ∧ quotes.rawFragments = [] ∧
      (plain.create .postgresql).toOption.isSome ∧ plain.alter.toOption.isSome ∧
      Ddl.skeletons .postgresql (plain.create .postgresql) =
        Ddl.skeletons .postgresql (quotes.create .postgresql) ∧
      Ddl.skeletons .postgresql plain.alter = Ddl.skeletons .postgresql quotes.alter ∧
      ∀ statements, plain.create .postgresql = .ok statements ∨ plain.alter = .ok statements →
        ∀ s ∈ statements, .unterminated ∉ skeleton (s.text .postgresql).toList :=
  ⟨rfl, rfl, rfl, rfl, rfl, skeletons_eq_of_outline_eq (by decide) rfl rfl rfl⟩

end Blueprint

end SchemaMigration
