import SchemaMigration.Ddl.Compile
import SchemaMigration.Proofs.Ddl.Literal
import SchemaMigration.Proofs.Except

/-!
# Spaced statements

Pieces are spaced if no fragment is taken as it stands, no quote stands in the words of the
language, and words stand between any two quoted pieces. The skeleton of spaced pieces is found
piece by piece. For the dialects with double quotes, all statements of a blueprint without raw
fragments are spaced.
-/

namespace SchemaMigration

open Skeleton Text

namespace Piece

variable {d : Dialect} {behind : Bool} {words : String} {p : Piece} {xs ys : List Piece}

/-- The marks that are left of a piece. -/
def marks (d : Dialect) (p : Piece) : List Mark :=
  skeleton (p.text d).toList

/-- No fragment is taken as it stands, no quote stands in words, and words stand between quoted
pieces, also behind one that stands in front of the list. -/
def Spaced : Bool → List Piece → Prop
  | _, [] => True
  | _, raw _ :: _ => False
  | behind, code words :: rest => Bare words.toList ∧ Spaced (behind && words.isEmpty) rest
  | behind, name _ :: rest => behind = false ∧ Spaced true rest
  | behind, literal _ :: rest => behind = false ∧ Spaced true rest
  | behind, value _ :: rest => behind = false ∧ Spaced true rest

theorem Spaced.mono {before : Bool} (h : Spaced behind xs) (hle : before = true → behind = true) :
    Spaced before xs := by
  induction xs generalizing behind before with
  | nil => trivial
  | cons p xs ih =>
    cases p with
    | raw => exact h
    | code words =>
      refine ⟨h.1, ih h.2 fun hboth => ?_⟩
      rw [Bool.and_eq_true] at hboth ⊢
      exact ⟨hle hboth.1, hboth.2⟩
    | name | literal | value =>
      refine ⟨?_, h.2⟩
      rw [← Bool.not_eq_true]
      exact fun hbefore => nomatch (hle hbefore).symm.trans h.1

/-- What can stand behind something quoted can stand anywhere. -/
theorem Spaced.anywhere (h : Spaced true xs) : Spaced behind xs :=
  h.mono fun _ => rfl

theorem Spaced.append (hxs : Spaced behind xs) (hys : Spaced true ys) :
    Spaced behind (xs ++ ys) := by
  induction xs generalizing behind with
  | nil => exact hys.anywhere
  | cons p xs ih =>
    cases p with
    | raw => exact hxs
    | code | name | literal | value => exact ⟨hxs.1, ih hxs.2⟩

theorem spaced_code (h : Bare words.toList) : Spaced behind [code words] :=
  ⟨h, trivial⟩

theorem spaced_codeIf (h : Bare words.toList) (condition : Bool) :
    Spaced behind (codeIf condition words) := by
  cases condition with
  | true => exact spaced_code h
  | false => trivial

theorem spaced_separated {separator : String} {lists : List (List Piece)}
    (hbare : Bare separator.toList) (hne : separator.isEmpty = false)
    (h : ∀ pieces ∈ lists, Spaced false pieces) : Spaced false (separated separator lists) := by
  induction lists with
  | nil => trivial
  | cons pieces rest ih =>
    have hpieces := h pieces List.mem_cons_self
    have hrest := ih fun p hp => h p (List.mem_cons_of_mem pieces hp)
    cases rest with
    | nil => exact hpieces
    | cons next rest => exact hpieces.append ⟨hbare, hne ▸ hrest⟩

theorem spaced_names (identifiers : List String) : Spaced false (names identifiers) := by
  refine spaced_separated (by decide) (by decide) fun pieces hpieces => ?_
  obtain ⟨identifier, -, rfl⟩ := List.mem_map.1 hpieces
  exact ⟨rfl, trivial⟩

theorem spaced_literals (texts : List String) : Spaced false (literals texts) := by
  refine spaced_separated (by decide) (by decide) fun pieces hpieces => ?_
  obtain ⟨content, -, rfl⟩ := List.mem_map.1 hpieces
  exact ⟨rfl, trivial⟩

theorem toList_render_cons (p : Piece) (pieces : List Piece) :
    (render d (p :: pieces)).toList = (p.text d).toList ++ (render d pieces).toList := by
  simp [render]

/-- No quote stands at the start of what can stand behind something quoted. -/
theorem Spaced.apart (h : Spaced true xs) : Apart (render d xs).toList := by
  induction xs with
  | nil => exact nofun
  | cons p xs ih =>
    cases p with
    | raw => cases h
    | name | literal | value => cases h.1
    | code words =>
      obtain ⟨hbare, hrest⟩ := h
      rw [toList_render_cons, text]
      cases hwords : words.toList with
      | nil =>
        have hempty : words.isEmpty = true := by simpa using hwords
        exact ih (hempty ▸ hrest)
      | cons c cs =>
        rintro _ ⟨⟩
        exact hbare c (hwords ▸ List.mem_cons_self)

theorem Spaced.closes_text (hd : d ≠ .mysql) (h : Spaced behind (p :: xs)) :
    Closes (p.text d).toList := by
  cases p with
  | raw => cases h
  | code words => exact h.1.closes
  | name identifier => exact closes_quoted hd identifier
  | literal content => exact closes_quoteLiteral content
  | value v => exact closes_literal v

/-- The skeleton of spaced pieces is made of those of the pieces. -/
theorem Spaced.skeleton (hd : d ≠ .mysql) (h : Spaced behind xs) :
    SchemaMigration.skeleton (render d xs).toList = xs.flatMap (marks d) := by
  induction xs generalizing behind with
  | nil => rfl
  | cons p xs ih =>
    rw [toList_render_cons, List.flatMap_cons, marks]
    have hquoted (hxs : Spaced true xs) :
        SchemaMigration.skeleton ((p.text d).toList ++ (render d xs).toList) =
          SchemaMigration.skeleton (p.text d).toList ++ xs.flatMap (marks d) := by
      rw [(h.closes_text hd).append _ hxs.apart, ih hxs]
    cases p with
    | raw => cases h
    | code words => rw [text, h.1.skeleton_append, ih h.2, h.1.skeleton]
    | name | literal | value => exact hquoted h.2

/-- Spaced pieces quote nothing that does not end. -/
theorem Spaced.ended (hd : d ≠ .mysql) (h : Spaced behind xs) :
    .unterminated ∉ SchemaMigration.skeleton (render d xs).toList := by
  rw [h.skeleton hd]
  induction xs generalizing behind with
  | nil => exact nofun
  | cons p xs ih =>
    rw [List.flatMap_cons, List.mem_append, not_or]
    refine ⟨(h.closes_text hd).ended, ?_⟩
    cases p with
    | raw => cases h
    | code | name | literal | value => exact ih h.2

end Piece

/-! ### Types of columns -/

namespace ColumnKind

open Piece

variable {behind : Bool}

theorem bare_precisionText (precision : Option Nat) : Bare (precisionText precision).toList := by
  cases precision with
  | none => decide
  | some precision => exact bare_number precision (by decide) (by decide)

theorem bare_timezoneText (withTimezone : Bool) : Bare (timezoneText withTimezone).toList := by
  cases withTimezone <;> decide

theorem bare_sqlName (shape : Shape) : Bare shape.sqlName.toList := by
  cases shape <;> decide

theorem bare_spatialText {type : String} (htype : Bare type.toList) (shape : Shape)
    (srid : Option Nat) : Bare (spatialText type shape srid).toList := by
  have hopen : Bare (type ++ "(" ++ shape.sqlName).toList :=
    bare_text_append (bare_text_append htype (by decide)) (bare_sqlName shape)
  cases srid with
  | none => exact bare_text_append hopen (by decide)
  | some srid => exact bare_number srid (bare_text_append hopen (by decide)) (by decide)

theorem spaced_postgresql (column : String) (kind : ColumnKind) :
    Spaced true (kind.postgresql column) := by
  induction kind with
  | decimal precision scale =>
    refine spaced_code (bare_number scale (bare_number precision ?_ ?_) ?_) <;> decide
  | float precision =>
    cases precision with
    | none => exact spaced_code (by decide)
    | some precision => exact spaced_code (bare_number precision (by decide) (by decide))
  | char length | string length | bit length =>
    exact spaced_code (bare_number length (by decide) (by decide))
  | time precision zone | dateTime precision zone | timestamp precision zone =>
    refine spaced_code (bare_text_append (bare_text_append ?_ (bare_precisionText precision))
      (bare_timezoneText zone))
    decide
  | array element ih =>
    have hmark : Spaced true [code "[]"] := spaced_code (by decide)
    exact ih.append hmark
  | geometry shape srid | geography shape srid =>
    exact spaced_code (bare_spatialText (by decide) shape srid)
  | enum values =>
    have hclose : Spaced true [code "))"] := spaced_code (by decide)
    have hopen : Bare "VARCHAR(255) CHECK (".toList ∧ Bare " IN (".toList := by decide
    exact ⟨hopen.1, rfl, hopen.2, (spaced_literals values).append hclose⟩
  | _ => exact spaced_code (by decide)

theorem spaced_sqlite (kind : ColumnKind) : Spaced true kind.sqlite := by
  cases kind with
  | char length | string length => exact spaced_code (bare_number length (by decide) (by decide))
  | _ => exact spaced_code (by decide)

/-- The expression of a kind that is taken as it stands. -/
def rawFragments : ColumnKind → List String
  | computed expression => [expression]
  | _ => []

end ColumnKind

/-! ### Columns, keys and indexes -/

open Piece

variable {d : Dialect}

/-- The expression that generates a column. -/
def Generated.expression : Generated → String
  | stored expression => expression
  | virtual expression => expression

/-- The expression of a default that is taken as it stands. -/
def ColumnDefault.rawFragments : ColumnDefault → List String
  | expression text => [text]
  | _ => []

theorem ColumnDefault.spaced_pieces (d : Dialect) {default : ColumnDefault}
    (hraw : default.rawFragments = []) : Spaced false (default.pieces d) := by
  cases default with
  | expression text => cases hraw
  | currentTimestamp => cases d <;> simp +decide [pieces, Dialect.nowPieces, Spaced]
  | value v =>
    cases v with
    | bool b =>
      by_cases hd : d = .sqlite
      · cases b <;> simp +decide [pieces, hd, Spaced]
      · simp [pieces, hd, Spaced]
    | _ => exact ⟨rfl, trivial⟩

namespace Column

/-- What is taken as it stands in the definition of a column. -/
def rawFragments (c : Column) : List String :=
  c.kind.rawFragments ++ c.generated.toList.map Generated.expression
    ++ c.default.toList.flatMap ColumnDefault.rawFragments ++ c.charset.toList ++ c.collation.toList

theorem bare_serial {kind : ColumnKind} {serial : String} (h : kind.serial? = some serial) :
    Bare serial.toList := by
  cases kind <;> cases h <;> decide

theorem spaced_typePieces (hd : d ≠ .mysql) (c : Column) : Spaced true (c.typePieces d) := by
  cases d with
  | mysql => exact absurd rfl hd
  | sqlite => exact c.kind.spaced_sqlite
  | postgresql =>
    rw [typePieces]
    split
    · next serial hserial =>
      rw [Option.ite_none_right_eq_some] at hserial
      exact spaced_code (bare_serial hserial.2)
    · exact c.kind.spaced_postgresql c.name

theorem bare_numberingText (d : Dialect) (c : Column) : Bare (c.numberingText d).toList := by
  unfold numberingText
  split
  · split <;> decide
  · split <;> decide
  · decide

theorem generation_eq_none {c : Column} (hkind : c.kind.rawFragments = [])
    (hgenerated : c.generated = none) : c.generation = none := by
  rw [generation, hgenerated, Option.none_or]
  cases hc : c.kind with
  | computed expression =>
    rw [hc] at hkind
    cases hkind
  | _ => rfl

/-- The definition of a column without raw fragments is spaced. -/
theorem spaced_pieces (hd : d ≠ .mysql) {c : Column} (hraw : c.rawFragments = []) :
    Spaced false (c.pieces d) := by
  simp only [rawFragments, List.append_eq_nil_iff, Option.toList_eq_nil_iff, List.map_eq_nil_iff,
    List.flatMap_eq_nil_iff, Option.mem_toList] at hraw
  obtain ⟨⟨⟨⟨hkind, hgenerated⟩, hdefault⟩, -⟩, hcollation⟩ := hraw
  have hgeneration := generation_eq_none hkind hgenerated
  have hrequired : Spaced true [code (if c.required d then " NOT NULL" else " NULL")] := by
    refine spaced_code ?_
    split <;> decide
  have hupdate : Spaced true (codeIf (c.useCurrentOnUpdate && d == .mysql)
    " ON UPDATE CURRENT_TIMESTAMP") := spaced_codeIf (by decide) _
  have hprimary : Spaced true (codeIf c.primary " PRIMARY KEY") := spaced_codeIf (by decide) _
  have hnumbering : Spaced true [code (c.numberingText d)] := spaced_code (c.bare_numberingText d)
  have hunique : Spaced true (codeIf c.unique " UNIQUE") := spaced_codeIf (by decide) _
  have hinvisible : Spaced true (codeIf (c.invisible && d == .mysql) " INVISIBLE") :=
    spaced_codeIf (by decide) _
  -- What is left are modifiers that begin with a space, and the one that may be empty.
  simp only [pieces, hgeneration, hcollation, if_neg hd, optionalRaw, List.append_nil]
  refine ⟨rfl, by decide, Spaced.anywhere ?_⟩
  refine ((((((((c.spaced_typePieces hd).append hrequired).append ?_).append hupdate).append
    hprimary).append hnumbering).append hunique).append hinvisible)
  split
  · next default hc => exact ⟨by decide, ColumnDefault.spaced_pieces d (hdefault default hc)⟩
  · trivial

end Column

namespace ForeignKey

theorem spaced_actionPieces {words : String} (hwords : Bare words.toList)
    (action : Option ReferentialAction) : Spaced true (actionPieces words action) := by
  cases action with
  | none => trivial
  | some action =>
    have haction : Bare action.sqlName.toList := by cases action <;> decide
    exact spaced_code (bare_text_append hwords haction)

theorem spaced_pieces (d : Dialect) (k : ForeignKey) (target : String) :
    Spaced false (k.pieces d target) := by
  have hdelete : Spaced true (actionPieces " ON DELETE " k.onDelete) :=
    spaced_actionPieces (by decide) _
  have hupdate : Spaced true (actionPieces " ON UPDATE " k.onUpdate) :=
    spaced_actionPieces (by decide) _
  have hdeferrable : Spaced true (codeIf (k.deferrable && d != .mysql)
    " DEFERRABLE INITIALLY DEFERRED") := spaced_codeIf (by decide) _
  have hactions := (hdelete.append hupdate).append hdeferrable
  refine ⟨by decide, rfl, by decide, (spaced_names k.columns).append ?_⟩
  refine ⟨by decide, rfl, by decide, (spaced_names k.referencedColumns).append ?_⟩
  exact ⟨by decide, hactions.anywhere⟩

end ForeignKey

namespace Index

theorem spaced_heading (i : Index) (table : String) :
    Spaced false (i.heading i.kindText table) := by
  have hkind : Bare ("CREATE " ++ i.kindText ++ " ").toList := by
    rw [kindText]
    split <;> decide
  exact ⟨hkind, by simp, by decide, rfl, trivial⟩

theorem spaced_keyPieces (i : Index) : Spaced true i.keyPieces := by
  unfold keyPieces
  split
  · refine ⟨by decide, (spaced_separated (by decide) rfl fun pieces hpieces => ?_).append ?_⟩
    · obtain ⟨column, -, rfl⟩ := List.mem_map.1 hpieces
      exact ⟨by decide, rfl, by decide, rfl, by decide, trivial⟩
    · exact spaced_code (by decide)
  · exact ⟨by decide, (spaced_names i.columns).append (spaced_code (by decide))⟩

/-- The statement that creates an index of all rows is spaced. -/
theorem spaced_pieces (hd : d ≠ .mysql) (table : String) {i : Index} (hrows : i.predicate = none) :
    Spaced false (i.pieces d table) := by
  cases d with
  | mysql => exact absurd rfl hd
  | postgresql =>
    have hincluded : Spaced true (if i.included.isEmpty then []
        else code " INCLUDE (" :: (names i.included ++ [code ")"])) := by
      split
      · trivial
      · exact ⟨by decide, (spaced_names i.included).append (spaced_code (by decide))⟩
    rw [pieces, hrows, optionalRaw, List.append_nil]
    refine (((i.spaced_heading table).append ?_).append i.spaced_keyPieces).append hincluded
    split
    · next method _ => cases method <;> exact spaced_code (by decide)
    · trivial
  | sqlite =>
    rw [pieces, hrows, optionalRaw]
    refine (i.spaced_heading table).append ⟨by decide, (spaced_names i.columns).append ?_⟩
    exact spaced_code (by decide)

end Index

/-! ### Statements -/

/-- Everything made of foreign keys that say which table they refer to is made of a key and a
table. -/
theorem ForeignKey.exists_of_mem {α : Type} {f : ForeignKey → String → α} {keys : List ForeignKey}
    {made : List α} (h : keys.mapM (fun k => return f k (← k.target?)) = .ok made) :
    ∀ x ∈ made, ∃ k target, x = f k target := by
  intro x hx
  obtain ⟨k, -, hk⟩ := exists_of_mem_mapM h x hx
  obtain ⟨target, -, hmade⟩ := except_bind_eq_ok.1 hk
  exact ⟨k, target, (Except.ok.inj hmade).symm⟩

theorem Ddl.spaced_altering (table : String) {words : String} (hwords : Bare words.toList)
    (hne : words.isEmpty = false) {pieces : List Piece} (h : Spaced false pieces) :
    Spaced false (Ddl.altering table words ++ pieces) :=
  ⟨by decide, rfl, hwords, hne ▸ h⟩

namespace Blueprint

/-- What a blueprint has that is taken as it stands. -/
def rawFragments (b : Blueprint) : List String :=
  b.columns.flatMap Column.rawFragments ++ b.indexes.flatMap (fun i => i.predicate.toList)
    ++ b.checks.map (fun c => c.expression)

section Raw

variable {b : Blueprint}

theorem column_rawFragments (hraw : b.rawFragments = []) :
    ∀ c ∈ b.columns, c.rawFragments = [] := by
  rw [rawFragments, List.append_eq_nil_iff, List.append_eq_nil_iff] at hraw
  exact List.flatMap_eq_nil_iff.1 hraw.1.1

theorem index_predicate (hraw : b.rawFragments = []) : ∀ i ∈ b.indexes, i.predicate = none := by
  rw [rawFragments, List.append_eq_nil_iff, List.append_eq_nil_iff] at hraw
  exact fun i hi => Option.toList_eq_nil_iff.1 (List.flatMap_eq_nil_iff.1 hraw.1.2 i hi)

theorem checks_eq_nil (hraw : b.rawFragments = []) : b.checks = [] := by
  rw [rawFragments, List.append_eq_nil_iff] at hraw
  exact List.map_eq_nil_iff.1 hraw.2

end Raw

variable {b : Blueprint} {statements : List Ddl}

theorem spaced_columnIndexes (hd : d ≠ .mysql) (b : Blueprint) :
    ∀ s ∈ b.columnIndexes, Spaced false (s.pieces d) := by
  intro s hs
  obtain ⟨c, -, rfl⟩ := List.mem_map.1 hs
  exact Index.spaced_pieces hd b.table rfl

theorem spaced_indexStatements (hd : d ≠ .mysql) (hraw : b.rawFragments = []) :
    ∀ s ∈ b.indexStatements, Spaced false (s.pieces d) := by
  intro s hs
  obtain ⟨i, hi, rfl⟩ := List.mem_map.1 hs
  exact Index.spaced_pieces hd b.table (index_predicate hraw i hi)

theorem spaced_commentStatements (d : Dialect) (b : Blueprint) :
    ∀ s ∈ b.commentStatements, Spaced false (s.pieces d) := by
  intro s hs
  rcases List.mem_append.1 hs with hs | hs
  · obtain ⟨comment, -, rfl⟩ := List.mem_map.1 hs
    exact ⟨by decide, rfl, by decide, rfl, trivial⟩
  · obtain ⟨c, -, hs⟩ := List.mem_flatMap.1 hs
    obtain ⟨comment, -, rfl⟩ := List.mem_map.1 hs
    exact ⟨by decide, rfl, by decide, rfl, by decide, rfl, trivial⟩

theorem spaced_parts (hd : d ≠ .mysql) (hraw : b.rawFragments = []) {parts : List TablePart}
    (h : b.parts = .ok parts) : ∀ p ∈ parts, Spaced false (p.pieces d) := by
  rw [Blueprint.parts, except_bind_eq_ok] at h
  obtain ⟨keys, hkeys, h⟩ := h
  cases h
  intro p hp
  simp only [checks_eq_nil hraw, List.map_nil, List.append_nil, List.mem_append, List.mem_map] at hp
  rcases hp with (⟨c, hc, rfl⟩ | hp) | hp
  · exact Column.spaced_pieces hd (column_rawFragments hraw c hc)
  · split at hp
    · cases hp
    · obtain rfl := List.mem_singleton.1 hp
      exact ⟨by decide, (spaced_names b.primaryKey).append (spaced_code (by decide))⟩
  · obtain ⟨k, target, rfl⟩ := ForeignKey.exists_of_mem hkeys p hp
    exact ForeignKey.spaced_pieces d k target

/-- The statements that create the table of a blueprint without raw fragments are spaced. -/
theorem spaced_create (hd : d ≠ .mysql) (hraw : b.rawFragments = [])
    (h : b.create d = .ok statements) : ∀ s ∈ statements, Spaced false (s.pieces d) := by
  rw [create, except_bind_eq_ok] at h
  obtain ⟨parts, hparts, h⟩ := h
  cases h
  intro s hs
  rw [if_neg hd, List.mem_cons, List.mem_append, List.mem_append] at hs
  rcases hs with rfl | (hs | hs) | hs
  · have htable : Bare (if b.temporary then "CREATE TEMPORARY TABLE "
        else "CREATE TABLE ").toList := by split <;> decide
    have hparts : Spaced false (separated ",\n    " (parts.map (TablePart.pieces d))) := by
      refine spaced_separated (by decide) (by decide) fun pieces hpieces => ?_
      obtain ⟨p, hp, rfl⟩ := List.mem_map.1 hpieces
      exact spaced_parts hd hraw hparts p hp
    refine ⟨htable, by simp, by decide, hparts.append (spaced_code (by decide))⟩
  · exact spaced_columnIndexes hd b s hs
  · exact spaced_indexStatements hd hraw s hs
  · split at hs
    · exact spaced_commentStatements d b s hs
    · cases hs

/-- The statements that change the table of a blueprint without raw fragments are spaced. -/
theorem spaced_alter (hd : d ≠ .mysql) (hraw : b.rawFragments = [])
    (h : b.alter = .ok statements) : ∀ s ∈ statements, Spaced false (s.pieces d) := by
  have hname (identifier : String) : Spaced false [name identifier] := ⟨rfl, trivial⟩
  rw [alter, except_bind_eq_ok] at h
  obtain ⟨keys, hkeys, h⟩ := h
  cases h
  intro s hs
  simp only [checks_eq_nil hraw, List.map_nil, List.append_nil, List.mem_append] at hs
  rcases hs with (((((((hadded | hindexed) | hrenamed) | hdropped) | hkey) | hindex) | hprimary) |
    hadding) | hs
  · obtain ⟨c, hc, rfl⟩ := List.mem_map.1 hadded
    have hcolumn := Column.spaced_pieces hd (column_rawFragments hraw c hc)
    have hplacement : Placement.pieces d c.placement = [] := if_neg hd
    rw [Ddl.pieces, hplacement, List.append_nil]
    exact Ddl.spaced_altering b.table (by decide) rfl hcolumn
  · exact spaced_columnIndexes hd b s hindexed
  · obtain ⟨⟨old, new⟩, -, rfl⟩ := List.mem_map.1 hrenamed
    exact Ddl.spaced_altering b.table (by decide) rfl ⟨rfl, by decide, rfl, trivial⟩
  · obtain ⟨column, -, rfl⟩ := List.mem_map.1 hdropped
    exact Ddl.spaced_altering b.table (by decide) rfl (hname column)
  · obtain ⟨key, -, rfl⟩ := List.mem_map.1 hkey
    rw [Ddl.pieces, if_neg hd]
    exact Ddl.spaced_altering b.table (by decide) rfl (hname key)
  · obtain ⟨index, -, rfl⟩ := List.mem_map.1 hindex
    rw [Ddl.pieces, if_neg hd]
    exact ⟨by decide, rfl, trivial⟩
  · split at hprimary
    · obtain rfl := List.mem_singleton.1 hprimary
      rw [Ddl.pieces, if_neg hd]
      exact Ddl.spaced_altering b.table (by decide) rfl (hname _)
    · cases hprimary
  · obtain ⟨k, target, rfl⟩ := ForeignKey.exists_of_mem hkeys s hadding
    exact Ddl.spaced_altering b.table (by decide) rfl (ForeignKey.spaced_pieces d k target)
  · exact spaced_indexStatements hd hraw s hs

end Blueprint

end SchemaMigration
