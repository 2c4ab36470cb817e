import Mathlib.Logic.Basic
import SchemaMigration.Ddl.Compile
import SchemaMigration.Proofs.Except

/-!
# What statements give to a table

A blueprint declares columns, keys, indexes, checks and remarks. The statements that create its
table give all of them to the table. Those that change the table are compiled by themselves, and
give it no primary key, no remark on the table and, in PostgreSQL, no remarks on columns.
-/

namespace SchemaMigration

/-! ### Provisions -/

/-- Something that a statement gives to a table. -/
inductive Provision where
  /-- A column, the primary key, a foreign key or a check. -/
  | part (p : TablePart)
  /-- An index. -/
  | index (i : Index)
  /-- A remark on the table. -/
  | tableRemark (content : String)
  /-- A remark on a column. -/
  | columnRemark (column content : String)

namespace Provision

/-- How something is written in a statement. MySQL has remarks in definitions. -/
def pieces (d : Dialect) (table : String) : Provision → List Piece
  | part p => p.pieces d
  | index i => i.pieces d table
  | tableRemark content =>
    if d = .mysql then [.code " COMMENT = ", .literal content]
    else [.code "COMMENT ON TABLE ", .name table, .code " IS ", .literal content]
  | columnRemark column content =>
    if d = .mysql then [.code " COMMENT ", .literal content]
    else [.code "COMMENT ON COLUMN ", .name table, .code ".", .name column, .code " IS ",
      .literal content]

/-- Whether something is left out when a table is changed. -/
def IsLost (d : Dialect) : Provision → Prop
  | part (.primaryKey _) => True
  | tableRemark _ => True
  | columnRemark _ _ => d = .postgresql
  | _ => False

end Provision

/-- A statement gives something to a table. -/
inductive Ddl.Provides (table : String) : Dialect → Ddl → Provision → Prop where
  /-- A new table has its parts. -/
  | part {d : Dialect} {temporary : Bool} {parts : List TablePart} {comment : Option String}
      {p : TablePart} (hp : p ∈ parts) :
      Provides table d (.createTable temporary table parts comment) (.part p)
  /-- In MySQL a new table has its remark. -/
  | remark {temporary : Bool} {parts : List TablePart} {comment : Option String} {content : String}
      (hcomment : comment = some content) :
      Provides table .mysql (.createTable temporary table parts comment) (.tableRemark content)
  /-- In MySQL the columns of a new table have their remarks. -/
  | partRemark {temporary : Bool} {parts : List TablePart} {comment : Option String} {c : Column}
      {content : String} (hc : .column c ∈ parts) (hcontent : c.comment = some content) :
      Provides table .mysql (.createTable temporary table parts comment)
        (.columnRemark c.name content)
  /-- An index is created. -/
  | index {d : Dialect} {i : Index} : Provides table d (.createIndex table i) (.index i)
  /-- In PostgreSQL the remark on a table is set. -/
  | commentOnTable {content : String} :
      Provides table .postgresql (.commentOnTable table content) (.tableRemark content)
  /-- In PostgreSQL the remark on a column is set. -/
  | commentOnColumn {column content : String} :
      Provides table .postgresql (.commentOnColumn table column content)
        (.columnRemark column content)
  /-- A column is added. -/
  | column {d : Dialect} {c : Column} : Provides table d (.addColumn table c) (.part (.column c))
  /-- In MySQL a column is added with its remark. -/
  | columnRemark {c : Column} {content : String} (hcontent : c.comment = some content) :
      Provides table .mysql (.addColumn table c) (.columnRemark c.name content)
  /-- A foreign key is added. -/
  | foreignKey {d : Dialect} {k : ForeignKey} {target : String} :
      Provides table d (.addForeignKey table k target) (.part (.foreignKey k target))
  /-- A check is added. -/
  | check {d : Dialect} {c : Check} : Provides table d (.addCheck table c) (.part (.check c))

/-- A blueprint declares something for its table. SQLite has no remarks. -/
def Blueprint.Declares (b : Blueprint) (d : Dialect) : Provision → Prop
  | .part (.column c) => c ∈ b.columns
  | .part (.primaryKey columns) => columns = b.primaryKey ∧ columns ≠ []
  | .part (.foreignKey k target) => k ∈ b.foreignKeys ∧ k.target = some target
  | .part (.check c) => c ∈ b.checks
  | .index i => i ∈ b.indexes ∨ ∃ c ∈ b.columns, c.index = true ∧ i = { columns := [c.name] }
  | .tableRemark content => d ≠ .sqlite ∧ b.comment = some content
  | .columnRemark column content =>
    d ≠ .sqlite ∧ ∃ c ∈ b.columns, c.name = column ∧ c.comment = some content

namespace Ddl

variable {d : Dialect} {table : String} {s : Ddl} {p : Provision}

theorem infix_separated (separator : String) {pieces : List Piece} {lists : List (List Piece)}
    (h : pieces ∈ lists) : pieces <:+: Piece.separated separator lists := by
  induction lists with
  | nil => cases h
  | cons first rest ih =>
    cases rest with
    | nil =>
      obtain rfl := List.mem_singleton.1 h
      exact List.infix_rfl
    | cons next rest =>
      rw [Piece.separated_cons_cons]
      rcases List.mem_cons.1 h with rfl | h
      · exact (List.prefix_append _ _).isInfix
      · exact (ih h).trans ((List.suffix_cons _ _).trans (List.suffix_append _ _)).isInfix

theorem infix_column_pieces {c : Column} {content : String} (h : c.comment = some content) :
    (Provision.columnRemark c.name content).pieces .mysql table <:+: c.pieces .mysql := by
  have hremark : (if Dialect.mysql = .mysql then Piece.remark " COMMENT " c.comment else []) =
      (Provision.columnRemark c.name content).pieces .mysql table := by
    rw [if_pos rfl, h]
    rfl
  rw [Column.pieces, hremark]
  exact ((List.suffix_append _ _).trans
    ((List.suffix_cons _ _).trans (List.suffix_cons _ _))).isInfix

theorem infix_createTable (temporary : Bool) (comment : Option String) {parts : List TablePart}
    {q : TablePart} (hq : q ∈ parts) :
    q.pieces d <:+: (createTable temporary table parts comment).pieces d := by
  have hparts := infix_separated ",\n    " (List.mem_map_of_mem (f := TablePart.pieces d) hq)
  refine hparts.trans ⟨[.code (if temporary then "CREATE TEMPORARY TABLE " else "CREATE TABLE "),
    .name table, .code " (\n    "], .code "\n)" :: Piece.remark " COMMENT = " comment, ?_⟩
  simp [pieces]

/-- What a statement gives to a table is written in it. -/
theorem Provides.infix_pieces (h : s.Provides table d p) :
    p.pieces d table <:+: s.pieces d := by
  have haltering (words : String) (written : List Piece) :
      written <:+: altering table words ++ written := (List.suffix_append _ _).isInfix
  cases h with
  | part hp => exact infix_createTable _ _ hp
  | @remark temporary parts comment content hcomment =>
    subst hcomment
    exact ⟨(createTable temporary table parts none).pieces .mysql, [],
      by simp [pieces, Provision.pieces, Piece.remark]⟩
  | partRemark hc hcontent =>
    exact (infix_column_pieces hcontent).trans (infix_createTable _ _ hc)
  | index | commentOnTable | commentOnColumn => exact List.infix_rfl
  | column => exact (haltering _ _).trans (List.prefix_append _ _).isInfix
  | columnRemark hcontent =>
    exact (infix_column_pieces hcontent).trans
      ((haltering _ _).trans (List.prefix_append _ _).isInfix)
  | foreignKey | check => exact haltering _ _

/-! ### What one statement gives -/

theorem provides_createTable_iff {temporary : Bool} {parts : List TablePart}
    {comment : Option String} : (createTable temporary table parts comment).Provides table d p ↔
      (∃ q ∈ parts, p = .part q) ∨
      (d = .mysql ∧ ∃ content, comment = some content ∧ p = .tableRemark content) ∨
      d = .mysql ∧ ∃ c, .column c ∈ parts ∧
        ∃ content, c.comment = some content ∧ p = .columnRemark c.name content := by
  constructor
  · intro hp
    cases hp with
    | part hq => exact .inl ⟨_, hq, rfl⟩
    | remark hcomment => exact .inr (.inl ⟨rfl, _, hcomment, rfl⟩)
    | partRemark hc hcontent => exact .inr (.inr ⟨rfl, _, hc, _, hcontent, rfl⟩)
  · rintro (⟨q, hq, rfl⟩ | ⟨rfl, content, hcomment, rfl⟩ | ⟨rfl, c, hc, content, hcontent, rfl⟩)
    · exact .part hq
    · exact .remark hcomment
    · exact .partRemark hc hcontent

theorem provides_addColumn_iff {c : Column} : (addColumn table c).Provides table d p ↔
    p = .part (.column c) ∨
      d = .mysql ∧ ∃ content, c.comment = some content ∧ p = .columnRemark c.name content := by
  constructor
  · intro hp
    cases hp with
    | column => exact .inl rfl
    | columnRemark hcontent => exact .inr ⟨rfl, _, hcontent, rfl⟩
  · rintro (rfl | ⟨rfl, content, hcontent, rfl⟩)
    · exact .column
    · exact .columnRemark hcontent

@[simp] theorem provides_createIndex_iff {i : Index} :
    (createIndex table i).Provides table d p ↔ p = .index i := by
  constructor
  · rintro ⟨⟩
    rfl
  · rintro rfl
    exact .index

@[simp] theorem provides_commentOnTable_iff {content : String} :
    (commentOnTable table content).Provides table d p ↔
      d = .postgresql ∧ p = .tableRemark content := by
  constructor
  · rintro ⟨⟩
    exact ⟨rfl, rfl⟩
  · rintro ⟨rfl, rfl⟩
    exact .commentOnTable

@[simp] theorem provides_commentOnColumn_iff {column content : String} :
    (commentOnColumn table column content).Provides table d p ↔
      d = .postgresql ∧ p = .columnRemark column content := by
  constructor
  · rintro ⟨⟩
    exact ⟨rfl, rfl⟩
  · rintro ⟨rfl, rfl⟩
    exact .commentOnColumn

@[simp] theorem provides_addForeignKey_iff {k : ForeignKey} {target : String} :
    (addForeignKey table k target).Provides table d p ↔ p = .part (.foreignKey k target) := by
  constructor
  · rintro ⟨⟩
    rfl
  · rintro rfl
    exact .foreignKey

@[simp] theorem provides_addCheck_iff {c : Check} :
    (addCheck table c).Provides table d p ↔ p = .part (.check c) := by
  constructor
  · rintro ⟨⟩
    rfl
  · rintro rfl
    exact .check

/-- What renames or drops something gives nothing. -/
@[simp] theorem not_provides_renameColumn {old new : String} :
    ¬(renameColumn table old new).Provides table d p := nofun

@[simp] theorem not_provides_dropColumn {name : String} :
    ¬(dropColumn table name).Provides table d p := nofun

@[simp] theorem not_provides_dropForeignKey {name : String} :
    ¬(dropForeignKey table name).Provides table d p := nofun

@[simp] theorem not_provides_dropIndex {name : String} :
    ¬(dropIndex table name).Provides table d p := nofun

@[simp] theorem not_provides_dropPrimaryKey : ¬(dropPrimaryKey table).Provides table d p := nofun

end Ddl

/-! ### What is made of foreign keys -/

namespace ForeignKey

variable {α : Type} {f : ForeignKey → String → α} {keys : List ForeignKey}

theorem return_eq_ok_iff {k : ForeignKey} {x : α} :
    (show Except Error α from do return f k (← k.target?)) = .ok x ↔
      ∃ target, k.target = some target ∧ x = f k target := by
  rw [except_bind_eq_ok, target?]
  cases k.target <;> simp [Pure.pure, Except.pure, eq_comm]

/-- What is made of foreign keys is made of those among them that say which table they refer to. -/
theorem mem_iff_of_mapM {made : List α}
    (h : keys.mapM (fun k => return f k (← k.target?)) = .ok made) {x : α} :
    x ∈ made ↔ ∃ k ∈ keys, ∃ target, k.target = some target ∧ x = f k target := by
  constructor
  · intro hx
    obtain ⟨k, hk, hmade⟩ := exists_of_mem_mapM h x hx
    exact ⟨k, hk, return_eq_ok_iff.1 hmade⟩
  · rintro ⟨k, hk, target, htarget, rfl⟩
    obtain ⟨y, hy, hmade⟩ := exists_mem_of_mapM h k hk
    obtain ⟨target', htarget', rfl⟩ := return_eq_ok_iff.1 hmade
    rw [htarget] at htarget'
    cases htarget'
    exact hy

/-- Either all foreign keys say which table they refer to or nothing is made of them. -/
theorem exists_mapM_eq_ok_iff : (∃ made, keys.mapM (fun k => return f k (← k.target?)) =
    (.ok made : Except Error (List α))) ↔ ∀ k ∈ keys, ∃ target, k.target = some target := by
  constructor
  · rintro ⟨made, hmade⟩ k hk
    obtain ⟨y, -, hy⟩ := exists_mem_of_mapM hmade k hk
    obtain ⟨target, htarget, -⟩ := return_eq_ok_iff.1 hy
    exact ⟨target, htarget⟩
  · intro h
    refine exists_mapM_eq_ok fun k hk => ?_
    obtain ⟨target, htarget⟩ := h k hk
    exact ⟨f k target, return_eq_ok_iff.2 ⟨target, htarget, rfl⟩⟩

end ForeignKey

namespace Blueprint

variable {d : Dialect} {b : Blueprint} {p : Provision} {parts : List TablePart}
  {created altered : List Ddl}

theorem mem_parts_iff (d : Dialect) (h : b.parts = .ok parts) {q : TablePart} :
    q ∈ parts ↔ b.Declares d (.part q) := by
  rw [Blueprint.parts, except_bind_eq_ok] at h
  obtain ⟨keys, hkeys, h⟩ := h
  cases h
  have hprimary : q ∈ (if b.primaryKey.isEmpty then [] else [TablePart.primaryKey b.primaryKey]) ↔
      b.primaryKey ≠ [] ∧ q = .primaryKey b.primaryKey := by
    split <;> simp_all
  simp only [List.mem_append, List.mem_map, hprimary, ForeignKey.mem_iff_of_mapM hkeys]
  cases q with
  | column c => simp [Declares]
  | primaryKey columns =>
    simp only [Declares, reduceCtorEq, and_false, exists_false, false_or, or_false,
      TablePart.primaryKey.injEq]
    exact ⟨fun h => ⟨h.2, h.2 ▸ h.1⟩, fun h => ⟨h.1 ▸ h.2, h.1⟩⟩
  | foreignKey k target => simp [Declares]
  | check c => simp [Declares]

theorem columnRemark_eq_iff {c : Column} {column content : String} :
    (∃ content', c.comment = some content' ∧
      Provision.columnRemark column content = .columnRemark c.name content') ↔
        c.name = column ∧ c.comment = some content := by
  constructor
  · rintro ⟨content', hcontent, heq⟩
    obtain ⟨rfl, rfl⟩ := Provision.columnRemark.inj heq
    exact ⟨rfl, hcontent⟩
  · rintro ⟨rfl, hcontent⟩
    exact ⟨content, hcontent, rfl⟩

theorem provides_columnIndexes_iff : (∃ s ∈ b.columnIndexes, s.Provides b.table d p) ↔
    ∃ c ∈ b.columns, c.index = true ∧ p = .index { columns := [c.name] } := by
  simp only [columnIndexes, List.mem_map, exists_exists_and_eq_and, Ddl.provides_createIndex_iff,
    List.mem_filter]
  simp only [and_assoc]

theorem provides_indexStatements_iff : (∃ s ∈ b.indexStatements, s.Provides b.table d p) ↔
    ∃ i ∈ b.indexes, p = .index i := by
  simp only [indexStatements, List.mem_map, exists_exists_and_eq_and, Ddl.provides_createIndex_iff]

theorem provides_commentStatements_iff :
    (∃ s ∈ b.commentStatements, s.Provides b.table .postgresql p) ↔
      (∃ content, b.comment = some content ∧ p = .tableRemark content) ∨
        ∃ c ∈ b.columns, ∃ content, c.comment = some content ∧ p = .columnRemark c.name content := by
  have hcolumns : (∃ s ∈ b.columns.flatMap fun c =>
      c.comment.toList.map (Ddl.commentOnColumn b.table c.name), s.Provides b.table .postgresql p) ↔
        ∃ c ∈ b.columns, ∃ content, c.comment = some content ∧
          p = .columnRemark c.name content := by
    constructor
    · rintro ⟨s, hs, hp⟩
      obtain ⟨c, hc, hs⟩ := List.mem_flatMap.1 hs
      obtain ⟨content, hcontent, rfl⟩ := List.mem_map.1 hs
      exact ⟨c, hc, content, Option.mem_toList.1 hcontent,
        (Ddl.provides_commentOnColumn_iff.1 hp).2⟩
    · rintro ⟨c, hc, content, hcontent, rfl⟩
      exact ⟨_, List.mem_flatMap.2 ⟨c, hc, List.mem_map_of_mem (Option.mem_toList.2 hcontent)⟩,
        .commentOnColumn⟩
  simp only [commentStatements, List.mem_append, or_and_right, exists_or, hcolumns, List.mem_map,
    exists_exists_and_eq_and, Option.mem_toList, Ddl.provides_commentOnTable_iff, true_and]

/-- The statements that create the table give it just what the blueprint declares. -/
theorem create_provides_iff (h : b.create d = .ok created) :
    (∃ s ∈ created, s.Provides b.table d p) ↔ b.Declares d p := by
  rw [create, except_bind_eq_ok] at h
  obtain ⟨parts, hparts, h⟩ := h
  cases h
  have hcomments : (∃ s ∈ (if d = .postgresql then b.commentStatements else []),
      s.Provides b.table d p) ↔ d = .postgresql ∧
        ((∃ content, b.comment = some content ∧ p = .tableRemark content) ∨
          ∃ c ∈ b.columns, ∃ content, c.comment = some content ∧
            p = .columnRemark c.name content) := by
    split
    · next hd =>
      subst hd
      simp only [provides_commentStatements_iff, true_and]
    · next hd => simp [hd]
  simp only [List.mem_cons, List.mem_append, or_and_right, exists_or, exists_eq_left,
    Ddl.provides_createTable_iff, provides_columnIndexes_iff, provides_indexStatements_iff,
    hcomments, mem_parts_iff d hparts]
  cases p with
  | part q => simp
  | index i => simp [Declares, or_comm]
  | tableRemark content => cases d <;> simp [Declares]
  | columnRemark column content =>
    simp only [columnRemark_eq_iff]
    cases d <;> simp [Declares]

/-- The statements that change the table give it what the blueprint declares, except for what is
lost. -/
theorem alter_provides_iff (h : b.alter = .ok altered) :
    (∃ s ∈ altered, s.Provides b.table d p) ↔ b.Declares d p ∧ ¬p.IsLost d := by
  rw [alter, except_bind_eq_ok] at h
  obtain ⟨keys, hkeys, h⟩ := h
  cases h
  have hprimary : ¬∃ s ∈ (if b.dropsPrimary then [Ddl.dropPrimaryKey b.table] else []),
      s.Provides b.table d p := by
    split <;> simp
  have hforeign : (∃ s ∈ keys, s.Provides b.table d p) ↔
      ∃ k ∈ b.foreignKeys, ∃ target, k.target = some target ∧
        p = .part (.foreignKey k target) := by
    simp only [ForeignKey.mem_iff_of_mapM hkeys]
    constructor
    · rintro ⟨s, ⟨k, hk, target, htarget, rfl⟩, hp⟩
      exact ⟨k, hk, target, htarget, Ddl.provides_addForeignKey_iff.1 hp⟩
    · rintro ⟨k, hk, target, htarget, rfl⟩
      exact ⟨_, ⟨k, hk, target, htarget, rfl⟩, .foreignKey⟩
  simp only [List.mem_append, or_and_right, exists_or, hprimary, hforeign, List.mem_map,
    exists_exists_and_eq_and, Ddl.provides_addColumn_iff, Ddl.provides_addCheck_iff,
    Ddl.not_provides_renameColumn, Ddl.not_provides_dropColumn, Ddl.not_provides_dropForeignKey,
    Ddl.not_provides_dropIndex, and_false, exists_false, or_false, provides_columnIndexes_iff,
    provides_indexStatements_iff]
  cases p with
  | part q => cases q <;> simp [Declares, Provision.IsLost]
  | index i => simp [Declares, Provision.IsLost, or_comm]
  | tableRemark content => simp [Provision.IsLost]
  | columnRemark column content =>
    simp only [columnRemark_eq_iff]
    cases d <;> simp [Declares, Provision.IsLost]

/-- A table can be created just if it can be changed: all foreign keys say which table they refer
to. -/
theorem exists_create_iff_exists_alter (d : Dialect) (b : Blueprint) :
    (∃ created, b.create d = .ok created) ↔ ∃ altered, b.alter = .ok altered := by
  rw [create, exists_bind_pure_eq_ok, Blueprint.parts, exists_bind_pure_eq_ok, alter,
    exists_bind_pure_eq_ok, ForeignKey.exists_mapM_eq_ok_iff, ForeignKey.exists_mapM_eq_ok_iff]

/-- If the table can be changed, it can be created. The statements that create it give it just what
the blueprint declares, and those that change it give it the same except for a primary key, a remark
on the table and, in PostgreSQL, remarks on columns. What a statement gives is written in it. -/
theorem changed_lacks_iff_lost (d : Dialect) (h : b.alter = .ok altered) :
    ∃ created, b.create d = .ok created ∧ ∀ p,
      ((∃ s ∈ created, s.Provides b.table d p) ↔ b.Declares d p) ∧
      ((∃ s ∈ altered, s.Provides b.table d p) ↔ b.Declares d p ∧ ¬p.IsLost d) ∧
      ∀ s : Ddl, s.Provides b.table d p → p.pieces d b.table <:+: s.pieces d := by
  obtain ⟨created, hcreated⟩ := (exists_create_iff_exists_alter d b).2 ⟨altered, h⟩
  exact ⟨created, hcreated, fun p => ⟨create_provides_iff hcreated, alter_provides_iff h,
    fun s hs => hs.infix_pieces⟩⟩

/-- A table with a key, an index, and remarks on itself and on its column. -/
def notes : Blueprint where
  table := "t"
  columns := [{ name := "a", kind := .integer, index := true, comment := some "key" }]
  primaryKey := ["a"]
  comment := some "note"

theorem key_and_remarks_of_notes_are_lost :
    let added : List Ddl := notes.columns.map (.addColumn "t") ++ notes.columnIndexes
    notes.alter = .ok added ∧
      added.map (Ddl.text .postgresql) = ["ALTER TABLE \"t\" ADD COLUMN \"a\" INTEGER NOT NULL",
        "CREATE INDEX \"t_a_index\" ON \"t\" (\"a\")"] ∧
      ∃ created, notes.create .postgresql = .ok created ∧
        (∃ s ∈ added, s.Provides "t" .postgresql (.index { columns := ["a"] })) ∧
        ∀ p ∈ [.part (.primaryKey ["a"]), .tableRemark "note", .columnRemark "a" "key"],
          (∃ s ∈ created, s.Provides "t" .postgresql p) ∧
            ¬∃ s ∈ added, s.Provides "t" .postgresql p := by
  intro added
  have halter : notes.alter = .ok added := rfl
  obtain ⟨created, hcreated, hprovides⟩ := changed_lacks_iff_lost .postgresql halter
  refine ⟨halter, by decide +kernel, created, hcreated, ?_, fun p hp => ?_⟩
  · exact (hprovides _).2.1.2 ⟨.inr ⟨_, List.mem_cons_self, rfl, rfl⟩, not_false⟩
  · obtain ⟨hcreate, halter, -⟩ := hprovides p
    have hlost : notes.Declares .postgresql p ∧ p.IsLost .postgresql := by
      simp only [List.mem_cons, List.not_mem_nil, or_false] at hp
      rcases hp with rfl | rfl | rfl <;> simp [Declares, notes, Provision.IsLost]
    exact ⟨hcreate.2 hlost.1, fun h => (halter.1 h).2 hlost.2⟩

end Blueprint

end SchemaMigration
