import SchemaMigration.Proofs.Ddl.Names
import SchemaMigration.Proofs.Ddl.Provision

/-!
# Effects of statements

What a statement does to the indexes, constraints and columns of a table is read off its text: words
in front of an identifier say what is done to what has that name. Of a compiled blueprint, the
statements create the declared indexes and drop what the blueprint lists, in a fixed order.
-/

namespace SchemaMigration

open Text

/-- What a statement does to an index, a constraint or a column with a name. -/
inductive Effect where
  /-- An index is created. -/
  | createsIndex (name : String)
  /-- An index is dropped. -/
  | dropsIndex (name : String)
  /-- A foreign key or another constraint is dropped. -/
  | dropsConstraint (name : String)
  /-- A column is dropped. -/
  | dropsColumn (name : String)
deriving DecidableEq

namespace Effect

/-- The words in front of the name of an index. -/
def indexForms : List (String × (String → Effect)) :=
  [("CREATE INDEX ", createsIndex), ("CREATE UNIQUE INDEX ", createsIndex),
    ("CREATE FULLTEXT INDEX ", createsIndex), ("CREATE SPATIAL INDEX ", createsIndex),
    ("DROP INDEX IF EXISTS ", dropsIndex), ("DROP INDEX ", dropsIndex)]

/-- The words between the name of a table and that of a constraint or a column. -/
def tableForms : List (String × (String → Effect)) :=
  [(" DROP COLUMN ", dropsColumn), (" DROP FOREIGN KEY ", dropsConstraint),
    (" DROP CONSTRAINT ", dropsConstraint)]

end Effect

namespace Dialect

/-- Reads the words of a form and the name behind them. -/
def readForm? (d : Dialect) (forms : List (String × (String → Effect))) (text : List Char) :
    Option Effect :=
  forms.findSome? fun (words, effect) => do
    let (name, _) ← d.readName? (← dropStart? words.toList text)
    return effect name

/-- Reads the effect of a statement, which may stand behind the name of a table. -/
def readEffect? (d : Dialect) (text : List Char) : Option Effect :=
  (d.readForm? Effect.indexForms text).or do
    let (_, rest) ← d.readName? (← dropStart? "ALTER TABLE ".toList text)
    d.readForm? Effect.tableForms rest

/-- The effects of statements in order, read off their texts. -/
def effects (d : Dialect) (statements : List Ddl) : List Effect :=
  statements.filterMap fun s => d.readEffect? (s.text d).toList

end Dialect

/-- The effect of a statement. MySQL drops a primary key without a name. -/
def Ddl.effect? (d : Dialect) : Ddl → Option Effect
  | createIndex table index => some (.createsIndex (index.nameFor table))
  | dropIndex _ name => some (.dropsIndex name)
  | dropForeignKey _ name => some (.dropsConstraint name)
  | dropPrimaryKey table =>
    if d = .mysql then none else some (.dropsConstraint (table ++ "_pkey"))
  | dropColumn _ column => some (.dropsColumn column)
  | _ => none

/-! ### Reading forms -/

open Piece Skeleton

namespace Dialect

variable {d : Dialect} {words : String} {rest : List Char}

/-- Behind the words of a form a name is read, if no form in front of it is read. -/
theorem readForm?_eq_some {forms after : List (String × (String → Effect))} {name : String}
    {effect : String → Effect} (before : List (String × (String → Effect)))
    (hforms : forms = before ++ (words, effect) :: after)
    (hbefore : d.readForm? before (words.toList ++ ((d.quoted name).toList ++ rest)) = none)
    (hrest : rest.head? ≠ some d.quote) :
    d.readForm? forms (words.toList ++ ((d.quoted name).toList ++ rest)) = some (effect name) := by
  have hwords : dropStart? words.toList (words.toList ++ ((d.quoted name).toList ++ rest)) =
      some ((d.quoted name).toList ++ rest) := dropStart?_eq_some.2 rfl
  rw [readForm?] at hbefore ⊢
  rw [hforms, List.findSome?_append, hbefore, Option.none_or, List.findSome?_cons]
  simp [hwords, readName?_quoted name hrest]

theorem head?_append_ne_quote (hwords : words.toList.head? = some ' ') (rest : List Char) :
    (words.toList ++ rest).head? ≠ some d.quote := by
  rw [List.head?_append, hwords, Option.some_or]
  cases d <;> decide

/-- A statement that changes a table has the effect that stands behind the name of the table. -/
theorem readEffect?_altering (hwords : words.toList.head? = some ' ') (table : String) :
    d.readEffect? ("ALTER TABLE ".toList ++ ((d.quoted table).toList ++ (words.toList ++ rest))) =
      d.readForm? Effect.tableForms (words.toList ++ rest) := by
  have hindex (more : List Char) :
      d.readForm? Effect.indexForms ("ALTER TABLE ".toList ++ more) = none := rfl
  have htable (more : List Char) :
      dropStart? "ALTER TABLE ".toList ("ALTER TABLE ".toList ++ more) = some more := rfl
  rw [readEffect?, hindex, htable, Option.none_or]
  simp [readName?_quoted table (head?_append_ne_quote hwords rest)]

end Dialect

namespace Ddl

variable {d : Dialect} {words : String}

open Dialect

/-- An index is created by words of one of the first four forms. -/
theorem readEffect?_createIndex (d : Dialect) (table : String) (i : Index) :
    d.readEffect? ((createIndex table i).text d).toList =
      some (.createsIndex (i.nameFor table)) := by
  have hform (words : String) (rest : List Char) (hrest : rest.head? ≠ some d.quote)
      (hwords : words ∈ ["CREATE INDEX ", "CREATE UNIQUE INDEX ", "CREATE FULLTEXT INDEX ",
        "CREATE SPATIAL INDEX "]) : d.readForm? Effect.indexForms
          (words.toList ++ ((d.quoted (i.nameFor table)).toList ++ rest)) =
            some (.createsIndex (i.nameFor table)) := by
    simp only [List.mem_cons, List.not_mem_nil, or_false] at hwords
    rcases hwords with rfl | rfl | rfl | rfl
    · exact readForm?_eq_some (Effect.indexForms.take 0) rfl rfl hrest
    · exact readForm?_eq_some (Effect.indexForms.take 1) rfl rfl hrest
    · exact readForm?_eq_some (Effect.indexForms.take 2) rfl rfl hrest
    · exact readForm?_eq_some (Effect.indexForms.take 3) rfl rfl hrest
  rw [readEffect?, text, pieces, i.toList_render_pieces,
    hform _ _ (head?_append_ne_quote rfl _) (i.kindWords_mem d), Option.some_or]

theorem readEffect?_dropIndex (d : Dialect) (table name : String) :
    d.readEffect? ((dropIndex table name).text d).toList = some (.dropsIndex name) := by
  by_cases hd : d = .mysql
  · subst hd
    -- The longer words go on with a letter where the name begins.
    have hlonger (rest : List Char) : Dialect.mysql.readForm? (Effect.indexForms.take 5)
        ("DROP INDEX ".toList ++ ((Dialect.mysql.quoted name).toList ++ rest)) = none := by
      rw [toList_quoted]
      rfl
    have hform (rest : List Char) (hrest : rest.head? ≠ some Dialect.mysql.quote) :
        Dialect.mysql.readForm? Effect.indexForms
          ("DROP INDEX ".toList ++ ((Dialect.mysql.quoted name).toList ++ rest)) =
            some (.dropsIndex name) :=
      readForm?_eq_some (Effect.indexForms.take 5) rfl (hlonger rest) hrest
    have htext : ((dropIndex table name).text .mysql).toList = "DROP INDEX ".toList ++
        ((Dialect.mysql.quoted name).toList ++ (" ON ".toList ++
          (Dialect.mysql.quoted table).toList)) := by
      simp [text, pieces, render, Piece.text]
    rw [readEffect?, htext, hform _ (head?_append_ne_quote rfl _), Option.some_or]
  · have hform : d.readForm? Effect.indexForms
        ("DROP INDEX IF EXISTS ".toList ++ ((d.quoted name).toList ++ [])) =
          some (.dropsIndex name) :=
      readForm?_eq_some (Effect.indexForms.take 4) rfl rfl (by simp)
    have htext : ((dropIndex table name).text d).toList =
        "DROP INDEX IF EXISTS ".toList ++ ((d.quoted name).toList ++ []) := by
      simp [text, pieces, render, Piece.text, hd]
    rw [readEffect?, htext, hform, Option.some_or]

theorem readEffect?_altering (hwords : words.toList.head? = some ' ') (table : String)
    (rest : List Piece) : d.readEffect? (render d (altering table words ++ rest)).toList =
      d.readForm? Effect.tableForms (words.toList ++ (render d rest).toList) := by
  have htext : (render d (altering table words ++ rest)).toList = "ALTER TABLE ".toList ++
      ((d.quoted table).toList ++ (words.toList ++ (render d rest).toList)) := by
    simp [altering, render, Piece.text]
  rw [htext, Dialect.readEffect?_altering hwords]

/-- What stands behind the words of a form for changes of a table is dropped. -/
theorem readForm?_tableForms {after : List (String × (String → Effect))}
    {effect : String → Effect} (before : List (String × (String → Effect)))
    (hforms : Effect.tableForms = before ++ (words, effect) :: after)
    (hbefore : ∀ rest, d.readForm? before (words.toList ++ rest) = none) (name : String) :
    d.readForm? Effect.tableForms (words.toList ++ (render d [.name name]).toList) =
      some (effect name) := by
  have htext : (render d [.name name]).toList = (d.quoted name).toList ++ [] := by
    simp [render, Piece.text]
  rw [htext]
  exact readForm?_eq_some before hforms (hbefore _) (by simp)

/-- The effect of a statement is read off its text. -/
theorem readEffect?_text (d : Dialect) (s : Ddl) :
    d.readEffect? (s.text d).toList = s.effect? d := by
  cases s with
  | createIndex table index => exact readEffect?_createIndex d table index
  | dropIndex table name => exact readEffect?_dropIndex d table name
  | createTable temporary table parts comment =>
    cases temporary <;>
      · simp only [text, pieces, toList_render_cons, Piece.text]
        rfl
  | dropTable table ifExists =>
    cases ifExists <;>
      · simp only [text, pieces, toList_render_cons, Piece.text]
        rfl
  | commentOnTable | commentOnColumn =>
    simp only [text, pieces, toList_render_cons, Piece.text]
    rfl
  | addColumn table column =>
    rw [text, pieces, List.append_assoc, readEffect?_altering rfl]
    rfl
  | renameColumn | addForeignKey | addCheck =>
    rw [text, pieces, readEffect?_altering rfl]
    rfl
  | dropColumn table column =>
    rw [text, pieces, readEffect?_altering rfl]
    exact readForm?_tableForms (Effect.tableForms.take 0) rfl (fun _ => rfl) column
  | dropForeignKey table name =>
    rw [text, pieces]
    by_cases hd : d = .mysql
    · rw [if_pos hd, readEffect?_altering rfl]
      exact readForm?_tableForms (Effect.tableForms.take 1) rfl (fun _ => rfl) name
    · rw [if_neg hd, readEffect?_altering rfl]
      exact readForm?_tableForms (Effect.tableForms.take 2) rfl (fun _ => rfl) name
  | dropPrimaryKey table =>
    rw [text, pieces, effect?]
    by_cases hd : d = .mysql
    · rw [if_pos hd, if_pos hd, ← List.append_nil (altering table _), readEffect?_altering rfl]
      rfl
    · rw [if_neg hd, if_neg hd, readEffect?_altering rfl]
      exact readForm?_tableForms (Effect.tableForms.take 2) rfl (fun _ => rfl) _

end Ddl

theorem Dialect.effects_eq_filterMap (d : Dialect) (statements : List Ddl) :
    d.effects statements = statements.filterMap (Ddl.effect? d) :=
  congrArg (statements.filterMap ·) (funext (Ddl.readEffect?_text d))

/-! ### Effects of compiled blueprints -/

namespace Blueprint

variable {d : Dialect} {b : Blueprint} {created altered : List Ddl}

/-- The indexes that a blueprint declares on single columns. -/
def singleIndexes (b : Blueprint) : List Index :=
  (b.columns.filter (·.index)).map fun c => { columns := [c.name] }

/-- All indexes that a blueprint declares. -/
def allIndexes (b : Blueprint) : List Index :=
  b.singleIndexes ++ b.indexes

/-- The indexes that are created. -/
def creations (b : Blueprint) (indexes : List Index) : List Effect :=
  indexes.map fun i => .createsIndex (i.nameFor b.table)

/-- The constraint that is dropped with the primary key. MySQL drops the key without a name. -/
def primaryDrop (d : Dialect) (b : Blueprint) : List Effect :=
  if b.dropsPrimary = true ∧ d ≠ .mysql then [.dropsConstraint (b.table ++ "_pkey")] else []

/-- The foreign keys, indexes and constraints that are dropped. -/
def dependentDrops (d : Dialect) (b : Blueprint) : List Effect :=
  b.droppedForeignKeys.map .dropsConstraint ++ b.droppedIndexes.map .dropsIndex ++ b.primaryDrop d

/-- The effects of changing a table: the indexes of new columns, then what is dropped, then the
other indexes. -/
def changeEffects (d : Dialect) (b : Blueprint) : List Effect :=
  b.creations b.singleIndexes ++ b.droppedColumns.map .dropsColumn ++ b.dependentDrops d ++
    b.creations b.indexes

theorem filterMap_effect?_map {α : Type} {f : α → Ddl} {effect : α → Effect}
    (hf : ∀ x, (f x).effect? d = some (effect x)) (xs : List α) :
    (xs.map f).filterMap (Ddl.effect? d) = xs.map effect := by
  simp [List.filterMap_map, hf]

theorem filterMap_effect?_map_eq_nil {α : Type} {f : α → Ddl}
    (hf : ∀ x, (f x).effect? d = none) (xs : List α) :
    (xs.map f).filterMap (Ddl.effect? d) = [] := by
  simp [List.filterMap_map, hf]

theorem filterMap_effect?_createIndex (indexes : List Index) :
    (indexes.map (Ddl.createIndex b.table)).filterMap (Ddl.effect? d) = b.creations indexes :=
  filterMap_effect?_map (fun _ => rfl) indexes

theorem columnIndexes_eq (b : Blueprint) :
    b.columnIndexes = b.singleIndexes.map (.createIndex b.table) := by
  simp [columnIndexes, singleIndexes]

/-- The statements that create a table create its indexes and drop nothing. -/
theorem effects_create (h : b.create d = .ok created) :
    d.effects created = b.creations b.allIndexes := by
  rw [create, except_bind_eq_ok] at h
  obtain ⟨parts, -, h⟩ := h
  cases h
  have hcomments : (if d = .postgresql then b.commentStatements else []).filterMap
      (Ddl.effect? d) = [] := by
    apply List.filterMap_eq_nil_iff.2
    intro s hs
    split at hs
    · simp only [commentStatements, List.mem_append, List.mem_map, List.mem_flatMap] at hs
      rcases hs with ⟨comment, -, rfl⟩ | ⟨column, -, comment, -, rfl⟩
      · rfl
      · rfl
    · cases hs
  rw [Dialect.effects_eq_filterMap, columnIndexes_eq, indexStatements]
  simp only [List.filterMap_cons, List.filterMap_append, filterMap_effect?_createIndex, hcomments,
    List.append_nil]
  rw [allIndexes, creations, creations, creations, List.map_append]
  rfl

/-- The effects of the statements that change a table. -/
theorem effects_alter (h : b.alter = .ok altered) :
    d.effects altered = b.changeEffects d := by
  rw [alter, except_bind_eq_ok] at h
  obtain ⟨keys, hkeys, h⟩ := h
  cases h
  have hforeign : keys.filterMap (Ddl.effect? d) = [] := by
    apply List.filterMap_eq_nil_iff.2
    intro s hs
    obtain ⟨k, -, target, -, rfl⟩ := (ForeignKey.mem_iff_of_mapM hkeys).1 hs
    rfl
  have hprimary : (if b.dropsPrimary then [Ddl.dropPrimaryKey b.table] else []).filterMap
      (Ddl.effect? d) = b.primaryDrop d := by
    by_cases hp : b.dropsPrimary = true <;> by_cases hd : d = .mysql <;>
      simp [primaryDrop, hp, hd, Ddl.effect?]
  rw [Dialect.effects_eq_filterMap, columnIndexes_eq, indexStatements]
  simp only [List.filterMap_append, filterMap_effect?_createIndex, hforeign, hprimary]
  rw [filterMap_effect?_map_eq_nil (fun _ => rfl) b.columns,
    filterMap_effect?_map_eq_nil (fun _ => rfl) b.renamedColumns,
    filterMap_effect?_map_eq_nil (fun _ => rfl) b.checks,
    filterMap_effect?_map (fun _ => rfl) b.droppedColumns,
    filterMap_effect?_map (fun _ => rfl) b.droppedForeignKeys,
    filterMap_effect?_map (fun _ => rfl) b.droppedIndexes]
  simp [changeEffects, dependentDrops]

end Blueprint

end SchemaMigration
