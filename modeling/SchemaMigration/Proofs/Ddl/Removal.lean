import Mathlib.Data.List.Pairwise
import SchemaMigration.Proofs.Ddl.Effect

/-!
# Taking additions back

What a blueprint drops by the columns is what was added by the same columns: the index that is
dropped has the name of the one that was created. But columns are dropped in front of everything
else, also in front of an index over them.
-/

namespace SchemaMigration

/-! ### Steps of a blueprint -/

/-- A step adds effects to what blueprints of a table are compiled to. -/
def Dialect.AddsEffects (d : Dialect) (compile : Blueprint → Except Error (List Ddl))
    (table : String) (step : Blueprint → Blueprint) (added : List Effect) : Prop :=
  ∀ b : Blueprint, b.table = table → ∀ statements, compile b = .ok statements →
    ∃ further, compile (step b) = .ok further ∧
      (d.effects further).Perm (d.effects statements ++ added)

namespace Blueprint

variable {d : Dialect} {b b' : Blueprint} {table : String} {step : Blueprint → Blueprint}
  {added : List Effect} {statements : List Ddl}

/-- Whether a table can be changed depends on the foreign keys. -/
theorem exists_alter_of_foreignKeys_eq (hkeys : b'.foreignKeys = b.foreignKeys)
    (h : b.alter = .ok statements) : ∃ further, b'.alter = .ok further := by
  have hb : ∃ statements, b.alter = .ok statements := ⟨statements, h⟩
  rw [alter, exists_bind_pure_eq_ok, ForeignKey.exists_mapM_eq_ok_iff] at hb
  rw [alter, exists_bind_pure_eq_ok, ForeignKey.exists_mapM_eq_ok_iff, hkeys]
  exact hb

theorem exists_create_of_foreignKeys_eq (hkeys : b'.foreignKeys = b.foreignKeys)
    (h : b.create d = .ok statements) : ∃ further, b'.create d = .ok further := by
  obtain ⟨altered, halter⟩ := (exists_create_iff_exists_alter d b).1 ⟨statements, h⟩
  exact (exists_create_iff_exists_alter d b').2 (exists_alter_of_foreignKeys_eq hkeys halter)

theorem addsEffects_create (hkeys : ∀ b, (step b).foreignKeys = b.foreignKeys)
    (hstep : ∀ b, b.table = table → ((step b).creations (step b).allIndexes).Perm
      (b.creations b.allIndexes ++ added)) : d.AddsEffects (create d) table step added := by
  intro b htable statements h
  obtain ⟨further, hfurther⟩ := exists_create_of_foreignKeys_eq (hkeys b) h
  refine ⟨further, hfurther, ?_⟩
  rw [effects_create h, effects_create hfurther]
  exact hstep b htable

theorem addsEffects_alter (hkeys : ∀ b, (step b).foreignKeys = b.foreignKeys)
    (hstep : ∀ b, b.table = table → ((step b).changeEffects d).Perm
      (b.changeEffects d ++ added)) : d.AddsEffects alter table step added := by
  intro b htable statements h
  obtain ⟨further, hfurther⟩ := exists_alter_of_foreignKeys_eq (hkeys b) h
  refine ⟨further, hfurther, ?_⟩
  rw [effects_alter h, effects_alter hfurther]
  exact hstep b htable

/-! ### Additions -/

/-- A step adds an index to the blueprints of a table, and perhaps columns that have none. -/
structure AddsIndex (step : Blueprint → Blueprint) (index : Index) : Prop where
  /-- The index comes last. -/
  indexes : ∀ b, (step b).indexes = b.indexes ++ [index]
  /-- No column has a new index. -/
  singleIndexes : ∀ b, (step b).singleIndexes = b.singleIndexes
  /-- The table stays. -/
  table : ∀ b, (step b).table = b.table
  /-- The foreign keys stay. -/
  foreignKeys : ∀ b, (step b).foreignKeys = b.foreignKeys
  /-- The dropped columns stay. -/
  droppedColumns : ∀ b, (step b).droppedColumns = b.droppedColumns
  /-- What else is dropped stays. -/
  dependentDrops : ∀ d b, (step b).dependentDrops d = b.dependentDrops d

namespace AddsIndex

variable {index : Index}

theorem creations_eq (h : AddsIndex step index) (htable : b.table = table) (indexes : List Index) :
    (step b).creations (indexes ++ [index]) =
      b.creations indexes ++ [.createsIndex (index.nameFor table)] := by
  rw [creations, creations, h.table, htable, List.map_append]
  rfl

theorem addsEffects (h : AddsIndex step index) (d : Dialect) (table : String) :
    ∀ compile ∈ [create d, alter],
      d.AddsEffects compile table step [.createsIndex (index.nameFor table)] := by
  intro compile hcompile
  simp only [List.mem_cons, List.not_mem_nil, or_false] at hcompile
  rcases hcompile with rfl | rfl
  · apply addsEffects_create h.foreignKeys
    intro b htable
    rw [allIndexes, h.singleIndexes, h.indexes, ← List.append_assoc, h.creations_eq htable]
    exact .refl _
  · apply addsEffects_alter h.foreignKeys
    intro b htable
    have hsingle : (step b).creations b.singleIndexes = b.creations b.singleIndexes := by
      rw [creations, creations, h.table]
    rw [changeEffects, changeEffects, h.singleIndexes, h.indexes, h.creations_eq htable,
      h.droppedColumns, h.dependentDrops, hsingle, ← List.append_assoc]

end AddsIndex

theorem singleIndexes_addColumn {name : String} {kind : ColumnKind}
    {modifiers : List Column.Modifier}
    (hindex : (({ name, kind } : Column).modifyAll modifiers).index = false) (b : Blueprint) :
    (b.addColumn name kind modifiers).singleIndexes = b.singleIndexes := by
  simp [singleIndexes, addColumn, hindex]

/-- The index over the columns of a reference to any table. -/
def morphIndex (name : String) : Index := { columns := [morphType name, morphId name] }

theorem addsIndex_morphs {name : String} {kind : ColumnKind}
    {modifiers typeModifiers : List Column.Modifier}
    (hid : (({ name := morphId name, kind } : Column).modifyAll modifiers).index = false)
    (htype : (({ name := morphType name, kind := .string 255 } : Column).modifyAll
      typeModifiers).index = false) :
    AddsIndex (fun b => b.morphs name kind modifiers typeModifiers) (morphIndex name) where
  indexes _ := rfl
  singleIndexes b :=
    (singleIndexes_addColumn htype (b.addColumn _ _ _)).trans (singleIndexes_addColumn hid b)
  table _ := rfl
  foreignKeys _ := rfl
  droppedColumns _ := rfl
  dependentDrops _ _ := rfl

theorem addsIndex_addIndex (index : Index) (modifiers : List Index.Modifier) :
    AddsIndex (fun b => b.addIndex index modifiers) (modifiers.foldl Index.modify index) where
  indexes _ := rfl
  singleIndexes _ := rfl
  table _ := rfl
  foreignKeys _ := rfl
  droppedColumns _ := rfl
  dependentDrops _ _ := rfl

end Blueprint

/-- Modifiers other than a name leave the default name of a unique index. -/
theorem Index.nameFor_foldl_modify {modifiers : List Index.Modifier}
    (hname : ∀ text, .name text ∉ modifiers) {i : Index} (hi : i.name = none)
    (hunique : i.unique = true) (table : String) :
    (modifiers.foldl modify i).nameFor table = defaultName table i.columns "unique" := by
  induction modifiers generalizing i with
  | nil => simp [nameFor, suffix, hi, hunique]
  | cons m modifiers ih =>
    have hrest (text : String) : Modifier.name text ∉ modifiers :=
      fun h => hname text (List.mem_cons_of_mem m h)
    rw [List.foldl_cons]
    cases m with
    | name text => exact absurd List.mem_cons_self (hname text)
    | method _ => exact ih hrest hi hunique
    | predicate _ => exact ih hrest hi hunique
    | included _ => exact ih hrest hi hunique

/-! ### Removals -/

namespace Blueprint

variable {d : Dialect} {b : Blueprint} {altered : List Ddl}

/-- A step that drops an index and columns adds just that. -/
theorem addsEffects_dropIndex_dropColumns (d : Dialect) (table : String)
    (index : String → String) (columns : List String) :
    d.AddsEffects alter table (fun b => (b.dropIndex (index b.table)).dropColumns columns)
      (columns.map .dropsColumn ++ [.dropsIndex (index table)]) := by
  refine addsEffects_alter (fun _ => rfl) fun b htable => ?_
  subst htable
  have hstep : ((b.dropIndex (index b.table)).dropColumns columns).changeEffects d =
      b.creations b.singleIndexes ++ (b.droppedColumns ++ columns).map .dropsColumn ++
        (b.droppedForeignKeys.map .dropsConstraint ++
          (b.droppedIndexes ++ [index b.table]).map .dropsIndex ++ b.primaryDrop d) ++
        b.creations b.indexes := rfl
  rw [hstep, changeEffects, dependentDrops]
  apply List.perm_iff_count.2
  intro e
  simp only [List.map_append, List.map_singleton, List.count_append]
  omega

end Blueprint

namespace Effect

/-- Whether a column is dropped. -/
def isColumnDrop : Effect → Bool
  | dropsColumn _ => true
  | _ => false

/-- Whether an index, a foreign key or another constraint is dropped. -/
def isDependentDrop : Effect → Bool
  | dropsIndex _ | dropsConstraint _ => true
  | _ => false

end Effect

/-- No column is dropped in front of an index or a constraint. -/
def Dialect.DropsColumnsLast (d : Dialect) (statements : List Ddl) : Prop :=
  (d.effects statements).Pairwise fun first second =>
    ¬(first.isColumnDrop = true ∧ second.isDependentDrop = true)

namespace Blueprint

variable {d : Dialect} {b : Blueprint} {altered : List Ddl}

theorem isDrop_eq_false_of_mem_creations {indexes : List Index} {e : Effect}
    (he : e ∈ b.creations indexes) : e.isColumnDrop = false ∧ e.isDependentDrop = false := by
  obtain ⟨i, -, rfl⟩ := List.mem_map.1 he
  exact ⟨rfl, rfl⟩

theorem isDependentDrop_of_mem_dependentDrops {e : Effect} (he : e ∈ b.dependentDrops d) :
    e.isColumnDrop = false ∧ e.isDependentDrop = true := by
  simp only [dependentDrops, primaryDrop, List.mem_append, List.mem_map] at he
  rcases he with (⟨name, -, rfl⟩ | ⟨name, -, rfl⟩) | he
  · exact ⟨rfl, rfl⟩
  · exact ⟨rfl, rfl⟩
  · split at he
    · rw [List.mem_singleton.1 he]
      exact ⟨rfl, rfl⟩
    · cases he

theorem dependentDrops_eq_nil_iff : b.dependentDrops d = [] ↔
    b.droppedForeignKeys = [] ∧ b.droppedIndexes = [] ∧ (b.dropsPrimary = true → d = .mysql) := by
  simp [dependentDrops, primaryDrop]

theorem mem_changeEffects_iff {e : Effect} : e ∈ b.changeEffects d ↔
    e ∈ b.creations b.singleIndexes ∨ e ∈ b.droppedColumns.map .dropsColumn ∨
      e ∈ b.dependentDrops d ∨ e ∈ b.creations b.indexes := by
  simp only [changeEffects, List.mem_append, or_assoc]

theorem mem_droppedColumns_of_isColumnDrop {e : Effect} (he : e ∈ b.changeEffects d)
    (hdrop : e.isColumnDrop = true) : e ∈ b.droppedColumns.map .dropsColumn := by
  rcases mem_changeEffects_iff.1 he with he | he | he | he
  · simp [(isDrop_eq_false_of_mem_creations he).1] at hdrop
  · exact he
  · simp [(isDependentDrop_of_mem_dependentDrops he).1] at hdrop
  · simp [(isDrop_eq_false_of_mem_creations he).1] at hdrop

theorem mem_dependentDrops_of_isDependentDrop {e : Effect} (he : e ∈ b.changeEffects d)
    (hdrop : e.isDependentDrop = true) : e ∈ b.dependentDrops d := by
  rcases mem_changeEffects_iff.1 he with he | he | he | he
  · simp [(isDrop_eq_false_of_mem_creations he).2] at hdrop
  · obtain ⟨column, -, rfl⟩ := List.mem_map.1 he
    cases hdrop
  · exact he
  · simp [(isDrop_eq_false_of_mem_creations he).2] at hdrop

/-- All columns are dropped in front of everything else that is dropped, so they come last just if
there is no column or nothing else. -/
theorem dropsColumnsLast_iff (h : b.alter = .ok altered) : d.DropsColumnsLast altered ↔
    b.droppedColumns = [] ∨ b.dependentDrops d = [] := by
  rw [Dialect.DropsColumnsLast, effects_alter h]
  constructor
  · intro hlast
    by_contra hboth
    rw [not_or] at hboth
    obtain ⟨column, hcolumn⟩ := List.exists_mem_of_ne_nil _ hboth.1
    obtain ⟨e, he⟩ := List.exists_mem_of_ne_nil _ hboth.2
    rw [changeEffects, List.pairwise_append, List.pairwise_append] at hlast
    exact hlast.1.2.2 (.dropsColumn column)
      (List.mem_append_right _ (List.mem_map_of_mem hcolumn)) e he
      ⟨rfl, (isDependentDrop_of_mem_dependentDrops he).2⟩
  · intro hnone
    apply List.pairwise_of_forall_mem_list
    rintro first hfirst second hsecond ⟨hcolumn, hdependent⟩
    have hfirst := mem_droppedColumns_of_isColumnDrop hfirst hcolumn
    have hsecond := mem_dependentDrops_of_isDependentDrop hsecond hdependent
    rcases hnone with hnone | hnone
    · rw [hnone] at hfirst
      cases hfirst
    · rw [hnone] at hsecond
      cases hsecond

/-- What drops a reference to any table, or a unique index with its columns, drops the columns and
the index that was created with them. But the statements that change a table drop no column in front
of an index, a foreign key or a constraint only if they drop no column or none of these. -/
theorem removals_undo_additions_columns_first (d : Dialect) (table name : String)
    (columns : List String) (modifiers : List Index.Modifier)
    (hname : ∀ text, .name text ∉ modifiers) :
    (∃ index, (∀ compile ∈ [create d, alter], ∀ add ∈ [(fun b => b.morphs name),
        (fun b => b.nullableMorphs name), (fun b => b.uuidMorphs name)],
          d.AddsEffects compile table add [.createsIndex index]) ∧
      d.AddsEffects alter table (fun b => b.dropMorphs name)
        [.dropsColumn (morphId name), .dropsColumn (morphType name), .dropsIndex index]) ∧
    (∃ index, (∀ compile ∈ [create d, alter], d.AddsEffects compile table
        (fun b => b.addIndex { columns, unique := true } modifiers) [.createsIndex index]) ∧
      d.AddsEffects alter table (fun b => (b.dropUnique columns).dropColumns columns)
        (columns.map .dropsColumn ++ [.dropsIndex index])) ∧
    ∀ (b : Blueprint) (altered : List Ddl), b.alter = .ok altered →
      (d.DropsColumnsLast altered ↔ b.droppedColumns = [] ∨
        b.droppedForeignKeys = [] ∧ b.droppedIndexes = [] ∧
          (b.dropsPrimary = true → d = .mysql)) := by
  refine ⟨⟨defaultName table [morphType name, morphId name] "index", ?_, ?_⟩,
    ⟨defaultName table columns "unique", ?_, ?_⟩, ?_⟩
  · intro compile hcompile add hadd
    simp only [List.mem_cons, List.not_mem_nil, or_false] at hadd
    rcases hadd with rfl | rfl | rfl
    · exact (addsIndex_morphs rfl rfl).addsEffects d table compile hcompile
    · exact (addsIndex_morphs rfl rfl).addsEffects d table compile hcompile
    · exact (addsIndex_morphs rfl rfl).addsEffects d table compile hcompile
  · exact addsEffects_dropIndex_dropColumns d table
      (fun table => defaultName table [morphType name, morphId name] "index") _
  · intro compile hcompile
    rw [← Index.nameFor_foldl_modify (i := { columns, unique := true }) hname rfl rfl table]
    exact (addsIndex_addIndex _ modifiers).addsEffects d table compile hcompile
  · exact addsEffects_dropIndex_dropColumns d table
      (fun table => defaultName table columns "unique") columns
  · intro b altered h
    rw [dropsColumnsLast_iff h, dependentDrops_eq_nil_iff]

/-- In SQLite the columns are dropped in front of the index over them. -/
theorem columns_of_tag_are_dropped_in_front_of_their_index :
    let tagless : Blueprint := ({ table := "t" } : Blueprint).dropMorphs "tag"
    let altered : List Ddl := [.dropColumn "t" "tag_id", .dropColumn "t" "tag_type",
      .dropIndex "t" "t_tag_type_tag_id_index"]
    tagless.alter = .ok altered ∧
      altered.map (Ddl.text .sqlite) = ["ALTER TABLE \"t\" DROP COLUMN \"tag_id\"",
        "ALTER TABLE \"t\" DROP COLUMN \"tag_type\"",
        "DROP INDEX IF EXISTS \"t_tag_type_tag_id_index\""] ∧
      ¬Dialect.sqlite.DropsColumnsLast altered := by
  intro tagless altered
  have halter : tagless.alter = .ok altered := rfl
  obtain ⟨-, -, horder⟩ :=
    removals_undo_additions_columns_first .sqlite "t" "tag" ["a"] [.method .btree] (by simp)
  refine ⟨halter, by decide +kernel, fun hlast => ?_⟩
  rcases (horder tagless altered halter).1 hlast with hcolumns | ⟨-, hindexes, -⟩
  · cases hcolumns
  · cases hindexes

end Blueprint

end SchemaMigration
