import SchemaMigration.Proofs.Ddl.Effect
import SchemaMigration.Proofs.Text.Words

/-!
# Names of indexes that were given none

The name that an index gets of its own tells the words of its columns and its suffix, but neither
where one column ends nor how the columns were written, nor the method. So indexes of one table get
different names just if they differ in those words or in the suffix.
-/

namespace SchemaMigration

open Text

/-! ### What a name tells -/

/-- The words of a name that was made of a table, columns and a suffix. -/
theorem splitAt_defaultName (table : String) (columns : List String) (suffix : String) :
    splitAt '_' (defaultName table columns suffix).toList =
      (table :: columns ++ [suffix]).flatMap nameWords := by
  have hjoined : (lower (join "_" (table :: columns ++ [suffix]))).toList =
      joinChars ['_'] ((table :: columns ++ [suffix]).map fun part => lowerChars part.toList) := by
    rw [lower, String.toList_ofList, toList_join]
    exact (lowerChars_joinChars _).trans (congrArg _ List.map_map)
  rw [defaultName, String.toList_ofList, hjoined, splitAt_map_underscore,
    splitFrom_joinChars rfl (by simp), List.flatMap_map]
  rfl

theorem defaultName_inj {table : String} {columns columns' : List String}
    {suffix suffix' : String} :
    defaultName table columns suffix = defaultName table columns' suffix' ↔
      columns.flatMap nameWords ++ nameWords suffix =
        columns'.flatMap nameWords ++ nameWords suffix' := by
  have hwords (columns : List String) (suffix : String) :
      (table :: columns ++ [suffix]).flatMap nameWords =
        nameWords table ++ (columns.flatMap nameWords ++ nameWords suffix) := by
    simp
  constructor
  · intro h
    have hsplit := congrArg (fun name => splitAt '_' name.toList) h
    simp only [splitAt_defaultName, hwords] at hsplit
    exact List.append_cancel_left hsplit
  · intro h
    rw [← String.toList_inj, ← joinChars_splitAt '_' (defaultName table columns suffix).toList,
      ← joinChars_splitAt '_' (defaultName table columns' suffix').toList, splitAt_defaultName,
      splitAt_defaultName, hwords, hwords, h]

namespace Index

variable {i i' : Index}

/-- The words of the columns of an index in order. -/
def columnWords (i : Index) : List (List Char) :=
  i.columns.flatMap nameWords

/-- A suffix is one word. -/
theorem nameWords_suffix (i : Index) : nameWords i.suffix = [i.suffix.toList] := by
  have hsuffix : i.suffix ∈ ["unique", "fulltext", "spatial", "index"] := by
    unfold suffix
    split
    · decide
    · split <;> decide
  have hword : ∀ suffix ∈ ["unique", "fulltext", "spatial", "index"],
      nameWords suffix = [suffix.toList] := by
    decide +kernel
  exact hword _ hsuffix

/-- Two indexes that were given no name get one name just if they agree in the words of their
columns and in the suffix. -/
theorem nameFor_inj (hname : i.name = none) (hname' : i'.name = none) (table : String) :
    i.nameFor table = i'.nameFor table ↔
      i.columnWords = i'.columnWords ∧ i.suffix = i'.suffix := by
  rw [nameFor, nameFor, hname, hname', Option.getD_none, Option.getD_none, defaultName_inj,
    nameWords_suffix, nameWords_suffix]
  constructor
  · intro h
    obtain ⟨hcolumns, hsuffix⟩ := List.append_inj' h rfl
    exact ⟨hcolumns, String.toList_inj.1 (List.singleton_inj.1 hsuffix)⟩
  · rintro ⟨hcolumns, hsuffix⟩
    rw [columnWords, columnWords] at hcolumns
    rw [hcolumns, hsuffix]

/-- Columns that are one word each in lower case are told by their words. -/
theorem columnWords_inj (h : ∀ c ∈ i.columns, nameWords c = [c.toList])
    (h' : ∀ c ∈ i'.columns, nameWords c = [c.toList]) :
    i.columnWords = i'.columnWords ↔ i.columns = i'.columns := by
  have hwords {columns : List String} (h : ∀ c ∈ columns, nameWords c = [c.toList]) :
      columns.flatMap nameWords = columns.map String.toList := by
    induction columns with
    | nil => rfl
    | cons c columns ih =>
      rw [List.flatMap_cons, h c List.mem_cons_self, List.map_cons,
        ih fun c hc => h c (List.mem_cons_of_mem _ hc)]
      rfl
  rw [columnWords, columnWords, hwords h, hwords h']
  exact (List.map_inj_right fun _ _ => String.toList_inj.1)

end Index

/-! ### Names of created indexes -/

/-- The name of a created index. -/
def Effect.createdIndex? : Effect → Option String
  | createsIndex name => some name
  | _ => none

/-- The names of the indexes that statements create, read off their texts. -/
def Dialect.createdIndexes (d : Dialect) (statements : List Ddl) : List String :=
  (d.effects statements).filterMap Effect.createdIndex?

/-- Images of the items of a list differ alike if each two of them do. -/
theorem nodup_map_iff {α β γ : Type} {f : α → β} {g : α → γ} {xs : List α}
    (h : ∀ x ∈ xs, ∀ y ∈ xs, f x = f y ↔ g x = g y) : (xs.map f).Nodup ↔ (xs.map g).Nodup := by
  rw [List.Nodup, List.Nodup, List.pairwise_map, List.pairwise_map]
  exact List.Pairwise.iff_of_mem fun hx hy => not_congr (h _ hx _ hy)

namespace Blueprint

variable {d : Dialect} {b : Blueprint} {created : List Ddl}

theorem createdIndexes_eq (h : b.create d = .ok created) :
    d.createdIndexes created = b.allIndexes.map (·.nameFor b.table) := by
  rw [Dialect.createdIndexes, effects_create h, creations, List.filterMap_map]
  exact congrFun List.filterMap_eq_map _

/-- The indexes of single columns have no names. -/
theorem name_eq_none_of_mem_allIndexes (hname : ∀ i ∈ b.indexes, i.name = none) :
    ∀ i ∈ b.allIndexes, i.name = none := by
  intro i hi
  rcases List.mem_append.1 hi with hi | hi
  · obtain ⟨c, -, rfl⟩ := List.mem_map.1 hi
    rfl
  · exact hname i hi

/-- The names of the created indexes, if none were given, differ just if the indexes, those of
single columns included, differ in the words of their columns or in the suffix. If each column is
one word in lower case, they differ just if the indexes differ in the columns or in the suffix. -/
theorem created_names_differ_iff (hname : ∀ i ∈ b.indexes, i.name = none)
    (h : b.create d = .ok created) :
    ((d.createdIndexes created).Nodup ↔
      (b.allIndexes.map fun i => (i.columnWords, i.suffix)).Nodup) ∧
    ((∀ i ∈ b.allIndexes, ∀ c ∈ i.columns, nameWords c = [c.toList]) →
      ((d.createdIndexes created).Nodup ↔
        (b.allIndexes.map fun i => (i.columns, i.suffix)).Nodup)) := by
  have hnone := name_eq_none_of_mem_allIndexes hname
  rw [createdIndexes_eq h]
  constructor
  · apply nodup_map_iff
    intro i hi i' hi'
    rw [Index.nameFor_inj (hnone i hi) (hnone i' hi'), Prod.mk.injEq]
  · intro hwords
    apply nodup_map_iff
    intro i hi i' hi'
    rw [Index.nameFor_inj (hnone i hi) (hnone i' hi'), Prod.mk.injEq,
      Index.columnWords_inj (hwords i hi) (hwords i' hi')]

/-- An index on one column, and two on the same columns of which one is unique. -/
def indexed : Blueprint where
  table := "t"
  columns := [{ name := "c", kind := .integer, index := true }]
  indexes := [{ columns := ["a", "b"] }, { columns := ["a", "b"], unique := true }]

theorem names_of_indexed_differ :
    (∀ i ∈ indexed.indexes, i.name = none) ∧
      ∃ created, indexed.create .mysql = .ok created ∧
        (Dialect.mysql.createdIndexes created).Nodup := by
  have hname : ∀ i ∈ indexed.indexes, i.name = none := by decide
  have hwords : ∀ i ∈ indexed.allIndexes, ∀ c ∈ i.columns, nameWords c = [c.toList] := by
    decide +kernel
  exact ⟨hname, _, rfl, ((created_names_differ_iff hname rfl).2 hwords).2 (by decide)⟩

/-- Neither where a column ends nor its capitals nor a method that has no suffix is told by a
name. -/
theorem names_of_other_indexes_collide :
    let joined : List Index := [{ columns := ["a", "b"] }, { columns := ["a_b"] }]
    let capital : List Index := [{ columns := ["a"] }, { columns := ["A"] }]
    let tree : List Index := [{ columns := ["a"] }, { columns := ["a"], method := some .btree }]
    ∀ indexes ∈ [joined, capital, tree], (∀ i ∈ indexes, i.name = none) ∧
      (indexes.map fun i => (i.columns, i.unique, i.method)).Nodup ∧
      ∃ created, ({ table := "t", indexes } : Blueprint).create .sqlite = .ok created ∧
        ¬(Dialect.sqlite.createdIndexes created).Nodup := by
  intro joined capital tree indexes hindexes
  have hcreate (indexes : List Index) :
      ∃ created, ({ table := "t", indexes } : Blueprint).create .sqlite = .ok created := ⟨_, rfl⟩
  have hnames : ∀ indexes ∈ [joined, capital, tree], (∀ i ∈ indexes, i.name = none) ∧
      (indexes.map fun i => (i.columns, i.unique, i.method)).Nodup ∧
      ¬(indexes.map (·.nameFor "t")).Nodup := by
    decide +kernel
  obtain ⟨hname, hdiffer, hcollide⟩ := hnames indexes hindexes
  obtain ⟨created, hcreated⟩ := hcreate indexes
  refine ⟨hname, hdiffer, created, hcreated, ?_⟩
  rw [createdIndexes_eq hcreated]
  exact hcollide

end Blueprint

end SchemaMigration
