/-!
# Dictionaries in key order

A `Dict` maps names to values and lists its entries in ascending order of the names, each name
once, so two dictionaries with the same look-ups are equal. Look-up, insertion and removal are
characterised by `get?_insert` and `get?_erase`.
-/

namespace SchemaMigration

/-- Entries are in order when the names ascend strictly. -/
def Ascending {α : Type u} (entries : List (String × α)) : Prop :=
  entries.Pairwise (fun a b => a.1 < b.1)

/-- Puts an entry at its place in an ascending list, replacing the entry of the same name. -/
def insertEntry {α : Type u} (key : String) (value : α) : List (String × α) → List (String × α)
  | [] => [(key, value)]
  | entry :: rest =>
    if key < entry.1 then (key, value) :: entry :: rest
    else if key = entry.1 then (key, value) :: rest
    else entry :: insertEntry key value rest

theorem fst_mem_insertEntry {α : Type u} {key : String} {value : α} {entries : List (String × α)}
    {e : String × α} (h : e ∈ insertEntry key value entries) : e = (key, value) ∨ e ∈ entries := by
  induction entries with
  | nil => simpa [insertEntry] using h
  | cons entry rest ih =>
    unfold insertEntry at h
    split at h
    · simpa using h
    · split at h
      · rcases List.mem_cons.1 h with h | h
        · exact .inl h
        · exact .inr (List.mem_cons_of_mem _ h)
      · rcases List.mem_cons.1 h with h | h
        · exact .inr (h ▸ List.mem_cons_self)
        · exact (ih h).imp id (List.mem_cons_of_mem _)

theorem name_lt_of_not_lt {a b : String} (h : ¬a < b) (hne : a ≠ b) : b < a := by
  refine Decidable.byContradiction fun h' => hne ?_
  exact String.le_antisymm (String.not_lt.1 h') (String.not_lt.1 h)

theorem Ascending.insertEntry {α : Type u} {entries : List (String × α)} (h : Ascending entries)
    (key : String) (value : α) : Ascending (insertEntry key value entries) := by
  induction entries with
  | nil => simp [SchemaMigration.insertEntry, Ascending]
  | cons entry rest ih =>
    obtain ⟨hentry, hrest⟩ := List.pairwise_cons.1 h
    unfold SchemaMigration.insertEntry
    split
    · rename_i hlt
      refine List.pairwise_cons.2 ⟨fun e he => ?_, h⟩
      rcases List.mem_cons.1 he with rfl | he
      · exact hlt
      · exact String.lt_trans hlt (hentry e he)
    · rename_i hge
      split
      · rename_i heq
        exact List.pairwise_cons.2 ⟨fun e he => heq ▸ hentry e he, hrest⟩
      · rename_i hne
        refine List.pairwise_cons.2 ⟨fun e he => ?_, ih hrest⟩
        rcases fst_mem_insertEntry he with rfl | he
        · exact name_lt_of_not_lt hge hne
        · exact hentry e he

/-- A finite map from names to values, listed in ascending order of the names. -/
structure Dict (α : Type u) where
  /-- The entries, in ascending order of their names. -/
  entries : List (String × α)
  /-- Names ascend strictly, so each occurs once. -/
  ascending : Ascending entries

namespace Dict

variable {α : Type u} {β : Type v}

instance : EmptyCollection (Dict α) := ⟨⟨[], List.Pairwise.nil⟩⟩

instance : Inhabited (Dict α) := ⟨∅⟩

@[ext] theorem ext {d e : Dict α} (h : d.entries = e.entries) : d = e := by
  cases d; cases e; congr

/-- The value under a name. -/
def get? (d : Dict α) (key : String) : Option α :=
  (d.entries.find? (fun e => e.1 == key)).map (·.2)

/-- Whether a name has a value. -/
def contains (d : Dict α) (key : String) : Bool :=
  d.entries.any (fun e => e.1 == key)

/-- The names, ascending. -/
def keys (d : Dict α) : List String :=
  d.entries.map (·.1)

/-- The values, in the order of their names. -/
def values (d : Dict α) : List α :=
  d.entries.map (·.2)

/-- Gives a name a value, replacing the one it had. -/
def insert (d : Dict α) (key : String) (value : α) : Dict α :=
  ⟨insertEntry key value d.entries, d.ascending.insertEntry key value⟩

/-- Gives a name a value unless it has one. -/
def insertIfNew (d : Dict α) (key : String) (value : α) : Dict α :=
  if d.contains key then d else d.insert key value

/-- Keeps the entries that satisfy a test. -/
def filter (p : String → α → Bool) (d : Dict α) : Dict α :=
  ⟨d.entries.filter (fun e => p e.1 e.2), List.Pairwise.filter _ d.ascending⟩

/-- Takes a name out. -/
def erase (d : Dict α) (key : String) : Dict α :=
  d.filter (fun k _ => k != key)

/-- Builds a dictionary; of two entries with one name the later one counts. -/
def ofList (entries : List (String × α)) : Dict α :=
  entries.foldl (fun d e => d.insert e.1 e.2) ∅

/-- Adds the entries of `e` to `d`; where both have a name, `e` wins. -/
def union (d e : Dict α) : Dict α :=
  e.entries.foldl (fun d e => d.insert e.1 e.2) d

theorem mem_or_mem_of_foldl_insert {l : List (String × α)} {d : Dict α} {e : String × α}
    (h : e ∈ (l.foldl (fun d e => d.insert e.1 e.2) d).entries) : e ∈ d.entries ∨ e ∈ l := by
  induction l generalizing d with
  | nil => exact .inl h
  | cons first rest ih =>
    rcases ih h with h | h
    · rcases fst_mem_insertEntry h with rfl | h
      · exact .inr List.mem_cons_self
      · exact .inl h
    · exact .inr (List.mem_cons_of_mem _ h)

/-- A dictionary has no entries but those of the list that it is built from. -/
theorem mem_of_mem_ofList {l : List (String × α)} {e : String × α}
    (h : e ∈ (ofList l).entries) : e ∈ l :=
  (mem_or_mem_of_foldl_insert h).resolve_left nofun

/-- The value of an entry is found under its name. -/
theorem get?_of_mem {d : Dict α} {e : String × α} (h : e ∈ d.entries) : d.get? e.1 = some e.2 := by
  have hfind (entries : List (String × α)) (hascending : Ascending entries) (h : e ∈ entries) :
      entries.find? (fun other => other.1 == e.1) = some e := by
    induction entries with
    | nil => cases h
    | cons first rest ih =>
      obtain ⟨hfirst, hrest⟩ := List.pairwise_cons.1 hascending
      rcases List.mem_cons.1 h with rfl | h
      · rw [List.find?_cons_of_pos (by simp)]
      · have hne : first.1 ≠ e.1 := fun heq => String.lt_irrefl _ (heq ▸ hfirst e h)
        rw [List.find?_cons_of_neg (by simpa using hne)]
        exact ih hrest h
  rw [get?, hfind d.entries d.ascending h]
  rfl

theorem find?_insertEntry_self (key : String) (value : α) (entries : List (String × α)) :
    (SchemaMigration.insertEntry key value entries).find? (fun e => e.1 == key) =
      some (key, value) := by
  induction entries with
  | nil => simp [SchemaMigration.insertEntry]
  | cons entry rest ih =>
    unfold SchemaMigration.insertEntry
    split
    · simp
    · split
      · simp
      · rename_i hne
        rw [List.find?_cons_of_neg (by simpa using fun h => hne h.symm)]
        exact ih

theorem find?_insertEntry_of_ne {key other : String} (value : α) (entries : List (String × α))
    (h : other ≠ key) :
    (SchemaMigration.insertEntry key value entries).find? (fun e => e.1 == other) =
      entries.find? (fun e => e.1 == other) := by
  induction entries with
  | nil => simp [SchemaMigration.insertEntry, Ne.symm h]
  | cons entry rest ih =>
    unfold SchemaMigration.insertEntry
    split
    · rw [List.find?_cons_of_neg (by simpa using Ne.symm h)]
    · split
      · rename_i heq
        rw [List.find?_cons_of_neg (by simpa using Ne.symm h),
          List.find?_cons_of_neg (by simpa [← heq] using Ne.symm h)]
      · by_cases he : entry.1 = other
        · simp [he]
        · rw [List.find?_cons_of_neg (by simpa using he), List.find?_cons_of_neg (by simpa using he),
            ih]

/-- Reading after writing: the written name has the new value, every other name its old one. -/
theorem get?_insert (d : Dict α) (key other : String) (value : α) :
    (d.insert key value).get? other = if other = key then some value else d.get? other := by
  split
  · rename_i h
    simp [get?, insert, h, find?_insertEntry_self]
  · rename_i h
    simp [get?, insert, find?_insertEntry_of_ne value d.entries h]

@[simp] theorem get?_empty (key : String) : (∅ : Dict α).get? key = none := rfl

@[simp] theorem get?_insert_self (d : Dict α) (key : String) (value : α) :
    (d.insert key value).get? key = some value := by
  simp [get?_insert]

theorem get?_insert_of_ne (d : Dict α) {key other : String} (value : α) (h : other ≠ key) :
    (d.insert key value).get? other = d.get? other := by
  simp [get?_insert, h]

theorem contains_eq_isSome (d : Dict α) (key : String) :
    d.contains key = (d.get? key).isSome := by
  simp only [contains, get?, Option.isSome_map, List.isSome_find?]

theorem contains_eq_false {d : Dict α} {key : String} :
    d.contains key = false ↔ d.get? key = none := by
  rw [contains_eq_isSome, Option.isSome_eq_false_iff, Option.isNone_iff_eq_none]

theorem contains_of_get?_eq_some {d : Dict α} {key : String} {value : α}
    (h : d.get? key = some value) : d.contains key = true := by
  rw [contains_eq_isSome, h]
  rfl

/-- A removed name has no value, every other name keeps its own. -/
theorem get?_erase (d : Dict α) (key other : String) :
    (d.erase key).get? other = if other = key then none else d.get? other := by
  simp only [get?, erase, filter, List.find?_filter]
  split
  · rename_i h
    subst h
    rw [List.find?_eq_none.2 (by simp)]
    rfl
  · rename_i h
    congr 2
    funext e
    by_cases he : e.1 = other
    · simp [he, h]
    · simp [he]

end Dict

end SchemaMigration
