import Mathlib.Data.List.Sort
import SchemaMigration.Dict

/-!
# Look-ups in dictionaries

A dictionary is known by its look-ups: which entries and names it has, when it is equal to another
one, and what is found in one that was built from a list.
-/

namespace SchemaMigration

namespace Dict

variable {α : Type} {d e : Dict α}

theorem mem_entries {entry : String × α} : entry ∈ d.entries ↔ d.get? entry.1 = some entry.2 := by
  refine ⟨get?_of_mem, fun h => ?_⟩
  obtain ⟨found, hfind, hvalue⟩ := Option.map_eq_some_iff.1 h
  have hname : found.1 = entry.1 := by simpa using List.find?_some hfind
  exact Prod.ext hname hvalue ▸ List.mem_of_find?_eq_some hfind

/-- Dictionaries with the same look-ups are equal. -/
theorem ext_get? (h : ∀ key, d.get? key = e.get? key) : d = e := by
  have : Std.Antisymm fun a b : String × α => a.1 < b.1 :=
    ⟨fun a b hab hba => absurd (String.lt_trans hab hba) (String.lt_irrefl _)⟩
  have : Std.Irrefl fun a b : String × α => a.1 < b.1 := ⟨fun a => String.lt_irrefl a.1⟩
  refine Dict.ext (d.ascending.eq_of_mem_iff e.ascending fun entry => ?_)
  rw [mem_entries, mem_entries, h]

theorem erase_of_get?_eq_none {key : String} (h : d.get? key = none) : d.erase key = d := by
  refine ext_get? fun other => ?_
  rw [get?_erase]
  split
  · rename_i heq
    rw [heq, h]
  · rfl

theorem insert_of_get?_eq_some {key : String} {value : α} (h : d.get? key = some value) :
    d.insert key value = d := by
  refine ext_get? fun other => ?_
  rw [get?_insert]
  split
  · rename_i heq
    rw [heq, h]
  · rfl

theorem insert_insert (d : Dict α) (key : String) (first second : α) :
    (d.insert key first).insert key second = d.insert key second := by
  refine ext_get? fun other => ?_
  simp only [get?_insert]
  split <;> rfl

theorem keys_congr {β : Type} {e : Dict β} (h : ∀ key, d.contains key = e.contains key) :
    d.keys = e.keys := by
  have : Std.Antisymm fun a b : String => a < b :=
    ⟨fun a b hab hba => absurd (String.lt_trans hab hba) (String.lt_irrefl _)⟩
  have : Std.Irrefl fun a b : String => a < b := ⟨fun a => String.lt_irrefl a⟩
  refine (List.pairwise_map.2 d.ascending).eq_of_mem_iff (List.pairwise_map.2 e.ascending) ?_
  intro key
  have hkey := Bool.eq_iff_iff.1 (h key)
  simpa [contains, keys] using hkey

theorem mem_keys {key : String} :
    key ∈ d.keys ↔ ∃ value, d.get? key = some value := by
  rw [← Option.isSome_iff_exists, ← contains_eq_isSome]
  simp [keys, contains]

theorem eq_empty (h : ∀ key, d.get? key = none) : d = ∅ := by
  refine Dict.ext (List.eq_nil_iff_forall_not_mem.2 fun entry hentry => ?_)
  obtain ⟨value, hvalue⟩ := mem_keys.1 (List.mem_map_of_mem hentry : entry.1 ∈ d.keys)
  simp [h] at hvalue

theorem get?_filter_name (d : Dict α) (p : String → Bool) (key : String) :
    (d.filter fun name _ => p name).get? key = if p key then d.get? key else none := by
  simp only [get?, filter, List.find?_filter]
  split
  · rename_i h
    congr 2
    funext e
    by_cases he : e.1 = key <;> simp [he, h]
  · rename_i h
    rw [List.find?_eq_none.2 fun e _ he => ?_]
    · rfl
    · obtain ⟨hp, rfl⟩ : p e.1 = true ∧ e.1 = key := by simpa using he
      exact h hp

theorem get?_insertIfNew (d : Dict α) (key other : String) (value : α) :
    (d.insertIfNew key value).get? other =
      (d.get? other).or (if key = other then some value else none) := by
  unfold insertIfNew
  split
  · rename_i h
    by_cases hkey : key = other
    · obtain ⟨known, hknown⟩ := Option.isSome_iff_exists.1 ((contains_eq_isSome d key).symm.trans h)
      rw [← hkey, hknown]
      rfl
    · rw [if_neg hkey, Option.or_none]
  · rename_i h
    rw [get?_insert]
    by_cases hkey : other = key
    · have hnone := contains_eq_false.1 (Bool.eq_false_iff.2 h)
      rw [hkey, if_pos rfl, if_pos rfl, hnone]
      rfl
    · rw [if_neg hkey, if_neg (Ne.symm hkey), Option.or_none]

/-- Of the entries that are inserted under a name the last one counts. -/
theorem get?_foldl_insert (entries : List (String × α)) (d : Dict α) (key : String) :
    (entries.foldl (fun d e => d.insert e.1 e.2) d).get? key =
      ((entries.reverse.find? fun e => e.1 == key).map (·.2)).or (d.get? key) := by
  induction entries generalizing d with
  | nil => rfl
  | cons entry rest ih =>
    rw [List.foldl_cons, ih, get?_insert, List.reverse_cons, List.find?_append]
    by_cases h : entry.1 = key
    · cases rest.reverse.find? fun e => e.1 == key <;> simp [h]
    · cases rest.reverse.find? fun e => e.1 == key <;> simp [h, Ne.symm h]

/-- Where two dictionaries are joined, what the second one has under a name counts. -/
theorem get?_union (d e : Dict α) (key : String) :
    (d.union e).get? key = (e.get? key).or (d.get? key) := by
  rw [union, get?_foldl_insert]
  congr 1
  cases hfind : e.entries.reverse.find? fun entry => entry.1 == key with
  | some entry =>
    have hmem : entry ∈ e.entries := List.mem_reverse.1 (List.mem_of_find?_eq_some hfind)
    have hname : entry.1 = key := by simpa using List.find?_some hfind
    rw [← hname, mem_entries.1 hmem]
    rfl
  | none =>
    cases hget : e.get? key with
    | none => rfl
    | some value =>
      have hmem : (key, value) ∈ e.entries := mem_entries.2 hget
      exact absurd (List.find?_eq_none.1 hfind _ (List.mem_reverse.2 hmem)) (by simp)

/-- Of the entries that are added under a new name the first one counts. -/
theorem get?_foldl_insertIfNew {β : Type} (f : String × β → α) (entries : List (String × β))
    (d : Dict α) (key : String) :
    (entries.foldl (fun d e => d.insertIfNew e.1 (f e)) d).get? key =
      (d.get? key).or ((entries.find? fun e => e.1 == key).map f) := by
  induction entries generalizing d with
  | nil => exact (Option.or_none).symm
  | cons entry rest ih =>
    rw [List.foldl_cons, ih, get?_insertIfNew, Option.or_assoc]
    by_cases h : entry.1 = key
    · rw [if_pos h, List.find?_cons_of_pos (by simpa using h)]
      rfl
    · rw [if_neg h, List.find?_cons_of_neg (by simpa using h)]
      rfl

end Dict

end SchemaMigration
