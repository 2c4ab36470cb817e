import SchemaMigration.Proofs.Dict
import SchemaMigration.Proofs.Runner.NewNames
import SchemaMigration.Proofs.Source.Squash
import SchemaMigration.Proofs.Source.TypeName

/-!
# Migrations that stand for all tables

The source text that stands for all tables declares a type whose name is an identifier, and it
creates all tables but the tracking table in ascending order and drops them in descending order. But
neither the name nor the tables are looked at: for one word the name of the type is a reserved word,
and the tables are read back just if nothing in their names has a meaning of its own between quotes.
-/

namespace SchemaMigration

namespace Source

theorem isPlain_iff {text : List Char} : (∀ c ∈ text, isPlain c = true) ↔
    '"' ∉ text ∧ '\\' ∉ text ∧ '\r' ∉ text := by
  have hne {d : Char} : d ∉ text ↔ ∀ c ∈ text, c ≠ d :=
    ⟨fun h c hc heq => h (heq ▸ hc), fun h hd => h d hd rfl⟩
  simp only [isPlain, Bool.and_eq_true, bne_iff_ne, hne, ← forall₂_and, and_assoc]

end Source

namespace Runner

open Source

variable {s s' : Session} {r : Runner} {title : Option String} {write : Bool} {q : Squash}

/-- The tables are those of the store but for the tracking table, ascending. -/
theorem squash_tables (h : (r.squash title write).exec s = (.ok q, s')) :
    q.tables.Pairwise (· < ·) ∧
      ∀ table, table ∈ q.tables ↔ s.store.hasTable table = true ∧ table ≠ r.config.table := by
  obtain ⟨htables, -⟩ := squash_eq_ok h
  rw [htables]
  constructor
  · exact (List.pairwise_map.2 s.store.tables.ascending).filter _
  · intro table
    rw [List.mem_filter, bne_iff_ne]
    refine and_congr_left fun _ => ?_
    rw [Store.hasTable, Dict.contains_eq_isSome, Option.isSome_iff_exists]
    exact Dict.mem_keys

/-- The source text declares a type whose name is an identifier, and a reserved word for one word
only. All tables but the tracking table are read back from it, ascending where they are created and
descending where they are dropped, just if there are no quotes, backslashes and carriage returns in
their names. -/
theorem squash_is_read_iff (h : (r.squash title write).exec s = (.ok q, s')) :
    (q.tables.Pairwise (· < ·) ∧
      ∀ table, table ∈ q.tables ↔ s.store.hasTable table = true ∧ table ≠ r.config.table) ∧
    (∃ type, declared? (tokens q.contents) = some type ∧ IsIdentifier type ∧
      (type ∈ reservedWords ↔ snakeCase (title.getD "squashed_schema") = "self")) ∧
    ((tokens? q.contents).map (calls "create") = some q.tables ∧
        (tokens? q.contents).map (calls "drop_if_exists") = some q.tables.reverse ↔
      ∀ table ∈ q.tables, '"' ∉ table.toList ∧ '\\' ∉ table.toList ∧ '\r' ∉ table.toList) := by
  obtain ⟨-, -, hcontents, -⟩ := squash_eq_ok h
  obtain ⟨hidentifier, -⟩ := Scaffold.isIdentifier_typeName (title.getD "squashed_schema")
  simp only [← isPlain_iff]
  rw [hcontents]
  refine ⟨squash_tables h, ⟨_, ?_, hidentifier, Scaffold.typeName_mem_reservedWords_iff _⟩,
    fun hcalls => ?_, fun hplain => ?_⟩
  · exact Scaffold.declared?_source hidentifier.ne_empty hidentifier.parts _
  · exact Scaffold.isPlain_of_calls hidentifier.ne_empty hidentifier.parts hcalls.1
  · exact Scaffold.calls_source hidentifier.ne_empty hidentifier.parts hplain

/-- A session whose store has tables without columns. -/
def sessionWith (names : List String) : Session :=
  { store := { tables := names.foldl (fun d name => d.insert name { columns := [] }) ∅ } }

/-- Two tables besides the tracking table are read back. With a quote in the name of a table it is
not, and the name of the type can be a reserved word. -/
theorem quote_in_table_is_misread :
    (∃ q s', (Runner.squash {} none false).exec
        (sessionWith ["users", "arcanox_migrations", "posts"]) = (.ok q, s') ∧
      (∃ type, declared? (tokens q.contents) = some type ∧ type ∉ reservedWords) ∧
      (tokens? q.contents).map (calls "create") = some ["posts", "users"] ∧
      (tokens? q.contents).map (calls "drop_if_exists") = some ["users", "posts"]) ∧
    ∃ q s', (Runner.squash {} (some "self") false).exec (sessionWith ["a\"b"]) = (.ok q, s') ∧
      q.tables = ["a\"b"] ∧
      (∃ type, declared? (tokens q.contents) = some type ∧ type ∈ reservedWords) ∧
      ¬((tokens? q.contents).map (calls "create") = some q.tables ∧
        (tokens? q.contents).map (calls "drop_if_exists") = some q.tables.reverse) := by
  have hplain : ∃ q s', (Runner.squash {} none false).exec
      (sessionWith ["users", "arcanox_migrations", "posts"]) = (.ok q, s') ∧
      q.tables = ["posts", "users"] := ⟨_, _, rfl, rfl⟩
  have hquote : ∃ q s', (Runner.squash {} (some "self") false).exec (sessionWith ["a\"b"]) =
      (.ok q, s') ∧ q.tables = ["a\"b"] := ⟨_, _, rfl, rfl⟩
  have hwords : snakeCase "squashed_schema" ≠ "self" ∧ snakeCase "self" = "self" := by
    decide +kernel
  constructor
  · obtain ⟨q, s', hsquash, htables⟩ := hplain
    obtain ⟨-, ⟨type, hdeclared, -, htype⟩, hcalls⟩ := squash_is_read_iff hsquash
    rw [htables] at hcalls
    obtain ⟨hcreate, hdrop⟩ := hcalls.2 (by decide)
    exact ⟨q, s', hsquash, ⟨type, hdeclared, mt htype.1 hwords.1⟩, hcreate, hdrop⟩
  · obtain ⟨q, s', hsquash, htables⟩ := hquote
    obtain ⟨-, ⟨type, hdeclared, -, htype⟩, hcalls⟩ := squash_is_read_iff hsquash
    refine ⟨q, s', hsquash, htables, ⟨type, hdeclared, htype.2 hwords.2⟩, ?_⟩
    rw [hcalls, htables]
    decide

end Runner

end SchemaMigration
