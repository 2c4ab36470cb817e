import SchemaMigration.Proofs.Ddl.Names

/-!
# What the text of an index tells

The statement that creates an index tells its columns in order, whether it is unique and, in
PostgreSQL and SQLite, which rows count. MySQL has no indexes of some rows only, and the condition
is left out there.
-/

namespace SchemaMigration

open Piece

namespace Index

variable {d : Dialect} {i i' : Index} {table : String}

/-- No kind of index in MySQL is called unique. -/
theorem mysqlKind_ne_unique (method : Option IndexMethod) :
    IndexMethod.mysqlKind method ≠ "UNIQUE INDEX" := by
  cases method with
  | none => decide
  | some method => cases method <;> decide

theorem kindWords_eq_unique_iff : i.kindWords d = "CREATE UNIQUE INDEX " ↔ i.unique = true := by
  have hwords (kind : String) :
      "CREATE " ++ kind ++ " " = "CREATE UNIQUE INDEX " ↔ kind = "UNIQUE INDEX" := by
    have hunique : "CREATE UNIQUE INDEX " = "CREATE " ++ "UNIQUE INDEX" ++ " " := by decide
    rw [hunique, String.append_left_inj, String.append_right_inj]
  rw [kindWords, hwords, kindText]
  cases i.unique with
  | true => simp
  | false =>
    by_cases hd : d = .mysql
    · simp [hd, mysqlKind_ne_unique]
    · simp [hd]

/-- Words in front of them tell a fragment from none. -/
theorem optionalRaw_inj {words : String} (hwords : words ≠ "") {fragment fragment' : Option String}
    (h : render d (optionalRaw words fragment) = render d (optionalRaw words fragment')) :
    fragment = fragment' := by
  have htext (content : String) :
      render d (optionalRaw words (some content)) = words ++ content := by
    simp [render, optionalRaw, Piece.text]
  have hnone : render d (optionalRaw words none) = "" := rfl
  cases fragment with
  | none =>
    cases fragment' with
    | none => rfl
    | some content =>
      rw [hnone, htext] at h
      exact absurd h.symm (by simp [hwords])
  | some content =>
    cases fragment' with
    | none =>
      rw [hnone, htext] at h
      exact absurd h (by simp [hwords])
    | some content' =>
      rw [htext, htext, String.append_right_inj] at h
      rw [h]

theorem predicate_of_behindKey (hd : d ≠ .mysql) (hincluded : i.included = i'.included)
    (h : (render d (i.behindKey d)).toList = (render d (i'.behindKey d)).toList) :
    i.predicate = i'.predicate := by
  cases d with
  | mysql => exact absurd rfl hd
  | postgresql =>
    rw [behindKey, behindKey, hincluded, toList_render_append, toList_render_append,
      List.append_cancel_left_eq] at h
    exact optionalRaw_inj (by decide) (String.toList_inj.1 h)
  | sqlite => exact optionalRaw_inj (by decide) (String.toList_inj.1 h)

/-- Of two indexes with the same name, method and columns that are kept along, the statements agree
just if the columns do, both or none are unique, and the conditions agree, which are left out in
MySQL. -/
theorem text_eq_iff (d : Dialect) (table : String) (hname : i.name = i'.name)
    (hmethod : i.method = i'.method) (hincluded : i.included = i'.included) :
    (Ddl.createIndex table i).text d = (Ddl.createIndex table i').text d ↔
      i.columns = i'.columns ∧ i.unique = i'.unique ∧
        (d ≠ .mysql → i.predicate = i'.predicate) := by
  constructor
  · intro h
    obtain ⟨hkind, -, -, hcolumns, hbehind⟩ := parts_of_render h
    have hunique : i.unique = true ↔ i'.unique = true := by
      rw [← kindWords_eq_unique_iff (d := d), ← kindWords_eq_unique_iff (d := d), hkind]
    exact ⟨hcolumns, Bool.eq_iff_iff.2 hunique,
      fun hd => predicate_of_behindKey hd hincluded hbehind⟩
  · rintro ⟨hcolumns, hunique, hpredicate⟩
    have hpieces : i.pieces d table = i'.pieces d table := by
      cases d with
      | mysql =>
        simp only [pieces, heading, nameFor, suffix, hname, hmethod, hcolumns, hunique]
      | postgresql | sqlite =>
        have heq : i = i' := by
          cases i
          cases i'
          simp_all
        rw [heq]
    rw [Ddl.text, Ddl.text, Ddl.pieces, Ddl.pieces, hpieces]

/-- In MySQL an address that only rows not yet deleted must not share is unique among all rows. -/
theorem condition_of_address_is_left_out :
    let address : Index := { columns := ["email"], unique := true, name := some "n" }
    let kept : Index := { address with predicate := some "deleted_at IS NULL" }
    (Ddl.createIndex "t" kept).text .mysql = (Ddl.createIndex "t" address).text .mysql ∧
      (Ddl.createIndex "t" kept).text .mysql =
        "CREATE UNIQUE INDEX \x60n\x60 ON \x60t\x60 (\x60email\x60)" ∧
      (Ddl.createIndex "t" kept).text .sqlite ≠ (Ddl.createIndex "t" address).text .sqlite := by
  intro address kept
  have hiff (d : Dialect) : (Ddl.createIndex "t" kept).text d =
      (Ddl.createIndex "t" address).text d ↔ kept.columns = address.columns ∧
        kept.unique = address.unique ∧ (d ≠ .mysql → kept.predicate = address.predicate) :=
    text_eq_iff d "t" rfl rfl rfl
  refine ⟨(hiff .mysql).2 ⟨rfl, rfl, fun h => absurd rfl h⟩, by decide +kernel, fun h => ?_⟩
  cases ((hiff .sqlite).1 h).2.2 (by decide)

end Index

end SchemaMigration
