import SchemaMigration.Column.Description
import SchemaMigration.Ddl.Definition

/-!
# Descriptions of blueprints

A blueprint is described by a JSON object with all that it collects. Indexes, foreign keys and
checks are described with the names that they get.
-/

namespace SchemaMigration

open Json

/-- The description of an index of a table. -/
def Index.describe (table : String) (i : Index) : Json :=
  ofFields [("columns", ofTexts i.columns), ("unique", .bool i.unique), ("name", ofText? i.name),
    ("type", ofText? (i.method.map (·.name))), ("where", ofText? i.predicate),
    ("include", ofTexts i.included), ("name_for", .string (i.nameFor table))]

/-- The description of a foreign key. -/
def ForeignKey.describe (k : ForeignKey) : Json :=
  ofFields [("table", .string k.table), ("columns", ofTexts k.columns),
    ("references", ofTexts k.references), ("on", ofText? k.target),
    ("on_delete", ofText? (k.onDelete.map (·.sqlName))),
    ("on_update", ofText? (k.onUpdate.map (·.sqlName))),
    ("name", ofText? k.name), ("deferrable", .bool k.deferrable),
    ("constraint_name", .string k.constraintName)]

/-- The description of a check. -/
def Check.describe (c : Check) : Json :=
  ofFields [("table", .string c.table), ("expression", .string c.expression),
    ("name", ofText? c.name), ("definition", .string (Piece.render .postgresql c.condition))]

/-- The description of a blueprint. -/
def Blueprint.describe (b : Blueprint) : Json :=
  ofFields [("table", .string b.table), ("columns", ofList Column.describe b.columns),
    ("indexes", ofList (Index.describe b.table) b.indexes),
    ("foreign_keys", ofList ForeignKey.describe b.foreignKeys),
    ("checks", ofList Check.describe b.checks), ("primary_key", ofTexts b.primaryKey),
    ("dropped_columns", ofTexts b.droppedColumns),
    ("renamed_columns", ofList (fun (old, new) => ofTexts [old, new]) b.renamedColumns),
    ("dropped_indexes", ofTexts b.droppedIndexes),
    ("dropped_foreign_keys", ofTexts b.droppedForeignKeys),
    ("drops_primary", .bool b.dropsPrimary), ("comment", ofText? b.comment),
    ("temporary", .bool b.temporary), ("has_constraints", .bool b.hasConstraints),
    ("has_alterations", .bool b.hasAlterations)]

end SchemaMigration
