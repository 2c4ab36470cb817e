import SchemaMigration.Dialect
import SchemaMigration.Error
import SchemaMigration.Text.LowerCase

/-!
# Backends

The kinds of databases. A backend is named in any case and by some short names; only the relational
ones have a dialect of SQL.
-/

namespace SchemaMigration

open Text

/-- A kind of database. -/
inductive Backend where
  /-- A relational database with a dialect. -/
  | relational (dialect : Dialect)
  /-- A store of documents. -/
  | mongodb
  /-- A store in memory. -/
  | memory
deriving DecidableEq, Inhabited

namespace Backend

/-- The name of a backend. -/
def name : Backend → String
  | relational dialect => dialect.name
  | mongodb => "mongodb"
  | memory => "memory"

/-- The dialect of a backend, if it is relational. -/
def dialect? : Backend → Option Dialect
  | relational dialect => some dialect
  | _ => none

/-- Whether a backend stores documents without a schema. -/
def storesDocuments : Backend → Bool
  | mongodb => true
  | _ => false

/-- The names under which backends are known. -/
def names : List (String × Backend) :=
  [("postgresql", relational .postgresql), ("postgres", relational .postgresql),
    ("pg", relational .postgresql), ("mysql", relational .mysql), ("mariadb", relational .mysql),
    ("sqlite", relational .sqlite), ("mongodb", mongodb), ("mongo", mongodb), ("memory", memory)]

/-- The backend with a name, in any case. -/
def ofName (name : String) : Except Error Backend :=
  match names.lookup (lower name) with
  | some backend => .ok backend
  | none => .error (.configuration (.unsupportedBackend name))

end Backend

end SchemaMigration
