import SchemaMigration.Text.Pieces

/-!
# Dialects of SQL

The three dialects differ in the quotes of identifiers, the placeholders of parameters, the
expression for the current time, and in whether changes to a schema are part of a transaction.
-/

namespace SchemaMigration

open Text

/-- A dialect of SQL. -/
inductive Dialect where
  /-- PostgreSQL. -/
  | postgresql
  /-- MySQL. -/
  | mysql
  /-- SQLite. -/
  | sqlite
deriving DecidableEq, Inhabited

namespace Dialect

/-- The name of a dialect. -/
def name : Dialect → String
  | postgresql => "postgresql"
  | mysql => "mysql"
  | sqlite => "sqlite"

/-- The quote around identifiers. -/
def quote : Dialect → Char
  | mysql => '\x60'
  | _ => '"'

/-- An identifier in quotes, with the quotes inside written twice. -/
def quoted (d : Dialect) (identifier : String) : String :=
  String.ofList (d.quote :: (double d.quote identifier.toList ++ [d.quote]))

/-- The placeholder of the parameter at an index, counted from 0; a number in it has 64 bits. -/
def placeholder? (d : Dialect) (index : Nat) : Option String :=
  match d with
  | postgresql => if index + 1 < UInt64.size then some ("$" ++ toString (index + 1)) else none
  | _ => some "?"

/-- Whether a change of the schema can be rolled back with the transaction it is part of. -/
def transactionalDdl : Dialect → Bool
  | mysql => false
  | _ => true

end Dialect

end SchemaMigration
