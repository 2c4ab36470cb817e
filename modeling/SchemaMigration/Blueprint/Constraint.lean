import SchemaMigration.Error
import SchemaMigration.Text.LowerCase

/-!
# Indexes, foreign keys and checks

What a table declares beside its columns. Each has a name of its own or one made of the table and
the columns.
-/

namespace SchemaMigration

open Text

/-- The name of an index or a constraint that was given none: the table, the columns and a suffix in
lower case, with underscores for hyphens and points. -/
def defaultName (table : String) (columns : List String) (suffix : String) : String :=
  let joined := lower (join "_" (table :: columns ++ [suffix]))
  String.ofList (joined.toList.map (fun c => if c = '-' ∨ c = '.' then '_' else c))

/-- The way in which an index is kept. -/
inductive IndexMethod where
  /-- A balanced tree. -/
  | btree
  /-- A hash table. -/
  | hash
  /-- An inverted index. -/
  | gin
  /-- A search tree of any kind. -/
  | gist
  /-- A partitioned search tree. -/
  | spgist
  /-- Ranges of blocks. -/
  | brin
  /-- An index of words. -/
  | fulltext
  /-- An index of places. -/
  | spatial
deriving DecidableEq

/-- The name of a method. -/
def IndexMethod.name : IndexMethod → String
  | btree => "btree"
  | hash => "hash"
  | gin => "gin"
  | gist => "gist"
  | spgist => "spgist"
  | brin => "brin"
  | fulltext => "fulltext"
  | spatial => "spatial"

/-- An index of a table. -/
structure Index where
  /-- The columns in order. -/
  columns : List String
  /-- Whether no two rows may agree in the columns. -/
  unique : Bool := false
  /-- The name, if it was given one. -/
  name : Option String := none
  /-- The way in which the index is kept. -/
  method : Option IndexMethod := none
  /-- The rows that count, if not all do. -/
  predicate : Option String := none
  /-- Columns that are kept along. -/
  included : List String := []
deriving DecidableEq

namespace Index

/-- The end of the name of an index that was given none. -/
def suffix (i : Index) : String :=
  if i.unique then "unique"
  else match i.method with
    | some .fulltext => "fulltext"
    | some .spatial => "spatial"
    | _ => "index"

/-- The name of an index of a table. -/
def nameFor (i : Index) (table : String) : String :=
  i.name.getD (defaultName table i.columns i.suffix)

/-- A modifier of an index. -/
inductive Modifier where
  /-- The name. -/
  | name (text : String)
  /-- The way in which the index is kept. -/
  | method (m : IndexMethod)
  /-- The rows that count. -/
  | predicate (text : String)
  /-- Columns that are kept along. -/
  | included (columns : List String)

/-- The index with a modifier set. -/
def modify (i : Index) : Modifier → Index
  | .name text => { i with name := some text }
  | .method m => { i with method := some m }
  | .predicate text => { i with predicate := some text }
  | .included columns => { i with included := columns }

end Index

/-- What happens to a row when the row it refers to is deleted or changed. -/
inductive ReferentialAction where
  /-- The same. -/
  | cascade
  /-- It must not happen. -/
  | restrict
  /-- The reference is emptied. -/
  | setNull
  /-- The reference gets its default. -/
  | setDefault
  /-- It must not happen by the end of the transaction. -/
  | noAction
deriving DecidableEq

/-- The words for an action in SQL. -/
def ReferentialAction.sqlName : ReferentialAction → String
  | cascade => "CASCADE"
  | restrict => "RESTRICT"
  | setNull => "SET NULL"
  | setDefault => "SET DEFAULT"
  | noAction => "NO ACTION"

/-- A foreign key of a table. -/
structure ForeignKey where
  /-- The table that has the key. -/
  table : String
  /-- The columns of the key. -/
  columns : List String
  /-- The columns that the key refers to. -/
  references : List String := []
  /-- The table that the key refers to. -/
  target : Option String := none
  /-- What happens when the row is deleted. -/
  onDelete : Option ReferentialAction := none
  /-- What happens when the row is changed. -/
  onUpdate : Option ReferentialAction := none
  /-- The name, if it was given one. -/
  name : Option String := none
  /-- Whether the key is checked only at the end of a transaction. -/
  deferrable : Bool := false
deriving DecidableEq

namespace ForeignKey

/-- The name of the constraint. -/
def constraintName (k : ForeignKey) : String :=
  k.name.getD (defaultName k.table k.columns "foreign")

/-- The table that a key refers to. -/
def target? (k : ForeignKey) : Except Error String :=
  match k.target with
  | some table => .ok table
  | none => .error (.validation (.noReferencedTable k.table k.columns))

/-- The columns that a key refers to: `id` if none are given. -/
def referencedColumns (k : ForeignKey) : List String :=
  if k.references.isEmpty then ["id"] else k.references

/-- A modifier of a foreign key. -/
inductive Modifier where
  /-- The columns that the key refers to. -/
  | references (columns : List String)
  /-- The table that the key refers to. -/
  | target (table : String)
  /-- What happens when the row is deleted. -/
  | onDelete (action : ReferentialAction)
  /-- What happens when the row is changed. -/
  | onUpdate (action : ReferentialAction)
  /-- The name. -/
  | name (text : String)
  /-- The key is checked only at the end of a transaction. -/
  | deferrable

/-- The key with a modifier set. -/
def modify (k : ForeignKey) : Modifier → ForeignKey
  | .references columns => { k with references := columns }
  | .target table => { k with target := some table }
  | .onDelete action => { k with onDelete := some action }
  | .onUpdate action => { k with onUpdate := some action }
  | .name text => { k with name := some text }
  | .deferrable => { k with deferrable := true }

end ForeignKey

/-- A condition that every row of a table meets. -/
structure Check where
  /-- The table. -/
  table : String
  /-- The condition. -/
  expression : String
  /-- The name, if it was given one. -/
  name : Option String := none
deriving DecidableEq

end SchemaMigration
