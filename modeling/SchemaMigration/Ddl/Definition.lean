import SchemaMigration.Blueprint.Basic
import SchemaMigration.Ddl.TypeName

/-!
# Definitions in statements

The pieces that define a column, a constraint or an index in a dialect.
-/

namespace SchemaMigration

open Text

/-- The expression of a generated column. PostgreSQL keeps every generated column. -/
def Generated.pieces (d : Dialect) : Generated → List Piece
  | stored expression => [.code " GENERATED ALWAYS AS (", .raw expression, .code ") STORED"]
  | virtual expression =>
    [.code " GENERATED ALWAYS AS (", .raw expression,
      .code (if d = .postgresql then ") STORED" else ") VIRTUAL")]

/-- The default of a column. SQLite has numbers for truth values. -/
def ColumnDefault.pieces (d : Dialect) : ColumnDefault → List Piece
  | value (.bool b) =>
    if d = .sqlite then [.code (if b then "1" else "0")] else [.value (.bool b)]
  | value v => [.value v]
  | expression text => [.raw text]
  | currentTimestamp => d.nowPieces

namespace Column

/-- The expression that generates a column, if there is one. -/
def generation (c : Column) : Option Generated :=
  c.generated.or (match c.kind with
    | .computed expression => some (.stored expression)
    | _ => none)

/-- Whether a column is declared to have a value in every row. -/
def required (d : Dialect) (c : Column) : Bool :=
  !c.nullable || c.primary || (d == .postgresql && c.autoIncrement)

/-- How a column that numbers the rows is marked, apart from its type. -/
def numberingText (d : Dialect) (c : Column) : String :=
  match d with
  | .mysql => if c.autoIncrement then " AUTO_INCREMENT" else ""
  | .sqlite => if c.autoIncrement && c.primary then " AUTOINCREMENT" else ""
  | .postgresql => ""

/-- The definition of a column: name, type, and modifiers in a fixed order. -/
def pieces (d : Dialect) (c : Column) : List Piece :=
  .name c.name :: .code " " :: (c.typePieces d
    ++ (match c.generation with
      | some generated => generated.pieces d
      | none => [])
    ++ (if d = .mysql then Piece.optionalRaw " CHARACTER SET " c.charset else [])
    ++ Piece.optionalRaw " COLLATE " c.collation
    ++ [.code (if c.required d then " NOT NULL" else " NULL")]
    ++ (match c.default with
      | some default => .code " DEFAULT " :: default.pieces d
      | none => [])
    ++ Piece.codeIf (c.useCurrentOnUpdate && d == .mysql) " ON UPDATE CURRENT_TIMESTAMP"
    ++ Piece.codeIf c.primary " PRIMARY KEY"
    ++ [.code (c.numberingText d)]
    ++ Piece.codeIf c.unique " UNIQUE"
    ++ Piece.codeIf (c.invisible && d == .mysql) " INVISIBLE"
    ++ (if d = .mysql then Piece.remark " COMMENT " c.comment else []))

/-- The type of a column as text. -/
def typeText (d : Dialect) (c : Column) : String :=
  Piece.render d (c.typePieces d)

end Column

namespace ForeignKey

/-- An action behind words, if there is one. -/
def actionPieces (words : String) : Option ReferentialAction → List Piece
  | some action => [.code (words ++ action.sqlName)]
  | none => []

/-- The constraint of a foreign key that refers to a table. -/
def pieces (d : Dialect) (k : ForeignKey) (target : String) : List Piece :=
  .code "CONSTRAINT " :: .name k.constraintName :: .code " FOREIGN KEY (" ::
    (Piece.names k.columns ++ .code ") REFERENCES " :: .name target :: .code " (" ::
      (Piece.names k.referencedColumns ++ .code ")" ::
        (actionPieces " ON DELETE " k.onDelete ++ actionPieces " ON UPDATE " k.onUpdate
          ++ Piece.codeIf (k.deferrable && d != .mysql) " DEFERRABLE INITIALLY DEFERRED")))

/-- The constraint of a foreign key as text. -/
def text (d : Dialect) (k : ForeignKey) : Except Error String := do
  return Piece.render d (k.pieces d (← k.target?))

end ForeignKey

namespace Check

/-- The condition of a check. -/
def condition (c : Check) : List Piece :=
  [.code "CHECK (", .raw c.expression, .code ")"]

/-- The constraint of a check. -/
def pieces (c : Check) : List Piece :=
  match c.name with
  | some name => .code "CONSTRAINT " :: .name name :: .code " " :: c.condition
  | none => c.condition

/-- The constraint of a check as text. -/
def text (d : Dialect) (c : Check) : String :=
  Piece.render d c.pieces

end Check

namespace IndexMethod

/-- How an index is marked as one of a kind in MySQL. -/
def mysqlKind : Option IndexMethod → String
  | some fulltext => "FULLTEXT INDEX"
  | some spatial => "SPATIAL INDEX"
  | _ => "INDEX"

/-- The method of an index in MySQL: only trees and hash tables can be chosen. -/
def mysqlUsing : Option IndexMethod → String
  | some btree => " USING BTREE"
  | some hash => " USING HASH"
  | _ => ""

/-- The name of a method in PostgreSQL, where words are found by an inverted index and places by a
search tree. -/
def postgresqlName : IndexMethod → String
  | fulltext => "gin"
  | spatial => "gist"
  | method => method.name

end IndexMethod

namespace Index

/-- How a unique index and another one are marked. -/
def kindText (i : Index) : String :=
  if i.unique then "UNIQUE INDEX" else "INDEX"

/-- The beginning of the statement that creates an index. -/
def heading (i : Index) (kind table : String) : List Piece :=
  [.code ("CREATE " ++ kind ++ " "), .name (i.nameFor table), .code " ON ", .name table]

/-- The columns of an index in PostgreSQL: an index of words is over the words in the columns. -/
def keyPieces (i : Index) : List Piece :=
  if i.method = some .fulltext then
    .code " ((" :: (Piece.separated " || " (i.columns.map (fun column =>
      [.code "to_tsvector(", .literal "english", .code ", ", .name column, .code ")"])) ++
        [.code "))"])
  else .code " (" :: (Piece.names i.columns ++ [.code ")"])

/-- The statement that creates an index of a table. -/
def pieces (d : Dialect) (table : String) (i : Index) : List Piece :=
  match d with
  | .mysql =>
    i.heading (if i.unique then "UNIQUE INDEX" else IndexMethod.mysqlKind i.method) table ++
      .code " (" :: (Piece.names i.columns ++ [.code (")" ++ IndexMethod.mysqlUsing i.method)])
  | .postgresql =>
    i.heading i.kindText table
      ++ (match i.method with
        | some method => [.code (" USING " ++ method.postgresqlName)]
        | none => [])
      ++ i.keyPieces
      ++ (if i.included.isEmpty then []
        else .code " INCLUDE (" :: (Piece.names i.included ++ [.code ")"]))
      ++ Piece.optionalRaw " WHERE " i.predicate
  | .sqlite =>
    i.heading i.kindText table ++ .code " (" :: (Piece.names i.columns ++ .code ")" ::
      Piece.optionalRaw " WHERE " i.predicate)

end Index

end SchemaMigration
