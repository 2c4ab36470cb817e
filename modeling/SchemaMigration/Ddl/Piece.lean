import SchemaMigration.Dialect
import SchemaMigration.Value.Text

/-!
# Pieces of statements

A statement of SQL is a list of pieces, each of which is of one sort: words of the language,
identifiers, literals, or fragments that are taken as they stand. `Piece.render` writes the list in a
dialect.
-/

namespace SchemaMigration

open Text

/-- A piece of a statement. -/
inductive Piece where
  /-- Words, marks and numbers of the language. -/
  | code (text : String)
  /-- A fragment that is taken as it stands. -/
  | raw (text : String)
  /-- An identifier. -/
  | name (identifier : String)
  /-- A text as a literal. -/
  | literal (text : String)
  /-- A value as a literal. -/
  | value (v : Value)

namespace Piece

/-- The text of a piece in a dialect. -/
def text (d : Dialect) : Piece → String
  | code words => words
  | raw fragment => fragment
  | name identifier => d.quoted identifier
  | literal content => quoteLiteral content
  | value v => v.literal

/-- The text of a list of pieces in a dialect. -/
def render (d : Dialect) (pieces : List Piece) : String :=
  String.join (pieces.map (text d))

/-- Lists of pieces with words between neighbours. -/
def separated (separator : String) : List (List Piece) → List Piece
  | [] => []
  | [pieces] => pieces
  | pieces :: rest => pieces ++ code separator :: separated separator rest

theorem separated_cons_cons (separator : String) (first next : List Piece)
    (rest : List (List Piece)) : separated separator (first :: next :: rest) =
      first ++ code separator :: separated separator (next :: rest) := rfl

/-- Identifiers with commas between them. -/
def names (identifiers : List String) : List Piece :=
  separated ", " (identifiers.map (fun identifier => [name identifier]))

/-- Literals with commas between them. -/
def literals (texts : List String) : List Piece :=
  separated ", " (texts.map (fun content => [literal content]))

/-- Words followed by a fragment, if there is one. -/
def optionalRaw (words : String) : Option String → List Piece
  | some fragment => [code words, raw fragment]
  | none => []

/-- Words, if a condition holds. -/
def codeIf (condition : Bool) (words : String) : List Piece :=
  if condition then [code words] else []

/-- A remark behind words, if there is one. -/
def remark (words : String) : Option String → List Piece
  | some content => [code words, literal content]
  | none => []

end Piece

/-- The pieces of the expression for the current time. -/
def Dialect.nowPieces : Dialect → List Piece
  | sqlite => [.code "(datetime(", .literal "now", .code "))"]
  | _ => [.code "CURRENT_TIMESTAMP"]

/-- The expression for the current time. -/
def Dialect.now (d : Dialect) : String :=
  Piece.render d d.nowPieces

end SchemaMigration
