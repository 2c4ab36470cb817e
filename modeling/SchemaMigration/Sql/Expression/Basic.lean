import SchemaMigration.Sql.TypeName.Basic

/-!
# Expressions of SQL

Expressions and their normal form: keywords in upper case, one blank around an operator between two
operands, a comma and a blank between the items of a list. Parentheses are part of an expression, so
none are added.
-/

namespace SchemaMigration.Sql

open Text

/-- An operator in front of an operand. -/
inductive UnaryOperator where
  | plus
  | minus
  | not
deriving DecidableEq

/-- The text of an operator in front of its operand. -/
def UnaryOperator.text : UnaryOperator → String
  | plus => "+"
  | minus => "-"
  | not => "NOT "

/-- An operator between two operands. -/
inductive BinaryOperator where
  | or
  | and
  | xor
  | eq
  | ne
  | lt
  | le
  | gt
  | ge
  | sameAs
  /-- A comparison of texts or of documents, by its symbol. -/
  | matching (symbol : String)
  | bitOr
  | bitXor
  | shiftLeft
  | shiftRight
  | bitAnd
  | plus
  | minus
  | times
  | divide
  | divideWhole
  | modulo
  | concat
  /-- An access to a part of a document, by its symbol. -/
  | access (symbol : String)
deriving DecidableEq

namespace BinaryOperator

/-- The text of an operator. -/
def text : BinaryOperator → String
  | or => "OR"
  | and => "AND"
  | xor => "XOR"
  | eq => "="
  | ne => "<>"
  | lt => "<"
  | le => "<="
  | gt => ">"
  | ge => ">="
  | sameAs => "<=>"
  | matching symbol => symbol
  | bitOr => "|"
  | bitXor => "^"
  | shiftLeft => "<<"
  | shiftRight => ">>"
  | bitAnd => "&"
  | plus => "+"
  | minus => "-"
  | times => "*"
  | divide => "/"
  | divideWhole => "//"
  | modulo => "%"
  | concat => "||"
  | access symbol => symbol

/-- How strongly an operator binds. -/
def strength : BinaryOperator → Nat
  | or => 5
  | and => 10
  | xor => 24
  | eq | ne | lt | le | gt | ge | sameAs | matching _ => 20
  | bitOr => 21
  | bitXor | shiftLeft | shiftRight => 22
  | bitAnd => 23
  | plus | minus => 30
  | times | divide | divideWhole | modulo | concat => 40
  | access _ => 50

/-- Whether an operator compares a value with another one in the order of values. -/
def isComparison : BinaryOperator → Bool
  | eq | ne | lt | le | gt | ge => true
  | _ => false

/-- Whether an operator connects truth values. -/
def isLogical : BinaryOperator → Bool
  | or | and | xor => true
  | _ => false

/-- The symbols that compare texts with patterns. -/
def matchingSymbols : List String :=
  ["~", "~*", "!~", "!~*", "~~", "~~*", "!~~", "!~~*"]

/-- The symbols that look into documents. -/
def accessSymbols : List String :=
  ["->", "->>", "#>", "#>>", "@>", "<@", "#-", "@?", "@@"]

/-- The operators that are written with symbols. -/
def symbols : List (String × BinaryOperator) :=
  [("=", eq), ("==", eq), ("<>", ne), ("!=", ne), ("<", lt), ("<=", le), (">", gt), (">=", ge),
    ("<=>", sameAs), ("|", bitOr), ("^", bitXor), ("<<", shiftLeft), (">>", shiftRight),
    ("&", bitAnd), ("+", plus), ("-", minus), ("*", times), ("/", divide), ("//", divideWhole),
    ("%", modulo), ("||", concat)]
  ++ matchingSymbols.map (fun symbol => (symbol, matching symbol))
  ++ accessSymbols.map (fun symbol => (symbol, access symbol))

end BinaryOperator

/-- What a value can be said to be. -/
inductive Fact where
  | null
  | true
  | false
  | unknown
deriving DecidableEq

/-- The keyword for a fact. -/
def Fact.text : Fact → String
  | null => "NULL"
  | true => "TRUE"
  | false => "FALSE"
  | unknown => "UNKNOWN"

/-- A way to compare a value with a pattern. -/
inductive Pattern where
  | like
  | ilike
  | similar
  | regexp
  | rlike
deriving DecidableEq

namespace Pattern

/-- The keywords for a comparison with a pattern. -/
def text : Pattern → String
  | like => "LIKE"
  | ilike => "ILIKE"
  | similar => "SIMILAR TO"
  | regexp => "REGEXP"
  | rlike => "RLIKE"

/-- Whether the pattern may be followed by the character that takes away the meaning of others. -/
def hasEscape : Pattern → Bool
  | like | ilike | similar => true
  | regexp | rlike => false

end Pattern

/-- Which arguments a function of many rows is applied to. -/
inductive Repetition where
  /-- To all, as is said. -/
  | all
  /-- To different ones. -/
  | distinct
deriving DecidableEq

/-- The text of a choice of arguments. -/
def Repetition.text : Repetition → String
  | all => "ALL "
  | distinct => "DISTINCT "

/-- An expression. -/
inductive Expr where
  /-- A name, perhaps with points. -/
  | name (path : QualifiedName)
  /-- All columns, perhaps of a table. -/
  | wildcard (table : QualifiedName)
  /-- A number, as it was written. -/
  | number (text : List Char)
  /-- A literal. -/
  | literal (text : List Char)
  /-- A literal with its character set in front. -/
  | introduced (set text : List Char)
  /-- A literal with its type in front. -/
  | typed (type : TypeName) (text : List Char)
  /-- A truth value. -/
  | truth (b : Bool)
  /-- No value. -/
  | null
  /-- Expressions in parentheses. -/
  | group (items : List Expr)
  /-- A part of a compound value. -/
  | field (value : Expr) (part : Ident)
  /-- A text with the order of its characters. -/
  | collate (value : Expr) (order : QualifiedName)
  /-- A value of another type, written with a symbol. -/
  | cast (value : Expr) (type : TypeName)
  /-- An operator and its operand. -/
  | unary (operator : UnaryOperator) (operand : Expr)
  /-- An operator between two operands. -/
  | binary (operator : BinaryOperator) (left right : Expr)
  /-- An operator between a value and all of several, or any of them. -/
  | quantified (operator : BinaryOperator) (all : Bool) (left right : Expr)
  /-- Whether a value is something. -/
  | test (operand : Expr) (negated : Bool) (fact : Fact)
  /-- Whether a value differs from another one. -/
  | differs (operand : Expr) (negated : Bool) (other : Expr)
  /-- Whether a value is one of several. -/
  | oneOf (operand : Expr) (negated : Bool) (items : List Expr)
  /-- Whether a value lies between two. -/
  | between (operand : Expr) (negated : Bool) (low high : Expr)
  /-- Whether a value has the form of a pattern. -/
  | like (operand : Expr) (negated : Bool) (pattern : Pattern) (form : Expr)
    (escape : Option (List Char))
  /-- A moment in a time zone. -/
  | inZone (moment zone : Expr)
  /-- The value of a function, perhaps with what is to be done about absent values, and over a
  window. -/
  | call (function : QualifiedName) (repetition : Option Repetition) (arguments : List Expr)
    (absent : Option String) (window : Option Ident)
  /-- Expressions with keywords in front of each and behind the last. -/
  | phrase (parts : List (String × Expr)) (ending : String)

namespace Expr

/-- The keyword of a negation, if there is one. -/
def notIf (negated : Bool) : String :=
  if negated then " NOT" else ""

mutual

/-- The text of an expression. -/
def render : Expr → String
  | name path => path.render
  | wildcard table => if table.isEmpty then "*" else table.render ++ ".*"
  | number text => String.ofList text
  | literal text => literalText text
  | introduced set text => String.ofList set ++ " " ++ literalText text
  | typed type text => type.render ++ " " ++ literalText text
  | truth b => if b then "true" else "false"
  | null => "NULL"
  | group items => "(" ++ join ", " (renderAll items) ++ ")"
  | field value part => value.render ++ "." ++ part.render
  | collate value order => value.render ++ " COLLATE " ++ order.render
  | cast value type => value.render ++ "::" ++ type.render
  | unary operator operand => operator.text ++ operand.render
  | binary operator left right => left.render ++ " " ++ operator.text ++ " " ++ right.render
  | quantified operator all left right =>
    left.render ++ " " ++ operator.text ++ (if all then " ALL(" else " ANY(") ++ right.render ++ ")"
  | test operand negated fact => operand.render ++ " IS" ++ notIf negated ++ " " ++ fact.text
  | differs operand negated other =>
    operand.render ++ " IS" ++ notIf negated ++ " DISTINCT FROM " ++ other.render
  | oneOf operand negated items =>
    operand.render ++ notIf negated ++ " IN (" ++ join ", " (renderAll items) ++ ")"
  | between operand negated low high =>
    operand.render ++ notIf negated ++ " BETWEEN " ++ low.render ++ " AND " ++ high.render
  | like operand negated pattern form escape =>
    operand.render ++ notIf negated ++ " " ++ pattern.text ++ " " ++ form.render
      ++ (match escape with
        | some text => " ESCAPE '" ++ String.ofList text ++ "'"
        | none => "")
  | inZone moment zone => moment.render ++ " AT TIME ZONE " ++ zone.render
  | call function repetition arguments absent window =>
    function.render ++ "("
      ++ (match repetition with
        | some repetition => repetition.text
        | none => "")
      ++ join ", " (renderAll arguments) ++ ")"
      ++ (match absent with
        | some words => " " ++ words
        | none => "")
      ++ (match window with
        | some window => " OVER " ++ window.render
        | none => "")
  | phrase parts ending => renderParts parts ++ ending

/-- The texts of expressions. -/
def renderAll : List Expr → List String
  | [] => []
  | item :: rest => render item :: renderAll rest

/-- The text of expressions with keywords in front of each. -/
def renderParts : List (String × Expr) → String
  | [] => ""
  | (words, item) :: rest => words ++ render item ++ renderParts rest

end

end Expr

end SchemaMigration.Sql
