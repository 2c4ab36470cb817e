import SchemaMigration.Text.Escaped
import SchemaMigration.Value.Basic

/-!
# Values as text

The three written forms of a value: a JSON tree, a literal of SQL in which a quote is written twice,
and the form for inspection, which shows the kind of the value.
-/

namespace SchemaMigration

open Text

/-- A text in single quotes with the quotes inside written twice. -/
def quoteLiteral (text : String) : String :=
  String.ofList ('\x27' :: (double '\x27' text.toList ++ ['\x27']))

namespace Json

/-- Numbers for inspection have a point or an exponent, which begins beyond sixteen digits before
the point and below a ten-thousandth. -/
def inspectedLayout : Decimal.Layout where
  plain := some (-4, 15)
  pointZero := true
  plusSign := false
  tie := .up

mutual

/-- The form of a tree for inspection. -/
def inspect : Json → String
  | null => "Null"
  | bool b => "Bool(" ++ (if b then "true" else "false") ++ ")"
  | int n => "Number(" ++ toString n ++ ")"
  | real x => "Number(" ++ writeReal x ++ ")"
  | string text => "String(" ++ escaped text ++ ")"
  | array items => "Array [" ++ join ", " (inspectItems items) ++ "]"
  | object entries => "Object \x7b" ++ join ", " (inspectEntries entries) ++ "\x7d"

/-- The forms of the items of an array. -/
def inspectItems : List Json → List String
  | [] => []
  | item :: rest => inspect item :: inspectItems rest

/-- The forms of the entries of an object. -/
def inspectEntries : List (String × Json) → List String
  | [] => []
  | (name, value) :: rest => (escaped name ++ ": " ++ inspect value) :: inspectEntries rest

end

end Json

namespace Value

/-- Numbers in literals never have an exponent, and no point if they are whole. -/
def literalLayout : Decimal.Layout where
  plain := none
  pointZero := false
  plusSign := false
  tie := .up

mutual

/-- A value as a JSON tree; bytes, identifiers and instants become texts. -/
def toJson : Value → Json
  | null => .null
  | bool b => .bool b
  | int32 n => .int n.toInt
  | int64 n => .int n.toInt
  | float64 x => if x.isFinite then .real x else .null
  | string text => .string text
  | bytes data => .string (hex data)
  | uuid id => .string id.text
  | datetime time => .string time.rfc3339
  | json tree => tree
  | array items => .array (toJsonItems items)

/-- The trees of the items of a list. -/
def toJsonItems : List Value → List Json
  | [] => []
  | item :: rest => toJson item :: toJsonItems rest

end

/-- A value as a literal of SQL. -/
def literal : Value → String
  | null => "NULL"
  | bool b => if b then "TRUE" else "FALSE"
  | int32 n => toString n.toInt
  | int64 n => toString n.toInt
  | float64 x => x.write literalLayout
  | string text => quoteLiteral text
  | bytes data => "X'" ++ hex data ++ "'"
  | uuid id => quoteLiteral id.text
  | datetime time => quoteLiteral time.rfc3339
  | value => quoteLiteral value.toJson.write

mutual

/-- A value with its kind, for inspection. -/
def inspect : Value → String
  | null => "Null"
  | bool b => "Bool(" ++ (if b then "true" else "false") ++ ")"
  | int32 n => "Int32(" ++ toString n.toInt ++ ")"
  | int64 n => "Int64(" ++ toString n.toInt ++ ")"
  | float64 x => "Float64(" ++ x.write Json.inspectedLayout ++ ")"
  | string text => "String(" ++ escaped text ++ ")"
  | bytes data => "Bytes([" ++ join ", " (data.map (fun b => toString b.toNat)) ++ "])"
  | uuid id => "Uuid(" ++ id.text ++ ")"
  | datetime time => "DateTime(" ++ time.rfc3339Z ++ ")"
  | json tree => "Json(" ++ tree.inspect ++ ")"
  | array items => "Array([" ++ join ", " (inspectItems items) ++ "])"

/-- The items of a list with their kinds. -/
def inspectItems : List Value → List String
  | [] => []
  | item :: rest => inspect item :: inspectItems rest

end

end Value

end SchemaMigration
