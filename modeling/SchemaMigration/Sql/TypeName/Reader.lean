import SchemaMigration.Sql.Reader
import SchemaMigration.Sql.TypeName.Basic

/-!
# Reading types

A word that is the keyword of a type begins that type; any other word begins a type that has no
keyword.
-/

namespace SchemaMigration.Sql.Reader

open Text

/-- The types without a size, with their texts. -/
def plainTypes : List (String × String) :=
  ["BOOLEAN", "BOOL", "REAL", "FLOAT4", "FLOAT8", "FLOAT64", "INT64", "TEXT", "BYTEA", "UUID", "JSON",
    "JSONB", "DATE", "INTERVAL", "REGCLASS", "STRUCT"].map (fun word => (word, word))
  ++ [("FLOAT32", "Float32"), ("INT16", "Int16"), ("INT32", "Int32"), ("INT128", "Int128"),
    ("INT256", "Int256"), ("UINT8", "UInt8"), ("UINT16", "UInt16"), ("UINT32", "UInt32"),
    ("UINT64", "UInt64"), ("UINT128", "UInt128"), ("UINT256", "UInt256"), ("DATE32", "Date32")]

/-- The types that may have a size. -/
def sizedTypes : List String :=
  ["FLOAT", "CLOB", "BLOB", "BINARY", "VARBINARY", "BYTES", "DATETIME", "TIMESTAMPTZ", "TIMETZ",
    "STRING"]

/-- The types that may have a size and a word for numbers without sign. -/
def integerTypes : List String :=
  ["TINYINT", "SMALLINT", "MEDIUMINT", "INT", "INTEGER", "BIGINT", "INT2", "INT4", "INT8"]

/-- The types that may have a count of digits and a count of places. -/
def decimalTypes : List String := ["DECIMAL", "NUMERIC", "DEC", "BIGNUMERIC", "BIGDECIMAL"]

/-- The types of texts that may have a length. -/
def textTypes : List String := ["VARCHAR", "NVARCHAR"]

/-- The types of texts that may have more words. -/
def characterTypes : List String := ["CHAR", "CHARACTER"]

/-- The types of moments, which may say something of time zones. -/
def momentTypes : List String := ["TIME", "TIMESTAMP"]

/-- The types that enumerate their values. -/
def enumeratedTypes : List String := ["ENUM", "SET"]

/-- The types that are made of others and are not read. -/
def compositeTypes : List String :=
  ["ARRAY", "MAP", "NESTED", "TUPLE", "NULLABLE", "LOWCARDINALITY", "UNION", "DATETIME64"]

/-- Reads a size. -/
def size : Reader String := do
  return toString (← natural)

/-- Reads a size, and perhaps a second one. -/
def oneOrTwoSizes : Reader String := do
  let first ← size
  if ← takeSymbol "," then return first ++ "," ++ (← size) else return first

/-- Reads the length of a text, perhaps with its unit. -/
def textLength : Reader String := do
  if ← takeWord "MAX" then return "MAX"
  else
    let length ← size
    match ← takeOneOf? ["CHARACTERS", "OCTETS"] with
    | some unit => return length ++ " " ++ unit
    | none => return length

/-- Reads what a type of a moment says of time zones. -/
def zone : Reader String := do
  if ← takeWord "WITH" then
    expectWords ["TIME", "ZONE"]
    return " WITH TIME ZONE"
  else if ← takeWord "WITHOUT" then
    expectWords ["TIME", "ZONE"]
    return " WITHOUT TIME ZONE"
  else return ""

/-- Reads what follows the keyword of a type. -/
def typeAfter (keyword : String) : Reader TypeName := do
  if let some words := plainTypes.lookup keyword then return .known words none ""
  else if sizedTypes.contains keyword then return .known keyword (← inParentheses? size) ""
  else if integerTypes.contains keyword then
    let size ← inParentheses? size
    return .known keyword size (if ← takeWord "UNSIGNED" then " UNSIGNED" else "")
  else if decimalTypes.contains keyword then
    return .known keyword (← inParentheses? oneOrTwoSizes) ""
  else if textTypes.contains keyword then return .known keyword (← inParentheses? textLength) ""
  else if characterTypes.contains keyword then
    if ← takeWord "VARYING" then
      return .known (keyword ++ " VARYING") (← inParentheses? textLength) ""
    else if ← takeWords ["LARGE", "OBJECT"] then
      return .known (keyword ++ " LARGE OBJECT") (← inParentheses? size) ""
    else return .known keyword (← inParentheses? textLength) ""
  else if momentTypes.contains keyword then
    let size ← inParentheses? size
    return .known keyword size (← zone)
  else if keyword = "DOUBLE" then
    return .known (if ← takeWord "PRECISION" then "DOUBLE PRECISION" else keyword) none ""
  else if enumeratedTypes.contains keyword then
    let values ← inParentheses (list literal)
    return .known keyword (some (join ", " (values.map literalText))) ""
  else if keyword = "FIXEDSTRING" then
    return .known "FixedString" (some (← inParentheses size)) ""
  else fail

/-- The keywords of the types that have one. -/
def typeKeywords : List String :=
  plainTypes.map (·.1) ++ sizedTypes ++ integerTypes ++ decimalTypes ++ textTypes ++ characterTypes
    ++ momentTypes ++ enumeratedTypes ++ compositeTypes ++ ["DOUBLE", "FIXEDSTRING"]

/-- The texts that stand in parentheses behind the name of a type, and what follows them. -/
def modifiers? : List Token → Option (List String × List Token)
  | .symbol [')'] :: rest => some ([], rest)
  | .symbol [','] :: rest => modifiers? rest
  | .word name :: rest => do
    let (modifiers, rest) ← modifiers? rest
    return (name.asWritten :: modifiers, rest)
  | .number text _ :: rest | .literal text :: rest => do
    let (modifiers, rest) ← modifiers? rest
    return (String.ofList text :: modifiers, rest)
  | _ => none

/-- Reads a type that has no keyword. -/
def customType : Reader TypeName := do
  let name ← path
  if ← takeSymbol "(" then return .custom name (← modifiers?) else return .custom name []

/-- Reads a type that has a keyword. -/
def keywordType : Reader TypeName := do
  let keyword ← nextKeyword
  expectWords [keyword]
  typeAfter keyword

/-- Reads a type. -/
def type : Reader TypeName := do
  if typeKeywords.contains (← nextKeyword) then keywordType else customType

end SchemaMigration.Sql.Reader
