import SchemaMigration.Json.Reader
import SchemaMigration.Value.Text

/-!
# Values with their kind

The JSON form of a value that keeps its kind: an object with a tag `t` and, but for an absent value,
the content `v`. Numbers with a fraction, bytes, identifiers and trees are written as texts, and
instants as seconds and nanoseconds.
-/

namespace SchemaMigration.Value

open Text

/-- A value as an object with its tag and its content. -/
def tag (name : String) (content : Json) : Json :=
  .object [("t", .string name), ("v", content)]

mutual

/-- The tagged form of a value. -/
def toTagged : Value → Json
  | null => .object [("t", .string "null")]
  | bool b => tag "bool" (.bool b)
  | int32 n => tag "i32" (.int n.toInt)
  | int64 n => tag "i64" (.int n.toInt)
  | float64 x => tag "f64" (.string (x.write literalLayout))
  | string text => tag "string" (.string text)
  | bytes data => tag "bytes" (.string (hex data))
  | uuid id => tag "uuid" (.string id.text)
  | datetime time => tag "datetime" (.array [.int time.seconds, .int time.nanos])
  | json tree => tag "json" (.string tree.write)
  | array items => tag "array" (.array (toTaggedItems items))

/-- The tagged forms of the items of a list. -/
def toTaggedItems : List Value → List Json
  | [] => []
  | item :: rest => toTagged item :: toTaggedItems rest

end

/-- The value with a tag and a content that is not a list of values. -/
def ofScalar? : String → Json → Option Value
  | "bool", .bool b => some (bool b)
  | "i32", .int n => some (int32 (Int32.ofInt n))
  | "i64", .int n => (int64? n).map int64
  | "f64", .string text => (Binary64.read? text).map float64
  | "string", .string text => some (string text)
  | "bytes", .string text => (readHex? text.toList).map bytes
  | "uuid", .string text => (Uuid.read? text).map uuid
  | "datetime", .array [.int seconds, .int nanos] => some (datetime ⟨seconds, nanos.toNat⟩)
  | "json", .string text => (Json.parse? text).map json
  | _, _ => none

mutual

/-- The value with a tagged form. -/
def ofTagged? : Json → Option Value
  | .object (("t", .string "null") :: _) => some null
  | .object [("t", .string "array"), ("v", .array items)] => (ofTaggedItems? items).map array
  | .object [("t", .string name), ("v", content)] => ofScalar? name content
  | _ => none

/-- The values with tagged forms. -/
def ofTaggedItems? : List Json → Option (List Value)
  | [] => some []
  | item :: rest => do return (← ofTagged? item) :: (← ofTaggedItems? rest)

end

end SchemaMigration.Value
