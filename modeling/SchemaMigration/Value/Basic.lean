import SchemaMigration.Calendar.Rfc3339
import SchemaMigration.Dict
import SchemaMigration.Json.Basic
import SchemaMigration.Uuid

/-!
# Values

A `Value` is what one column of a row holds. The views `toInt64?`, `toText?` and `toInstant?` read a
value as a number, a text or an instant, where texts count if they spell one.
-/

namespace SchemaMigration

open Text

/-- The value of a column in a row. -/
inductive Value where
  /-- No value. -/
  | null
  /-- A truth value. -/
  | bool (b : Bool)
  /-- A number of 32 bits. -/
  | int32 (n : Int32)
  /-- A number of 64 bits. -/
  | int64 (n : Int64)
  /-- A double-precision number. -/
  | float64 (x : Binary64)
  /-- A text. -/
  | string (text : String)
  /-- A run of bytes. -/
  | bytes (data : List UInt8)
  /-- An identifier. -/
  | uuid (id : Uuid)
  /-- A moment of universal time. -/
  | datetime (time : Instant)
  /-- A JSON tree. -/
  | json (tree : Json)
  /-- A list of values. -/
  | array (items : List Value)
deriving Inhabited

/-- A row: values under the names of columns. -/
abbrev Row := Dict Value

/-- The number with 64 bits that is equal to an integer, if there is one. -/
def int64? (n : Int) : Option Int64 :=
  if Int64.minValue.toInt ≤ n ∧ n ≤ Int64.maxValue.toInt then some (Int64.ofInt n) else none

/-- The successor of a number, if it has 64 bits. -/
def successor? (n : Int64) : Option Int64 :=
  int64? (n.toInt + 1)

/-- Reads a number of 64 bits: ASCII digits with an optional sign. -/
def readInt64? (text : String) : Option Int64 :=
  match text.toList with
  | '-' :: digits => (readNat? digits).bind (fun n => int64? (-(n : Int)))
  | '+' :: digits => (readNat? digits).bind (fun n => int64? n)
  | digits => (readNat? digits).bind (fun n => int64? n)

namespace Value

/-- Whether a value is absent. -/
def isNull : Value → Bool
  | null => true
  | _ => false

/-- The number that a value is or spells. -/
def toInt64? : Value → Option Int64
  | int32 n => some n.toInt64
  | int64 n => some n
  | string text => readInt64? text
  | _ => none

/-- The text that a value is. -/
def toText? : Value → Option String
  | string text => some text
  | _ => none

/-- The instant that a value is or spells. -/
def toInstant? : Value → Option Instant
  | datetime time => some time
  | string text => Instant.readInstant? text
  | _ => none

end Value

end SchemaMigration
