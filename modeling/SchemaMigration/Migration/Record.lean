import SchemaMigration.Error
import SchemaMigration.Json.Build
import SchemaMigration.Json.Reader
import SchemaMigration.Value.Basic

/-!
# Records

A `Record` is the trace of a migration that was applied, and a `Status` is what is known of any
migration. Both have a JSON text, an object with the fields in a fixed order; the reader also takes
an array of the fields, and an object with other fields.
-/

namespace SchemaMigration

/-- The trace of a migration that was applied. -/
structure Record where
  /-- The number of the record. -/
  id : Option Int64 := none
  /-- The name of the migration. -/
  migration : String
  /-- The batch in which it was applied. -/
  batch : Int64
  /-- The milliseconds that it took. -/
  executionTime : Option Int64 := none
  /-- The digest of its file at that time. -/
  checksum : Option String := none
  /-- When it was recorded. -/
  createdAt : Option Instant := none
deriving DecidableEq

/-- Whether a migration was applied. -/
inductive MigrationState where
  /-- It was applied. -/
  | ran
  /-- It was not. -/
  | pending
deriving DecidableEq

/-- The word for a state. -/
def MigrationState.name : MigrationState → String
  | ran => "ran"
  | pending => "pending"

/-- What is known of a migration. -/
structure Status where
  /-- The name of the migration. -/
  migration : String
  /-- Whether it was applied. -/
  state : MigrationState
  /-- The batch in which it was applied. -/
  batch : Option Int64 := none
  /-- When it was applied. -/
  ranAt : Option Instant := none
  /-- Its file, if there is one. -/
  path : Option String := none
deriving DecidableEq

namespace Json

/-- The value of a field, read from its text. -/
abbrev FieldReader (α : Type) := List Char → Option α

/-- Reads a number of 64 bits. -/
def int64Field : FieldReader Int64 := fun text => do
  match ← parseChars? text with
  | int n => int64? n
  | _ => none

/-- Reads a string. -/
def stringField : FieldReader String := fun text => do
  match ← parseChars? text with
  | string s => some s
  | _ => none

/-- Reads an instant. -/
def instantField : FieldReader Instant := fun text => do
  Instant.readInstantLoosely? (← stringField text)

/-- Reads `null` as no value. -/
def optionalField {α : Type} (reader : FieldReader α) : FieldReader (Option α) := fun text =>
  match parseChars? text with
  | some null => some none
  | _ => (reader text).map some

/-- Reads the word for a state. -/
def stateOfName? (name : String) : Option MigrationState :=
  if name = "ran" then some .ran else if name = "pending" then some .pending else none

/-- Reads a state: its word, or an object with the word as its only name and `null` as the value. -/
def stateField : FieldReader MigrationState := fun text =>
  match skipSpace text with
  | '\x7b' :: rest => do
    match ← entryTexts? (rest.length + 1) rest with
    | ([(name, value)], rest) =>
      match parseChars? value with
      | some null => if (skipSpace rest).isEmpty then stateOfName? name else none
      | _ => none
    | _ => none
  | _ => do stateOfName? (← stringField text)

/-- The value of a field that has to be there, and only once. -/
def required? {α : Type} (fields : List (String × List Char)) (name : String)
    (reader : FieldReader α) : Option α :=
  match fields.filter (fun field => field.1 == name) with
  | [(_, text)] => reader text
  | _ => none

/-- The value of a field that may be missing, and is there at most once. -/
def optional? {α : Type} (fields : List (String × List Char)) (name : String)
    (reader : FieldReader α) : Option (Option α) :=
  match fields.filter (fun field => field.1 == name) with
  | [] => some none
  | [(_, text)] => optionalField reader text
  | _ => none

/-- Fails because a text is not the written form of what it should hold. -/
def orUnreadable {α : Type} : Option α → Except Error α
  | some a => .ok a
  | none => .error (.adapter .serialization)

/-- An instant. -/
def ofInstant (time : Instant) : Json := string time.rfc3339Z

end Json

open Json

namespace Record

/-- The names of the fields in order. -/
def fieldNames : List String :=
  ["id", "migration", "batch", "execution_time_ms", "checksum", "created_at"]

/-- The fields of a record. -/
def toJson (r : Record) : Json :=
  object [("id", ofOption ofInt64 r.id), ("migration", string r.migration),
    ("batch", ofInt64 r.batch), ("execution_time_ms", ofOption ofInt64 r.executionTime),
    ("checksum", ofOption string r.checksum), ("created_at", ofOption ofInstant r.createdAt)]

/-- The JSON text of a record. -/
def write (r : Record) : String :=
  r.toJson.write

/-- Reads a record from its JSON text. -/
def read? (text : String) : Option Record := do
  let fields ← fieldTexts? fieldNames text.toList
  return {
    id := ← optional? fields "id" int64Field
    migration := ← required? fields "migration" stringField
    batch := ← required? fields "batch" int64Field
    executionTime := ← optional? fields "execution_time_ms" int64Field
    checksum := ← optional? fields "checksum" stringField
    createdAt := ← optional? fields "created_at" instantField }

/-- Reads a record from its JSON text, or fails. -/
def read (text : String) : Except Error Record :=
  orUnreadable (read? text)

end Record

namespace Status

/-- Whether the migration was applied. -/
def isRan (s : Status) : Bool :=
  s.state == .ran

/-- The names of the fields in order. -/
def fieldNames : List String := ["migration", "state", "batch", "ran_at", "path"]

/-- The fields of a status. -/
def toJson (s : Status) : Json :=
  object [("migration", string s.migration), ("state", string s.state.name),
    ("batch", ofOption ofInt64 s.batch), ("ran_at", ofOption ofInstant s.ranAt),
    ("path", ofOption string s.path)]

/-- The JSON text of a status. -/
def write (s : Status) : String :=
  s.toJson.write

/-- Reads a status from its JSON text. -/
def read? (text : String) : Option Status := do
  let fields ← fieldTexts? fieldNames text.toList
  return {
    migration := ← required? fields "migration" stringField
    state := ← required? fields "state" stateField
    batch := ← optional? fields "batch" int64Field
    ranAt := ← optional? fields "ran_at" instantField
    path := ← optional? fields "path" stringField }

/-- Reads a status from its JSON text, or fails. -/
def read (text : String) : Except Error Status :=
  orUnreadable (read? text)

end Status

end SchemaMigration
