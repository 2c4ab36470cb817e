import SchemaMigration.Dict
import SchemaMigration.Json.Basic

/-!
# Building JSON values

Objects from fields in any order, and the JSON forms of options, lists and dictionaries.
-/

namespace SchemaMigration.Json

/-- An object with fields that are given in any order. -/
def ofFields (fields : List (String × Json)) : Json :=
  .object (Dict.ofList fields).entries

/-- The JSON form of what is there, and otherwise `null`. -/
def ofOption {α : Type} (encode : α → Json) : Option α → Json
  | some a => encode a
  | none => .null

/-- The JSON form of a list. -/
def ofList {α : Type} (encode : α → Json) (items : List α) : Json :=
  .array (items.map encode)

/-- A number. -/
def ofNat (n : Nat) : Json :=
  .int n

/-- A number of 64 bits. -/
def ofInt64 (n : Int64) : Json :=
  .int n.toInt

/-- A list of texts. -/
def ofTexts (texts : List String) : Json :=
  ofList .string texts

/-- A text or `null`. -/
def ofText? (text : Option String) : Json :=
  ofOption .string text

/-- The JSON form of a dictionary. -/
def ofDict {α : Type} (encode : α → Json) (d : Dict α) : Json :=
  .object (d.entries.map (fun (name, a) => (name, encode a)))

end SchemaMigration.Json
