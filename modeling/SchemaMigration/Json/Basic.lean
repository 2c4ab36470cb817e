import SchemaMigration.Decimal.Layout

/-!
# JSON values

The tree of a JSON text and its compact text: no spaces, characters beyond ASCII as they are.
-/

namespace SchemaMigration

/-- A JSON value. -/
inductive Json where
  /-- The value `null`. -/
  | null
  /-- A truth value. -/
  | bool (b : Bool)
  /-- A number written without point and exponent. -/
  | int (n : Int)
  /-- A number written with a point or an exponent, or beyond 64 bits. -/
  | real (x : Binary64)
  /-- A string. -/
  | string (text : String)
  /-- A list of values. -/
  | array (items : List Json)
  /-- Values under names, which are in ascending order if the object was read. -/
  | object (entries : List (String × Json))
deriving Inhabited

namespace Json

/-- Numbers have the fewest digits that identify them: plain from a hundred-thousandth up to sixteen
digits before the point, otherwise with a signed exponent. -/
def realLayout : Decimal.Layout where
  plain := some (-5, 15)
  pointZero := true
  plusSign := true
  tie := .even

/-- The form of a character inside a JSON string. -/
def escapeChar (c : Char) : List Char :=
  if c = '"' then ['\\', '"']
  else if c = '\\' then ['\\', '\\']
  else if c.toNat = 8 then ['\\', 'b']
  else if c.toNat = 9 then ['\\', 't']
  else if c.toNat = 10 then ['\\', 'n']
  else if c.toNat = 12 then ['\\', 'f']
  else if c.toNat = 13 then ['\\', 'r']
  else if c.toNat < 32 then
    ['\\', 'u', '0', '0', Nat.digitChar (c.toNat / 16), Nat.digitChar (c.toNat % 16)]
  else [c]

/-- A string in double quotes. -/
def quote (text : String) : String :=
  String.ofList ('"' :: (text.toList.flatMap escapeChar ++ ['"']))

/-- The text of a number; only finite numbers have one. -/
def writeReal (x : Binary64) : String :=
  if x.isFinite then x.write realLayout else "null"

mutual

/-- The compact text of a value. -/
def write : Json → String
  | null => "null"
  | bool b => if b then "true" else "false"
  | int n => toString n
  | real x => writeReal x
  | string text => quote text
  | array items => "[" ++ ",".intercalate (writeItems items) ++ "]"
  | object entries => "\x7b" ++ ",".intercalate (writeEntries entries) ++ "\x7d"

/-- The texts of the items of an array. -/
def writeItems : List Json → List String
  | [] => []
  | item :: rest => write item :: writeItems rest

/-- The texts of the entries of an object. -/
def writeEntries : List (String × Json) → List String
  | [] => []
  | (name, value) :: rest => (quote name ++ ":" ++ write value) :: writeEntries rest

end

end Json

end SchemaMigration
