/-!
# Pieces of a text

Cutting a text at a character, replacing characters, looking for a part, and joining pieces again.
-/

namespace SchemaMigration.Text

/-- The pieces of a text between the characters that satisfy a test, from the piece read so far in
reverse. -/
def splitFrom (cut : Char → Bool) (read : List Char) : List Char → List (List Char)
  | [] => [read.reverse]
  | c :: rest =>
    if cut c then read.reverse :: splitFrom cut [] rest else splitFrom cut (c :: read) rest

/-- The pieces of a text between the occurrences of a character; there is always at least one. -/
def splitAt (separator : Char) (text : List Char) : List (List Char) :=
  splitFrom (· == separator) [] text

/-- The pieces with a separator between neighbours. -/
def joinChars (separator : List Char) : List (List Char) → List Char
  | [] => []
  | [piece] => piece
  | piece :: rest => piece ++ separator ++ joinChars separator rest

/-- The pieces with a separator between neighbours. -/
def join (separator : String) (pieces : List String) : String :=
  separator.intercalate pieces

/-- Writes a character twice wherever it occurs. -/
def double (c : Char) (text : List Char) : List Char :=
  text.flatMap (fun x => if x = c then [c, c] else [x])

/-- Whether a text begins with another one. -/
def startsWith (text start : List Char) : Bool :=
  start.isPrefixOf text

/-- What follows a given beginning of a text. -/
def dropStart? : List Char → List Char → Option (List Char)
  | [], text => some text
  | _ :: _, [] => none
  | s :: start, c :: text => if s = c then dropStart? start text else none

/-- Whether a text occurs in another one. -/
def occursIn (part : List Char) : List Char → Bool
  | [] => part.isEmpty
  | c :: rest => startsWith (c :: rest) part || occursIn part rest

/-- The decimal digits of a natural number. -/
def natDigits (n : Nat) : List Char :=
  Nat.toDigits 10 n

/-- The decimal digits of a number, with zeros in front up to a width. -/
def padded (width n : Nat) : String :=
  let digits := natDigits n
  String.ofList (List.replicate (width - digits.length) '0' ++ digits)

/-- The value of an ASCII digit. -/
def digit? (c : Char) : Option Nat :=
  if '0' ≤ c ∧ c ≤ '9' then some (c.toNat - 48) else none

/-- The number that a run of ASCII digits denotes, read on from a value. -/
def readDigits? (value : Nat) : List Char → Option Nat
  | [] => some value
  | c :: rest => do readDigits? (10 * value + (← digit? c)) rest

/-- The number that a non-empty run of ASCII digits denotes. -/
def readNat? : List Char → Option Nat
  | [] => none
  | digits => readDigits? 0 digits

end SchemaMigration.Text
