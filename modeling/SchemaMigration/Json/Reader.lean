import SchemaMigration.Dict
import SchemaMigration.Json.Basic
import SchemaMigration.Text.Hex

/-!
# Reading JSON

Each reader takes the characters of a text and returns what it read and the rest. `readValue?`
builds the value; `skipValue?` only checks the form, so it passes over numbers that are out of range
and escapes that stand for no character.
-/

namespace SchemaMigration.Json

open Text

/-- Whether a character may stand between the parts of a JSON text. -/
def isSpace (c : Char) : Bool :=
  c == ' ' || c == '\n' || c == '\t' || c == '\r'

/-- The text after its white space. -/
def skipSpace (text : List Char) : List Char :=
  text.dropWhile isSpace

/-- A part of a string: a character, or a 16-bit unit written as an escape. -/
inductive StringPart where
  /-- A character that stands for itself or has a letter. -/
  | char (c : Char)
  /-- Four hexadecimal digits. -/
  | unit (n : Nat)

/-- The character for a letter after a backslash. -/
def letterChar? : Char → Option Char
  | '"' => some '"'
  | '\\' => some '\\'
  | '/' => some '/'
  | 'b' => some '\x08'
  | 'f' => some '\x0c'
  | 'n' => some '\n'
  | 'r' => some '\r'
  | 't' => some '\t'
  | _ => none

/-- The unit that four hexadecimal digits denote. -/
def readUnit? (a b c d : Char) : Option Nat := do
  return ((← hexValue? a) * 16 + (← hexValue? b)) * 256 + (← hexValue? c) * 16 + (← hexValue? d)

/-- The parts of a string up to its closing quote, and the text behind the quote. -/
def scanString? : List Char → Option (List StringPart × List Char)
  | '"' :: rest => some ([], rest)
  | '\\' :: 'u' :: a :: b :: c :: d :: rest => do
    let n ← readUnit? a b c d
    let (parts, rest) ← scanString? rest
    return (.unit n :: parts, rest)
  | '\\' :: letter :: rest => do
    let c ← letterChar? letter
    let (parts, rest) ← scanString? rest
    return (.char c :: parts, rest)
  | c :: rest =>
    if c.toNat < 32 ∨ c = '\\' then none
    else do
      let (parts, rest) ← scanString? rest
      return (.char c :: parts, rest)
  | [] => none

/-- The characters that the parts of a string denote. A unit of the upper surrogates and one of the
lower surrogates make one character; no surrogate stands alone. -/
def decodeParts? : List StringPart → Option (List Char)
  | [] => some []
  | .char c :: rest => (decodeParts? rest).map (c :: ·)
  | .unit n :: rest =>
    if n < 0xD800 ∨ 0xE000 ≤ n then (decodeParts? rest).map (Char.ofNat n :: ·)
    else match rest with
      | .unit m :: rest =>
        if n < 0xDC00 ∧ 0xDC00 ≤ m ∧ m < 0xE000 then
          (decodeParts? rest).map
            (Char.ofNat (0x10000 + (n - 0xD800) * 0x400 + (m - 0xDC00)) :: ·)
        else none
      | _ => none

/-- Reads a string behind its opening quote. -/
def readString? (text : List Char) : Option (String × List Char) := do
  let (parts, rest) ← scanString? text
  return (String.ofList (← decodeParts? parts), rest)

/-- A number as it is written. -/
structure Numeral where
  /-- Whether a minus stands in front. -/
  negative : Bool
  /-- The digits before the point. -/
  whole : List Char
  /-- The digits behind the point, if there is one. -/
  part : Option (List Char)
  /-- The sign and the digits of the exponent, if there is one. -/
  power : Option (Bool × List Char)

/-- Reads an exponent if the text starts with one. -/
def scanPower? : List Char → Option (Option (Bool × List Char) × List Char)
  | mark :: rest =>
    if mark = 'e' ∨ mark = 'E' then
      let (negative, rest) := match rest with
        | '-' :: rest => (true, rest)
        | '+' :: rest => (false, rest)
        | rest => (false, rest)
      let (digits, rest) := rest.span Char.isDigit
      if digits.isEmpty then none else some (some (negative, digits), rest)
    else some (none, mark :: rest)
  | [] => some (none, [])

/-- Reads a number behind its sign: no zero in front of other digits, and digits on both sides of a
point. -/
def scanNumeral? (negative : Bool) (text : List Char) : Option (Numeral × List Char) := do
  let (whole, rest) := text.span Char.isDigit
  if whole.isEmpty || (1 < whole.length && whole.head? == some '0') then none
  else match rest with
    | '.' :: rest =>
      let (part, rest) := rest.span Char.isDigit
      if part.isEmpty then none
      else do
        let (power, rest) ← scanPower? rest
        return (⟨negative, whole, some part, power⟩, rest)
    | rest => do
      let (power, rest) ← scanPower? rest
      return (⟨negative, whole, none, power⟩, rest)

/-- The greatest 64-bit number. -/
def maxSignificand : Nat := UInt64.size - 1

/-- Takes up digits as long as the number they make has 64 bits; returns the number, the count of
the digits taken up and the count of the others. -/
def takeUp (value taken : Nat) : List Char → Nat × Nat × Nat
  | [] => (value, taken, 0)
  | c :: rest =>
    let next := value * 10 + (c.toNat - 48)
    if maxSignificand < next then (value, taken, rest.length + 1) else takeUp next (taken + 1) rest

/-- Scales a number by a power of ten, in steps of at most 308 places, each rounded once. -/
def scaleReal? : Nat → Binary64 → Int → Option Binary64
  | 0, x, _ => some x
  | fuel + 1, x, exponent =>
    if exponent.natAbs ≤ 308 then
      let power := Binary64.ofDecimal false 1 exponent.natAbs
      if 0 ≤ exponent then
        let scaled := x.mul power
        if scaled.isFinite then some scaled else none
      else some (x.div power)
    else if x.significand = 0 then some x
    else if 0 ≤ exponent then none
    else scaleReal? fuel (x.div (Binary64.ofDecimal false 1 308)) (exponent + 308)

/-- The value of a number with a point, an exponent or too many digits: its leading digits that
make a 64-bit number, scaled. -/
def Numeral.real? (n : Numeral) : Option Binary64 := do
  let (value, taken, left) := takeUp 0 0 n.whole
  let (significand, places) := match n.part with
    | none => (value, 0)
    | some part =>
      let (value, taken', _) := takeUp value taken part
      (value, taken' - taken)
  let power : Int := match n.power with
    | none => 0
    | some (negative, digits) =>
      let size := (readNat? digits).getD 0
      if negative then -size else size
  let exponent : Int := left - places + power
  let x := Binary64.ofRatio n.negative significand 1
  if significand = 0 then some x
  else if exponent < -10000 then some (Binary64.ofFields n.negative 0)
  else scaleReal? 64 x exponent

/-- The value of a number: an integer if it is written as one and has 64 bits. -/
def Numeral.value? (n : Numeral) : Option Json :=
  match n.part, n.power with
  | none, none =>
    let size := (readNat? n.whole).getD 0
    if n.negative then
      if 0 < size ∧ size ≤ twoTo 63 then some (.int (-size)) else n.real?.map .real
    else if size ≤ maxSignificand then some (.int size)
    else n.real?.map .real
  | _, _ => n.real?.map .real

/-- Reads a number. -/
def readNumber? (text : List Char) : Option (Json × List Char) := do
  let (numeral, rest) ← match text with
    | '-' :: rest => scanNumeral? true rest
    | text => scanNumeral? false text
  return (← numeral.value?, rest)

/-- The depth to which arrays and objects may be nested. -/
def maxDepth : Nat := 127

mutual

/-- Reads a value in which arrays and objects are nested at most `depth` deep. -/
def readValueWith? (depth : Nat) : Nat → List Char → Option (Json × List Char)
  | 0, _ => none
  | fuel + 1, text =>
    match skipSpace text with
    | 'n' :: 'u' :: 'l' :: 'l' :: rest => some (.null, rest)
    | 't' :: 'r' :: 'u' :: 'e' :: rest => some (.bool true, rest)
    | 'f' :: 'a' :: 'l' :: 's' :: 'e' :: rest => some (.bool false, rest)
    | '"' :: rest => (readString? rest).map (fun (s, rest) => (.string s, rest))
    | '[' :: rest =>
      if depth = 0 then none
      else match skipSpace rest with
        | ']' :: rest => some (.array [], rest)
        | rest => (readItems? (depth - 1) fuel rest).map (fun (l, rest) => (.array l, rest))
    | '\x7b' :: rest =>
      if depth = 0 then none
      else match skipSpace rest with
        | '\x7d' :: rest => some (.object [], rest)
        | rest =>
          (readEntries? (depth - 1) fuel rest).map (fun (l, rest) => (.object l.entries, rest))
    | rest => readNumber? rest

/-- Reads the items of an array up to its end. -/
def readItems? (depth : Nat) : Nat → List Char → Option (List Json × List Char)
  | 0, _ => none
  | fuel + 1, text => do
    let (item, rest) ← readValueWith? depth fuel text
    match skipSpace rest with
    | ',' :: rest => do
      let (items, rest) ← readItems? depth fuel rest
      return (item :: items, rest)
    | ']' :: rest => return ([item], rest)
    | _ => none

/-- Reads the entries of an object up to its end; of two with one name the later counts. -/
def readEntries? (depth : Nat) : Nat → List Char → Option (Dict Json × List Char)
  | 0, _ => none
  | fuel + 1, text => do
    let '"' :: rest := skipSpace text | none
    let (name, rest) ← readString? rest
    let ':' :: rest := skipSpace rest | none
    let (value, rest) ← readValueWith? depth fuel rest
    match skipSpace rest with
    | ',' :: rest => do
      let (entries, rest) ← readEntries? depth fuel rest
      return (entries.insertIfNew name value, rest)
    | '\x7d' :: rest => return ((∅ : Dict Json).insert name value, rest)
    | _ => none

end

mutual

/-- Passes over a value. -/
def skipValueWith? : Nat → List Char → Option (List Char)
  | 0, _ => none
  | fuel + 1, text =>
    match skipSpace text with
    | 'n' :: 'u' :: 'l' :: 'l' :: rest => some rest
    | 't' :: 'r' :: 'u' :: 'e' :: rest => some rest
    | 'f' :: 'a' :: 'l' :: 's' :: 'e' :: rest => some rest
    | '"' :: rest => (scanString? rest).map (·.2)
    | '[' :: rest =>
      match skipSpace rest with
      | ']' :: rest => some rest
      | rest => skipItems? fuel rest
    | '\x7b' :: rest =>
      match skipSpace rest with
      | '\x7d' :: rest => some rest
      | rest => skipEntries? fuel rest
    | '-' :: rest => (scanNumeral? true rest).map (·.2)
    | rest => (scanNumeral? false rest).map (·.2)

/-- Passes over the items of an array and its end. -/
def skipItems? : Nat → List Char → Option (List Char)
  | 0, _ => none
  | fuel + 1, text => do
    match skipSpace (← skipValueWith? fuel text) with
    | ',' :: rest => skipItems? fuel rest
    | ']' :: rest => some rest
    | _ => none

/-- Passes over the entries of an object and its end. -/
def skipEntries? : Nat → List Char → Option (List Char)
  | 0, _ => none
  | fuel + 1, text => do
    let '"' :: rest := skipSpace text | none
    let (_, rest) ← scanString? rest
    let ':' :: rest := skipSpace rest | none
    match skipSpace (← skipValueWith? fuel rest) with
    | ',' :: rest => skipEntries? fuel rest
    | '\x7d' :: rest => some rest
    | _ => none

end

/-- Reads a value at the start of a text. -/
def readValue? (text : List Char) : Option (Json × List Char) :=
  readValueWith? maxDepth (text.length + 1) text

/-- Passes over a value at the start of a text. -/
def skipValue? (text : List Char) : Option (List Char) :=
  skipValueWith? (text.length + 1) text

/-- The characters of a text in front of the rest of it. -/
def consumed (text rest : List Char) : List Char :=
  text.take (text.length - rest.length)

/-- The texts of the items of an array up to its end. -/
def itemTexts? : Nat → List Char → Option (List (List Char) × List Char)
  | 0, _ => none
  | fuel + 1, text => do
    let rest ← skipValue? text
    let item := consumed text rest
    match skipSpace rest with
    | ',' :: rest => do
      let (items, rest) ← itemTexts? fuel rest
      return (item :: items, rest)
    | ']' :: rest => return ([item], rest)
    | _ => none

/-- The names of the entries of an object up to its end, with the texts of the values. -/
def entryTexts? : Nat → List Char → Option (List (String × List Char) × List Char)
  | 0, _ => none
  | fuel + 1, text => do
    let '"' :: rest := skipSpace text | none
    let (name, rest) ← readString? rest
    let ':' :: rest := skipSpace rest | none
    let after ← skipValue? rest
    let entry := (name, consumed rest after)
    match skipSpace after with
    | ',' :: rest => do
      let (entries, rest) ← entryTexts? fuel rest
      return (entry :: entries, rest)
    | '\x7d' :: rest => return ([entry], rest)
    | _ => none

/-- The texts of the fields of a record: the entries of an object, or the items of an array under
given names, of which none may be missing or left over. -/
def fieldTexts? (names : List String) (text : List Char) : Option (List (String × List Char)) := do
  let (fields, rest) ← match skipSpace text with
    | '\x7b' :: rest =>
      match skipSpace rest with
      | '\x7d' :: rest => some ([], rest)
      | rest => entryTexts? (rest.length + 1) rest
    | '[' :: rest => do
      let (items, rest) ← itemTexts? (rest.length + 1) rest
      if items.length = names.length then some (names.zip items, rest) else none
    | _ => none
  if (skipSpace rest).isEmpty then some fields else none

/-- Reads characters that hold one value and nothing else. -/
def parseChars? (text : List Char) : Option Json := do
  let (value, rest) ← readValue? text
  if (skipSpace rest).isEmpty then some value else none

/-- Reads a text that holds one value and nothing else. -/
def parse? (text : String) : Option Json :=
  parseChars? text.toList

/-- The value under a name in an object. -/
def get? (json : Json) (name : String) : Option Json :=
  match json with
  | object entries => (entries.find? (fun entry => entry.1 == name)).map (·.2)
  | _ => none

end SchemaMigration.Json
