import SchemaMigration.Calendar.Instant
import SchemaMigration.Decimal.Power
import SchemaMigration.Text.Blank

/-!
# Instants as text

Instants are written in the form of RFC 3339 with the fewest of 0, 3, 6 or 9 fraction digits. Two
readers take such texts: `readInstant?` keeps to the form, and `readInstantLoosely?` also takes
blanks between the parts, short numbers, signed years and the offset `UTC`.
-/

namespace SchemaMigration

open Text

namespace Instant

/-- The fraction of the second with its point, in the fewest of 0, 3, 6 or 9 digits. -/
def fractionText (i : Instant) : String :=
  let n := i.fraction
  if n = 0 then ""
  else if n % 1000000 = 0 then "." ++ padded 3 (n / 1000000)
  else if n % 1000 = 0 then "." ++ padded 6 (n / 1000)
  else "." ++ padded 9 n

/-- Date and time with a `T` between them and a given offset text. -/
def textWith (offset : String) (i : Instant) : String :=
  i.dateText ++ "T" ++ i.timeText ++ i.fractionText ++ offset

/-- The text with the offset as hours and minutes. -/
def rfc3339 (i : Instant) : String :=
  i.textWith "+00:00"

/-- The text with the offset as the letter Z. -/
def rfc3339Z (i : Instant) : String :=
  i.textWith "Z"

/-- The instant at a date and time that are ahead of universal time by an offset in seconds. A
second 60 is a leap second. -/
def ofNumbers? (year : Int) (month day hour minute second nanos : Nat) (offset : Int) :
    Option Instant := do
  let date ← Date.ofNumbers? year month day
  if 23 < hour ∨ 59 < minute ∨ 60 < second ∨ offset ≤ -86400 ∨ 86400 ≤ offset then none
  else
    let leap := second = 60
    let shown : Int := if leap then 59 else second
    let seconds := date.toDays * 86400 + hour * 3600 + minute * 60 + shown - offset
    return ⟨seconds, if leap then nanos + nanosPerSecond else nanos⟩

/-- Reads from `least` up to `most` digits. -/
def readNumber? (least most : Nat) (text : List Char) : Option (Nat × List Char) :=
  let digits := (text.take most).takeWhile Char.isDigit
  if digits.length < max least 1 then none
  else (readNat? digits).map (·, text.drop digits.length)

/-- Reads one given character. -/
def readMark? (mark : Char) : List Char → Option (List Char)
  | c :: rest => if c = mark then some rest else none
  | [] => none

/-- Reads a fraction of a second if a point follows: at least one digit, of which nine count. -/
def readFraction? : List Char → Option (Nat × List Char)
  | '.' :: rest => do
    let digits := (rest.take 9).takeWhile Char.isDigit
    let (n, rest) ← readNumber? 1 9 rest
    return (n * tenTo (9 - digits.length), rest.dropWhile Char.isDigit)
  | rest => some (0, rest)

/-- Reads the `T` between date and time, for which a space may stand. -/
def readMiddle? : List Char → Option (List Char)
  | c :: rest => if c = 'T' ∨ c = 't' ∨ c = ' ' then some rest else none
  | [] => none

/-- Reads the minutes of an offset. -/
def readOffsetMinutes? : List Char → Option (Nat × List Char)
  | a :: b :: rest => do
    let minutes ← readNat? [a, b]
    if 59 < minutes then none else return (minutes, rest)
  | _ => none

/-- Reads an offset in seconds: the letter Z, or a sign, hours and minutes with what `between`
takes from between them. -/
def readOffset? (between : List Char → Option (List Char)) : List Char → Option (Int × List Char)
  | sign :: rest =>
    if sign = 'Z' ∨ sign = 'z' then some (0, rest)
    else if sign = '+' ∨ sign = '-' ∨ sign.toNat = 0x2212 then do
      let (hours, rest) ← readNumber? 2 2 rest
      let (minutes, rest) ← readOffsetMinutes? (← between rest)
      let size : Int := hours * 3600 + minutes * 60
      return (if sign = '+' then size else -size, rest)
    else none
  | [] => none

/-- Reads a date and a time with an offset, in the exact form. -/
def readInstant? (text : String) : Option Instant := do
  let (year, rest) ← readNumber? 4 4 text.toList
  let (month, rest) ← readNumber? 2 2 (← readMark? '-' rest)
  let (day, rest) ← readNumber? 2 2 (← readMark? '-' rest)
  let (hour, rest) ← readNumber? 2 2 (← readMiddle? rest)
  let (minute, rest) ← readNumber? 2 2 (← readMark? ':' rest)
  let (second, rest) ← readNumber? 2 2 (← readMark? ':' rest)
  let (nanos, rest) ← readFraction? rest
  let (offset, rest) ← readOffset? (readMark? ':') rest
  if rest.isEmpty then ofNumbers? year month day hour minute second nanos offset else none

/-- Reads a year: any number of digits behind a sign, otherwise at most four. -/
def readYear? (text : List Char) : Option (Int × List Char) :=
  match trimStart text with
  | '-' :: rest => (readNumber? 1 rest.length rest).map (fun (n, rest) => (-(n : Int), rest))
  | '+' :: rest => (readNumber? 1 rest.length rest).map (fun (n, rest) => ((n : Int), rest))
  | rest => (readNumber? 1 4 rest).map (fun (n, rest) => ((n : Int), rest))

/-- Reads one or two digits behind blanks. -/
def readShort? (text : List Char) : Option (Nat × List Char) :=
  readNumber? 1 2 (trimStart text)

/-- Reads an offset in its letters or digits, the latter with colons or blanks between them. -/
def readOffsetLoosely? (text : List Char) : Option (Int × List Char) :=
  if (text.take 3).map Char.toUpper = ['U', 'T', 'C'] then some (0, text.drop 3)
  else readOffset? (fun rest => some (rest.dropWhile (fun c => c == ':' || isBlank c))) text

/-- Whether a year is one of those that dates are kept for. -/
def isKeptYear (year : Int) : Bool :=
  -262143 ≤ year && year ≤ 262142

/-- Reads a date and a time with an offset, with blanks between the parts and short numbers. Both
the year that is written and the year in universal time have to be kept. -/
def readInstantLoosely? (text : String) : Option Instant := do
  let (year, rest) ← readYear? text.toList
  let (month, rest) ← readShort? (← readMark? '-' (trimStart rest))
  let (day, rest) ← readShort? (← readMark? '-' (trimStart rest))
  let (hour, rest) ← readShort? (← readMiddle? rest)
  let (minute, rest) ← readShort? (← readMark? ':' (trimStart rest))
  let (second, rest) ← readShort? (← readMark? ':' (trimStart rest))
  let (nanos, rest) ← readFraction? rest
  let (offset, rest) ← readOffsetLoosely? (trimStart rest)
  let instant ← ofNumbers? year month day hour minute second nanos offset
  if (trimStart rest).isEmpty && isKeptYear year && isKeptYear instant.date.year then some instant
  else none

end Instant

end SchemaMigration
