import SchemaMigration.Decimal.Shortest
import SchemaMigration.Text.Pieces

/-!
# Numbers as text

A `Decimal.Layout` holds the decisions of a number format; `Binary64.write` carries them out on the
shortest decimal of a number. `Binary64.read?` reads a number in plain or exponent form.
-/

namespace SchemaMigration

open Text

/-- The decisions of a number format. -/
structure Decimal.Layout where
  /-- The exponents of the leading digit that are written without an exponent: from the first
  number to the second; all if there is none. -/
  plain : Option (Int × Int)
  /-- Whether an integral number in plain form ends in `.0`. -/
  pointZero : Bool
  /-- Whether a positive exponent has a sign. -/
  plusSign : Bool
  /-- Which of two equally near shortest decimals is taken. -/
  tie : Tie

namespace Decimal

/-- The digits with a point after the digit whose exponent is zero. -/
def plainChars (pointZero : Bool) (digits : List Char) (leading : Int) : List Char :=
  if leading < 0 then '0' :: '.' :: (List.replicate (-leading - 1).toNat '0' ++ digits)
  else
    let whole := leading.toNat + 1
    if digits.length ≤ whole then
      digits ++ List.replicate (whole - digits.length) '0' ++
        if pointZero then ['.', '0'] else []
    else digits.take whole ++ '.' :: digits.drop whole

/-- The digits with a point after the first one, and an exponent. -/
def exponentChars (plusSign : Bool) (digits : List Char) (leading : Int) : List Char :=
  let sign := if leading < 0 then ['-'] else if plusSign then ['+'] else []
  digits.take 1 ++ (if digits.length ≤ 1 then [] else '.' :: digits.drop 1) ++
    'e' :: (sign ++ natDigits leading.natAbs)

/-- The text of a decimal without a sign. -/
def layOut (layout : Layout) (d : Decimal) : List Char :=
  let digits := natDigits d.digits
  let leading := d.exponent + digits.length - 1
  let isPlain := match layout.plain with
    | none => true
    | some (low, high) => d.digits == 0 || (low ≤ leading && leading ≤ high)
  if isPlain then plainChars layout.pointZero digits leading
  else exponentChars layout.plusSign digits leading

end Decimal

namespace Binary64

/-- The text of a number in a format. -/
def write (layout : Decimal.Layout) (x : Binary64) : String :=
  if x.isNaN then "NaN"
  else
    let sign := if x.negative then ['-'] else []
    let digits :=
      if x.isInfinite then ['i', 'n', 'f'] else Decimal.layOut layout (Decimal.shortest layout.tie x)
    String.ofList (sign ++ digits)

/-- The digits at the start of a text and what follows them. -/
def digitRun (text : List Char) : List Char × List Char :=
  text.span Char.isDigit

/-- The exponent at the end of a number: nothing, or a mark, a sign and digits. -/
def readExponent? : List Char → Option Int
  | [] => some 0
  | mark :: rest =>
    if mark = 'e' ∨ mark = 'E' then
      match rest with
      | '-' :: digits => (readNat? digits).map (fun n => -(n : Int))
      | '+' :: digits => (readNat? digits).map Int.ofNat
      | digits => (readNat? digits).map Int.ofNat
    else none

/-- The number nearest to a decimal in plain or exponent form without a sign. -/
def readDecimal? (negative : Bool) (text : List Char) : Option Binary64 := do
  let (whole, rest) := digitRun text
  let (part, rest) := match rest with
    | '.' :: rest => digitRun rest
    | _ => ([], rest)
  if whole.isEmpty && part.isEmpty then none
  else
    let exponent ← readExponent? rest
    let digits ← readNat? (whole ++ part)
    let exponent := exponent - part.length
    if digits = 0 then some (ofFields negative 0)
    else if 400 < exponent + Decimal.digitCount digits then some (infinity negative)
    else if exponent + Decimal.digitCount digits < -400 then some (ofFields negative 0)
    else some (ofDecimal negative digits exponent)

/-- Reads a number without its sign: a decimal, or the name of a special value in any case. -/
def readUnsigned? (negative : Bool) (text : List Char) : Option Binary64 :=
  let name := String.ofList (text.map Char.toLower)
  if name = "nan" then some nan
  else if name = "inf" ∨ name = "infinity" then some (infinity negative)
  else readDecimal? negative text

/-- Reads a number with an optional sign. -/
def read? (text : String) : Option Binary64 :=
  match text.toList with
  | '-' :: rest => readUnsigned? true rest
  | '+' :: rest => readUnsigned? false rest
  | text => readUnsigned? false text

end Binary64

end SchemaMigration
