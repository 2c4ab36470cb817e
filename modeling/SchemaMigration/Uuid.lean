import SchemaMigration.Text.Hex

/-!
# Universally unique identifiers

An identifier is a number of 128 bits, written as 32 hexadecimal digits in five groups.
-/

namespace SchemaMigration

open Text

/-- A universally unique identifier. -/
structure Uuid where
  /-- The identifier as a number. -/
  bits : BitVec 128
deriving DecidableEq, Inhabited

namespace Uuid

/-- The last `count` hexadecimal digits of a number. -/
def digits (n : Nat) : Nat → List Char
  | 0 => []
  | count + 1 => digits (n / 16) count ++ [hexDigit (n % 16)]

/-- The digits in groups of 8, 4, 4, 4 and 12 with hyphens between them. -/
def text (u : Uuid) : String :=
  let d := digits u.bits.toNat 32
  let group (start size : Nat) := (d.drop start).take size
  String.ofList (group 0 8 ++ '-' :: group 8 4 ++ '-' :: group 12 4 ++ '-' :: group 16 4 ++
    '-' :: group 20 12)

/-- The number that hexadecimal digits denote, read on from a value. -/
def readDigits? (value : Nat) : List Char → Option Nat
  | [] => some value
  | c :: rest => do readDigits? (16 * value + (← hexValue? c)) rest

/-- Reads 32 hexadecimal digits, with hyphens anywhere between them. -/
def read? (text : String) : Option Uuid := do
  let digits := text.toList.filter (· ≠ '-')
  if digits.length = 32 then return ⟨BitVec.ofNat 128 (← readDigits? 0 digits)⟩ else none

end Uuid

end SchemaMigration
