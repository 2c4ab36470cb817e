/-!
# Hexadecimal text

Bytes are written as two lower-case digits each and read back from digits of either case.
-/

namespace SchemaMigration.Text

/-- The digit of a value below sixteen. -/
def hexDigit (n : Nat) : Char :=
  Nat.digitChar n

/-- The value of a hexadecimal digit. -/
def hexValue? (c : Char) : Option Nat :=
  if '0' ≤ c ∧ c ≤ '9' then some (c.toNat - 48)
  else if 'a' ≤ c ∧ c ≤ 'f' then some (c.toNat - 87)
  else if 'A' ≤ c ∧ c ≤ 'F' then some (c.toNat - 55)
  else none

/-- The two digits of a byte. -/
def hexByte (b : UInt8) : List Char :=
  [hexDigit (b.toNat / 16), hexDigit (b.toNat % 16)]

/-- The digits of a list of bytes. -/
def hexChars (bytes : List UInt8) : List Char :=
  bytes.flatMap hexByte

/-- The digits of a list of bytes. -/
def hex (bytes : List UInt8) : String :=
  String.ofList (hexChars bytes)

/-- The bytes that pairs of digits denote. -/
def readHex? : List Char → Option (List UInt8)
  | [] => some []
  | [_] => none
  | high :: low :: rest => do
    let byte := UInt8.ofNat (16 * (← hexValue? high) + (← hexValue? low))
    return byte :: (← readHex? rest)

end SchemaMigration.Text
