import SchemaMigration.Text.Printable

/-!
# Escaped text

The form in which a text is shown inside double quotes for inspection: quotes, backslashes and
characters that do not show are escaped, all others stand for themselves.
-/

namespace SchemaMigration.Text

/-- A code point in braces, in lower-case hexadecimal digits. -/
def escapedCode (c : Char) : List Char :=
  '\\' :: 'u' :: '\x7b' :: (Nat.toDigits 16 c.toNat ++ ['\x7d'])

/-- The escaped form of a character. -/
def escapedChar (c : Char) : List Char :=
  if c = '"' then ['\\', '"']
  else if c = '\\' then ['\\', '\\']
  else if c = '\n' then ['\\', 'n']
  else if c = '\r' then ['\\', 'r']
  else if c = '\t' then ['\\', 't']
  else if c.toNat = 0 then ['\\', '0']
  else if isPrintable c then [c]
  else escapedCode c

/-- A text in double quotes with its characters escaped. -/
def escaped (text : String) : String :=
  String.ofList ('"' :: (text.toList.flatMap escapedChar ++ ['"']))

end SchemaMigration.Text
