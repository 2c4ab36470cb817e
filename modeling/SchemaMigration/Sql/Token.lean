import SchemaMigration.Text.Blank
import SchemaMigration.Text.Letter
import SchemaMigration.Text.Pieces

/-!
# Tokens of SQL

Words, numbers, literals and symbols. Blanks and comments separate tokens and are dropped. In a
literal the quote is written twice.
-/

namespace SchemaMigration.Sql

open Text

/-- A name, as it was written. -/
structure Ident where
  /-- The text, without quotes. -/
  text : List Char
  /-- The quote around the name, if there was one. -/
  quote : Option Char := none
deriving DecidableEq

/-- A token. -/
inductive Token where
  /-- A keyword or a name. -/
  | word (name : Ident)
  /-- A number, as it was written, and whether it is marked as a long one. -/
  | number (text : List Char) (long : Bool)
  /-- A literal, without its quotes. -/
  | literal (text : List Char)
  /-- An operator or a mark of punctuation. -/
  | symbol (text : List Char)
deriving DecidableEq

/-- Whether a name may begin with a character. -/
def startsName (c : Char) : Bool :=
  c == '_' || isLetter c

/-- Whether a name may contain a character. -/
def continuesName (c : Char) : Bool :=
  c.isDigit || c == '_' || c == '@' || c == '$' || c == '#' || isLetter c

/-- Reads up to the closing quote, from what was read so far in reverse; a quote that is written
twice stands for itself. Returns the text and what follows the quote. -/
def readQuoted? (quote : Char) (read : List Char) : List Char → Option (List Char × List Char)
  | [] => none
  | c :: d :: rest =>
    if c = quote then
      if d = quote then readQuoted? quote (quote :: read) rest else some (read.reverse, d :: rest)
    else readQuoted? quote (c :: read) (d :: rest)
  | [c] => if c = quote then some (read.reverse, []) else none

/-- What follows a comment that lasts to the end of the line. -/
def dropLine (text : List Char) : List Char :=
  (text.dropWhile (· ≠ '\n')).drop 1

/-- What follows a comment in which comments may be nested, at a depth and after a character. -/
def dropComment? (depth : Nat) (last : Char) : List Char → Option (List Char)
  | [] => none
  | c :: rest =>
    if last = '/' ∧ c = '*' then dropComment? (depth + 1) c rest
    else if last = '*' ∧ c = '/' then
      if depth ≤ 1 then some rest else dropComment? (depth - 1) c rest
    else dropComment? depth c rest

/-- The exponent at the beginning of a text, and what follows it. -/
def splitExponent (text : List Char) : List Char × List Char :=
  match text with
  | e :: rest =>
    let (sign, digits) :=
      match rest with
      | '+' :: digits => (['+'], digits)
      | '-' :: digits => (['-'], digits)
      | digits => ([], digits)
    if (e = 'e' ∨ e = 'E') ∧ digits.head?.any (·.isDigit) then
      (e :: sign ++ digits.takeWhile (·.isDigit), digits.dropWhile (·.isDigit))
    else ([], text)
  | [] => ([], [])

/-- The point and the places at the beginning of a text, and what follows them. -/
def splitFraction : List Char → List Char × List Char
  | '.' :: rest => ('.' :: rest.takeWhile (·.isDigit), rest.dropWhile (·.isDigit))
  | text => ([], text)

/-- The number at the beginning of a text, and what follows it. -/
def splitNumber (text : List Char) : List Char × List Char :=
  let (fraction, rest) := splitFraction (text.dropWhile (·.isDigit))
  let (exponent, rest) := splitExponent rest
  (text.takeWhile (·.isDigit) ++ fraction ++ exponent, rest)

/-- Whether a text begins with the mark of a long number, and what follows it. -/
def splitLong : List Char → Bool × List Char
  | 'L' :: rest => (true, rest)
  | text => (false, text)

/-- The symbols of more than one character, longer ones first. -/
def longSymbols : List String :=
  ["!~~*", "<=>", "->>", "#>>", "||/", "!~~", "!~*", "~~*", "<=", "<>", "<<", "<@", ">=", ">>", "==",
    "=>", "!=", "!!", "!~", "~~", "~*", "||", "|/", "->", "//", "&&", "::", ":=", "^@", "#>", "#-",
    "@>", "@?", "@@"]

/-- The symbol at the beginning of a text that begins with a character, and what follows it. -/
def splitSymbol (c : Char) (rest : List Char) : List Char × List Char :=
  match longSymbols.find? (fun symbol => startsWith (c :: rest) symbol.toList) with
  | some symbol => (symbol.toList, rest.drop (symbol.length - 1))
  | none => ([c], rest)

/-- The word at the beginning of a text, and what follows it. After a number sign or an at sign any
character may stand that does not make an operator of it. -/
def splitWord? (text : List Char) : Option (List Char × List Char) :=
  let from_ (start rest : List Char) :=
    some (start ++ rest.takeWhile continuesName, rest.dropWhile continuesName)
  match text with
  | '#' :: c :: rest => if ['-', '>', ' '].contains c then none else from_ ['#', c] rest
  | '@' :: '@' :: c :: rest => if c = ' ' then none else from_ ['@', '@', c] rest
  | '@' :: c :: rest => if ['>', '?', '@', ' '].contains c then none else from_ ['@', c] rest
  | c :: rest => if startsName c then from_ [c] rest else none
  | [] => none

/-- Whether a word or a number and what follows it together begin a literal in another notation. -/
def marksLiteral (start rest : List Char) : Bool :=
  match start, rest with
  | ['0'], 'x' :: _ => true
  | [c], '\'' :: _ => "bBnNeExXrR".toList.contains c
  | [c], '"' :: _ => "bBrR".toList.contains c
  | [c], '&' :: '\'' :: _ => c == 'u' || c == 'U'
  | _, _ => false

/-- Whether a text begins with a number. -/
def startsNumber (text : List Char) : Bool :=
  match text with
  | '.' :: c :: _ => c.isDigit
  | c :: _ => c.isDigit
  | [] => false

/-- The tokens of a text; there are none if a quote or a comment is not closed. The fuel is spent
on characters. -/
def tokensFrom? : Nat → List Char → Option (List Token)
  | _, [] => some []
  | 0, _ => none
  | fuel + 1, c :: rest =>
    if isBlank c then tokensFrom? fuel rest
    else if c = '-' ∧ rest.head? = some '-' then tokensFrom? fuel (dropLine rest)
    else if c = '/' ∧ rest.head? = some '*' then do
      tokensFrom? fuel (← dropComment? 1 ' ' (rest.drop 1))
    else if c = '\'' then do
      let (text, rest) ← readQuoted? c [] rest
      return .literal text :: (← tokensFrom? fuel rest)
    else if c = '"' ∨ c = '\x60' then do
      let (text, rest) ← readQuoted? c [] rest
      return .word ⟨text, some c⟩ :: (← tokensFrom? fuel rest)
    else if startsNumber (c :: rest) then do
      let (number, rest) := splitNumber (c :: rest)
      if marksLiteral number rest then none
      else
        let (long, rest) := splitLong rest
        return .number number long :: (← tokensFrom? fuel rest)
    else match splitWord? (c :: rest) with
    | some (word, rest) => do
      if marksLiteral word rest then none
      else return .word ⟨word, none⟩ :: (← tokensFrom? fuel rest)
    | none => do
      let (symbol, rest) := splitSymbol c rest
      return .symbol symbol :: (← tokensFrom? fuel rest)

/-- The tokens of a text; there are none if a quote or a comment is not closed. -/
def tokens? (text : List Char) : Option (List Token) :=
  tokensFrom? text.length text

end SchemaMigration.Sql
