import SchemaMigration.Sql.Keyword
import SchemaMigration.Sql.Name

/-!
# Reading tokens

A `Reader` takes tokens from the front of a list, or fails. Keywords are recognised in any case, but
not in quotes. Here are the readers of keywords, symbols, names and lists.
-/

namespace SchemaMigration.Sql

open Text

/-- A function that takes tokens from the front of a list, or fails. -/
abbrev Reader := StateT (List Token) Option

/-- What follows keywords, if the tokens begin with them. -/
def dropWords? : List String → List Token → Option (List Token)
  | [], tokens => some tokens
  | keyword :: keywords, .word name :: rest =>
    if name.keyword = keyword then dropWords? keywords rest else none
  | _ :: _, _ => none

namespace Reader

variable {α : Type}

/-- Fails. -/
def fail : Reader α := fun _ => none

/-- The result of a reader, if it does not fail; if it does, no token is taken. -/
def optional (reader : Reader α) : Reader (Option α) := fun tokens =>
  match reader tokens with
  | some (a, rest) => some (some a, rest)
  | none => some (none, tokens)

/-- The keyword that comes next, the empty text if none does. -/
def nextKeyword : Reader String := fun tokens =>
  match tokens with
  | .word name :: _ => some (name.keyword, tokens)
  | _ => some ("", tokens)

/-- Takes keywords if they come next; returns whether they do. -/
def takeWords (keywords : List String) : Reader Bool := fun tokens =>
  match dropWords? keywords tokens with
  | some rest => some (true, rest)
  | none => some (false, tokens)

/-- Takes a keyword if it comes next; returns whether it does. -/
def takeWord (keyword : String) : Reader Bool :=
  takeWords [keyword]

/-- Takes keywords, which must come next. -/
def expectWords (keywords : List String) : Reader Unit := fun tokens =>
  (dropWords? keywords tokens).map ((), ·)

/-- Takes a phrase if it comes next, the first one of several that does. -/
def takePhrase? : List (List String) → Reader (Option String)
  | [] => return none
  | words :: others => do
    if ← takeWords words then return some (join " " words) else takePhrase? others

/-- Takes a keyword if it comes next and is one of several. -/
def takeOneOf? (keywords : List String) : Reader (Option String) :=
  takePhrase? (keywords.map ([·]))

/-- Whether a symbol comes next. -/
def nextIs (symbol : String) : Reader Bool := fun tokens =>
  match tokens with
  | .symbol text :: _ => some (text == symbol.toList, tokens)
  | _ => some (false, tokens)

/-- Takes a symbol if it comes next; returns whether it does. -/
def takeSymbol (symbol : String) : Reader Bool := fun tokens =>
  match tokens with
  | .symbol text :: rest => some (if text = symbol.toList then (true, rest) else (false, tokens))
  | _ => some (false, tokens)

/-- Takes a symbol, which must come next. -/
def expectSymbol (symbol : String) : Reader Unit := do
  if ← takeSymbol symbol then return () else fail

/-- Reads a name. -/
def ident : Reader Ident
  | .word name :: rest => some (name, rest)
  | .literal text :: rest => some (⟨text, some '\''⟩, rest)
  | _ => none

/-- The further parts of a name with points, and what follows them. -/
def furtherParts? : List Token → Option (QualifiedName × List Token)
  | .symbol ['.'] :: .word name :: rest => do
    let (parts, rest) ← furtherParts? rest
    return (name :: parts, rest)
  | .symbol ['.'] :: .literal text :: rest => do
    let (parts, rest) ← furtherParts? rest
    return (⟨text, some '\''⟩ :: parts, rest)
  | .symbol ['.'] :: _ => none
  | tokens => some ([], tokens)

/-- Reads a name with points. -/
def path : Reader QualifiedName := do
  let first ← ident
  return first :: (← furtherParts?)

/-- Reads a text: a literal, or a word that is no keyword. -/
def text : Reader (List Char)
  | .literal text :: rest => some (text, rest)
  | .word name :: rest => if name.isKeyword then none else some (name.text, rest)
  | _ => none

/-- Reads a literal. -/
def literal : Reader (List Char)
  | .literal text :: rest => some (text, rest)
  | _ => none

/-- Reads a natural number below 2 ^ 64. -/
def natural : Reader Nat
  | .number text _ :: rest => do
    let n ← readNat? text
    if n < UInt64.size then some (n, rest) else none
  | _ => none

/-- Reads what stands between commas, at most a number of times. -/
def upTo (item : Reader α) : Nat → Reader (List α)
  | 0 => fail
  | count + 1 => do
    let first ← item
    if ← takeSymbol "," then return first :: (← upTo item count)
    else return [first]

/-- Reads what stands between commas. -/
def list (item : Reader α) : Reader (List α) := do
  upTo item (← get).length

/-- Reads what stands in parentheses. -/
def inParentheses (inner : Reader α) : Reader α := do
  expectSymbol "("
  let a ← inner
  expectSymbol ")"
  return a

/-- Reads something in parentheses, if a parenthesis comes next. -/
def inParentheses? (inner : Reader α) : Reader (Option α) := do
  if ← nextIs "(" then return some (← inParentheses inner) else return none

/-- Reads something if a keyword comes first. -/
def after (keyword : String) (reader : Reader α) : Reader (Option α) := do
  if ← takeWord keyword then return some (← reader) else return none

/-- Reads a list if keywords come first. -/
def listAfter (keywords : List String) (item : Reader α) : Reader (List α) := do
  if ← takeWords keywords then list item else return []

/-- Reads names in parentheses. -/
def columns : Reader (List Ident) :=
  inParentheses (list ident)

/-- Reads names in parentheses, if there are any. -/
def columns? : Reader (List Ident) := do
  return (← inParentheses? (list ident)).getD []

end Reader

end SchemaMigration.Sql
