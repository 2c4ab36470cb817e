import SchemaMigration.Sql.Expression.Basic
import SchemaMigration.Sql.TypeName.Reader

/-!
# Reading expressions

An expression is an operand and what follows it: operators with more operands, tests and patterns.
What follows is taken as long as it binds more strongly than what stands before the operand.
Expressions inside of others are read by a reader for one level less, and there is a limit to the
levels.
-/

namespace SchemaMigration.Sql

/-- What can follow an operand. -/
inductive Follower where
  /-- An operator and another operand. -/
  | binary (operator : BinaryOperator)
  /-- A fact. -/
  | test
  /-- A list of values. -/
  | oneOf (negated : Bool)
  /-- Two bounds. -/
  | between (negated : Bool)
  /-- A pattern. -/
  | like (negated : Bool) (pattern : Pattern)
  /-- A time zone. -/
  | inZone
  /-- A type. -/
  | cast
  /-- An operator that is not read. -/
  | other
deriving DecidableEq

namespace Follower

/-- How strongly something binds to the operand before it. -/
def strength : Follower → Nat
  | binary operator => operator.strength
  | test => 17
  | oneOf _ | between _ => 20
  | like _ _ => 19
  | inZone => 41
  | cast | other => 50

/-- Whether something connects truth values. -/
def isLogical : Follower → Bool
  | binary operator => operator.isLogical
  | _ => false

/-- The words that announce patterns. -/
def patternWords : List (String × Pattern) :=
  [("LIKE", .like), ("ILIKE", .ilike), ("SIMILAR", .similar), ("REGEXP", .regexp),
    ("RLIKE", .rlike)]

/-- What a keyword announces, perhaps behind a negation. -/
def ofKeyword? (negated : Bool) (keyword : String) : Option Follower :=
  if keyword = "IN" then some (oneOf negated)
  else if keyword = "BETWEEN" then some (between negated)
  else (patternWords.lookup keyword).map (like negated)

/-- The words that announce something that is not negated. -/
def plainWords : List (String × Follower) :=
  [("AND", binary .and), ("OR", binary .or), ("XOR", binary .xor), ("IS", test), ("DIV", other),
    ("OPERATOR", other)]

/-- What follows an operand at the front of tokens, with the tokens behind its announcement. -/
def ofTokens? (tokens : List Token) : Option (Follower × List Token) :=
  match tokens with
  | .symbol text :: rest =>
    if text = [':', ':'] then some (cast, rest)
    else (BinaryOperator.symbols.lookup (String.ofList text)).map (binary ·, rest)
  | .word name :: rest =>
    let keyword := name.keyword
    if keyword = "NOT" then
      match rest with
      | .word next :: rest => (ofKeyword? true next.keyword).map (·, rest)
      | _ => none
    else if keyword = "AT" then (dropWords? ["TIME", "ZONE"] rest).map (inZone, ·)
    else ((plainWords.lookup keyword).or (ofKeyword? false keyword)).map (·, rest)
  | _ => none

end Follower

namespace Reader

/-- Reads expressions whose operators bind more strongly than a bound. -/
abbrev ExprReader := Nat → Reader Expr

/-- How strongly a sign binds to its operand. -/
def signStrength : Nat := 40

/-- How strongly a negation binds to its operand. -/
def notStrength : Nat := 15

/-! ## What follows an operand -/

/-- Reads a fact, perhaps negated, or another value to differ from. -/
def factAfter (inner : ExprReader) (operand : Expr) : Reader Expr := do
  let negated ← takeWord "NOT"
  if ← takeWord "NULL" then return .test operand negated .null
  else if ← takeWord "TRUE" then return .test operand negated .true
  else if ← takeWord "FALSE" then return .test operand negated .false
  else if ← takeWord "UNKNOWN" then return .test operand negated .unknown
  else
    expectWords ["DISTINCT", "FROM"]
    return .differs operand negated (← inner 0)

/-- The keywords of queries. -/
def queryWords : List String := ["SELECT", "WITH"]

/-- Fails if a query comes next. -/
def refuseQuery : Reader Unit := do
  if queryWords.contains (← nextKeyword) then fail else return ()

/-- Reads the right operand of an operator, which may be all of several values or any of them. -/
def rightOperand (inner : ExprReader) (operator : BinaryOperator) (left : Expr) : Reader Expr := do
  match ← takeOneOf? ["ANY", "ALL"] with
  | none => return .binary operator left (← inner operator.strength)
  | some word =>
    let right ← inParentheses (do
      refuseQuery
      inner operator.strength)
    if operator.isComparison then return .quantified operator (word == "ALL") left right else fail

/-- Reads a pattern behind its first keyword. -/
def patternAfter (inner : ExprReader) (operand : Expr) (negated : Bool) (pattern : Pattern) :
    Reader Expr := do
  if pattern = .similar then expectWords ["TO"]
  if pattern = .regexp then discard (takeWord "RLIKE")
  let form ← inner (Follower.like negated pattern).strength
  let escape ← if pattern.hasEscape then after "ESCAPE" text else pure none
  return .like operand negated pattern form escape

/-- Reads what belongs to something that follows an operand. -/
def extension (inner : ExprReader) (operand : Expr) (follower : Follower) : Reader Expr := do
  match follower with
  | .binary operator => rightOperand inner operator operand
  | .test => factAfter inner operand
  | .oneOf negated =>
    let items ← inParentheses (do
      refuseQuery
      list (inner 0))
    return .oneOf operand negated items
  | .between negated =>
    let low ← inner follower.strength
    expectWords ["AND"]
    return .between operand negated low (← inner follower.strength)
  | .like negated pattern => patternAfter inner operand negated pattern
  | .inZone => return .inZone operand (← inner follower.strength)
  | .cast => return .cast operand (← type)
  | .other => fail

/-- Reads what follows an operand and binds more strongly than a bound, at most a number of times.
Operators between truth values are left if they do not belong to it. -/
def followers (inner : ExprReader) (logical : Bool) (bound : Nat) : Nat → Expr → Reader Expr
  | 0, _ => fail
  | count + 1, operand => do
    match Follower.ofTokens? (← get) with
    | none => return operand
    | some (follower, rest) =>
      if follower.strength ≤ bound || (!logical && follower.isLogical) then return operand
      else
        set rest
        followers inner logical bound count (← extension inner operand follower)

/-! ## Functions -/

/-- The table whose columns a wildcard stands for, and what follows the wildcard. -/
def wildcardAfter? : List Token → Option (QualifiedName × List Token)
  | .symbol ['.'] :: .symbol ['*'] :: rest => some ([], rest)
  | .symbol ['.'] :: .word name :: rest => do
    let (parts, rest) ← wildcardAfter? rest
    return (name :: parts, rest)
  | .symbol ['.'] :: .literal text :: rest => do
    let (parts, rest) ← wildcardAfter? rest
    return (⟨text, some '\''⟩ :: parts, rest)
  | _ => none

/-- The wildcard at the front of tokens, and what follows it. -/
def wildcard? : List Token → Option (Expr × List Token)
  | .symbol ['*'] :: rest => some (.wildcard [], rest)
  | .word name :: rest => do
    let (parts, rest) ← wildcardAfter? rest
    return (.wildcard (name :: parts), rest)
  | .literal text :: rest => do
    let (parts, rest) ← wildcardAfter? rest
    return (.wildcard (⟨text, some '\''⟩ :: parts), rest)
  | _ => none

/-- Reads a wildcard or an expression. -/
def argument (inner : ExprReader) : Reader Expr := do
  match wildcard? (← get) with
  | some (e, rest) =>
    set rest
    return e
  | none => inner 0

/-- Reads which arguments are taken. -/
def repetition? : Reader (Option Repetition) := do
  let all ← takeWord "ALL"
  let distinct ← takeWord "DISTINCT"
  if all && distinct then fail
  else return if all then some .all else if distinct then some .distinct else none

/-- Reads arguments in parentheses. -/
def arguments (inner : ExprReader) : Reader (List Expr) := inParentheses do
  if ← nextIs ")" then return [] else list (argument inner)

/-- Reads arguments in parentheses and, if there are any, which of them are taken. -/
def chosenArguments (inner : ExprReader) : Reader (Option Repetition × List Expr) :=
  inParentheses do
    if ← nextIs ")" then return (none, []) else return (← repetition?, ← list (argument inner))

/-- Reads what is to be done about absent values. -/
def absent? : Reader (Option String) := do
  match ← takeOneOf? ["RESPECT", "IGNORE"] with
  | none => return none
  | some word =>
    expectWords ["NULLS"]
    return some (word ++ " NULLS")

/-- Reads the arguments of a function and what stands behind them. -/
def callOf (inner : ExprReader) (function : QualifiedName) : Reader Expr := do
  let (repetition, arguments) ← chosenArguments inner
  let absent ← absent?
  return .call function repetition arguments absent (← after "OVER" ident)

/-! ## Functions whose arguments have keywords between them -/

/-- The parts of times that have a keyword and a place in an interval. -/
def intervalFields : List String :=
  ["YEAR", "MONTH", "WEEK", "DAY", "HOUR", "MINUTE", "SECOND", "CENTURY", "DECADE", "DOW", "DOY",
    "EPOCH", "ISODOW", "ISOYEAR", "JULIAN", "MICROSECOND", "MICROSECONDS", "MILLENIUM",
    "MILLENNIUM", "MILLISECOND", "MILLISECONDS", "NANOSECOND", "NANOSECONDS", "QUARTER",
    "TIMEZONE", "TIMEZONE_HOUR", "TIMEZONE_MINUTE"]

/-- The parts of times that have a keyword. -/
def timeFields : List String :=
  intervalFields ++ ["DAYOFWEEK", "DAYOFYEAR", "DATE", "DATETIME", "ISOWEEK", "TIME",
    "TIMEZONE_ABBR", "TIMEZONE_REGION"]

/-- Reads a part of times. The week may have its first day, and any other name is a part too. -/
def timeField : Reader String := do
  match ← takeOneOf? timeFields with
  | none => return (← ident).render
  | some "WEEK" =>
    match ← inParentheses? ident with
    | some day => return "WEEK(" ++ day.render ++ ")"
    | none => return "WEEK"
  | some field => return field

/-- Reads a size, written with a blank in front of its parenthesis. -/
def spacedSize (size : Reader String) : Reader String := do
  match ← inParentheses? size with
  | some text => return " (" ++ text ++ ")"
  | none => return ""

/-- Reads the precision of seconds. -/
def secondSizes : Reader String := do
  let first ← size
  if ← takeSymbol "," then return first ++ ", " ++ (← size) else return first

/-- Reads the unit of an interval, perhaps with a smaller one. -/
def intervalUnit : Reader String := do
  let unit ←
    if intervalFields.contains (← nextKeyword) then pure (" " ++ (← timeField)) else pure ""
  if unit = " SECOND" then return unit ++ (← spacedSize secondSizes)
  else
    let size_ ← spacedSize size
    match ← after "TO" timeField with
    | none => return unit ++ size_
    | some "SECOND" => return unit ++ size_ ++ " TO SECOND" ++ (← spacedSize size)
    | some field => return unit ++ size_ ++ " TO " ++ field

/-- Reads an expression if a keyword comes first, which then belongs to the part. -/
def part? (inner : ExprReader) (keyword : String) : Reader (List (String × Expr)) := do
  match ← after keyword (inner 0) with
  | some e => return [(" " ++ keyword ++ " ", e)]
  | none => return []

/-- Reads cases as long as they come, at most a number of them. -/
def casesUpTo (inner : ExprReader) : Nat → Reader (List (String × Expr))
  | 0 => fail
  | count + 1 => do
    let condition ← inner 0
    expectWords ["THEN"]
    let result ← inner 0
    let parts := [(" WHEN ", condition), (" THEN ", result)]
    if ← takeWord "WHEN" then return parts ++ (← casesUpTo inner count) else return parts

/-- Reads a distinction of cases behind its first keyword. -/
def caseAfter (inner : ExprReader) : Reader Expr := do
  let operand ←
    if ← takeWord "WHEN" then pure []
    else
      let operand ← inner 0
      expectWords ["WHEN"]
      pure [(" ", operand)]
  let cases ← casesUpTo inner (← get).length
  let otherwise ← part? inner "ELSE"
  expectWords ["END"]
  match operand ++ cases ++ otherwise with
  | [] => fail
  | (words, first) :: rest => return .phrase (("CASE" ++ words, first) :: rest) " END"

/-- Reads a value and its new type. -/
def castTo (inner : ExprReader) (keyword : String) : Reader Expr := inParentheses do
  let e ← inner 0
  expectWords ["AS"]
  return .phrase [(keyword ++ "(", e)] (" AS " ++ (← type).render ++ ")")

/-- Reads a value and its new type or character set. -/
def conversion (inner : ExprReader) : Reader Expr := inParentheses do
  let e ← inner 0
  if ← takeWord "USING" then
    return .phrase [("CONVERT(", e)] (" USING " ++ (← path).render ++ ")")
  else
    expectSymbol ","
    let type ← type
    let set ←
      if ← takeWords ["CHARACTER", "SET"] then pure (" CHARACTER SET " ++ (← path).render)
      else pure ""
    return .phrase [("CONVERT(", e)] (", " ++ type.render ++ set ++ ")")

/-- Reads a part of times and a moment. -/
def extraction (inner : ExprReader) : Reader Expr := inParentheses do
  let field ← timeField
  let between ←
    if ← takeWord "FROM" then pure " FROM "
    else
      expectSymbol ","
      pure ", "
  return .phrase [("EXTRACT(" ++ field ++ between, ← inner 0)] ")"

/-- Reads a number to be rounded, or a moment and the part of times to round it to. -/
def rounding (inner : ExprReader) (keyword : String) : Reader Expr := inParentheses do
  let e ← inner 0
  match ← after "TO" timeField with
  | some field => return .phrase [(keyword ++ "(", e)] (" TO " ++ field ++ ")")
  | none => return .phrase [(keyword ++ "(", e)] ")"

/-- Reads a text and where to look for it. -/
def search (inner : ExprReader) : Reader Expr := inParentheses do
  let e ← inner (Follower.between false).strength
  expectWords ["IN"]
  return .phrase [("POSITION(", e), (" IN ", ← inner 0)] ")"

/-- Reads a text and which part of it to take. -/
def excerpt (inner : ExprReader) : Reader Expr := inParentheses do
  let e ← inner 0
  let commas ← takeSymbol ","
  let start ←
    if commas then pure [(", ", ← inner 0)] else part? inner "FROM"
  let hasLength ← if ← takeWord "FOR" then pure true else takeSymbol ","
  let length ←
    if hasLength then pure [(if commas then ", " else " FOR ", ← inner 0)] else pure []
  return .phrase (("SUBSTRING(", e) :: start ++ length) ")"

/-- Reads a text, what to put over it and where. -/
def overlay (inner : ExprReader) : Reader Expr := inParentheses do
  let e ← inner 0
  expectWords ["PLACING"]
  let inserted ← inner 0
  expectWords ["FROM"]
  let start ← inner 0
  let length ← part? inner "FOR"
  return .phrase ([("OVERLAY(", e), (" PLACING ", inserted), (" FROM ", start)] ++ length) ")"

/-- Reads a text and what to cut off at its ends. -/
def trimming (inner : ExprReader) : Reader Expr := inParentheses do
  let side ← takeOneOf? ["BOTH", "LEADING", "TRAILING"]
  let words := match side with
    | some side => "TRIM(" ++ side ++ " "
    | none => "TRIM("
  let e ← inner 0
  if ← takeSymbol "," then
    let characters ← list (inner 0)
    return .phrase (("TRIM(", e) :: characters.map (", ", ·)) ")"
  else return .phrase ((words, e) :: (← part? inner "FROM")) ")"

/-- Reads the parts of a compound value. -/
def compound (inner : ExprReader) : Reader Expr := inParentheses do
  match ← list (inner 0) with
  | [] => fail
  | first :: rest => return .phrase (("STRUCT(", first) :: rest.map (", ", ·)) ")"

/-- Reads what is negated. -/
def negation (inner : ExprReader) : Reader Expr := do
  if (← nextKeyword) = "EXISTS" then fail else return .unary .not (← inner notStrength)

/-- The readers of what follows the keywords at which an operand in a notation of its own begins. -/
def ownForms (inner : ExprReader) : List (String × Reader Expr) :=
  [("TRUE", return .truth true), ("FALSE", return .truth false), ("NULL", return .null),
    ("NOT", negation inner), ("CASE", caseAfter inner), ("CAST", castTo inner "CAST"),
    ("TRY_CAST", castTo inner "TRY_CAST"), ("SAFE_CAST", castTo inner "SAFE_CAST"),
    ("CONVERT", conversion inner), ("EXTRACT", extraction inner), ("CEIL", rounding inner "CEIL"),
    ("FLOOR", rounding inner "FLOOR"), ("SUBSTRING", excerpt inner), ("OVERLAY", overlay inner),
    ("TRIM", trimming inner), ("STRUCT", compound inner), ("EXISTS", fail), ("MATCH", fail)]

/-! ## Operands -/

/-- The names of values that are known without arguments. -/
def knownValues : List String := ["CURRENT_CATALOG", "CURRENT_USER", "SESSION_USER", "USER"]

/-- The names of moments that are known, perhaps with arguments. -/
def knownMoments : List String :=
  ["CURRENT_TIMESTAMP", "CURRENT_TIME", "CURRENT_DATE", "LOCALTIME", "LOCALTIMESTAMP"]

/-- Reads the arguments of the name of a moment, if it has any. -/
def moment (inner : ExprReader) (name : Ident) : Reader Expr := do
  if ← nextIs "(" then
    let (repetition, arguments) ← chosenArguments inner
    return .call [name] repetition arguments none none
  else return .name [name]

/-- Reads what follows the first part of a name: more parts, arguments or a literal. -/
def named (inner : ExprReader) (name : Ident) : Reader Expr := do
  let further ← furtherParts?
  if ← nextIs "(" then callOf inner (name :: further)
  else
    match further, ← get with
    | [], .literal text :: rest =>
      if name.text.head? = some '_' then
        set rest
        return .introduced name.text text
      else return .name [name]
    | _, _ => return .name (name :: further)

/-- Reads what follows a word at which an operand begins. -/
def wordOperand (inner : ExprReader) (name : Ident) : Reader Expr := do
  let keyword := name.keyword
  if let some reader := (ownForms inner).lookup keyword then reader
  else if knownValues.contains keyword then return .name [name]
  else if knownMoments.contains keyword then moment inner name
  else
    let call ← nextIs "("
    if keyword = "POSITION" && call then search inner
    else if keyword = "ARRAY" && (call || (← nextIs "[")) then fail
    else named inner name

/-- Reads what follows an opening parenthesis. -/
def grouped (inner : ExprReader) : Reader Expr := do
  refuseQuery
  let items ← list (inner 0)
  expectSymbol ")"
  if ← takeSymbol "." then
    match ← get with
    | .word name :: rest =>
      set rest
      return .field (.group items) name
    | _ => fail
  else return .group items

/-- Reads an operand without a type in front. -/
def plainOperand (inner : ExprReader) : Reader Expr := do
  match ← get with
  | .number text long :: rest =>
    set rest
    return .number (if long then text ++ ['L'] else text)
  | .literal text :: rest =>
    set rest
    return .literal text
  | .symbol ['+'] :: rest =>
    set rest
    return .unary .plus (← inner signStrength)
  | .symbol ['-'] :: rest =>
    set rest
    return .unary .minus (← inner signStrength)
  | .symbol ['('] :: rest =>
    set rest
    grouped inner
  | .word name :: rest =>
    set rest
    wordOperand inner name
  | _ => fail

/-- Reads a literal with its type in front. -/
def typedLiteral : Reader Expr := do
  let type ← keywordType
  return .typed type (← text)

/-- Reads an operand, perhaps with the order of its characters. The words for intervals that it may
begin with are at most a number of them. -/
def operand (inner : ExprReader) : Nat → Reader Expr
  | 0 => fail
  | count + 1 => do
    if ← takeWord "INTERVAL" then
      let first ← operand inner count
      let value ← followers inner false 0 ((← get).length + 1) first
      return .phrase [("INTERVAL ", value)] (← intervalUnit)
    else
      match ← optional typedLiteral with
      | some e => return e
      | none =>
        let e ← plainOperand inner
        match ← after "COLLATE" path with
        | some order => return .collate e order
        | none => return e

/-- Reads expressions of at most a number of levels. -/
def exprWithin : Nat → ExprReader
  | 0 => fun _ => fail
  | levels + 1 => fun bound => do
    let count := (← get).length + 1
    let first ← operand (exprWithin levels) count
    followers (exprWithin levels) true bound count first

/-- Reads an expression of at most a number of levels. -/
def expr (levels : Nat) : Reader Expr :=
  exprWithin levels 0

end Reader

end SchemaMigration.Sql
