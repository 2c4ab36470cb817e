import SchemaMigration.Sql.Definition.Reader
import SchemaMigration.Sql.Statement.Basic

/-!
# Reading statements

The readers of whole statements. `statements?` reads a list of statements with semicolons between
them.
-/

namespace SchemaMigration.Sql

namespace Reader

/-- Takes keywords as long as they come in order, each of them or none. -/
def takeInOrder : List String → Reader (List String)
  | [] => return []
  | keyword :: others => do
    let taken ← takeWord keyword
    let rest ← takeInOrder others
    return if taken then keyword :: rest else rest

/-! ## Rows -/

/-- How urgent it may be said that an insertion is. -/
def priorities : List String := ["LOW_PRIORITY", "DELAYED", "HIGH_PRIORITY"]

/-- Reads the rows that are inserted. -/
def insertion : Reader Insertion := do
  if ← takeWords ["DEFAULT", "VALUES"] then return .defaults
  else
    let columns ← columns?
    return .query columns (← query)

/-- Reads the rest of a statement that inserts rows. The word `LOCAL` says nothing of a table. -/
def insert : Reader Statement := do
  let priority ← takeOneOf? priorities
  let into ← takeInOrder ["IGNORE", "OVERWRITE", "INTO"]
  discard (takeWord "LOCAL")
  if (← nextKeyword) = "DIRECTORY" then fail
  else
    let keyword ← takeInOrder ["TABLE"]
    let table ← path
    return .insert (priority.toList ++ into ++ keyword) table (← insertion)

/-- Reads an assignment. -/
def assignment : Reader (QualifiedName × Expr) := do
  let column ← path
  expectSymbol "="
  return (column, ← ownExpr)

/-- Reads the rest of a statement that sets values. -/
def update : Reader Statement := do
  let table ← tableSource statementLevels
  expectWords ["SET"]
  let assignments ← list assignment
  return .update { table, assignments, condition := (← after "WHERE" ownExpr) }

/-- Reads the rest of a statement that deletes rows. -/
def delete : Reader Statement := do
  let keyword ← takeWord "FROM"
  let tables ← list (tableSource statementLevels)
  let condition ← after "WHERE" ownExpr
  let order ← listAfter ["ORDER", "BY"] (sortItem statementLevels)
  return .delete { keyword, tables, condition, order, limit := (← limit statementLevels) }

/-! ## Tables and other things -/

/-- Reads the rest of a statement that creates a table. -/
def createTable (keywords : List String) : Reader Statement := do
  let ifNotExists ← takeWords ["IF", "NOT", "EXISTS"]
  let name ← path
  let (columns, rules) ← definitions
  return .createTable { keywords, ifNotExists, name, columns, rules }

/-- Reads the rest of a statement that creates an index. -/
def createIndex (unique : Bool) : Reader Statement := do
  let concurrently ← takeWord "CONCURRENTLY"
  let ifNotExists ← takeWords ["IF", "NOT", "EXISTS"]
  let unnamed ← if ifNotExists then pure false else takeWord "ON"
  let name ← if unnamed then pure none else some <$> path
  if !unnamed then expectWords ["ON"]
  let table ← path
  let method ← after "USING" ident
  let items ← inParentheses (list (sortItem statementLevels))
  let condition ← after "WHERE" ownExpr
  return .createIndex
    { unique, concurrently, ifNotExists, name, table, method, items, condition }

/-- Reads the keywords in front of a new table, in the order in which they are written out. Of the
words for its reach the wider one counts. -/
def tableKeywords : Reader (List String) := do
  let local_ ← takeInOrder ["LOCAL"]
  let global ← takeInOrder ["GLOBAL"]
  let transient ← takeInOrder ["TRANSIENT"]
  let temporary ← takeOneOf? ["TEMP", "TEMPORARY"]
  return (if global.isEmpty then local_ else global)
    ++ (if temporary.isSome then ["TEMPORARY"] else []) ++ transient

/-- Reads the rest of a statement that creates something. -/
def create : Reader Statement := do
  let replaces ← takeWords ["OR", "REPLACE"]
  let keywords ← tableKeywords
  if ← takeWord "TABLE" then createTable (if replaces then "OR REPLACE" :: keywords else keywords)
  else if replaces then fail
  else if ← takeWord "INDEX" then createIndex false
  else
    expectWords ["UNIQUE", "INDEX"]
    createIndex true

/-- The words for what can be dropped. -/
def droppables : List (String × Droppable) :=
  [Droppable.table, .index, .view, .role, .schema, .sequence, .stage].map (fun d => (d.text, d))

/-- Reads the rest of a statement that drops things. Other things cannot depend on a role. -/
def drop : Reader Statement := do
  let temporary ← takeWord "TEMPORARY"
  match droppables.lookup ((← takeOneOf? (droppables.map (·.1))).getD "") with
  | none => fail
  | some kind =>
    let ifExists ← takeWords ["IF", "EXISTS"]
    let names ← list path
    let cascade ← takeWord "CASCADE"
    let restrict ← takeWord "RESTRICT"
    let purge ← takeWord "PURGE"
    if (cascade && restrict) || (kind == .role && (cascade || restrict || purge)) then fail
    else return .drop { temporary, kind, ifExists, names, cascade, restrict, purge }

/-- Reads the rest of a statement that changes a table. -/
def alter : Reader Statement := do
  expectWords ["TABLE"]
  let ifExists ← takeWords ["IF", "EXISTS"]
  let only ← takeWord "ONLY"
  let table ← path
  return .alterTable ifExists only table (← list alteration)

/-- Reads the rest of a statement that deletes all rows. -/
def truncate : Reader Statement := do
  let keywords ← takeInOrder ["TABLE", "ONLY"]
  let tables ← list path
  let identity ← takePhrase? [["RESTART", "IDENTITY"], ["CONTINUE", "IDENTITY"]]
  let reach ← takeOneOf? ["CASCADE", "RESTRICT"]
  return .truncate { keywords, tables, ending := identity.toList ++ reach.toList }

/-! ## Transactions -/

/-- The words for a transaction that say nothing more. -/
def transactionWords : List String := ["TRANSACTION", "WORK"]

/-- Reads whether another transaction begins. -/
def chain : Reader Bool := do
  discard (takeOneOf? transactionWords)
  if ← takeWord "AND" then
    let none ← takeWord "NO"
    expectWords ["CHAIN"]
    return !none
  else return false

/-- Reads the rest of a statement that undoes changes. -/
def rollback : Reader Statement := do
  let chain ← chain
  let mark ← after "TO" (do
    discard (takeWord "SAVEPOINT")
    ident)
  return .rollback chain mark

/-- The readers of what follows the first keyword of a statement that is no query. -/
def statementReaders : List (String × Reader Statement) :=
  [("INSERT", insert), ("UPDATE", update), ("DELETE", delete), ("CREATE", create), ("DROP", drop),
    ("ALTER", alter), ("TRUNCATE", truncate),
    ("BEGIN", do
      discard (takeOneOf? transactionWords)
      return .begin "BEGIN TRANSACTION"),
    ("START", do
      expectWords ["TRANSACTION"]
      return .begin "START TRANSACTION"),
    ("COMMIT", do return .commit (← chain)), ("END", do return .commit (← chain)),
    ("ROLLBACK", rollback), ("SAVEPOINT", do return .savepoint (← ident)),
    ("RELEASE", do
      discard (takeWord "SAVEPOINT")
      return .release (← ident))]

/-- Reads a statement. -/
def statement : Reader Statement := do
  let keyword ← nextKeyword
  match statementReaders.lookup keyword with
  | some reader =>
    expectWords [keyword]
    reader
  | none => return .query (← query)

/-- Reads statements, at most a number of them. A semicolon stands between two statements, and the
word `END` behind a statement ends the text. -/
def statementsUpTo (separated : Bool) : Nat → Reader (List Statement)
  | 0 => fail
  | count + 1 => do
    match ← get with
    | [] => return []
    | .symbol [';'] :: rest =>
      set rest
      statementsUpTo true count
    | tokens =>
      if separated then
        let first ← statement
        return first :: (← statementsUpTo false count)
      else if (dropWords? ["END"] tokens).isSome then return []
      else fail

end Reader

/-- The statements that tokens consist of, if they do. -/
def statements? (tokens : List Token) : Option (List Statement) :=
  (Reader.statementsUpTo true (tokens.length + 1) tokens).map (·.1)

end SchemaMigration.Sql
