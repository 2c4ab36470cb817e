import SchemaMigration.Sql.Definition.Basic
import SchemaMigration.Sql.Query.Reader

/-!
# Reading definitions of tables

The readers of columns, of rules on columns and tables, and of changes of a table.
-/

namespace SchemaMigration.Sql.Reader

variable {α : Type}

/-- The levels that an expression outside of queries may have. -/
def statementLevels : Nat := 49

/-- Reads an expression outside of queries. -/
def ownExpr : Reader Expr := expr statementLevels

/-! ## Rules -/

/-- Reads an action. -/
def action : Reader ReferentialAction := do
  if ← takeWord "RESTRICT" then return .restrict
  else if ← takeWord "CASCADE" then return .cascade
  else if ← takeWords ["SET", "NULL"] then return .setNull
  else if ← takeWords ["NO", "ACTION"] then return .noAction
  else if ← takeWords ["SET", "DEFAULT"] then return .setDefault
  else fail

/-- Reads an action for an occasion, if one comes next. -/
def actionOn? (occasion : String) : Reader (Option ReferentialAction) := do
  if ← takeWords ["ON", occasion] then return some (← action) else return none

/-- Reads actions, each at most once, in either order. -/
def actions : Reader ReferenceActions := do
  let onDelete ← actionOn? "DELETE"
  let onUpdate ← actionOn? "UPDATE"
  match onDelete with
  | some _ => return { onDelete, onUpdate }
  | none => return { onDelete := (← actionOn? "DELETE"), onUpdate }

/-- Reads a rule on a column, if one comes next. -/
def columnRule? : Reader (Option ColumnRule) := do
  if ← takeWords ["NOT", "NULL"] then return some .notNull
  else if ← takeWord "NULL" then return some .null
  else if ← takeWord "DEFAULT" then return some (.default (← ownExpr))
  else if ← takeWords ["PRIMARY", "KEY"] then return some .primaryKey
  else if ← takeWord "UNIQUE" then return some .unique
  else if ← takeWord "REFERENCES" then
    let table ← path
    let columns ← columns?
    return some (.references table columns (← actions))
  else if ← takeWord "CHECK" then return some (.check (← inParentheses ownExpr))
  else if ← takeWord "AUTO_INCREMENT" then return some (.autoIncrement true)
  else if ← takeWord "AUTOINCREMENT" then return some (.autoIncrement false)
  else return none

/-- Reads a rule that may have the name of a constraint, if one comes next. A name must have a rule
behind it. -/
def constrained? (rule? : Reader (Option α)) : Reader (Option (Constrained α)) := do
  let name ← after "CONSTRAINT" ident
  match ← rule? with
  | some rule => return some ⟨name, rule⟩
  | none => if name.isSome then fail else return none

/-- The keyword that an index may be said to be. -/
def indexWords : List String := ["KEY", "INDEX"]

/-- The kinds of an index for texts and shapes. -/
def specialIndexWords : List String := ["FULLTEXT", "SPATIAL"]

/-- Reads an index of a kind behind its keyword. -/
def specialIndex (keyword : String) : Reader TableRule := do
  let word ← takeOneOf? indexWords
  let name ← optional ident
  return .index (keyword ++ behind " " id word) name (← columns)

/-- Reads a rule on a table that may have the name of a constraint, if one comes next. -/
def tableRule? : Reader (Option TableRule) := do
  if ← takeWord "PRIMARY" then
    expectWords ["KEY"]
    let index ← optional ident
    return some (.primaryKey index (← columns))
  else if ← takeWord "UNIQUE" then
    let keyword ← takeOneOf? indexWords
    let index ← optional ident
    return some (.unique keyword index (← columns))
  else if ← takeWord "FOREIGN" then
    expectWords ["KEY"]
    let columns ← columns
    expectWords ["REFERENCES"]
    let table ← path
    let references ← Reader.columns
    return some (.foreignKey columns table references (← actions))
  else if ← takeWord "CHECK" then return some (.check (← inParentheses ownExpr))
  else return none

/-- Reads an index, which has no name of a constraint, if one comes next. -/
def index? : Reader (Option TableRule) := do
  match ← takeOneOf? indexWords with
  | some keyword =>
    let name ← if (← nextKeyword) = "USING" then pure none else optional ident
    return some (.index keyword name (← columns))
  | none =>
    match ← takeOneOf? specialIndexWords with
    | some keyword => return some (← specialIndex keyword)
    | none => return none

/-- Reads a rule on a table, if one comes next. -/
def anyTableRule? : Reader (Option (Constrained TableRule)) := do
  match ← index? with
  | some rule => return some ⟨none, rule⟩
  | none => constrained? tableRule?

/-! ## Columns -/

/-- Reads what a column says behind its type: rules, and the order of its characters, of which the
last one counts. -/
def columnRest (collation : Option QualifiedName) :
    Nat → Reader (Option QualifiedName × List (Constrained ColumnRule))
  | 0 => fail
  | count + 1 => do
    match ← constrained? columnRule? with
    | some rule =>
      let (collation, rules) ← columnRest collation count
      return (collation, rule :: rules)
    | none =>
      match ← after "COLLATE" path with
      | some order => columnRest (some order) count
      | none => return (collation, [])

/-- Reads the definition of a column. -/
def column : Reader ColumnDefinition := do
  let name ← ident
  let type ← type
  let (collation, rules) ← columnRest none ((← get).length + 1)
  return { name, type, collation, rules }

/-- The definitions in a table: its columns, and the rules on it. -/
abbrev Definitions := List ColumnDefinition × List (Constrained TableRule)

/-- Reads the definition of a column or a rule on a table. -/
def definition : Reader Definitions := do
  match ← anyTableRule? with
  | some rule => return ([], [rule])
  | none =>
    match ← get with
    | .word _ :: _ => return ([← column], [])
    | _ => fail

/-- Reads the definitions of a table in parentheses, if there are any. -/
def definitions : Reader Definitions := do
  if ← takeSymbol "(" then
    if ← takeSymbol ")" then return ([], [])
    else
      let parts ← list definition
      expectSymbol ")"
      return (parts.flatMap Prod.fst, parts.flatMap Prod.snd)
  else return ([], [])

/-! ## Changes -/

/-- Reads a place for a new column, if one comes next. -/
def position? : Reader (Option Position) := do
  if ← takeWord "FIRST" then return some .first
  else return (← after "AFTER" ident).map .after

/-- Reads the rest of a change that adds something. -/
def addition : Reader Alteration := do
  match ← anyTableRule? with
  | some rule => return .addRule rule
  | none =>
    let before ← takeWords ["IF", "NOT", "EXISTS"]
    if (← nextKeyword) = "PARTITION" then fail
    else
      let keyword ← takeWord "COLUMN"
      let behind ← takeWords ["IF", "NOT", "EXISTS"]
      let column ← column
      return .addColumn keyword (before || behind) column (← position?)

/-- Reads the rest of a change that renames something. -/
def rename : Reader Alteration := do
  if ← takeWord "TO" then return .renameTable (← path)
  else
    discard (takeWord "COLUMN")
    let old ← ident
    expectWords ["TO"]
    return .renameColumn old (← ident)

/-- Reads the rest of a change that drops something. -/
def removal : Reader Alteration := do
  if ← takeWords ["IF", "EXISTS", "PARTITION"] then fail
  else if ← takeWord "PARTITION" then fail
  else if ← takeWord "CONSTRAINT" then
    let ifExists ← takeWords ["IF", "EXISTS"]
    let name ← ident
    return .dropConstraint ifExists name (← takeWord "CASCADE")
  else if ← takeWords ["PRIMARY", "KEY"] then return .dropPrimaryKey
  else
    discard (takeWord "COLUMN")
    let ifExists ← takeWords ["IF", "EXISTS"]
    let column ← ident
    return .dropColumn ifExists column (← takeWord "CASCADE")

/-- Reads a change of a table. -/
def alteration : Reader Alteration := do
  if ← takeWord "ADD" then addition
  else if ← takeWord "RENAME" then rename
  else if ← takeWord "DROP" then removal
  else fail

end SchemaMigration.Sql.Reader
