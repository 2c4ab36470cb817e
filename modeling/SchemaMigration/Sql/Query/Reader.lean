import SchemaMigration.Sql.Expression.Reader
import SchemaMigration.Sql.Query.Basic

/-!
# Reading queries

The readers of selections, of given rows and of whole queries, and of the names that may follow what
they rename. The readers of expressions are those for a number of levels.
-/

namespace SchemaMigration.Sql.Reader

/-- The levels that an expression in a query may have. -/
def queryLevels : Nat := 48

/-- The keywords that cannot be another name of anything without `AS`. -/
def reservedWords : List String :=
  ["WITH", "EXPLAIN", "ANALYZE", "SELECT", "WHERE", "GROUP", "SORT", "HAVING", "ORDER", "TOP",
    "LATERAL", "VIEW", "LIMIT", "OFFSET", "FETCH", "UNION", "EXCEPT", "INTERSECT", "CLUSTER",
    "DISTRIBUTE", "END"]

/-- The keywords that cannot be another name of an expression without `AS`. -/
def reservedBehindExpr : List String :=
  reservedWords ++ ["RETURNING", "FROM", "INTO"]

/-- The keywords that cannot be another name of a table without `AS`. -/
def reservedBehindTable : List String :=
  reservedWords ++ ["ON", "JOIN", "INNER", "CROSS", "FULL", "LEFT", "RIGHT", "NATURAL", "USING",
    "OUTER", "SET", "QUALIFY", "WINDOW", "FOR", "PARTITION", "PREWHERE", "SETTINGS", "FORMAT",
    "START", "CONNECT", "PIVOT", "UNPIVOT", "MATCH_RECOGNIZE"]

/-- Reads another name, if one comes next. Without `AS` it is none of some keywords. -/
def otherName? (reserved : List String) : Reader (Option Ident) := do
  if ← takeWord "AS" then return some (← ident)
  else if reserved.contains (← nextKeyword) then return none
  else optional ident

/-- Reads an item of a selection. A wildcard has no other name, and no expression is the word
`FROM`. -/
def selectItem (levels : Nat) : Reader SelectItem := do
  let e ← argument (exprWithin levels)
  match e with
  | .wildcard _ => return ⟨e, none⟩
  | .name [name] =>
    if name.keyword = "FROM" then fail else return ⟨e, ← otherName? reservedBehindExpr⟩
  | _ => return ⟨e, ← otherName? reservedBehindExpr⟩

/-- The words at which something other than a table begins. -/
def otherSources : List String := ["LATERAL", "TABLE", "UNNEST"]

/-- The words at which something other than a function of rows begins, if arguments follow. -/
def otherRowFunctions : List String := ["VALUES", "JSON_TABLE"]

/-- Reads a table. Behind it the word `GLOBAL` may stand, which announces a join and says nothing
without one. -/
def tableSource (levels : Nat) : Reader TableSource := do
  let keyword ← nextKeyword
  if otherSources.contains keyword then fail
  else
    let name ← path
    if otherRowFunctions.contains keyword && name.length == 1 && (← nextIs "(") then fail
    else
      let arguments ←
        if ← nextIs "(" then pure (some (← arguments (exprWithin levels))) else pure none
      let otherName ← otherName? reservedBehindTable
      let columns ← if otherName.isSome then columns? else pure []
      discard (takeWord "GLOBAL")
      return { name, arguments, otherName, columns }

/-- Reads which rows are shown once. -/
def distinction? (levels : Nat) : Reader (Option Distinction) := do
  match ← repetition? with
  | some .distinct =>
    if ← takeWord "ON" then return some (.on (← inParentheses (list (expr levels))))
    else return some .rows
  | _ => return none

/-- Reads a limit behind its first keyword. -/
def top (levels : Nat) : Reader Top := do
  let quantity ←
    match ← inParentheses? (expr levels) with
    | some e => pure (.inr e)
    | none => pure (.inl (← natural))
  let percent ← takeWord "PERCENT"
  return { quantity, percent, withTies := (← takeWords ["WITH", "TIES"]) }

/-- The words at which a grouping in another notation begins. -/
def otherGroupings : List String := ["CUBE", "ROLLUP"]

/-- Reads an expression to group by. -/
def groupItem (levels : Nat) : Reader Expr := do
  if otherGroupings.contains (← nextKeyword) then fail else expr levels

/-- Reads how rows are grouped. -/
def grouping (levels : Nat) : Reader Grouping := do
  if ← takeWords ["GROUP", "BY"] then
    if ← takeWord "ALL" then return .all else return .expressions (← list (groupItem levels))
  else return .expressions []

/-- Reads a selection behind its first keyword. -/
def select (levels : Nat) : Reader Select := do
  let distinction ← distinction? levels
  let top ← after "TOP" (top levels)
  let items ← list (selectItem levels)
  let tables ← listAfter ["FROM"] (tableSource levels)
  let condition ← after "WHERE" (expr levels)
  let grouping ← grouping levels
  let groupCondition ← after "HAVING" (expr levels)
  return { distinction, top, items, tables, condition, grouping, groupCondition }

/-- Reads an expression to sort by. -/
def sortItem (levels : Nat) : Reader SortItem := do
  let e ← expr levels
  let descending ←
    if ← takeWord "ASC" then pure (some false)
    else if ← takeWord "DESC" then pure (some true)
    else pure none
  let nullsFirst ←
    if ← takeWords ["NULLS", "FIRST"] then pure (some true)
    else if ← takeWords ["NULLS", "LAST"] then pure (some false)
    else pure none
  return ⟨e, descending, nullsFirst⟩

/-- Reads a given row, and whether a keyword stands in front of it. -/
def row (levels : Nat) : Reader (Bool × List Expr) := do
  let keyword ← takeWord "ROW"
  return (keyword, ← inParentheses (list (expr levels)))

/-- Reads where rows come from. -/
def source (levels : Nat) : Reader Source := do
  if ← takeWord "SELECT" then return .select (← select levels)
  else
    expectWords ["VALUES"]
    let rows ← list (row levels)
    return .values (rows.any (·.1)) (rows.map (·.2))

/-- Reads a number of rows to take, if one comes next. The word `ALL` is no limit. -/
def limit (levels : Nat) : Reader (Option Expr) := do
  if ← takeWord "LIMIT" then
    if ← takeWord "ALL" then return none else return some (← expr levels)
  else return none

/-- Reads a number of rows to pass over, if one comes next. -/
def offset (levels : Nat) : Reader (Option (Expr × String)) := do
  match ← after "OFFSET" (expr levels) with
  | none => return none
  | some e =>
    match ← takeOneOf? ["ROW", "ROWS"] with
    | some word => return some (e, " " ++ word)
    | none => return some (e, "")

/-- Reads more of a window. Of two numbers behind the word for the limit the first one is that of
rows to pass over. -/
def windowAfter (levels : Nat) (w : Window) : Reader Window := do
  let limit ← if w.limit.isNone then limit levels else pure w.limit
  let offset ← if w.offset.isNone then offset levels else pure w.offset
  match limit, offset with
  | some first, none =>
    if ← takeSymbol "," then return { limit := some (← expr levels), offset := some (first, "") }
    else return { limit, offset }
  | _, _ => return { limit, offset }

/-- Reads a window, whose two parts may come in either order. -/
def window (levels : Nat) : Reader Window := do
  windowAfter levels (← windowAfter levels {})

/-- Reads a query. -/
def query : Reader Query := do
  let source ← source queryLevels
  let order ← listAfter ["ORDER", "BY"] (sortItem queryLevels)
  return { source, order, window := (← window queryLevels) }

end SchemaMigration.Sql.Reader
