import FacetSql.Sql.Source
/-!
# Select — the clauses of SELECT

The clauses stand in a fixed order, and each may be left out but the first.  Columns, sources, the condition and the
keys are kept as trees; TOP, INTO, LATERAL VIEW and all that stands behind GROUP BY are kept as text.
-/
namespace FacetSql.Sql

open Reader

/-- A list of entries in parentheses, or one entry without them. -/
def oneOrSeveral (entry : Reader String) : Reader String := do
  if (← peekSign) = "(" then return inParentheses (← inParens (commaList entry))
  entry

/-- A column and its new name. -/
def renamed : Reader String := do
  let column ← name
  keyword "AS"
  return column.render ++ " AS " ++ (← name).render

/-- A column and the expression in its place. -/
def replaced (r : Rules) : Reader String := do
  let e ← r.text
  let announced ← optionalWords ["AS"]
  return inWords [e, announced, (← name).render]

/-- **The columns a star leaves out, renames or replaces**, behind it. -/
def starOptions (r : Rules) : Reader String := do
  let excluded ← textBehind ["EXCLUDE"] (oneOrSeveral nameText)
  let excepted ← textBehind ["EXCEPT"] (do
    if (← peekSign) = "(" then return "(" ++ renderNames (← nameList) ++ ")"
    return "(" ++ (← nameText) ++ ")")
  let renamings ← textBehind ["RENAME"] (oneOrSeveral renamed)
  let replacings ← textBehind ["REPLACE"] (do return inParentheses (← inParens (commaList (replaced r))))
  return inWords [excluded, excepted, renamings, replacings]

/-- **A projected item.** -/
def selectItem (r : Rules) : Reader SelectItem := do
  match ← projected r with
  | .expr e =>
    match ← aliasName clauseWords with
    | some n => return .aliased e n
    | none => return .expr e
  | star => return .other (inWords [star.render, ← starOptions r])

/-- How many rows TOP takes, behind the keyword. -/
def topClause (r : Rules) : Reader String := do
  let count ← (do if (← peekSign) = "(" then return "(" ++ (← inParens r.text) ++ ")" else numberWithin Numeral.word64)
  let percent ← optionalWords ["PERCENT"]
  return inWords ["TOP", count, percent, ← optionalWords ["WITH", "TIES"]]

/-- The table that INTO makes, behind the keyword. -/
def intoClause : Reader String := do
  let temporary := textIf (← oneOf? ["TEMP", "TEMPORARY"]).isSome "TEMPORARY"
  let unlogged ← optionalWords ["UNLOGGED"]
  let table ← optionalWords ["TABLE"]
  return inWords ["INTO", temporary, unlogged, table, ← pathText]

/-- The words that end the columns of a lateral view. -/
def viewWords : List String := ["WHERE", "GROUP", "CLUSTER", "HAVING", "LATERAL"]

/-- Lateral views, at most a number of them.  A column without a name leaves no trace. -/
def viewsUpTo (r : Rules) : Nat → Reader String
  | 0 => return ""
  | n + 1 => do
    if ← keywords? ["LATERAL", "VIEW"] then
      let outer ← optionalWords ["OUTER"]
      let e ← r.text
      let viewName ← pathText
      let columns ← commaList (aliasName viewWords)
      let view := inWords ["LATERAL VIEW", outer, e, viewName, clause "AS" (columns.filterMap (·.map Name.render))]
      return inWords [view, ← viewsUpTo r n]
    return ""

/-- Expressions in parentheses, or none in empty ones. -/
def keySet (r : Rules) : Reader (List String) := do
  sign "("
  if ← sign? ")" then return []
  let keys ← r.texts
  sign ")"
  return keys

/-- A set of keys, or one key for a set of its own. -/
def keyOrSet (r : Rules) : Reader String := do
  if (← peekSign) = "(" then
    match ← keySet r with
    | [key] => return key
    | keys => return inParentheses keys
  r.text

/-- **A key of GROUP BY**, or several sets of keys. -/
def groupKey (r : Rules) : Reader Expr := do
  if ← keywords? ["GROUPING", "SETS"] then
    let sets ← inParens (commaList (do return inParentheses (← keySet r)))
    return .other ("GROUPING SETS " ++ inParentheses sets)
  match ← oneOf? ["CUBE", "ROLLUP"] with
  | some word => return .other (word ++ " " ++ inParentheses (← inParens (commaList (keyOrSet r))))
  | none => r.expr

/-- GROUP BY, or no keys. -/
def groupClause (r : Rules) : Reader Grouping := do
  if ← keywords? ["GROUP", "BY"] then
    if ← keyword? "ALL" then return .all
    return .keys (← commaList (groupKey r))
  return .keys []

/-- A window with a name. -/
def namedWindow (r : Rules) : Reader String := do
  let n ← name
  keyword "AS"
  return n.render ++ " AS " ++ (← windowSpec r)

/-- A comma list behind keywords, or nothing without them. -/
def listBehind (words : List String) (entry : Reader String) : Reader String :=
  textBehind words (do return inCommas (← commaList entry))

/-- **SELECT**, behind its keyword. -/
def select (r : Rules) : Reader Select := do
  let distinct ← distinctMode r
  let top ← (do if ← keyword? "TOP" then topClause r else return "")
  let items ← commaList (selectItem r)
  let into ← (do if ← keyword? "INTO" then intoClause else return "")
  let sources ← (do if ← keyword? "FROM" then commaList r.joined else return [])
  let views ← viewsUpTo r (← get).length
  let condition ← behind? "WHERE" r.expr
  let grouping ← groupClause r
  let cluster ← listBehind ["CLUSTER", "BY"] r.text
  let distribute ← listBehind ["DISTRIBUTE", "BY"] r.text
  let sort ← listBehind ["SORT", "BY"] r.text
  let having ← textBehind ["HAVING"] r.text
  let windows ← listBehind ["WINDOW"] (namedWindow r)
  let qualify ← textBehind ["QUALIFY"] r.text
  return ⟨distinct, top, items, into, sources, views, condition, grouping,
    inWords [cluster, distribute, sort, having, windows, qualify]⟩

end FacetSql.Sql
