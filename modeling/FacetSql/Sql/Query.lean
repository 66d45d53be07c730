import FacetSql.Sql.Change
/-!
# Query — bodies, set operations and what is done with their rows

Set operators are read by precedence like operators between operands.  The planner looks into a SELECT and into a query
in parentheses; every other body is kept as its text, and so are WITH and the clauses behind LIMIT.
-/
namespace FacetSql.Sql

open Reader

/-- A table named by WITH. -/
def commonTable (r : Rules) : Reader String := do
  let n ← name
  let columns ← (do
    if (← peekKeyword) = "AS" then return [] else optionalNameList)
  keyword "AS"
  let q ← inParens r.queryText
  let origin ← textBehind ["FROM"] (do return (← name).render)
  return inWords [(TableAlias.mk n columns).render, "AS (" ++ q ++ ")", origin]

/-- The text of WITH, if it is there. -/
def withClause (r : Rules) : Reader String := do
  if ← keyword? "WITH" then
    let recursive ← optionalWords ["RECURSIVE"]
    return inWords ["WITH", recursive, inCommas (← commaList (commonTable r))]
  return ""

/-- A row of values, and whether its keyword stands before it. -/
def valueRow (r : Rules) : Reader (Bool × String) := do
  let announced ← keyword? "ROW"
  return (announced, inParentheses (← inParens r.texts))

/-- VALUES, behind the keyword.  If one row has a keyword, all of them are written with it. -/
def valuesBody (r : Rules) : Reader String := do
  let rows ← commaList (valueRow r)
  let word := textIf (rows.any (·.1)) "ROW"
  return "VALUES " ++ inCommas (rows.map (fun row => word ++ row.2))

/-- TABLE, behind the keyword.  Three tokens are taken, whatever the second and the third are. -/
def tableBody : Reader String := do
  let tokens ← get
  modify (List.drop 3)
  match tokens with
  | .word schema :: .sign "." :: .word table :: _ => return "TABLE " ++ schema.text ++ "." ++ table.text
  | _ :: .sign "." :: _ => refuse
  | .word table :: _ => return "TABLE " ++ table.text
  | _ => refuse

/-- A body without set operators behind it. -/
def simpleBody (r : Rules) : Reader Body := do
  if ← keyword? "SELECT" then return .select (← select r)
  if (← peekSign) = "(" then return .nested (← inParens r.query)
  match ← oneOf ["VALUES", "TABLE"] with
  | "VALUES" => return .other (← valuesBody r)
  | _ => return .other (← tableBody)

/-- How tight the set operator in front binds; 0 where there is none. -/
def setPrecedence : List Token → Nat
  | t :: _ =>
    match keywordOf (some t) with
    | "UNION" | "EXCEPT" => 10
    | "INTERSECT" => 20
    | _ => 0
  | [] => 0

/-- Whether repeated rows are kept, and whether columns are matched by name. -/
def setQuantifier (operator : String) : Reader String := do
  if operator = "UNION" then
    if ← keywords? ["DISTINCT", "BY", "NAME"] then return "DISTINCT BY NAME"
    let all ← optionalWords ["ALL"]
    let byName ← optionalWords ["BY", "NAME"]
    if all = "" ∧ byName = "" then optionalWords ["DISTINCT"] else return inWords [all, byName]
  else return (← oneOf? ["ALL", "DISTINCT"]).getD ""

/-- **A body and at most a number of set operators** behind it that bind tighter than `bound`. -/
def bodyUpTo (r : Rules) : Nat → Nat → Option Body → Reader Body
  | 0, _, _ => refuse
  | n + 1, bound, none => do bodyUpTo r n bound (some (← simpleBody r))
  | n + 1, bound, some left => do
    let next := setPrecedence (← get)
    if next ≤ bound then return left
    let operator ← peekKeyword
    skip
    let quantifier ← setQuantifier operator
    let right ← bodyUpTo r n next none
    bodyUpTo r n bound (some (.other (inWords [left.render, operator, quantifier, right.render])))

/-- **The body of a query.** -/
def body (r : Rules) : Reader Body := do
  if ← keyword? "INSERT" then return .other (← insertStatement r)
  if ← keyword? "UPDATE" then return .other (← updateStatement r)
  bodyUpTo r (2 * (← get).length + 2) 0 none

/-- A number of rows to skip, behind the keyword, with the word written after it. -/
def offsetText (r : Rules) : Reader String := do
  let count ← r.text
  return inWords ["OFFSET", count, ((← oneOf? ["ROW", "ROWS"]).getD "")]

/-- **LIMIT and OFFSET**, in either order: `rounds` times one of each.  Two numbers behind LIMIT are an offset and a
limit. -/
def limits (r : Rules) : Nat → Option Expr → String → Reader (Option Expr × String)
  | 0, limit, offset => return (limit, offset)
  | rounds + 1, limit, offset => do
    let limit ← (do
      if limit.isNone then
        if ← keyword? "LIMIT" then return (← limitValue r)
      return limit)
    let offset ← (do
      if offset = "" then
        if ← keyword? "OFFSET" then return (← offsetText r)
      return offset)
    match limit, offset with
    | some count, "" =>
      if ← sign? "," then
        let limit ← r.expr
        limits r rounds (some limit) ("OFFSET " ++ count.render)
      else limits r rounds limit offset
    | _, _ => limits r rounds limit offset

/-- FETCH, behind the keyword. -/
def fetchText : Reader String := do
  let _ ← oneOf ["FIRST", "NEXT"]
  let count ← (do
    match ← oneOf? ["ROW", "ROWS"] with
    | some _ => return ""
    | none =>
      let value ← constant
      let percent ← optionalWords ["PERCENT"]
      let _ ← oneOf ["ROW", "ROWS"]
      return inWords [value.render, percent])
  let ties ← (do
    if ← keyword? "ONLY" then return "ONLY"
    keywords ["WITH", "TIES"]
    return "WITH TIES")
  return inWords ["FETCH FIRST", count, "ROWS", ties]

/-- The name of an element or a root, in parentheses. -/
def elementName : Reader String := do
  return "('" ++ (← inParens textValue) ++ "')"

/-- How FOR XML writes the rows, with its options: the words of each that has been met. -/
def xmlOptions : Nat → String → String → String → String → Reader String
  | 0, _, _, _, _ => refuse
  | n + 1, binary, type, root, whole => do
    if ← sign? "," then
      match ← oneOf? ["ELEMENTS", "BINARY", "ROOT", "TYPE"] with
      | some "ELEMENTS" => xmlOptions n binary type root ", ELEMENTS"
      | some "BINARY" =>
        keyword "BASE64"
        xmlOptions n ", BINARY BASE64" type root whole
      | some "ROOT" =>
        let written := ", ROOT" ++ (← elementName)
        xmlOptions n binary type written whole
      | some _ => xmlOptions n binary ", TYPE" root whole
      | none => xmlOptions n binary type root whole
    else return binary ++ type ++ root ++ whole

/-- How FOR JSON writes the rows, with its options. -/
def jsonOptions : Nat → String → String → String → Reader String
  | 0, _, _, _ => refuse
  | n + 1, root, nulls, bare => do
    if ← sign? "," then
      match ← oneOf? ["ROOT", "INCLUDE_NULL_VALUES", "WITHOUT_ARRAY_WRAPPER"] with
      | some "ROOT" =>
        let written := ", ROOT" ++ (← elementName)
        jsonOptions n written nulls bare
      | some "INCLUDE_NULL_VALUES" => jsonOptions n root ", INCLUDE_NULL_VALUES" bare
      | some _ => jsonOptions n root nulls ", WITHOUT_ARRAY_WRAPPER"
      | none => jsonOptions n root nulls bare
    else return root ++ nulls ++ bare

/-- The form of the rows, if FOR asks for one. -/
def formClause : Reader (Option String) := do
  match ← oneOf? ["XML", "JSON", "BROWSE"] with
  | none => return none
  | some "BROWSE" => return some "FOR BROWSE"
  | some "XML" =>
    let mode ← oneOf ["RAW", "AUTO", "EXPLICIT", "PATH"]
    let element ← (do
      if (mode = "RAW" ∨ mode = "PATH") ∧ (← peekSign) = "(" then elementName else return "")
    return some ("FOR XML " ++ mode ++ element ++ (← xmlOptions ((← get).length + 1) "" "" "" ""))
  | some _ =>
    let mode ← oneOf ["AUTO", "PATH"]
    return some ("FOR JSON " ++ mode ++ (← jsonOptions ((← get).length + 1) "" "" ""))

/-- A lock on the rows. -/
def lockText : Reader String := do
  let kind ← oneOf ["UPDATE", "SHARE"]
  let tables ← textBehind ["OF"] pathText
  let waiting ← (do
    if ← keyword? "NOWAIT" then return "NOWAIT" else optionalWords ["SKIP", "LOCKED"])
  return inWords ["FOR", kind, tables, waiting]

/-- Locks, at most a number of them, and the form of the rows behind them. -/
def forClauses : Nat → Reader String
  | 0 => return ""
  | n + 1 => do
    if ← keyword? "FOR" then
      match ← formClause with
      | some form => return form
      | none =>
        let lock ← lockText
        return inWords [lock, ← forClauses n]
    return ""

/-- **A query.**  Nothing stands behind a change of a table. -/
def query (r : Rules) : Reader Query :=
  deeper (do
    let common ← withClause r
    let change := ["INSERT", "UPDATE"].contains (← peekKeyword)
    let b ← body r
    if change then return ⟨common, b, [], none, ""⟩
    let order ← orderKeys r
    let (limit, offset) ← limits r 2 none ""
    let limitBy ← listBehind ["BY"] r.text
    let fetch ← (do if ← keyword? "FETCH" then fetchText else return "")
    let locks ← forClauses (← get).length
    return ⟨common, b, order, limit, inWords [offset, limitBy, fetch, locks]⟩)

end FacetSql.Sql
