import FacetSql.Sql.Interval
/-!
# Call — functions, their arguments and their windows

Behind the arguments a call may order them, tell what becomes of nulls and name a window.  Columns are made from the
function and its arguments alone, so all the rest is kept as text.
-/
namespace FacetSql.Sql

open Reader

/-- **An expression or a star**, for all columns or for those of one table. -/
inductive Projected where
  | expr (e : Expr)
  | all
  | allOf (path : List Name)

/-- The star of a table in front: names, each with a point behind it, and the star. -/
def tableStar? : List Token → Option (List Name × List Token)
  | .word n :: .sign "." :: .sign "*" :: rest => some ([n], rest)
  | .text s :: .sign "." :: .sign "*" :: rest => some ([⟨s, some apostrophe⟩], rest)
  | .word n :: .sign "." :: rest => (tableStar? rest).map (fun p => (n :: p.1, p.2))
  | .text s :: .sign "." :: rest => (tableStar? rest).map (fun p => (⟨s, some apostrophe⟩ :: p.1, p.2))
  | _ => none

/-- An expression or a star. -/
def projected (r : Rules) : Reader Projected := do
  if ← sign? "*" then return .all
  match tableStar? (← get) with
  | some (path, rest) =>
    set rest
    return .allOf path
  | none => return .expr (← r.expr)

/-- **A key of ORDER BY.** -/
def sortKey (r : Rules) : Reader SortKey := do
  let key ← r.expr
  let descending := (← oneOf? ["ASC", "DESC"]).map (fun word => word == "DESC")
  let nullsFirst ← (do
    if ← keywords? ["NULLS", "FIRST"] then return some true
    if ← keywords? ["NULLS", "LAST"] then return some false
    return none)
  return ⟨key, descending, nullsFirst⟩

/-- ORDER BY, or no keys. -/
def orderKeys (r : Rules) : Reader (List SortKey) := do
  if ← keywords? ["ORDER", "BY"] then commaList (sortKey r) else return []

/-- The text of ORDER BY, if it is there. -/
def orderText (r : Rules) : Reader String := do return renderOrder (← orderKeys r)

/-- Whether only different values count: `ALL` or `DISTINCT`, and for the latter the keys that are compared. -/
def distinctMode (r : Rules) : Reader (Option Distinct) := do
  let all ← keyword? "ALL"
  if ← keyword? "DISTINCT" then
    if all then refuse
    if ← keyword? "ON" then
      sign "("
      if ← sign? ")" then return some (.on [])
      let keys ← commaList r.expr
      sign ")"
      return some (.on keys)
    return some .rows
  return none

/-- One end of the frame of a window. -/
def frameBound (r : Rules) : Reader String := do
  if ← keywords? ["CURRENT", "ROW"] then return "CURRENT ROW"
  let rows ← (do
    if ← keyword? "UNBOUNDED" then return "UNBOUNDED"
    match ← peek with
    | some (.text _) => interval r
    | _ => r.text)
  return rows ++ " " ++ (← oneOf ["PRECEDING", "FOLLOWING"])

/-- The frame of a window. -/
def frame (r : Rules) : Reader String := do
  let unit ← oneOf ["ROWS", "RANGE", "GROUPS"]
  if ← keyword? "BETWEEN" then
    let start ← frameBound r
    keyword "AND"
    return unit ++ " BETWEEN " ++ start ++ " AND " ++ (← frameBound r)
  return unit ++ " " ++ (← frameBound r)

/-- **A window in parentheses**: what parts the rows, their order, and the frame around each row. -/
def windowSpec (r : Rules) : Reader String :=
  inParens (do
    let partition ← (do
      if ← keywords? ["PARTITION", "BY"] then return clause "PARTITION BY" (← r.texts) else return "")
    let order ← orderText r
    let rows ← (do if (← peekSign) = ")" then return "" else frame r)
    return "(" ++ inWords [partition, order, rows] ++ ")")

/-- The window of a call, if it has one. -/
def callWindow (r : Rules) : Reader String := do
  if ← keyword? "OVER" then
    if (← peekSign) = "(" then return "OVER " ++ (← windowSpec r)
    return "OVER " ++ (← name).render
  return ""

/-- What becomes of nulls in a call, if it is said. -/
def nullTreatment : Reader String := do
  match ← oneOf? ["RESPECT", "IGNORE"] with
  | some word =>
    keyword "NULLS"
    return word ++ " NULLS"
  | none => return ""

/-- The text of a star or an expression. -/
def Projected.render : Projected → String
  | .expr e => e.render
  | .all => "*"
  | .allOf path => renderPath path ++ ".*"

/-- **An argument of a call.**  A name before an arrow names it. -/
def callArgument (r : Rules) : Reader CallArgument := do
  if signOf (← get)[1]? = "=>" then
    let n ← name
    skip
    return .other (n.render ++ " => " ++ (← projected r).render)
  match ← projected r with
  | .expr e => return .expr e
  | .all => return .all
  | star => return .other star.render

/-- Arguments and the text of their order, behind the opening parenthesis. -/
def callArguments (r : Rules) : Reader (List CallArgument × String) := do
  if ← sign? ")" then return ([], "")
  let arguments ← commaList (callArgument r)
  let order ← orderText r
  sign ")"
  return (arguments, order)

/-- **The call of a function** whose name has been read. -/
def call (r : Rules) (function : List Name) : Reader Expr := do
  sign "("
  let distinct ← distinctMode r
  let (arguments, order) ← callArguments r
  let nulls ← nullTreatment
  return .call ⟨function, false, distinct.isSome, arguments, order, inWords [nulls, ← callWindow r]⟩

/-- The call of a function by no more than its name. -/
def bareCall (n : Name) : Expr := .call ⟨[n], true, false, [], "", ""⟩

/-- The call of a function that tells the time; its parentheses may be left out. -/
def timeCall (r : Rules) (n : Name) : Reader Expr := do
  if ← sign? "(" then
    let (arguments, order) ← callArguments r
    return .call ⟨[n], false, false, arguments, order, ""⟩
  return bareCall n

end FacetSql.Sql
