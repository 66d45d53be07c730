import FacetSql.Sql.Call
/-!
# Form — operands with a grammar of their own

Some functions are not called with a list of arguments but with keywords between them, and some operands begin with a
keyword and end with another.  No step looks into them, so each is read into its canonical text.  Every rule here
stands behind the keyword that asks for it.
-/
namespace FacetSql.Sql

open Reader

/-- A function by its name, around a text. -/
def around (function inner : String) : String := function ++ "(" ++ inner ++ ")"

/-- The cases of CASE, at most a number of them, each behind its keyword. -/
def casesUpTo (r : Rules) : Nat → Reader String
  | 0 => return ""
  | n + 1 => do
    if ← keyword? "WHEN" then
      let condition ← r.text
      keyword "THEN"
      let result ← r.text
      return " WHEN " ++ condition ++ " THEN " ++ result ++ (← casesUpTo r n)
    return ""

/-- CASE, with an operand or without. -/
def caseForm (r : Rules) : Reader String := do
  let operand ← (do
    if (← peekKeyword) = "WHEN" then return "" else return " " ++ (← r.text))
  let cases ← casesUpTo r (← get).length
  if cases = "" then refuse
  let otherwise ← textBehind ["ELSE"] r.text
  keyword "END"
  return inWords ["CASE" ++ operand ++ cases, otherwise, "END"]

/-- CONVERT, to an encoding or to a type. -/
def convertForm (r : Rules) : Reader String :=
  inParens (do
    let e ← r.text
    if ← keyword? "USING" then return around "CONVERT" (e ++ " USING " ++ (← pathText))
    sign ","
    let type ← dataType
    return around "CONVERT" (inWords [e ++ ", " ++ type, ← textBehind ["CHARACTER", "SET"] pathText]))

/-- The format of a cast. -/
def castFormat : Reader String := do
  let format ← constant
  let zone ← textBehind ["AT", "TIME", "ZONE"] (do return (← constant).render)
  return inWords [format.render, zone]

/-- A cast by one of its names. -/
def castForm (r : Rules) (function : String) : Reader String :=
  inParens (do
    let e ← r.text
    keyword "AS"
    let type ← dataType
    return around function (inWords [e ++ " AS " ++ type, ← textBehind ["FORMAT"] castFormat]))

/-- EXISTS. -/
def existsForm (r : Rules) : Reader String :=
  inParens (do return "EXISTS (" ++ (← r.queryText) ++ ")")

/-- EXTRACT. -/
def extractForm (r : Rules) : Reader String :=
  inParens (do
    let field ← dateField
    keyword "FROM"
    return around "EXTRACT" (field ++ " FROM " ++ (← r.text)))

/-- CEIL and FLOOR, perhaps to a field of a date. -/
def roundForm (r : Rules) (function : String) : Reader String :=
  inParens (do
    let e ← r.text
    return around function (inWords [e, ← textBehind ["TO"] dateField]))

/-- POSITION. -/
def positionForm (r : Rules) : Reader String :=
  inParens (do
    let part ← r.above comparisonPrecedence
    keyword "IN"
    return around "POSITION" (part.render ++ " IN " ++ (← r.text)))

/-- A text behind a keyword or a comma in its place, which the keyword stands before. -/
def behindComma (word : String) (entry : Reader String) : Reader String := do
  if ← keyword? word then return word ++ " " ++ (← entry)
  if ← sign? "," then return word ++ " " ++ (← entry)
  return ""

/-- SUBSTRING. -/
def substringForm (r : Rules) : Reader String :=
  inParens (do
    let e ← r.text
    let start ← behindComma "FROM" r.text
    return around "SUBSTRING" (inWords [e, start, ← behindComma "FOR" r.text]))

/-- OVERLAY. -/
def overlayForm (r : Rules) : Reader String :=
  inParens (do
    let e ← r.text
    keyword "PLACING"
    let part ← r.text
    keyword "FROM"
    let start ← r.text
    return around "OVERLAY" (inWords [e ++ " PLACING " ++ part ++ " FROM " ++ start, ← textBehind ["FOR"] r.text]))

/-- TRIM.  A list of characters leaves no word for the side. -/
def trimForm (r : Rules) : Reader String :=
  inParens (do
    let side := (← oneOf? ["BOTH", "LEADING", "TRAILING"]).getD ""
    let e ← r.text
    if ← keyword? "FROM" then return around "TRIM" (inWords [side, e, "FROM", ← r.text])
    if ← sign? "," then return around "TRIM" (inCommas (e :: (← r.texts)))
    return around "TRIM" (inWords [side, e]))

/-- What becomes of a list that grows too long. -/
def overflowClause (r : Rules) : Reader String := do
  if ← keywords? ["ON", "OVERFLOW"] then
    if ← keyword? "ERROR" then return "ON OVERFLOW ERROR"
    keyword "TRUNCATE"
    let filler ← (do
      match ← peek with
      | some (.text _) | some (.escaped _) | some (.national _) | some (.hex _) => r.text
      | _ => return "")
    let counted ← oneOf ["WITH", "WITHOUT"]
    keyword "COUNT"
    return inWords ["ON OVERFLOW TRUNCATE", filler, counted, "COUNT"]
  return ""

/-- LISTAGG. -/
def listForm (r : Rules) : Reader String := do
  let inner ← inParens (do
    let distinct ← distinctMode r
    let e ← r.text
    let separator ← (do if ← sign? "," then return ", " ++ (← r.text) else return "")
    return inWords [textIf distinct.isSome "DISTINCT", e ++ separator, ← overflowClause r])
  if ← keywords? ["WITHIN", "GROUP"] then
    let keys ← inParens (do
      keywords ["ORDER", "BY"]
      commaList (sortKey r))
    return around "LISTAGG" inner ++ " WITHIN GROUP (" ++ renderOrder keys ++ ")"
  return around "LISTAGG" inner

/-- The number of LIMIT, behind the keyword; `ALL` is no limit. -/
def limitValue (r : Rules) : Reader (Option Expr) := do
  if ← keyword? "ALL" then return none
  return some (← r.expr)

/-- ARRAY_AGG. -/
def arrayAggForm (r : Rules) : Reader String :=
  inParens (do
    let distinct ← keyword? "DISTINCT"
    let e ← r.text
    let order ← orderText r
    let limit ← (do if ← keyword? "LIMIT" then limitValue r else return none)
    return around "ARRAY_AGG" (inWords [textIf distinct "DISTINCT", e, order, renderOptional "LIMIT" limit]))

/-- The elements of an array, behind the opening bracket. -/
def elements (r : Rules) : Reader String := do
  if ← sign? "]" then return "[]"
  let entries ← r.texts
  sign "]"
  return "[" ++ inCommas entries ++ "]"

/-- How MATCH searches. -/
def searchMode : Reader String := do
  if ← keywords? ["IN", "NATURAL", "LANGUAGE", "MODE"] then
    return inWords ["IN NATURAL LANGUAGE MODE", ← optionalWords ["WITH", "QUERY", "EXPANSION"]]
  if ← keywords? ["IN", "BOOLEAN", "MODE"] then return "IN BOOLEAN MODE"
  optionalWords ["WITH", "QUERY", "EXPANSION"]

/-- MATCH. -/
def matchForm : Reader String := do
  let columns ← nameList
  keyword "AGAINST"
  inParens (do
    let searched ← constant
    return "MATCH (" ++ renderNames columns ++ ") AGAINST (" ++ inWords [searched.render, ← searchMode] ++ ")")

/-- A word that no field of a struct is named by.  Quotes do not make it another word. -/
def isReserved : Option Token → Bool
  | some (.word n) => allKeywords.contains (Text.upperCase n.text)
  | _ => false

/-- At most a number of fields of a struct, behind the opening bracket, and whether one bracket more has been taken.  A
field has a type, and a name before it if its first word is no keyword. -/
def structFields : Nat → Reader (List String × Bool)
  | 0 => refuse
  | n + 1 => do
    let fieldName ← (do if isReserved (← peek) then return "" else return (← name).render)
    let t ← DataType.type
    let field := inWords [fieldName, t.written]
    if ← sign? "," then
      if t.closed then refuse
      let (rest, closed) ← structFields n
      return (field :: rest, closed)
    return ([field], ← DataType.closeAngle t.closed)

/-- A value of a struct, which a name may follow. -/
def structValue (r : Rules) (typed : Bool) : Reader String := do
  let e ← r.text
  if ← keyword? "AS" then
    if typed then refuse
    return e ++ " AS " ++ (← name).render
  return e

/-- STRUCT. -/
def structForm (r : Rules) : Reader String := do
  if ← sign? "<" then
    let (fields, closed) ← structFields ((← get).length + 1)
    if closed then refuse
    return "STRUCT<" ++ inCommas fields ++ ">" ++ inParentheses (← inParens (commaList (structValue r true)))
  return "STRUCT" ++ inParentheses (← inParens (commaList (structValue r false)))

end FacetSql.Sql
