import FacetSql.Sql.Operand
/-!
# Source — what FROM names

A source is a table, a query in parentheses, or something that no plan can be made from, and other sources may be
joined to it.  The planner asks only whether there are joins, so a join is kept as its text.
-/
namespace FacetSql.Sql

open Reader

/-- The words that begin a clause and so are no aliases of columns. -/
def clauseWords : List String :=
  ["WITH", "EXPLAIN", "ANALYZE", "SELECT", "WHERE", "GROUP", "SORT", "HAVING", "ORDER", "TOP", "LATERAL", "VIEW",
    "LIMIT", "OFFSET", "FETCH", "UNION", "EXCEPT", "INTERSECT", "CLUSTER", "DISTRIBUTE", "FROM", "INTO", "END"]

/-- The words that begin a clause or a join and so are no aliases of tables. -/
def tableWords : List String :=
  ["WITH", "EXPLAIN", "ANALYZE", "SELECT", "WHERE", "GROUP", "SORT", "HAVING", "ORDER", "PIVOT", "UNPIVOT", "TOP",
    "LATERAL", "VIEW", "LIMIT", "OFFSET", "FETCH", "UNION", "EXCEPT", "INTERSECT", "ON", "JOIN", "INNER", "CROSS",
    "FULL", "LEFT", "RIGHT", "NATURAL", "USING", "CLUSTER", "DISTRIBUTE", "OUTER", "SET", "QUALIFY", "WINDOW",
    "END", "FOR", "PARTITION"]

/-- **An alias**: any name behind `AS`, and without it any name but the reserved words. -/
def aliasName (reserved : List String) : Reader (Option Name) := do
  let announced ← keyword? "AS"
  match ← peek with
  | some (.word n) =>
    if announced ∨ ¬ reserved.contains n.keyword then
      skip
      return some n
    return none
  | some (.text s) =>
    skip
    return some ⟨s, some apostrophe⟩
  | _ => if announced then refuse else return none

/-- An alias of a table, with names for its columns or without. -/
def tableAlias : Reader (Option TableAlias) := do
  match ← aliasName tableWords with
  | none => return none
  | some n => return some ⟨n, ← optionalNameList⟩

/-- The texts of the arguments of a table, in parentheses. -/
def tableArguments (r : Rules) : Reader String := do
  sign "("
  if ← sign? ")" then return "()"
  let arguments ← commaList (callArgument r)
  sign ")"
  return inParentheses (renderArguments arguments)

/-- Rows made into columns or columns into rows: PIVOT or UNPIVOT up to the alias, behind the keyword. -/
def pivot (r : Rules) (word : String) : Reader String := do
  sign "("
  if word = "PIVOT" then
    let function ← (do
      match ← peek with
      | some (.word n) =>
        skip
        return n.text
      | _ => refuse)
    let value ← call r [⟨function, none⟩]
    keyword "FOR"
    let column ← path
    keyword "IN"
    let values ← inParens (commaList constant)
    sign ")"
    return "PIVOT(" ++ value.render ++ " FOR " ++ renderPath column ++ " IN " ++
      inParentheses (values.map Literal.render) ++ ")"
  let value ← name
  keyword "FOR"
  let column ← name
  keyword "IN"
  let columns ← nameList
  sign ")"
  return "UNPIVOT(" ++ value.render ++ " FOR " ++ column.render ++ " IN (" ++ renderNames columns ++ "))"

/-- The pivots behind a source, at most a number of them. -/
def pivotsUpTo (r : Rules) : Nat → Source → Reader Source
  | 0, s => return s
  | n + 1, s => do
    match ← oneOf? ["PIVOT", "UNPIVOT"] with
    | none => return s
    | some word =>
      let opening := s.render ++ " " ++ (← pivot r word)
      pivotsUpTo r n (.other opening (← tableAlias) "")

/-- The hints behind a table, if there are any.  `WITH` without a parenthesis belongs to what follows. -/
def hints (r : Rules) : Reader String := do
  match ← get with
  | .word n :: .sign "(" :: rest =>
    if n.keyword = "WITH" then
      set (Token.sign "(" :: rest)
      return "WITH " ++ inParentheses (← inParens r.texts)
    return ""
  | _ => return ""

/-- **A table by its name**, with arguments or without, and what is made of it. -/
def tableSource (r : Rules) : Reader Source := do
  let p ← path
  let partitions ← (do
    if ← keyword? "PARTITION" then return "PARTITION (" ++ renderNames (← nameList) ++ ")" else return "")
  let arguments ← (do if (← peekSign) = "(" then tableArguments r else return "")
  let asName ← tableAlias
  let hinted ← hints r
  pivotsUpTo r (← get).length (.table p (partitions ++ arguments) asName hinted)

/-- The values of arrays as rows, behind the keyword.  `WITH` says nothing without `OFFSET`. -/
def arraySource (r : Rules) : Reader Source := do
  let arrays ← inParens r.texts
  let asName ← tableAlias
  let offset ← (do
    if ← keyword? "WITH" then
      if ← keyword? "OFFSET" then
        match ← aliasName clauseWords with
        | some n => return "WITH OFFSET AS " ++ n.render
        | none => return "WITH OFFSET"
    return "")
  return .other ("UNNEST" ++ inParentheses arrays) asName offset

/-- What stands for a missing or a wrong value of a document; the words for both, at most a number of times.  The last
of each counts. -/
def replacements : Nat → String → String → Reader String
  | 0, _, _ => refuse
  | n + 1, onEmpty, onError => do
    match ← oneOf? ["NULL", "ERROR", "DEFAULT"] with
    | none => return inWords [onEmpty, onError]
    | some word =>
      let value ← (do if word = "DEFAULT" then return word ++ " " ++ (← constant).render else return word)
      keyword "ON"
      match ← oneOf ["EMPTY", "ERROR"] with
      | "EMPTY" => replacements n (value ++ " ON EMPTY") onError
      | _ => replacements n onEmpty (value ++ " ON ERROR")

/-- One column of the rows of a document: its name, its type, its place and what stands for other values. -/
def documentColumn : Reader String := do
  let n ← name
  let type ← dataType
  let tested ← optionalWords ["EXISTS"]
  keyword "PATH"
  let place ← constant
  return inWords [n.render, type, tested, "PATH", place.render, ← replacements ((← get).length + 1) "" ""]

/-- The rows of a document, behind the keyword. -/
def documentSource (r : Rules) : Reader Source := do
  let opening ← inParens (do
    let document ← r.text
    sign ","
    let place ← constant
    keyword "COLUMNS"
    let columns ← inParens (commaList documentColumn)
    return "JSON_TABLE(" ++ document ++ ", " ++ place.render ++ " COLUMNS" ++ inParentheses columns ++ ")")
  return .other opening (← tableAlias) ""

/-- Gives a source in parentheses the alias that stands behind them. -/
def withOuterAlias (source : Source) (asName : Option TableAlias) : Reader Source :=
  match asName, source with
  | none, s => pure s
  | some a, .table path arguments none hints => pure (.table path arguments (some a) hints)
  | some a, .derived lateral query none => pure (.derived lateral query (some a))
  | some a, .other opening none closing => pure (.other opening (some a) closing)
  | some _, _ => refuse

/-- A query in parentheses, behind the opening one. -/
def derivedSource (r : Rules) (lateral : Bool) : Reader Source := do
  let q ← r.query
  sign ")"
  return .derived lateral q (← tableAlias)

/-- **A source in parentheses**, behind the opening one.  A query is tried first, then a source with joins;
parentheses around a source without joins are dropped. -/
def parenthesizedSource (r : Rules) : Reader Source := do
  match ← attempt (derivedSource r false) with
  | some s => pivotsUpTo r (← get).length s
  | none =>
    let inner ← r.joined
    sign ")"
    let asName ← tableAlias
    match inner with
    | ⟨.nested .., []⟩ => return .nested inner.render asName
    | ⟨s, []⟩ => withOuterAlias s asName
    | _ => return .nested inner.render asName

/-- A source that may use the sources before it, behind the keyword. -/
def lateralSource (r : Rules) : Reader Source := do
  if ← sign? "(" then derivedSource r true
  else
    let function ← path
    let arguments ← tableArguments r
    return .other ("LATERAL " ++ renderPath function ++ arguments) (← tableAlias) ""

/-- **A source of rows.** -/
def source (r : Rules) : Reader Source := do
  if ← keyword? "LATERAL" then lateralSource r
  else if ← keyword? "TABLE" then
    let opening := "TABLE(" ++ (← inParens r.text) ++ ")"
    return .other opening (← tableAlias) ""
  else if ← sign? "(" then parenthesizedSource r
  else if ← keyword? "UNNEST" then arraySource r
  else if ← keyword? "JSON_TABLE" then documentSource r
  else tableSource r

/-- The words of a join behind the first, if a join begins with it. -/
def joinWords : Reader (Option String) := do
  match ← oneOf? ["JOIN", "INNER", "LEFT", "RIGHT", "FULL"] with
  | none => return none
  | some "JOIN" => return some "JOIN"
  | some "INNER" =>
    keyword "JOIN"
    return some "JOIN"
  | some "FULL" =>
    let _ ← keyword? "OUTER"
    keyword "JOIN"
    return some "FULL JOIN"
  | some side =>
    match ← oneOf ["OUTER", "SEMI", "ANTI", "JOIN"] with
    | "JOIN" => return some (side ++ " JOIN")
    | "OUTER" =>
      keyword "JOIN"
      return some (side ++ " JOIN")
    | word =>
      keyword "JOIN"
      return some (side ++ " " ++ word ++ " JOIN")

/-- Which rows a join brings together. -/
def joinCondition (r : Rules) : Reader String := do
  if ← keyword? "ON" then return " ON " ++ (← r.text)
  if ← keyword? "USING" then return " USING(" ++ renderNames (← nameList) ++ ")"
  return ""

/-- **A join**, if one stands there. -/
def join? (r : Rules) : Reader (Option String) := do
  match ← oneOf? ["CROSS", "OUTER"] with
  | some word =>
    let kind ← (if word = "CROSS" then oneOf ["JOIN", "APPLY"] else oneOf ["APPLY"])
    return some (word ++ " " ++ kind ++ " " ++ (← source r).render)
  | none =>
    let natural ← keyword? "NATURAL"
    match ← joinWords with
    | none => if natural then refuse else return none
    | some words =>
      let joined := textIf natural "NATURAL " ++ words ++ " " ++ (← source r).render
      if natural then return some joined
      return some (joined ++ (← joinCondition r))

/-- Joins, one behind the other, at most a number of them. -/
def joinsUpTo (r : Rules) : Nat → Reader (List String)
  | 0 => return []
  | n + 1 => do
    match ← join? r with
    | none => return []
    | some j => return j :: (← joinsUpTo r n)

/-- **A source and what is joined to it.** -/
def joined (r : Rules) : Reader Joined := do
  let s ← source r
  return ⟨s, ← joinsUpTo r (← get).length⟩

end FacetSql.Sql
