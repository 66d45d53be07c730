import FacetSql.Sql.Definition
/-!
# Upkeep — statements that keep tables in order

They look for the parts of a table, count its values, empty it, or keep it at hand.  Every rule here stands behind the
keyword that asks for it.
-/
namespace FacetSql.Sql

open Reader

/-- MSCK, which looks for the parts of a table again.  Without a word for what is done the last keyword leaves no
trace. -/
def msckStatement : Reader String := do
  let repair ← optionalWords ["REPAIR"]
  keyword "TABLE"
  let table ← pathText
  let action := (← phrase? [["ADD", "PARTITIONS"], ["DROP", "PARTITIONS"], ["SYNC", "PARTITIONS"]]).getD ""
  if action = "" then let _ ← keyword? "PARTITIONS"
  return inWords ["MSCK", repair, "TABLE", table, action]

/-- The query whose rows are kept at hand, up to the end: one behind `AS`, or one that begins with a word. -/
def cachedQuery (r : Rules) : Reader String := do
  if ← atEnd then return ""
  if ← keyword? "AS" then return "AS " ++ (← r.queryText)
  match ← peek with
  | some (.word _) => r.queryText
  | _ => refuse

/-- CACHE, for a table or for the rows of a query.  A name in front of the keyword is a flag. -/
def cacheStatement (r : Rules) : Reader String := do
  let flag ← (do if (← peekKeyword) = "TABLE" then return "" else pathText)
  keyword "TABLE"
  let table ← pathText
  let options ← settingList "OPTIONS"
  return inWords ["CACHE", flag, "TABLE", table, textIf (options != "") ("OPTIONS" ++ options), ← cachedQuery r]

/-- UNCACHE, which nothing may follow. -/
def uncacheStatement : Reader String := do
  keyword "TABLE"
  let condition ← optionalWords ["IF", "EXISTS"]
  let table ← pathText
  if ← atEnd then return inWords ["UNCACHE TABLE", condition, table]
  refuse

/-- TRUNCATE. -/
def truncateStatement (r : Rules) : Reader String := do
  let word ← optionalWords ["TABLE"]
  let table ← pathText
  return inWords ["TRUNCATE", word, table, ← partitionText r]

/-- What is computed of a table, at most a number of clauses: the text of each that has been met. -/
def analysis (r : Rules) : Nat → String → String → String → String → String → Reader String
  | 0, _, _, _, _, _ => refuse
  | n + 1, partitions, statistics, noscan, cache, columns => do
    match ← oneOf? ["PARTITION", "FOR", "CACHE", "NOSCAN", "COMPUTE"] with
    | none => return inWords [partitions, statistics, noscan, cache, columns]
    | some "PARTITION" =>
      let parts ← partitionValues r
      analysis r n parts statistics noscan cache columns
    | some "NOSCAN" => analysis r n partitions statistics "NOSCAN" cache columns
    | some "CACHE" =>
      keyword "METADATA"
      analysis r n partitions statistics noscan "CACHE METADATA" columns
    | some "COMPUTE" =>
      keyword "STATISTICS"
      analysis r n partitions "COMPUTE STATISTICS" noscan cache columns
    | some _ =>
      keyword "COLUMNS"
      let names := ((← attempt (commaList nameText)).getD [])
      analysis r n partitions statistics noscan cache (inWords ["FOR COLUMNS", inCommas names])

/-- ANALYZE. -/
def analyzeStatement (r : Rules) : Reader String := do
  keyword "TABLE"
  let table ← pathText
  return inWords ["ANALYZE TABLE", table, ← analysis r ((← get).length + 1) "" "" "" "" ""]

end FacetSql.Sql
