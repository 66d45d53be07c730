import FacetSql.Sql.Select
/-!
# Change — statements that insert, change and remove rows

None of them is run, so each is read into its canonical text.  Every rule here stands behind the keyword that asks for
it.
-/
namespace FacetSql.Sql

open Reader

/-- The words up to the sign of an assignment, at most a number of them.  What is no word among them is skipped. -/
def targetUpTo : Nat → Reader (List Name)
  | 0 => return []
  | n + 1 => do
    match ← peek with
    | none | some (.sign "=") => return []
    | some (.word w) =>
      skip
      return w :: (← targetUpTo n)
    | _ =>
      skip
      targetUpTo n

/-- **An assignment.** -/
def assignment (r : Rules) : Reader String := do
  let target ← targetUpTo (← get).length
  sign "="
  return renderPath target ++ " = " ++ (← r.text)

/-- One or more assignments. -/
def assignments (r : Rules) : Reader String := do return inCommas (← commaList (assignment r))

/-- The text of WHERE, if it is there. -/
def whereText (r : Rules) : Reader String := textBehind ["WHERE"] r.text

/-- What a change returns of its rows, if it returns anything. -/
def returningText (r : Rules) : Reader String :=
  listBehind ["RETURNING"] (do return (← selectItem r).render)

/-- Sources with commas between them. -/
def sourcesText (r : Rules) : Reader String := do
  return inCommas ((← commaList r.joined).map Joined.render)

/-- What is done with a row that is there already, behind `ON`. -/
def conflictClause (r : Rules) : Reader String := do
  if ← keyword? "CONFLICT" then
    let target ← (do
      if ← keywords? ["ON", "CONSTRAINT"] then return " ON CONSTRAINT " ++ (← pathText)
      if (← peekSign) = "(" then return "(" ++ renderNames (← nameList) ++ ")"
      return "")
    keyword "DO"
    let opening := "ON CONFLICT" ++ target
    if ← keyword? "NOTHING" then return opening ++ " DO NOTHING"
    keywords ["UPDATE", "SET"]
    let changes ← assignments r
    return inWords [opening, "DO UPDATE SET", changes, ← whereText r]
  keywords ["DUPLICATE", "KEY", "UPDATE"]
  return "ON DUPLICATE KEY UPDATE " ++ (← assignments r)

/-- A part of a table by its values, behind the keyword. -/
def partitionValues (r : Rules) : Reader String := do
  return "PARTITION " ++ inParentheses (← inParens r.texts)

/-- The parts of a table that are meant, if they are named. -/
def partitionText (r : Rules) : Reader String := do
  if ← keyword? "PARTITION" then partitionValues r else return ""

/-- The rows that INSERT takes, behind the name of the table. -/
def insertedRows (r : Rules) : Reader String := do
  if ← keywords? ["DEFAULT", "VALUES"] then return "DEFAULT VALUES"
  let columns ← optionalNameList
  let partition ← partitionText r
  let columnsBehind ← optionalNameList
  let query ← r.queryText
  let listed := fun (names : List Name) => if names.isEmpty then "" else "(" ++ renderNames names ++ ")"
  return inWords [listed columns, partition, listed columnsBehind, query]

/-- The forms of files. -/
def fileForms : List String := ["AVRO", "JSONFILE", "ORC", "PARQUET", "RCFILE", "SEQUENCEFILE", "TEXTFILE"]

/-- The rows of a query written to files, behind DIRECTORY. -/
def insertIntoFiles (r : Rules) (action place : String) : Reader String := do
  let files ← textValue
  let form ← textBehind ["STORED", "AS"] (oneOf fileForms)
  return inWords ["INSERT", action, place, "DIRECTORY", enclosed apostrophe files, form, ← r.queryText]

/-- Rows put into a table, behind the words that tell how. -/
def insertIntoTable (r : Rules) (opening : String) : Reader String := do
  let table ← optionalWords ["TABLE"]
  let target ← pathText
  let rows ← insertedRows r
  let conflict ← (do if ← keyword? "ON" then conflictClause r else return "")
  return inWords [opening, table, target, rows, conflict, ← returningText r]

/-- **INSERT.**  A table has no place, and files have no `IGNORE`. -/
def insertStatement (r : Rules) : Reader String := do
  let ignore ← optionalWords ["IGNORE"]
  let action := (← oneOf? ["INTO", "OVERWRITE"]).getD ""
  let place ← optionalWords ["LOCAL"]
  if ← keyword? "DIRECTORY" then insertIntoFiles r (textIf (action == "OVERWRITE") action) place
  else insertIntoTable r (inWords ["INSERT", ignore, action])

/-- **UPDATE.** -/
def updateStatement (r : Rules) : Reader String := do
  let target ← r.joined
  keyword "SET"
  let changes ← assignments r
  let source ← textBehind ["FROM"] (do return (← r.joined).render)
  let condition ← whereText r
  return inWords ["UPDATE", target.render, "SET", changes, source, condition, ← returningText r]

/-- **DELETE.** -/
def deleteStatement (r : Rules) : Reader String := do
  let tables ← (do
    if (← peekKeyword) = "FROM" then return [] else commaList pathText)
  keyword "FROM"
  let sources ← sourcesText r
  let others ← textBehind ["USING"] (sourcesText r)
  let condition ← whereText r
  let returned ← returningText r
  let order ← orderText r
  let limit ← (do if ← keyword? "LIMIT" then limitValue r else return none)
  return inWords ["DELETE", inCommas tables, "FROM", sources, others, condition, returned, order,
    renderOptional "LIMIT" limit]

end FacetSql.Sql
