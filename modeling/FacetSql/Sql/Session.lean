import FacetSql.Sql.Change
/-!
# Session — variables, transactions, cursors and prepared statements

None of them is run, so each is read into its canonical text.  Every rule here stands behind the keyword that asks for
it.
-/
namespace FacetSql.Sql

open Reader

/-- The modes of a transaction, at most a number of them.  Behind a comma one is `required`. -/
def modesUpTo : Nat → Bool → Reader (List String)
  | 0, _ => refuse
  | n + 1, required => do
    let mode ← (do
      if ← keywords? ["ISOLATION", "LEVEL"] then
        let level ← phrase [["READ", "UNCOMMITTED"], ["READ", "COMMITTED"], ["REPEATABLE", "READ"], ["SERIALIZABLE"]]
        return some ("ISOLATION LEVEL " ++ level)
      phrase? [["READ", "ONLY"], ["READ", "WRITE"]])
    match mode with
    | some mode => return mode :: (← modesUpTo n (← sign? ","))
    | none => if required then refuse else return []

/-- **The modes of a transaction**, with commas between them or without. -/
def transactionModes : Reader String := do
  return inCommas (← modesUpTo ((← get).length + 1) false)

/-- START TRANSACTION. -/
def startStatement : Reader String := do
  keyword "TRANSACTION"
  return inWords ["START TRANSACTION", ← transactionModes]

/-- BEGIN. -/
def beginStatement : Reader String := do
  let lock := (← oneOf? ["DEFERRED", "IMMEDIATE", "EXCLUSIVE"]).getD ""
  let _ ← oneOf? ["TRANSACTION", "WORK"]
  return inWords ["BEGIN", lock, "TRANSACTION", ← transactionModes]

/-- Whether the next transaction begins at once. -/
def chainClause : Reader String := do
  let _ ← oneOf? ["TRANSACTION", "WORK"]
  if ← keyword? "AND" then
    let ends ← keyword? "NO"
    keyword "CHAIN"
    return textIf (!ends) "AND CHAIN"
  return ""

/-- COMMIT, by either of its names. -/
def commitStatement : Reader String := do return inWords ["COMMIT", ← chainClause]

/-- ROLLBACK. -/
def rollbackStatement : Reader String := do
  let chain ← chainClause
  if ← keyword? "TO" then
    let _ ← keyword? "SAVEPOINT"
    return inWords ["ROLLBACK", chain, "TO SAVEPOINT", ← nameText]
  return inWords ["ROLLBACK", chain]

/-- RELEASE. -/
def releaseStatement : Reader String := do
  let _ ← keyword? "SAVEPOINT"
  return "RELEASE SAVEPOINT " ++ (← nameText)

/-- The encoding that SET NAMES asks for. -/
def setNames : Reader String := do
  if ← keyword? "DEFAULT" then return "SET NAMES DEFAULT"
  let encoding ← textValue
  return inWords ["SET NAMES " ++ encoding, ← textBehind ["COLLATE"] textValue]

/-- A new value for a variable whose name has been read.  A few names have a grammar of their own. -/
def setVariable (r : Rules) (scope variableName : String) : Reader String := do
  let place := textIf (scope == "LOCAL") "LOCAL"
  if variableName.toUpper = "NAMES" then return (← setNames)
  let assigned ← (do if ← sign? "=" then return true else keyword? "TO")
  if assigned then
    return inWords ["SET", place, textIf (scope == "HIVEVAR") "HIVEVAR:" ++ variableName, "=", inCommas (← r.texts)]
  if variableName.toUpper = "TIMEZONE" then return inWords ["SET", place, "TIME ZONE", ← r.text]
  if variableName = "CHARACTERISTICS" then
    keywords ["AS", "TRANSACTION"]
    return inWords ["SET SESSION CHARACTERISTICS AS TRANSACTION", ← transactionModes]
  if variableName = "TRANSACTION" ∧ scope = "" then
    if ← keyword? "SNAPSHOT" then return "SET TRANSACTION SNAPSHOT " ++ (← constant).render
    return inWords ["SET TRANSACTION", ← transactionModes]
  refuse

/-- **SET.** -/
def setStatement (r : Rules) : Reader String := do
  let scope := (← oneOf? ["SESSION", "LOCAL", "HIVEVAR"]).getD ""
  if scope = "HIVEVAR" then sign ":"
  else if ← keyword? "ROLE" then
    let role ← (do if ← keyword? "NONE" then return "NONE" else nameText)
    return inWords ["SET", scope, "ROLE", role]
  if ← keywords? ["TIME", "ZONE"] then setVariable r scope "TIMEZONE"
  else setVariable r scope (← pathText)

/-- What is shown of all there is.  A pattern that ignores case is written without its quotes. -/
def showFilter (r : Rules) : Reader String := do
  match ← oneOf? ["LIKE", "ILIKE", "WHERE"] with
  | none => return ""
  | some "LIKE" => return "LIKE " ++ inQuotes apostrophe (← textValue)
  | some "ILIKE" => return "ILIKE " ++ String.ofList (doubleQuotes apostrophe false (← textValue).toList)
  | some _ => return "WHERE " ++ (← r.text)

/-- The columns of a table; a second name stands before the first. -/
def showColumns (r : Rules) (opening : String) : Reader String := do
  let _ ← oneOf ["FROM", "IN"]
  let table ← pathText
  let database ← (do
    match ← oneOf? ["FROM", "IN"] with
    | some _ => return (← nameText) ++ "."
    | none => return "")
  return inWords [opening, "COLUMNS FROM", database ++ table, ← showFilter r]

/-- The tables of a database. -/
def showTables (r : Rules) (opening : String) : Reader String := do
  let database ← (do
    match ← oneOf? ["FROM", "IN"] with
    | some _ => return "FROM " ++ (← nameText)
    | none => return "")
  return inWords [opening, "TABLES", database, ← showFilter r]

/-- **SHOW.**  What is nothing else is the name of a variable. -/
def showStatement (r : Rules) : Reader String := do
  let extended ← optionalWords ["EXTENDED"]
  let full ← optionalWords ["FULL"]
  let session ← optionalWords ["SESSION"]
  let global ← optionalWords ["GLOBAL"]
  let opening := inWords ["SHOW", extended, full]
  match ← oneOf? ["COLUMNS", "FIELDS", "TABLES", "FUNCTIONS"] with
  | some "TABLES" => showTables r opening
  | some "FUNCTIONS" => return inWords ["SHOW FUNCTIONS", ← showFilter r]
  | some _ => showColumns r opening
  | none =>
    if opening ≠ "SHOW" then refuse
    match ← oneOf? ["CREATE", "COLLATION", "VARIABLES"] with
    | some "CREATE" =>
      let kind ← oneOf ["TABLE", "TRIGGER", "FUNCTION", "PROCEDURE", "EVENT", "VIEW"]
      return inWords ["SHOW CREATE", kind, ← pathText]
    | some "COLLATION" => return inWords ["SHOW COLLATION", ← showFilter r]
    | some _ => return inWords ["SHOW", global, session, "VARIABLES", ← showFilter r]
    | none => return inWords ("SHOW" :: (← targetUpTo (← get).length).map Name.render)

/-- DECLARE, for a cursor. -/
def declareStatement (r : Rules) : Reader String := do
  let cursor ← nameText
  let binary ← optionalWords ["BINARY"]
  let sensitivity := (← oneOf? ["INSENSITIVE", "ASENSITIVE"]).getD ""
  let scroll := (← phrase? [["SCROLL"], ["NO", "SCROLL"]]).getD ""
  keyword "CURSOR"
  let hold ← (do
    match ← oneOf? ["WITH", "WITHOUT"] with
    | some word =>
      keyword "HOLD"
      return word ++ " HOLD"
    | none => return "")
  keyword "FOR"
  return inWords ["DECLARE", cursor, binary, sensitivity, scroll, "CURSOR", hold, "FOR", ← r.queryText]

/-- Which rows of a cursor are fetched. -/
def fetchDirection : Reader String := do
  match ← oneOf? ["NEXT", "PRIOR", "FIRST", "LAST", "ABSOLUTE", "RELATIVE", "FORWARD", "BACKWARD", "ALL"] with
  | none => numberText
  | some word =>
    if ["ABSOLUTE", "RELATIVE"].contains word then return word ++ " " ++ (← numberText)
    if ["FORWARD", "BACKWARD"].contains word then
      if ← keyword? "ALL" then return word ++ " ALL"
      return word ++ " " ++ (← numberText)
    return word

/-- FETCH, for a cursor. -/
def fetchStatement : Reader String := do
  let direction ← fetchDirection
  let _ ← oneOf ["FROM", "IN"]
  let cursor ← nameText
  return inWords ["FETCH", direction, "IN", cursor, ← textBehind ["INTO"] pathText]

/-- CLOSE, for one cursor or for all. -/
def closeStatement : Reader String := do
  if ← keyword? "ALL" then return "CLOSE ALL"
  return "CLOSE " ++ (← nameText)

/-- PREPARE.  The prepared statement is any statement. -/
def prepareStatement (prepared : Reader Statement) : Reader Statement := do
  let n ← nameText
  let types ← (do
    if (← peekSign) = "(" then return inParentheses (← inParens (commaList dataType)) else return "")
  keyword "AS"
  match (← prepared).render with
  | some written => return .other (inWords ["PREPARE", n, types, "AS", written])
  | none => return .unwritten

/-- EXECUTE. -/
def executeStatement (r : Rules) : Reader String := do
  let n ← nameText
  if (← peekSign) = "(" then return "EXECUTE " ++ n ++ inParentheses (← inParens r.texts)
  return "EXECUTE " ++ n

/-- DEALLOCATE. -/
def deallocateStatement : Reader String := do
  let prepared ← optionalWords ["PREPARE"]
  return inWords ["DEALLOCATE", prepared, ← nameText]

/-- CALL. -/
def callStatement (r : Rules) : Reader String := do
  let function ← path
  if (← peekSign) = "(" then return "CALL " ++ (← call r function).render
  return "CALL " ++ renderPath function

/-- PRAGMA. -/
def pragmaStatement : Reader String := do
  let n ← pathText
  if (← peekSign) = "(" then return "PRAGMA " ++ n ++ "(" ++ (← inParens numberText) ++ ")"
  if ← sign? "=" then return "PRAGMA " ++ n ++ " = " ++ (← numberText)
  return "PRAGMA " ++ n

/-- KILL. -/
def killStatement : Reader String := do
  let kind := (← oneOf? ["CONNECTION", "QUERY", "MUTATION"]).getD ""
  return inWords ["KILL", kind, ← wholeNumber]

/-- DISCARD. -/
def discardStatement : Reader String := do
  match ← oneOf ["ALL", "PLANS", "SEQUENCES", "TEMP", "TEMPORARY"] with
  | "TEMPORARY" => return "DISCARD TEMP"
  | kind => return "DISCARD " ++ kind

/-- ASSERT. -/
def assertStatement (r : Rules) : Reader String := do
  let condition ← r.text
  return inWords ["ASSERT", condition, ← textBehind ["AS"] r.text]

/-- ATTACH. -/
def attachStatement (r : Rules) : Reader String := do
  let database ← optionalWords ["DATABASE"]
  let file ← r.text
  keyword "AS"
  return inWords ["ATTACH", database, file, "AS", ← nameText]

end FacetSql.Sql
