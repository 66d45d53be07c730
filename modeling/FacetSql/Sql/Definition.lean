import FacetSql.Sql.Storage
/-!
# Definition — what CREATE makes

What is defined is never looked up, so a definition is read into its canonical text.  A table whose files are kept
elsewhere needs their form and their place for it; without one of them there is no text, nor is there one for whatever
holds such a definition.
-/
namespace FacetSql.Sql

open Reader

/-- Whether a thing that is there already is left alone. -/
def ifNotExists : Reader String := optionalWords ["IF", "NOT", "EXISTS"]

/-- The machines a table is made on.  Braces are put into apostrophes. -/
def clusterText : Reader String := do
  if ← keywords? ["ON", "CLUSTER"] then
    let next ← peek
    skip
    let quoteBraces := fun (c : Char) =>
      if c = '{' then [apostrophe, c] else if c = '}' then [c, apostrophe] else [c]
    match next with
    | some (.text s) => return "ON CLUSTER " ++ String.ofList (s.toList.flatMap quoteBraces)
    | some (.word n) => return "ON CLUSTER " ++ String.ofList ((Token.word n).written.toList.flatMap quoteBraces)
    | _ => refuse
  return ""

/-- The rest of names with points between them that may break off, at most a number of them: what is no name is taken
and leaves nothing. -/
def loosePathUpTo : Nat → List Name → Reader (Option (List Name))
  | 0, _ => refuse
  | n + 1, path => do
    match ← attempt name with
    | none =>
      skip
      return none
    | some part =>
      if ← sign? "." then loosePathUpTo n (path ++ [part])
      else return some (path ++ [part])

/-- **A table that another one is made from**, behind a keyword.  What is no table is taken and leaves no trace. -/
def modelTable (word : String) : Reader String := do
  match ← loosePathUpTo ((← get).length + 1) [] with
  | some path => return word ++ " " ++ renderPath path
  | none => return ""

/-- The columns that a table is ordered by. -/
def tableOrder : Reader String := do
  if ← keywords? ["ORDER", "BY"] then
    if ← sign? "(" then
      if ← sign? ")" then return "ORDER BY ()"
      let columns ← commaList nameText
      sign ")"
      return "ORDER BY " ++ inParentheses columns
    return "ORDER BY (" ++ (← nameText) ++ ")"
  return ""

/-- The number that a counting column begins with. -/
def firstNumber : Reader String :=
  textBehind ["AUTO_INCREMENT"] (do
    let _ ← sign? "="
    numberWithin Numeral.word32)

/-- A remark on a table. -/
def tableComment : Reader String :=
  textBehind ["COMMENT"] (do
    let _ ← sign? "="
    match ← peek with
    | some (.text s) =>
      skip
      return enclosed apostrophe s
    | _ => refuse)

/-- How the texts of a table are compared and how long its rows live, behind its query. -/
def tableClosing : Reader String := do
  let encoding ← (do
    if ← keywords? ["DEFAULT", "CHARSET"] then return "DEFAULT CHARSET=" ++ (← assignedWord) else return "")
  let collation ← (do if ← keyword? "COLLATE" then return "COLLATE=" ++ (← assignedWord) else return "")
  let commit := (← phrase? [["ON", "COMMIT", "DELETE", "ROWS"], ["ON", "COMMIT", "PRESERVE", "ROWS"],
    ["ON", "COMMIT", "DROP"]]).getD ""
  return inWords [encoding, collation, commit, ← optionalWords ["STRICT"]]

/-- **CREATE TABLE**, behind the keywords.  The parentheses are empty if there are no columns, no query and no table to
be like.  A remark is read last but written behind the engine. -/
def createTable (r : Rules) (opening : String) : Reader String := do
  let condition ← ifNotExists
  let table ← pathText
  let cluster ← clusterText
  let likeTable ← (do if (← oneOf? ["LIKE", "ILIKE"]).isSome then modelTable "LIKE" else return "")
  let cloned ← (do if ← keyword? "CLONE" then modelTable "CLONE" else return "")
  let entries ← tableBodyText r
  let rowid ← optionalWords ["WITHOUT", "ROWID"]
  let partitions ← partitionColumns r
  let stored ← storage r
  let options ← settings "WITH"
  let properties ← settings "TBLPROPERTIES"
  let engine ← (do if ← keyword? "ENGINE" then return "ENGINE=" ++ (← assignedWord) else return "")
  let first ← firstNumber
  let order ← tableOrder
  let query ← textBehind ["AS"] r.queryText
  let closing ← tableClosing
  let comment ← tableComment
  let empty := textIf (inWords [entries, likeTable, cloned, query] == "") "()"
  return inWords [opening, condition, table, cluster, entries, empty, rowid, likeTable, cloned, partitions,
    stored.render, properties, options, engine, comment, first, order, query, closing]

/-- **CREATE EXTERNAL TABLE**, behind the first two keywords; the text is missing if the form or the place of the files
is. -/
def createExternalTable (r : Rules) (opening : String) : Reader Statement := do
  keyword "TABLE"
  let condition ← ifNotExists
  let table ← pathText
  let entries ← tableBodyText r
  let partitions ← partitionColumns r
  let stored ← storage r
  let properties ← settings "TBLPROPERTIES"
  if stored.form = "" ∨ stored.place = "" then return .unwritten
  let empty := textIf (entries == "") "()"
  return .other (inWords [opening, "TABLE", condition, table, entries, empty, partitions, stored.render, properties])

/-- CREATE VIRTUAL TABLE, behind the first two keywords. -/
def createVirtualTable : Reader String := do
  keyword "TABLE"
  let condition ← ifNotExists
  let table ← pathText
  keyword "USING"
  let module ← nameText
  let arguments ← optionalNameList
  return inWords ["CREATE VIRTUAL TABLE", condition, table, "USING", module,
    if arguments.isEmpty then "" else "(" ++ renderNames arguments ++ ")"]

/-- **CREATE VIEW**, from its keywords on. -/
def createView (r : Rules) (replace temporary : String) : Reader String := do
  let materialized ← optionalWords ["MATERIALIZED"]
  keyword "VIEW"
  let condition ← ifNotExists
  let view ← pathText
  let columns ← (do if (← peekSign) = "(" then nameListText else return "")
  let options ← settings "WITH"
  let cluster ← (do
    if ← keywords? ["CLUSTER", "BY"] then
      match ← optionalNameList with
      | [] => return ""
      | keys => return "CLUSTER BY (" ++ renderNames keys ++ ")"
    return "")
  keyword "AS"
  let query ← r.queryText
  let binding ← optionalWords ["WITH", "NO", "SCHEMA", "BINDING"]
  return inWords ["CREATE", replace, materialized, temporary, "VIEW", condition, view, options, columns, cluster, "AS",
    query, binding]

/-- **CREATE INDEX**, behind the keywords. -/
def createIndex (r : Rules) (opening : String) : Reader String := do
  let concurrently ← optionalWords ["CONCURRENTLY"]
  let condition ← ifNotExists
  let indexName ← (do
    if condition = "" then
      if ← keyword? "ON" then return ""
    let n ← pathText
    keyword "ON"
    return n)
  let table ← pathText
  let method ← textBehind ["USING"] nameText
  let keys ← inParens (commaList (sortKey r))
  let included ← (do
    if ← keyword? "INCLUDE" then return "INCLUDE (" ++ ",".intercalate ((← nameList).map Name.render) ++ ")"
    return "")
  let nulls ← (do
    if ← keyword? "NULLS" then
      let equal ← optionalWords ["NOT"]
      keyword "DISTINCT"
      return inWords ["NULLS", equal, "DISTINCT"]
    return "")
  let keyList := "(" ++ ",".intercalate (keys.map SortKey.render) ++ ")"
  let target := if method = "" then table ++ keyList else inWords [table, method, keyList]
  return inWords [opening, concurrently, condition, indexName, "ON", target, included, nulls, ← whereText r]

/-- CREATE SCHEMA, behind the keywords. -/
def createSchema : Reader String := do
  let condition ← ifNotExists
  if ← keyword? "AUTHORIZATION" then return inWords ["CREATE SCHEMA", condition, "AUTHORIZATION", ← nameText]
  let schema ← pathText
  return inWords ["CREATE SCHEMA", condition, schema, ← textBehind ["AUTHORIZATION"] nameText]

/-- The places of a database, at most a number of clauses; the last of each counts. -/
def databasePlaces : Nat → String → String → Reader String
  | 0, _, _ => refuse
  | n + 1, location, managed => do
    match ← oneOf? ["LOCATION", "MANAGEDLOCATION"] with
    | none => return inWords [location, managed]
    | some "LOCATION" =>
      let place := "LOCATION " ++ enclosed apostrophe (← textValue)
      databasePlaces n place managed
    | some _ =>
      let place := "MANAGEDLOCATION " ++ enclosed apostrophe (← textValue)
      databasePlaces n location place

/-- CREATE DATABASE, behind the keywords. -/
def createDatabase : Reader String := do
  let condition ← ifNotExists
  let database ← pathText
  return inWords ["CREATE DATABASE", condition, database, ← databasePlaces ((← get).length + 1) "" ""]

/-- CREATE SEQUENCE, behind the keywords: a counter that stands alone. -/
def createSequence (temporary : String) : Reader String := do
  let condition ← ifNotExists
  let counter ← pathText
  let type ← textBehind ["AS"] dataType
  let options ← counterOptions
  let owner ← textBehind ["OWNED", "BY"] (do if ← keyword? "NONE" then return "NONE" else pathText)
  return inWords ["CREATE", temporary, "SEQUENCE", condition, counter, type, options, owner]

/-- A part of a type. -/
def typeAttribute : Reader String := do
  let n ← nameText
  let type ← dataType
  return inWords [n, type, ← textBehind ["COLLATE"] pathText]

/-- CREATE TYPE, behind the keywords. -/
def createType : Reader String := do
  let type ← pathText
  keyword "AS"
  return inWords ["CREATE TYPE", type, "AS", inParentheses (← closedList (some <$> typeAttribute))]

/-- CREATE ROLE, behind the keywords. -/
def createRole : Reader String := do
  let condition ← ifNotExists
  let roles ← commaList pathText
  let _ ← keyword? "WITH"
  return inWords ["CREATE ROLE", condition, inCommas roles]

/-- A parameter of a macro, with a value that may be left out. -/
def macroParameter (r : Rules) : Reader String := do
  let n ← nameText
  let given ← (do if ← sign? ":=" then return true else sign? "=>")
  if given then return n ++ " := " ++ (← r.text) else return n

/-- **CREATE MACRO**, behind the keywords: an expression or a query with parameters. -/
def createMacro (r : Rules) (opening : String) : Reader String := do
  let function ← pathText
  let parameters ← inParens (do if (← peekSign) = ")" then return [] else commaList (macroParameter r))
  keyword "AS"
  let list := if parameters.isEmpty then "" else inParentheses parameters
  let made ← (do if ← keyword? "TABLE" then return "TABLE " ++ (← r.queryText) else r.text)
  return inWords [opening, function ++ list, "AS", made]

/-- A parameter of a procedure, if a word stands there. -/
def procedureParameter? : Reader (Option String) := do
  match ← peek with
  | some (.word _) =>
    let n ← nameText
    return some (n ++ " " ++ (← dataType))
  | _ => return none

/-- **CREATE PROCEDURE**, behind the keywords; `body` reads statements up to the word that ends them. -/
def createProcedure (body : Reader (List Statement)) (opening : String) : Reader Statement := do
  let procedure ← pathText
  let parameters ← closedList procedureParameter?
  keywords ["AS", "BEGIN"]
  let statements ← body
  keyword "END"
  let list := if parameters.isEmpty then "" else inParentheses parameters
  match renderStatements statements with
  | some texts => return .other (inWords [opening, procedure, list, "AS BEGIN", "; ".intercalate texts, "END"])
  | none => return .unwritten

/-- What CREATE makes that cannot replace another thing. -/
def createOther (r : Rules) (body : Reader (List Statement)) (alter temporary : String) : Reader Statement := do
  match ← phrase [["INDEX"], ["UNIQUE", "INDEX"], ["VIRTUAL"], ["SCHEMA"], ["DATABASE"], ["ROLE"], ["SEQUENCE"],
      ["TYPE"], ["PROCEDURE"]] with
  | "VIRTUAL" => .other <$> createVirtualTable
  | "SCHEMA" => .other <$> createSchema
  | "DATABASE" => .other <$> createDatabase
  | "ROLE" => .other <$> createRole
  | "SEQUENCE" => .other <$> createSequence temporary
  | "TYPE" => .other <$> createType
  | "PROCEDURE" => createProcedure body (inWords ["CREATE", alter, "PROCEDURE"])
  | kind => .other <$> createIndex r ("CREATE " ++ kind)

/-- **CREATE**; `body` reads statements up to the word that ends them.  Words that say nothing of the thing are left
out. -/
def createStatement (r : Rules) (body : Reader (List Statement)) : Reader Statement := do
  let replace ← optionalWords ["OR", "REPLACE"]
  let alter ← optionalWords ["OR", "ALTER"]
  let isLocal ← optionalWords ["LOCAL"]
  let isGlobal ← optionalWords ["GLOBAL"]
  let transient ← optionalWords ["TRANSIENT"]
  let temporary := textIf (← oneOf? ["TEMP", "TEMPORARY"]).isSome "TEMPORARY"
  let reach := if isGlobal = "" then isLocal else isGlobal
  match ← peekKeyword with
  | "TABLE" =>
    skip
    .other <$> createTable r (inWords ["CREATE", replace, reach, temporary, transient, "TABLE"])
  | "MATERIALIZED" | "VIEW" => .other <$> createView r replace temporary
  | "EXTERNAL" =>
    skip
    createExternalTable r (inWords ["CREATE", replace, "EXTERNAL"])
  | "MACRO" =>
    skip
    .other <$> createMacro r (inWords ["CREATE", replace, temporary, "MACRO"])
  | _ => if replace = "" then createOther r body alter temporary else refuse

end FacetSql.Sql
