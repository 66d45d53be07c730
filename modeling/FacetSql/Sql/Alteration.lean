import FacetSql.Sql.Definition
/-!
# Alteration — what ALTER changes and DROP takes away

A table may be changed in several ways at once, anything else in one.  Every rule here stands behind the keyword that
asks for it.
-/
namespace FacetSql.Sql

open Reader

/-- A change of a column, behind its name. -/
def columnChange (r : Rules) : Reader String := do
  match ← phrase [["SET", "NOT", "NULL"], ["DROP", "NOT", "NULL"], ["SET", "DEFAULT"], ["DROP", "DEFAULT"],
      ["SET", "DATA", "TYPE"]] with
  | "SET DEFAULT" => return "SET DEFAULT " ++ (← r.text)
  | "SET DATA TYPE" => return "SET DATA TYPE " ++ (← dataType)
  | words => return words

/-- Parts of a table, at most a number of them. -/
def partitionsUpTo (r : Rules) : Nat → Reader (List String)
  | 0 => return []
  | n + 1 => do
    if ← keyword? "PARTITION" then
      let part ← partitionValues r
      return part :: (← partitionsUpTo r n)
    return []

/-- What is dropped from a table, behind the keyword. -/
def tableDrop (r : Rules) : Reader String := do
  match ← phrase? [["IF", "EXISTS", "PARTITION"], ["PARTITION"], ["PRIMARY", "KEY"]] with
  | some "PRIMARY KEY" => return "DROP PRIMARY KEY"
  | some "PARTITION" => return inWords ["DROP", ← partitionValues r]
  | some _ => return inWords ["DROP IF EXISTS", ← partitionValues r]
  | none =>
    let kind := (← oneOf? ["CONSTRAINT", "COLUMN"]).getD "COLUMN"
    let condition ← optionalWords ["IF", "EXISTS"]
    let dropped ← nameText
    return inWords ["DROP", kind, condition, dropped, ← optionalWords ["CASCADE"]]

/-- What is renamed, behind the keyword: the table or a column. -/
def tableRename : Reader String := do
  if ← keyword? "TO" then return "RENAME TO " ++ (← pathText)
  let _ ← keyword? "COLUMN"
  let before ← nameText
  keyword "TO"
  return inWords ["RENAME COLUMN", before, "TO", ← nameText]

/-- What is added to a table, behind the keyword: a constraint, parts or a column. -/
def tableAddition (r : Rules) : Reader String := do
  match ← tableConstraint? r with
  | some constraint => return "ADD " ++ constraint
  | none =>
    let early ← ifNotExists
    match ← partitionsUpTo r (← get).length with
    | [] =>
      let column ← optionalWords ["COLUMN"]
      let late ← ifNotExists
      return inWords ["ADD", column, if late = "" then early else late, ← columnDefinition r]
    | parts => return inWords ("ADD" :: early :: parts)

/-- Parts of a table with a new name, behind the keyword. -/
def partitionRename (r : Rules) : Reader String := do
  let before ← partitionValues r
  keywords ["RENAME", "TO", "PARTITION"]
  return inWords [before, "RENAME TO", ← partitionValues r]

/-- A column with a new name and a new type, behind the keyword. -/
def columnReplacement (r : Rules) : Reader String := do
  let _ ← keyword? "COLUMN"
  let before ← nameText
  let after ← nameText
  let type ← dataType
  return inWords (["CHANGE COLUMN", before, after, type] ++ (← plainColumnOptions r (← get).length))

/-- **A change of a table.** -/
def tableChange (r : Rules) : Reader String := do
  match ← oneOf ["ADD", "RENAME", "DROP", "PARTITION", "ALTER", "CHANGE", "SWAP"] with
  | "ADD" => tableAddition r
  | "RENAME" => tableRename
  | "DROP" => tableDrop r
  | "PARTITION" => partitionRename r
  | "ALTER" =>
    let _ ← keyword? "COLUMN"
    let column ← nameText
    return inWords ["ALTER COLUMN", column, ← columnChange r]
  | "CHANGE" => columnReplacement r
  | _ =>
    keyword "WITH"
    return "SWAP WITH " ++ (← pathText)

/-- **ALTER.** -/
def alterStatement (r : Rules) : Reader String := do
  match ← oneOf ["VIEW", "TABLE", "INDEX"] with
  | "TABLE" =>
    let condition ← optionalWords ["IF", "EXISTS"]
    let only ← optionalWords ["ONLY"]
    let table ← pathText
    return inWords ["ALTER TABLE", condition, only, table, inCommas (← commaList (tableChange r))]
  | "INDEX" =>
    let index ← pathText
    keywords ["RENAME", "TO"]
    return inWords ["ALTER INDEX", index, "RENAME TO", ← pathText]
  | _ =>
    let view ← pathText
    let columns ← (do if (← peekSign) = "(" then nameListText else return "")
    let options ← settings "WITH"
    keyword "AS"
    return inWords ["ALTER VIEW", view, options, columns, "AS", ← r.queryText]

/-- A parameter of a function by its type.  A type with a name of its own is the name of the parameter, and the type
stands behind it. -/
def functionParameter (r : Rules) : Reader String := do
  let mode := (← oneOf? ["IN", "OUT", "INOUT"]).getD ""
  let first ← DataType.type
  if first.closed then refuse
  let (named, type) ← (do
    match first.ownName with
    | some n => return (n.render, ← dataType)
    | none => return ("", first.written))
  let given ← (do if ← keyword? "DEFAULT" then return true else sign? "=")
  let value ← (do if given then return "= " ++ (← r.text) else return "")
  return inWords [mode, named, type, value]

/-- A function that is dropped, by its name and its parameters. -/
def droppedFunction (r : Rules) : Reader String := do
  let function ← pathText
  if ← sign? "(" then
    if ← sign? ")" then return function
    let parameters ← commaList (functionParameter r)
    sign ")"
    return function ++ inParentheses parameters
  return function

/-- DROP FUNCTION, behind the keywords. -/
def dropFunction (r : Rules) : Reader String := do
  let condition ← optionalWords ["IF", "EXISTS"]
  let functions ← commaList (droppedFunction r)
  return inWords ["DROP FUNCTION", condition, inCommas functions, ((← oneOf? ["CASCADE", "RESTRICT"]).getD "")]

/-- The kinds of things that are dropped by name. -/
def droppedKinds : List String := ["TABLE", "VIEW", "INDEX", "ROLE", "SCHEMA", "SEQUENCE", "STAGE"]

/-- **DROP.**  What depends on the thing cannot be both dropped and refused, and a role is dropped alone. -/
def dropStatement (r : Rules) : Reader String := do
  let temporary ← optionalWords ["TEMPORARY"]
  if ← keyword? "FUNCTION" then return (← dropFunction r)
  let kind ← oneOf droppedKinds
  let condition ← optionalWords ["IF", "EXISTS"]
  let names ← commaList pathText
  let cascade ← optionalWords ["CASCADE"]
  let restrict ← optionalWords ["RESTRICT"]
  let purge ← optionalWords ["PURGE"]
  if cascade ≠ "" ∧ restrict ≠ "" then refuse
  if kind = "ROLE" ∧ inWords [cascade, restrict, purge] ≠ "" then refuse
  return inWords ["DROP", temporary, kind, condition, inCommas names, cascade, restrict, purge]

end FacetSql.Sql
