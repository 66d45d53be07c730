import FacetSql.Sql.Change
/-!
# Column — the columns of tables and what holds for them

A column has a name, a type and options; a table has constraints beside its columns.  None of them is checked, so each
is read into its canonical text.  Some words are taken although nothing is made of them: an option that breaks off
behind `GENERATED` is no option, and the last `NO` of a counter may stand alone.
-/
namespace FacetSql.Sql

open Reader

/-- A number behind keywords, or `NO` before the first of them; empty if neither is next. -/
def boundText (word : String) : Reader String := do
  if ← keywords? ["NO", word] then return "NO " ++ word
  textBehind [word] numberText

/-- **How a counter goes on**: its step, its bounds, its start, how many of its numbers are made at once, and whether it
begins again.  They stand in this order. -/
def counterOptions : Reader String := do
  let step ← (do if ← keywords? ["INCREMENT", "BY"] then return "INCREMENT BY " ++ (← numberText)
                 textBehind ["INCREMENT"] numberText)
  let least ← boundText "MINVALUE"
  let greatest ← boundText "MAXVALUE"
  let start ← (do if ← keywords? ["START", "WITH"] then return "START WITH " ++ (← numberText)
                  textBehind ["START"] numberText)
  let stock ← textBehind ["CACHE"] numberText
  let ends ← optionalWords ["NO"]
  let again ← optionalWords ["CYCLE"]
  return inWords [step, least, greatest, start, stock, textIf (again != "") (inWords [ends, again])]

/-- The options of the counter behind a column, if they are given. -/
def columnCounter : Reader String := do
  if ← sign? "(" then
    let options ← counterOptions
    sign ")"
    return inWords ["(", options, ")"]
  return ""

/-- What is done with rows that refer to another one, at most a number of times; each of both cases once. -/
def referentialActions : Nat → String → String → Reader String
  | 0, onDelete, onUpdate => return inWords [onDelete, onUpdate]
  | n + 1, onDelete, onUpdate => do
    let action := phrase [["RESTRICT"], ["CASCADE"], ["SET", "NULL"], ["NO", "ACTION"], ["SET", "DEFAULT"]]
    let deleted ← (if onDelete = "" then textBehind ["ON", "DELETE"] action else return "")
    if deleted ≠ "" then referentialActions n deleted onUpdate
    else
      let updated ← (if onUpdate = "" then textBehind ["ON", "UPDATE"] action else return "")
      if updated ≠ "" then referentialActions n onDelete updated else return inWords [onDelete, onUpdate]

/-- How the value of a column is made from others, behind the opening words. -/
def computedColumn (r : Rules) (opening : String) : Reader String := do
  let e ← inParens r.text
  return inWords [opening ++ " (" ++ e ++ ")", ((← oneOf? ["STORED", "VIRTUAL"]).getD "")]

/-- How the value of a column is made, behind the keyword: by a counter or from other columns. -/
def generatedColumn? (r : Rules) : Reader (Option String) := do
  match ← phrase? [["ALWAYS", "AS", "IDENTITY"], ["BY", "DEFAULT", "AS", "IDENTITY"], ["ALWAYS", "AS"]] with
  | none => return none
  | some "ALWAYS AS" =>
    if (← peekSign) = "(" then return some (← computedColumn r "GENERATED ALWAYS AS") else return none
  | some words => return some (inWords ["GENERATED", words, ← columnCounter])

/-- **An option of a column**, if one stands there. -/
def columnOption? (r : Rules) : Reader (Option String) := do
  match ← phrase? [["CHARACTER", "SET"], ["NOT", "NULL"], ["COMMENT"], ["NULL"], ["DEFAULT"], ["PRIMARY", "KEY"],
      ["UNIQUE"], ["REFERENCES"], ["CHECK"], ["AUTO_INCREMENT"], ["AUTOINCREMENT"], ["ON", "UPDATE"], ["GENERATED"],
      ["AS"]] with
  | none => return none
  | some words =>
    match words with
    | "CHARACTER SET" => return some (words ++ " " ++ (← pathText))
    | "COMMENT" => return some (words ++ " " ++ (← DataType.quotedText))
    | "DEFAULT" | "ON UPDATE" => return some (words ++ " " ++ (← r.text))
    | "REFERENCES" =>
      let table ← pathText
      let columns ← optionalNameList
      let referred := if columns.isEmpty then "" else "(" ++ renderNames columns ++ ")"
      return some (inWords [words, table, referred, ← referentialActions 2 "" ""])
    | "CHECK" => return some ("CHECK (" ++ (← inParens r.text) ++ ")")
    | "GENERATED" => generatedColumn? r
    | "AS" => return some (← computedColumn r words)
    | _ => return some words

/-- The options of a column without names, at most a number of them. -/
def plainColumnOptions (r : Rules) : Nat → Reader (List String)
  | 0 => return []
  | n + 1 => do
    match ← columnOption? r with
    | some written => return written :: (← plainColumnOptions r n)
    | none => return []

/-- The options of a column, each with a name or without, and the order its texts are compared by, at most a number of
them.  That order may be given anywhere among the options, and the last one counts. -/
def columnOptions (r : Rules) : Nat → String → Reader (String × List String)
  | 0, collation => return (collation, [])
  | n + 1, collation => do
    let named ← textBehind ["CONSTRAINT"] nameText
    match ← columnOption? r with
    | some written =>
      let (last, others) ← columnOptions r n collation
      return (last, inWords [named, written] :: others)
    | none =>
      if named ≠ "" then refuse
      let other ← textBehind ["COLLATE"] pathText
      if other = "" then return (collation, []) else columnOptions r n other

/-- **The definition of a column.** -/
def columnDefinition (r : Rules) : Reader String := do
  let n ← nameText
  let type ← dataType
  let (collation, options) ← columnOptions r (← get).length ""
  return inWords ([n, type, collation] ++ options)

/-- The text of names in parentheses. -/
def nameListText : Reader String := do return "(" ++ renderNames (← nameList) ++ ")"

/-- What the rows of a table refer to, behind the keyword. -/
def foreignKey : Reader String := do
  keyword "KEY"
  let columns ← nameListText
  keyword "REFERENCES"
  let table ← pathText
  let referred ← nameListText
  return inWords ["FOREIGN KEY", columns, "REFERENCES", table ++ referred, ← referentialActions 2 "" ""]

/-- **A constraint of a table**, if one stands there.  A name right behind PRIMARY KEY or UNIQUE replaces the one in
front, and an index has none in front. -/
def tableConstraint? (r : Rules) : Reader (Option String) := do
  let constraintName ← (do if ← keyword? "CONSTRAINT" then return some (← nameText) else return none)
  let named := fun (n : Option String) => (n.map ("CONSTRAINT " ++ ·)).getD ""
  match ← oneOf? ["PRIMARY", "UNIQUE", "FOREIGN", "CHECK", "INDEX", "KEY", "FULLTEXT", "SPATIAL"] with
  | none => if constraintName.isSome then refuse else return none
  | some "FOREIGN" => return some (inWords [named constraintName, ← foreignKey])
  | some "CHECK" => return some (inWords [named constraintName, "CHECK (" ++ (← inParens r.text) ++ ")"])
  | some word =>
    if word = "PRIMARY" ∨ word = "UNIQUE" then
      let _ ← keyword? "KEY"
      let ownName ← attempt nameText
      let kind := if word = "PRIMARY" then "PRIMARY KEY" else "UNIQUE"
      return some (inWords [named (ownName.orElse (fun _ => constraintName)), kind, ← nameListText])
    if constraintName.isSome then refuse
    if word = "FULLTEXT" ∨ word = "SPATIAL" then
      let kind := (← oneOf? ["INDEX", "KEY"]).getD ""
      let ownName := (← attempt nameText).getD ""
      return some (inWords [word, kind, ownName, ← nameListText])
    let ownName ← (do if (← peekKeyword) = "USING" then return none else attempt nameText)
    let method ← textBehind ["USING"] (oneOf ["BTREE", "HASH"])
    return some (inWords [word, ownName.getD "", method, ← nameListText])

/-- Columns and constraints, behind the opening parenthesis, at most a number of them; a comma may stand behind the
last. -/
def tableEntries (r : Rules) : Nat → List String → List String → Reader (List String)
  | 0, _, _ => refuse
  | n + 1, columns, constraints => do
    let (columns, constraints) ← (do
      match ← tableConstraint? r with
      | some constraint => return (columns, constraints ++ [constraint])
      | none =>
        match ← peek with
        | some (.word _) => return (columns ++ [← columnDefinition r], constraints)
        | _ => refuse)
    let comma ← sign? ","
    if ← sign? ")" then return columns ++ constraints
    if comma then tableEntries r n columns constraints else refuse

/-- The columns and constraints of a table; none without parentheses or in empty ones.  Constraints are written behind
the columns. -/
def tableBodyText (r : Rules) : Reader String := do
  if ← sign? "(" then
    if ← sign? ")" then return ""
    return inParentheses (← tableEntries r ((← get).length + 1) [] [])
  return ""

end FacetSql.Sql
