import FacetSql.Sql.Change
/-!
# Copy — rows between tables and files

Rows are copied between a table or a query and a file, a program or the text of the statement itself.  In the last case
the values stand behind the semicolon, with tabs and line ends between them, up to a backslash and a point; they are no
SQL, so their blanks count.  What is left behind them is SQL again.
-/
namespace FacetSql.Sql

open Reader

/-- The first token of characters that is neither blank nor comment, and what follows it, in at most so many steps. -/
def nextToken : Nat → List Char → Option (Token × List Char)
  | _, [] => none
  | 0, _ => none
  | fuel + 1, c :: cs =>
    match scanStep c cs with
    | some (some token, rest) => some (token, rest)
    | some (none, rest) => nextToken fuel rest
    | none => none

/-- The text of a step that took the characters before `rest`.  Blanks of any kind but the line end are one blank, and
comments are as written. -/
def stepText (cs rest : List Char) : Option Token → String
  | some token => token.written
  | none =>
    let isComment := cs.head? == some '-' || cs.head? == some '/'
    if isComment then String.ofList (cs.take (cs.length - rest.length)) else " "

/-- **The values in a text**, and the characters behind them, in at most so many steps.  `content` is what has been met
of a value; a tab or a line end closes it.  A backslash before a point ends the values, and one before `N` is a missing
value, whatever stands around it. -/
def copiedValues : Nat → String → List Char → List (Option String) × List Char
  | _, _, [] => ([], [])
  | 0, _, cs => ([], cs)
  | fuel + 1, content, c :: cs =>
    let closed := fun (rest : List Char) =>
      let (values, behind) := copiedValues fuel "" rest
      (some content :: values, behind)
    match c, cs with
    | '\t', rest | '\n', rest | '\r', '\n' :: rest | '\r', rest => closed rest
    | '\\', cs =>
      match nextToken cs.length cs with
      | some (.sign ".", rest) => ([], rest)
      | some (.word n, rest) =>
        let (values, behind) := copiedValues fuel content rest
        (if n.text = "N" then none :: values else values, behind)
      | some (_, rest) => copiedValues fuel content rest
      | none => ([], [])
    | c, cs =>
      match scanStep c cs with
      | some (token, rest) => copiedValues fuel (content ++ stepText (c :: cs) rest token) rest
      | none => ([], [])

/-- The values behind the semicolon, which has to be next, as a text. -/
def copiedText : Reader String := do
  match ← peek with
  | some (.semicolon behind) =>
    let (values, rest) := copiedValues behind.length "" behind
    set ((scanSteps rest.length rest).getD [])
    let texts := values.map (fun value => value.getD "\\N")
    return if values.isEmpty then "" else ";\n" ++ "\t".intercalate texts ++ "\n\\."
  | _ => refuse

/-- A truth value, which need not be said. -/
def copySwitch (word : String) : Reader String := do
  match ← oneOf? ["TRUE", "FALSE"] with
  | some "FALSE" => return word ++ " FALSE"
  | _ => return word

/-- A character in apostrophes, behind a word. -/
def copyCharacter (word : String) : Reader String := do
  return word ++ " " ++ enclosed apostrophe (← characterValue).toString

/-- A text in apostrophes, behind a word. -/
def copyString (word : String) : Reader String := do
  return word ++ " " ++ inQuotes apostrophe (← textValue)

/-- An option in parentheses. -/
def copyOption : Reader String := do
  match ← oneOf ["FORMAT", "FREEZE", "DELIMITER", "NULL", "HEADER", "QUOTE", "ESCAPE", "FORCE_QUOTE",
      "FORCE_NOT_NULL", "FORCE_NULL", "ENCODING"] with
  | "FORMAT" => return "FORMAT " ++ (← nameText)
  | "FREEZE" => copySwitch "FREEZE"
  | "HEADER" => copySwitch "HEADER"
  | "NULL" => copyString "NULL"
  | "ENCODING" => copyString "ENCODING"
  | "DELIMITER" => copyCharacter "DELIMITER"
  | "QUOTE" => copyCharacter "QUOTE"
  | "ESCAPE" => copyCharacter "ESCAPE"
  | word => return word ++ " (" ++ renderNames (← nameList) ++ ")"

/-- An option of files with commas between their values. -/
def csvOption : Reader String := do
  match ← phrase [["HEADER"], ["QUOTE"], ["ESCAPE"], ["FORCE", "NOT", "NULL"], ["FORCE", "QUOTE"]] with
  | "HEADER" => return "HEADER"
  | "FORCE NOT NULL" => return "FORCE NOT NULL " ++ inCommas (← commaList nameText)
  | "FORCE QUOTE" => return "FORCE QUOTE " ++ inCommas (← commaList nameText)
  | word =>
    let _ ← keyword? "AS"
    copyCharacter word

/-- Options one behind the other, at most a number of them, up to what is none. -/
def optionsUpTo (entry : Reader String) : Nat → Reader (List String)
  | 0 => return []
  | n + 1 => do
    match ← attempt entry with
    | some e => return e :: (← optionsUpTo entry n)
    | none => return []

/-- An option without parentheses. -/
def bareCopyOption : Reader String := do
  match ← oneOf ["BINARY", "DELIMITER", "NULL", "CSV"] with
  | "BINARY" => return "BINARY"
  | "CSV" => return "CSV " ++ " ".intercalate (← optionsUpTo csvOption (← get).length)
  | "NULL" =>
    let _ ← keyword? "AS"
    copyString "NULL"
  | word =>
    let _ ← keyword? "AS"
    copyCharacter word

/-- What rows are copied from or to: a query in parentheses, which only gives rows, or a table. -/
def copiedRows (r : Rules) : Reader String := do
  if ← sign? "(" then
    let query ← r.queryText
    sign ")"
    keyword "TO"
    return "(" ++ query ++ ") TO"
  let table ← pathText
  let columns ← optionalNameList
  let direction ← oneOf ["FROM", "TO"]
  return inWords [table, if columns.isEmpty then "" else "(" ++ renderNames columns ++ ")", direction]

/-- Where the rows are copied to or from. -/
def copyPlace : Reader String := do
  match ← oneOf? ["STDIN", "STDOUT", "PROGRAM"] with
  | some "PROGRAM" => copyString "PROGRAM"
  | some word => return word
  | none => return inQuotes apostrophe (← textValue)

/-- **COPY.** -/
def copyStatement (r : Rules) : Reader String := do
  let rows ← copiedRows r
  let placeWord ← peekKeyword
  let place ← copyPlace
  let _ ← keyword? "WITH"
  let options ← (do
    if (← peekSign) = "(" then return inParentheses (← inParens (commaList copyOption)) else return "")
  let bareOptions ← optionsUpTo bareCopyOption (← get).length
  let values ← (if placeWord = "STDIN" then copiedText else return "")
  return inWords (["COPY", rows, place, options] ++ bareOptions) ++ values

end FacetSql.Sql
