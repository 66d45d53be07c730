import FacetSql.Numeral.Whole
import FacetSql.Sql.Keyword
import FacetSql.Sql.Printer
/-!
# Reader — values off the front of the tokens

A reader takes tokens off the front of a list and stops without saying why.  Words are keywords only where a rule asks
for one; anywhere else they are names.  Beside the tokens a reader knows how much deeper it may go, for statements,
queries and whole expressions.  A rule that was tried in vain gives its tokens back, but the count of the levels goes on
from where it was.

The rules of SQL need one another.  A rule gets the others as `Rules`, so each stands on its own.
-/
namespace FacetSql.Sql

/-- **Why a reader stops.** -/
inductive Stop where
  /-- The tokens are not what the rule asks for.  Another rule may be tried. -/
  | mismatch
  /-- A number does not fit, or a name is missing that nothing can stand for.  Nothing else is tried. -/
  | broken

/-- **Reads a value off the front of the tokens**; the number is the depth left. -/
abbrev Reader := StateT (List Token) (ExceptT Stop (StateM Int))

namespace Reader

/-- The tokens are not what is asked for. -/
def refuse {α : Type} : Reader α := throw .mismatch

/-- **One level deeper**, and back behind the value.  There is no level below the last one; who asks for it all the same
is refused and leaves the count below zero, where no level is the last. -/
def deeper {α : Type} (entry : Reader α) : Reader α := fun tokens room =>
  if room = 0 then (.error .mismatch, -1)
  else
    let (result, left) := entry tokens (room - 1)
    (result, left + 1)

/-- The value, or nothing and no token taken where there is none. -/
def attempt {α : Type} (entry : Reader α) : Reader (Option α) :=
  tryCatch (some <$> entry) (fun stop =>
    match stop with
    | .mismatch => pure none
    | .broken => throw .broken)

/-- The next token, which stays. -/
def peek : Reader (Option Token) := do return (← get).head?

/-- Whether nothing is left. -/
def atEnd : Reader Bool := do return (← get).isEmpty

/-- Takes a token. -/
def skip : Reader Unit := modify (List.drop 1)

/-- The word of a token where keywords are looked for. -/
def keywordOf : Option Token → String
  | some (.word n) => n.keyword
  | _ => ""

/-- The sign a token is. -/
def signOf : Option Token → String
  | some (.sign s) => s
  | some (.semicolon _) => ";"
  | _ => ""

/-- The word in front where keywords are looked for. -/
def peekKeyword : Reader String := do return keywordOf (← peek)

/-- The sign in front. -/
def peekSign : Reader String := do return signOf (← peek)

/-- Takes the keyword if it is next. -/
def keyword? (word : String) : Reader Bool := do
  if (← peekKeyword) = word then
    skip
    return true
  return false

/-- Takes the keyword, which must be next. -/
def keyword (word : String) : Reader Unit := do
  if ← keyword? word then return ()
  refuse

/-- Takes the keywords if all of them are next. -/
def keywords? (words : List String) : Reader Bool := do
  let tokens ← get
  if (tokens.take words.length).map (fun t => keywordOf (some t)) = words then
    modify (List.drop words.length)
    return true
  return false

/-- Takes the keywords, which must be next. -/
def keywords (words : List String) : Reader Unit := do
  if ← keywords? words then return ()
  refuse

/-- Takes the first of the phrases that is next. -/
def phrase? : List (List String) → Reader (Option String)
  | [] => return none
  | words :: phrases => do
    if ← keywords? words then return some (" ".intercalate words)
    phrase? phrases

/-- Takes one of the phrases, which must be next. -/
def phrase (phrases : List (List String)) : Reader String := do
  match ← phrase? phrases with
  | some words => return words
  | none => refuse

/-- Takes the first of the keywords that is next. -/
def oneOf? (words : List String) : Reader (Option String) := do
  let word ← peekKeyword
  if words.contains word then
    skip
    return some word
  return none

/-- Takes one of the keywords, which must be next. -/
def oneOf (words : List String) : Reader String := do
  match ← oneOf? words with
  | some word => return word
  | none => refuse

/-- Takes the sign if it is next. -/
def sign? (s : String) : Reader Bool := do
  match ← peek with
  | some (.sign t) =>
    if s = t then
      skip
      return true
    return false
  | _ => return false

/-- Takes the sign, which must be next. -/
def sign (s : String) : Reader Unit := do
  if ← sign? s then return ()
  refuse

/-- A value behind a keyword, if the keyword is next. -/
def behind? {α : Type} (word : String) (entry : Reader α) : Reader (Option α) := do
  if ← keyword? word then return some (← entry)
  return none

/-- A text behind keywords, which stand before it; empty if they are not next. -/
def textBehind (words : List String) (entry : Reader String) : Reader String := do
  if ← keywords? words then return " ".intercalate words ++ " " ++ (← entry)
  return ""

/-- The keywords as a text if they are next, and empty if not. -/
def optionalWords (words : List String) : Reader String := do
  return textIf (← keywords? words) (" ".intercalate words)

/-- A value in parentheses. -/
def inParens {α : Type} (entry : Reader α) : Reader α := do
  sign "("
  let a ← entry
  sign ")"
  return a

/-- At most a number of values with commas between them. -/
def commaListUpTo {α : Type} (entry : Reader α) : Nat → Reader (List α)
  | 0 => refuse
  | n + 1 => do
    let a ← entry
    if ← sign? "," then return a :: (← commaListUpTo entry n)
    return [a]

/-- **One or more values with commas between them.**  There is a token for each. -/
def commaList {α : Type} (entry : Reader α) : Reader (List α) := do
  commaListUpTo entry ((← get).length + 1)

/-- Entries behind the opening parenthesis, at most a number of them; a comma may stand behind the last. -/
def closedListUpTo {α : Type} (entry : Reader (Option α)) : Nat → Reader (List α)
  | 0 => refuse
  | n + 1 => do
    let e ← entry
    let comma ← sign? ","
    if ← sign? ")" then return e.toList
    if comma then return e.toList ++ (← closedListUpTo entry n) else refuse

/-- **Entries in parentheses**, where a comma may stand behind the last; none without parentheses. -/
def closedList {α : Type} (entry : Reader (Option α)) : Reader (List α) := do
  if ← sign? "(" then
    if ← sign? ")" then return []
    closedListUpTo entry ((← get).length + 1)
  else return []

/-- A name; a text in apostrophes is a name too. -/
def name : Reader Name := do
  match ← peek with
  | some (.word n) =>
    skip
    return n
  | some (.text s) =>
    skip
    return ⟨s, some apostrophe⟩
  | _ => refuse

/-- At most a number of names with points before them. -/
def pathRest : Nat → Reader (List Name)
  | 0 => refuse
  | n + 1 => do
    if ← sign? "." then
      let part ← name
      return part :: (← pathRest n)
    return []

/-- **Names with points between them.** -/
def path : Reader (List Name) := do
  let first ← name
  return first :: (← pathRest ((← get).length + 1))

/-- The text of names with points between them. -/
def pathText : Reader String := do return renderPath (← path)

/-- Names in parentheses. -/
def nameList : Reader (List Name) := inParens (commaList name)

/-- Names in parentheses, or none. -/
def optionalNameList : Reader (List Name) := do
  if (← peekSign) = "(" then nameList else return []

/-- **A text**, or a bare word in its place that is no keyword. -/
def textValue : Reader String := do
  match ← peek with
  | some (.text s) | some (.escaped s) =>
    skip
    return s
  | some (.word n) =>
    if n.isKeyword then refuse
    skip
    return n.text
  | _ => refuse

/-- A text of one ASCII character. -/
def characterValue : Reader Char := do
  match (← textValue).toList with
  | [c] => if c.toNat < 128 then return c else refuse
  | _ => refuse

/-- The text of a whole number without a sign. -/
def wholeNumber : Reader String := do
  match ← peek with
  | some (.number numeral _) =>
    match Numeral.word64.read numeral with
    | .ok n =>
      skip
      return toString n
    | .error _ => refuse
  | _ => refuse

/-- The keywords that may stand for a constant as they are. -/
def constantWords : List String := ["LOCATION", "TYPE", "DATE"]

/-- The constant that a word is. -/
def wordConstant (n : Name) : Option Literal :=
  match n.quote with
  | some quote => if quote = '"' then some (.other (inQuotes quote n.text)) else none
  | none =>
    match n.keyword with
    | "TRUE" => some (.bool true)
    | "FALSE" => some (.bool false)
    | "NULL" => some .null
    | word => if n.isKeyword ∧ ¬ constantWords.contains word then none else some (.other n.text)

/-- The text of a name. -/
def nameText : Reader String := do return (← name).render

/-- The name of a place for a value, behind its sign. -/
def placeName : Reader String := do
  match ← peek with
  | some (.word n) =>
    skip
    return n.text
  | some (.number numeral false) =>
    skip
    return numeral
  | _ => refuse

/-- **A constant.** -/
def constant : Reader Literal := do
  let next ← peek
  skip
  match next with
  | some (.number numeral long) => return .number numeral long
  | some (.text s) => return .text s
  | some (.escaped s) => return .other (inEscapes s)
  | some (.national s) => return .other ("N" ++ enclosed apostrophe s)
  | some (.hex digits) => return .other ("X" ++ enclosed apostrophe digits)
  | some (.marked written) | some (.place written) => return .other written
  | some (.sign ":") => return .other (":" ++ (← placeName))
  | some (.sign "@") => return .other ("@" ++ (← placeName))
  | some (.word n) =>
    match wordConstant n with
    | some value => return value
    | none => refuse
  | _ => refuse

/-- A number, or a place for one. -/
def numberText : Reader String := do
  match ← peek with
  | some (.number ..) | some (.place _) | some (.sign _) => return (← constant).render
  | _ => refuse

/-- **A number of the range**, where nothing else can stand. -/
def numberWithin (range : Numeral.Range) : Reader String := do
  match ← peek with
  | some (.number numeral _) =>
    match range.read numeral with
    | .ok n =>
      skip
      return toString n
    | .error _ => throw .broken
  | _ => refuse

end Reader

/-- **The rules that other rules need.** -/
structure Rules where
  /-- An operand. -/
  operand : Reader Expr
  /-- An operand and the operators behind it that bind tighter than a number. -/
  above : Nat → Reader Expr
  query : Reader Query
  joined : Reader Joined

namespace Rules

/-- A whole expression. -/
def expr (r : Rules) : Reader Expr := Reader.deeper (r.above 0)

/-- The text of a whole expression. -/
def text (r : Rules) : Reader String := do return (← r.expr).render

/-- The texts of one or more expressions. -/
def texts (r : Rules) : Reader (List String) := Reader.commaList r.text

/-- The text of a query. -/
def queryText (r : Rules) : Reader String := do return (← r.query).render

end Rules

end FacetSql.Sql
