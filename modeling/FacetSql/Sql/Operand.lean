import FacetSql.Sql.Form
/-!
# Operand — what stands between operators

A word that a form or a constant begins with is read as one; any other word is a name, and with points or an opening
parenthesis behind it a path or the call of a function.  A word may still be a name where the form needs a bracket
right behind it that is not there.
-/
namespace FacetSql.Sql

open Reader

/-- The parts of a name, each behind its point, at most a number of them. -/
def partsUpTo : Nat → Reader (List Name)
  | 0 => return []
  | n + 1 => do
    if ← sign? "." then
      let part ← name
      return part :: (← partsUpTo n)
    return []

/-- The text that a name with an underscore in front gives its encoding to, in front. -/
def introduced? (n : Name) : Option Token → Option String
  | some (.text s) =>
    if n.text.toList.head? = some '_' then some (n.text ++ " " ++ inQuotes apostrophe s) else none
  | some (.hex digits) =>
    if n.text.toList.head? = some '_' then some (n.text ++ " X" ++ enclosed apostrophe digits) else none
  | _ => none

/-- **A name, a path or a call**, behind its first name. -/
def named (r : Rules) (n : Name) : Reader Expr := do
  let parts ← partsUpTo (← get).length
  if (← peekSign) = "(" then call r (n :: parts)
  else if parts.isEmpty then
    match introduced? n (← peek) with
    | some written =>
      skip
      return .other written
    | none => return .name n
  else return .path (n :: parts)

/-- **A form by its keyword**, which has been taken; nothing if no form begins with the word. -/
def form? (r : Rules) (word : String) : Option (Reader String) :=
  match word with
  | "CASE" => some (caseForm r)
  | "CONVERT" => some (convertForm r)
  | "CAST" | "TRY_CAST" | "SAFE_CAST" => some (castForm r word)
  | "EXISTS" => some (existsForm r)
  | "EXTRACT" => some (extractForm r)
  | "CEIL" | "FLOOR" => some (roundForm r word)
  | "SUBSTRING" => some (substringForm r)
  | "OVERLAY" => some (overlayForm r)
  | "TRIM" => some (trimForm r)
  | "INTERVAL" => some (interval r)
  | "LISTAGG" => some (listForm r)
  | "ARRAY_AGG" => some (arrayAggForm r)
  | "MATCH" => some matchForm
  | "STRUCT" => some (structForm r)
  | _ => none

/-- A form that only a bracket behind the word makes one. -/
def bracketForm? (r : Rules) (word bracket : String) : Option (Reader String) :=
  match word, bracket with
  | "POSITION", "(" => some (positionForm r)
  | "ARRAY", "[" => some (do
    skip
    return "ARRAY" ++ (← elements r))
  | "ARRAY", "(" => some (do return "ARRAY(" ++ (← inParens r.queryText) ++ ")")
  | _, _ => none

/-- **A negation**, behind its word.  Before EXISTS it belongs to the form. -/
def negation (r : Rules) : Reader Expr := do
  if ← keyword? "EXISTS" then return .other ("NOT " ++ (← existsForm r))
  return .unary .not (← r.above notPrecedence)

/-- An operand that begins with a word. -/
def wordOperand (r : Rules) (n : Name) : Reader Expr := do
  match n.keyword with
  | "TRUE" | "FALSE" | "NULL" => return .literal (← constant)
  | word =>
    skip
    match word with
    | "NOT" => negation r
    | "CURRENT_CATALOG" | "CURRENT_USER" | "SESSION_USER" | "USER" => return bareCall n
    | "CURRENT_TIMESTAMP" | "CURRENT_TIME" | "CURRENT_DATE" | "LOCALTIME" | "LOCALTIMESTAMP" => timeCall r n
    | _ =>
      match form? r word <|> bracketForm? r word (← peekSign) with
      | some form => return .other (← form)
      | none => named r n

/-- An operand in parentheses: a query, an expression, or a row of several.  A point and a name behind them choose one
field. -/
def parenthesized (r : Rules) : Reader Expr := do
  let e ← inParens (do
    let word ← peekKeyword
    if word = "SELECT" ∨ word = "WITH" then return Expr.other ("(" ++ (← r.queryText) ++ ")")
    match ← commaList r.expr with
    | [e] => return .nested e
    | items => return .other (inParentheses (renderExprs items)))
  if ← sign? "." then
    match ← peek with
    | some (.word n) =>
      skip
      return .other (e.render ++ "." ++ n.render)
    | _ => refuse
  return e

/-- An operand that begins with a sign. -/
def signOperand (r : Rules) (s : String) : Reader Expr := do
  match s with
  | "(" => parenthesized r
  | "[" =>
    skip
    return .other (← elements r)
  | "-" =>
    skip
    return .unary .minus (← r.above productPrecedence)
  | "+" =>
    skip
    return .unary .plus (← r.above productPrecedence)
  | ":" | "@" => return .literal (← constant)
  | _ => refuse

/-- An operand without an order of characters behind it. -/
def plainOperand (r : Rules) : Reader Expr := do
  match ← peek with
  | some (.word n) => wordOperand r n
  | some (.sign s) => signOperand r s
  | _ => return .literal (← constant)

/-- **A type in front**: an interval, or a constant of a standard type, which stands before its text. -/
def typedOperand (r : Rules) : Reader String := do
  let t ← DataType.type
  if t.closed ∨ t.ownName.isSome then refuse
  if t.written = "INTERVAL" then interval r
  else return t.written ++ " " ++ inQuotes apostrophe (← textValue)

/-- **An operand.**  A type in front is tried first.  Any other operand may name the order of characters it is compared
by. -/
def operand (r : Rules) : Reader Expr := do
  match ← attempt (typedOperand r) with
  | some written => return .other written
  | none =>
    let e ← plainOperand r
    if ← keyword? "COLLATE" then return .other (e.render ++ " COLLATE " ++ (← pathText))
    return e

end FacetSql.Sql
