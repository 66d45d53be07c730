import FacetSql.Sql.DataType
/-!
# Operator — the operators behind an operand

Operators are read by precedence: an operand goes on for as long as the next operator binds tighter than the one before
it, so operators of one level group to the left.  Conditions know few operators; what the others give is kept as text.
-/
namespace FacetSql.Sql

open Reader

/-- How tight `NOT` binds its operand. -/
def notPrecedence : Nat := 15

/-- How tight a pattern is bound. -/
def likePrecedence : Nat := 19

/-- How tight a comparison is bound, and with it the bounds of `BETWEEN`. -/
def comparisonPrecedence : Nat := 20

/-- How tight a product is bound, and with it the operand of a sign. -/
def productPrecedence : Nat := 40

/-- The signs that reach into a document or ask for what is in it.  All that follows stands on their right. -/
def accessSigns : List String := ["->", "->>", "#>", "#>>", "@>", "<@", "#-", "@?", "@@"]

/-- How tight a sign between operands or behind one binds; 0 if it is no operator. -/
def signPrecedence (s : String) : Nat :=
  match s with
  | "=" | "==" | "<>" | "<" | "<=" | ">" | ">=" | "<=>" | "~" | "~*" | "!~" | "!~*" => comparisonPrecedence
  | "|" => 21
  | "^" | "#" | "<<" | ">>" => 22
  | "&" => 23
  | "+" | "-" => 30
  | "*" | "/" | "//" | "%" | "||" => productPrecedence
  | "::" | ":" | "!" | "[" | "&&" => 50
  | s => if accessSigns.contains s then 50 else 0

/-- How tight a predicate binds that a `NOT` may stand before; 0 for any other word. -/
def predicatePrecedence (word : String) : Nat :=
  match word with
  | "LIKE" | "ILIKE" | "RLIKE" | "REGEXP" | "SIMILAR" => likePrecedence
  | "IN" | "BETWEEN" => comparisonPrecedence
  | _ => 0

/-- **How tight the operator in front binds**; 0 where there is none. -/
def precedence : List Token → Nat
  | .sign s :: _ => signPrecedence s
  | .word n :: rest =>
    match n.keyword with
    | "OR" => 5
    | "AND" => 10
    | "XOR" => 24
    | "IS" => 17
    | "AT" => if (rest.take 2).map (fun t => keywordOf (some t)) = ["TIME", "ZONE"] then comparisonPrecedence else 0
    | "OPERATOR" => comparisonPrecedence
    | "DIV" => productPrecedence
    | "NOT" => predicatePrecedence (keywordOf rest.head?)
    | word => predicatePrecedence word
  | _ => 0

/-- The signs between operands that no condition knows. -/
def otherOperators : List String :=
  ["<=>", "~", "~*", "!~", "!~*", "|", "^", "<<", ">>", "&", "&&", "+", "-", "*", "/", "//", "%", "||"]

/-- The operator that a token between two operands is. -/
def binaryOp? : Token → Option BinaryOp
  | .sign "=" | .sign "==" => some .eq
  | .sign "<>" => some .notEq
  | .sign "<" => some .lt
  | .sign "<=" => some .ltEq
  | .sign ">" => some .gt
  | .sign ">=" => some .gtEq
  | .sign s =>
    if otherOperators.contains s then some (.other s) else none
  | .word n =>
    match n.keyword with
    | "AND" => some .and
    | "OR" => some .or
    | "XOR" => some (.other "XOR")
    | _ => none
  | _ => none

/-- The operator compares. -/
def BinaryOp.isComparison : BinaryOp → Bool
  | .eq | .notEq | .lt | .ltEq | .gt | .gtEq => true
  | _ => false

/-- At most a number of tokens with points between them. -/
def operatorName : Nat → Reader (List String)
  | 0 => refuse
  | n + 1 => do
    match ← peek with
    | none => refuse
    | some t =>
      skip
      if ← sign? "." then return t.written :: (← operatorName n)
      return [t.written]

/-- An operator by its name in parentheses. -/
def namedOperator : Reader BinaryOp := do
  let parts ← inParens (do operatorName ((← get).length + 1))
  return .other ("OPERATOR(" ++ ".".intercalate parts ++ ")")

/-- **The right operand of an operator.**  It may be any or all of the values in parentheses, if the operator
compares. -/
def rightOperand (r : Rules) (bound : Nat) (left : Expr) (op : BinaryOp) : Reader Expr := do
  match ← oneOf? ["ANY", "ALL"] with
  | none => return .binary left op (← r.above bound)
  | some word =>
    let right ← inParens (r.above bound)
    if op.isComparison then
      return .other (left.render ++ " " ++ op.render ++ " " ++ word ++ "(" ++ right.render ++ ")")
    refuse

/-- What `IS` asks for. -/
def isTest (r : Rules) (left : Expr) : Reader Expr := do
  let negated ← keyword? "NOT"
  let start := left.render ++ " IS " ++ renderNot negated
  match ← oneOf ["NULL", "TRUE", "FALSE", "UNKNOWN", "DISTINCT"] with
  | "NULL" => return .isNull left negated
  | "DISTINCT" =>
    keyword "FROM"
    return .other (start ++ "DISTINCT FROM " ++ (← r.text))
  | word => return .other (start ++ word)

/-- The character behind ESCAPE, if there is one. -/
def escapeClause : Reader (Option Char) := do
  if ← keyword? "ESCAPE" then return some (← characterValue)
  return none

/-- What may be looked for by IN. -/
def membership (r : Rules) (left : Expr) (negated : Bool) : Reader Expr := do
  let start := left.render ++ " " ++ renderNot negated ++ "IN "
  if ← keyword? "UNNEST" then return .other (start ++ "UNNEST(" ++ (← inParens r.text) ++ ")")
  sign "("
  let word ← peekKeyword
  let e ← (do
    if word = "SELECT" ∨ word = "WITH" then return Expr.other (start ++ "(" ++ (← r.queryText) ++ ")")
    return .inList left negated (← commaList r.expr))
  sign ")"
  return e

/-- A pattern of another kind than LIKE. -/
def otherPattern (r : Rules) (left : Expr) (negated : Bool) (words : String) : Reader Expr := do
  let pattern ← r.above likePrecedence
  return .other (left.render ++ " " ++ renderNot negated ++ words ++ " " ++ pattern.render)

/-- The predicates that may be negated by a word before them. -/
def predicate (r : Rules) (left : Expr) : Reader Expr := do
  let negated ← keyword? "NOT"
  match ← oneOf ["REGEXP", "RLIKE", "IN", "BETWEEN", "LIKE", "ILIKE", "SIMILAR"] with
  | "IN" => membership r left negated
  | "BETWEEN" =>
    let low ← r.above comparisonPrecedence
    keyword "AND"
    return .between left negated low (← r.above comparisonPrecedence)
  | "LIKE" =>
    let pattern ← r.above likePrecedence
    return .like left negated pattern (← escapeClause)
  | "ILIKE" =>
    let e ← otherPattern r left negated "ILIKE"
    return .other (e.render ++ renderEscape (← escapeClause))
  | "SIMILAR" =>
    keyword "TO"
    let e ← otherPattern r left negated "SIMILAR TO"
    return .other (e.render ++ renderEscape (← escapeClause))
  | word =>
    if word = "REGEXP" then let _ ← keyword? "RLIKE"
    otherPattern r left negated word

/-- At most a number of indices, each in brackets. -/
def indices (r : Rules) : Nat → Reader String
  | 0 => return ""
  | n + 1 => do
    if ← sign? "[" then
      let index ← r.text
      sign "]"
      return "[" ++ index ++ "]" ++ (← indices r n)
    return ""

/-- What a sign behind an operand gives. -/
def signOperation (r : Rules) (left : Expr) : Reader Expr := do
  match ← peekSign with
  | "[" => return .other (left.render ++ (← indices r (← get).length))
  | "::" =>
    skip
    return .other ("CAST(" ++ left.render ++ " AS " ++ (← dataType) ++ ")")
  | "!" =>
    skip
    return .other (left.render ++ "!")
  | ":" =>
    skip
    return .other (left.render ++ ":" ++ (← constant).render)
  | s =>
    if accessSigns.contains s then
      skip
      return .other (left.render ++ " " ++ s ++ " " ++ (← r.text))
    refuse

/-- The name of the zone behind a time. -/
def zoneName : Reader String := do
  keywords ["AT", "TIME", "ZONE"]
  match ← peek with
  | some (.text s) =>
    skip
    return enclosed apostrophe s
  | _ => refuse

/-- **One operator behind an operand**, and what belongs to it.  The operator binds as tight as `bound`. -/
def operation (r : Rules) (bound : Nat) (left : Expr) : Reader Expr := do
  let next ← peek
  match next.bind binaryOp? with
  | some op =>
    skip
    rightOperand r bound left op
  | none =>
    match keywordOf next with
    | "" => signOperation r left
    | "OPERATOR" =>
      skip
      rightOperand r bound left (← namedOperator)
    | "IS" =>
      skip
      isTest r left
    | "AT" => return .other (left.render ++ " AT TIME ZONE " ++ (← zoneName))
    | _ => predicate r left

/-- At most a number of operators behind an operand that bind tighter than `bound`. -/
def operatorsUpTo (r : Rules) (precedence : List Token → Nat) (bound : Nat) : Nat → Expr → Reader Expr
  | 0, _ => refuse
  | n + 1, left => do
    let next := precedence (← get)
    if next ≤ bound then return left
    operatorsUpTo r precedence bound n (← operation r next left)

/-- **The operators behind an operand that bind tighter than** `bound`.  There is a token for each. -/
def operators (r : Rules) (precedence : List Token → Nat) (bound : Nat) (left : Expr) : Reader Expr := do
  operatorsUpTo r precedence bound ((← get).length + 1) left

end FacetSql.Sql
