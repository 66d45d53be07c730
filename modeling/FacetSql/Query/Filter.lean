import FacetSql.Query.Constant
import FacetSql.Json.Printer
/-!
# Filter — the rows a query asks for

WHERE becomes a filter, and a filter becomes the engine's JSON.  The engine compares one field with constants, so a
comparison needs a field on one side; where the field stands on the right, the comparison is turned around.
-/
namespace FacetSql

/-- The four ways a field may lie to one side of a constant. -/
inductive Side where
  | above | atLeast | below | atMost
  deriving DecidableEq

/-- **A condition on documents.** -/
inductive Filter where
  | everything
  | both (left right : Filter)
  | either (left right : Filter)
  | negated (inner : Filter)
  | present (field : String)
  | equals (field : String) (value : Json)
  | oneOf (field : String) (values : List Json)
  | bounded (field : String) (side : Side) (value : Json)
  | between (field : String) (low high : Json)
  /-- In a wildcard the star is any text and the question mark any one character. -/
  | matching (field : String) (wildcard : String)

/-- The engine's word for a side. -/
def Side.code : Side → String
  | above => "gt"
  | atLeast => "gte"
  | below => "lt"
  | atMost => "lte"

namespace Filter

/-- An object with one member. -/
def single (key : String) (value : Json) : Json := .object [(key, value)]

/-- **The filter as the engine reads it.** -/
def toJson : Filter → Json
  | everything => single "match_all" (.object [])
  | both left right => single "bool" (single "must" (.array [left.toJson, right.toJson]))
  | either left right =>
    single "bool" (.ofMembers [
      ("should", .array [left.toJson, right.toJson]),
      ("minimum_should_match", .int 1)])
  | negated inner => single "bool" (single "must_not" (.array [inner.toJson]))
  | present field => single "exists" (single "field" (.text field))
  | equals field value => single "term" (single field value)
  | oneOf field values => single "terms" (single field (.array values))
  | bounded field side value => single "range" (single field (single side.code value))
  | between field low high => single "range" (single field (.ofMembers [("gte", low), ("lte", high)]))
  | matching field wildcard => single "wildcard" (single field (single "value" (.text wildcard)))

/-- The filter, or what it leaves out. -/
def negatedIf (negate : Bool) (f : Filter) : Filter :=
  if negate then negated f else f

end Filter

namespace Query

open Sql

/-- The value of a constant with its sign turned around. -/
def negateConstant : Json → Except Failure Json
  | .int n => .ok (.int (-n))
  | .float x => .ok (.float (-x))
  | j => .error (.parse (.negatedLiteral j.compact))

/-- **The value of a constant** in a condition, with any number of minus signs and parentheses around it.  A numeral
beyond all floats has no value and becomes `null`. -/
def constant : Expr → Except Failure Json
  | .literal (.number numeral _) => do
    match ← readNumber numeral with
    | .int n => return .int n
    | .float x => return Json.ofFloat x
  | .literal (.text s) => .ok (.text s)
  | .literal (.bool b) => .ok (.bool b)
  | .literal .null => .ok .null
  | .unary .minus operand => do negateConstant (← constant operand)
  | .nested inner => constant inner
  | e => .error (.unsupported (.notALiteral e.render))

/-- The operator with its operands exchanged. -/
def flipped : BinaryOp → BinaryOp
  | .gt => .lt
  | .gtEq => .ltEq
  | .lt => .gt
  | .ltEq => .gtEq
  | op => op

/-- The filter of a comparison with the field on the left. -/
def comparisonFilter (field : String) (op : BinaryOp) (value : Json) : Except Failure Filter :=
  match op with
  | .eq => .ok (.equals field value)
  | .notEq => .ok (.negated (.equals field value))
  | .gt => .ok (.bounded field .above value)
  | .gtEq => .ok (.bounded field .atLeast value)
  | .lt => .ok (.bounded field .below value)
  | .ltEq => .ok (.bounded field .atMost value)
  | op => .error (.unsupported (.conditionOperator op.render))

/-- **The filter of a comparison.**  If both sides name fields, the right one had to be a constant. -/
def comparison (left : Expr) (op : BinaryOp) (right : Expr) : Except Failure Filter :=
  match fieldName left, fieldName right with
  | .ok field, _ => do comparisonFilter field op (← constant right)
  | .error _, .ok field => do comparisonFilter field (flipped op) (← constant left)
  | .error e, .error _ => .error e

/-- One character of a `LIKE` pattern as a wildcard. -/
def wildcardChar (c : Char) : Char :=
  if c = '%' then '*' else if c = '_' then '?' else c

/-- **The wildcard of a pattern**, which is a text or the text of another constant. -/
def wildcard : Json → String
  | .text s => s.map wildcardChar
  | j => j.compact.map wildcardChar

/-- **The filter of a condition.** -/
def filterOf : Expr → Except Failure Filter
  | .nested inner => filterOf inner
  | .binary left .and right => do return .both (← filterOf left) (← filterOf right)
  | .binary left .or right => do return .either (← filterOf left) (← filterOf right)
  | .binary left op right => comparison left op right
  | .unary .not operand => do return .negated (← filterOf operand)
  | .isNull operand isNegated => do return .negatedIf (!isNegated) (.present (← fieldName operand))
  | .inList operand isNegated items => do
    let field ← fieldName operand
    return .negatedIf isNegated (.oneOf field (← items.mapM constant))
  | .between operand isNegated low high => do
    let field ← fieldName operand
    return .negatedIf isNegated (.between field (← constant low) (← constant high))
  | .like operand isNegated pattern _ => do
    let field ← fieldName operand
    return .negatedIf isNegated (.matching field (wildcard (← constant pattern)))
  | e => .error (.unsupported (.condition e.render))

end Query
end FacetSql
