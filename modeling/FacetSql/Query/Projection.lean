import FacetSql.Query.Constant
import FacetSql.Heading.Basic
/-!
# Projection — the columns that expressions stand for

A column is a field, or one function over a field with constants behind it.  Select items, keys of GROUP BY and keys of
ORDER BY are all read this way, so that they can be compared by label.
-/
namespace FacetSql.Query

open Sql

/-- The expression of an argument; names and stars are refused. -/
def placedExpr : CallArgument → Except Failure Expr
  | .expr e => .ok e
  | a => .error (.parse (.badArgument a.render))

/-- **The field of a call**: its first argument, or for `COUNT` a star that stands for no field. -/
def fieldOfCall (function : String) (op : Operator) : List CallArgument → Except Failure (Option String)
  | .all :: _ => if op = .count then .ok none else .error (.parse (.noField function))
  | .expr e :: _ => (fieldName e).map some
  | _ => .error (.parse (.noField function))

/-- **The constants behind the field.**  A histogram may have an interval; `GROWTH` has all or none of a field for its
abscissa and the abscissa to project to. -/
def callArguments (now : Int) (function : String) (op : Operator) (extra : List Expr) :
    Except Failure (List Argument) :=
  match op, extra with
  | _, [] => .ok []
  | .dateHistogram, [interval] => do return [← argument now interval]
  | .growth, [abscissa, target] => do return [.text (← fieldName abscissa), ← argument now target]
  | .growth, _ => .error (.parse .growthArguments)
  | _, _ => .error (.parse (.tooManyArguments function))

/-- **The column of a call.** -/
def columnOfCall (now : Int) (c : Call) : Except Failure Column := do
  let function := Text.upperCase (renderPath c.function)
  match Operator.ofFunctionName? (renderPath c.function) with
  | none => throw (.unsupported (.function function))
  | some op =>
    if c.distinct then throw (.unsupported (.distinctInside function))
    let field ← fieldOfCall function op c.arguments
    let extra ← (c.arguments.drop 1).mapM placedExpr
    return .function op field (← callArguments now function op extra)

/-- **The column of an expression.** -/
def columnOf (now : Int) : Expr → Except Failure Column
  | .name n => .ok (.plain n.text)
  | .path parts => do return .plain (← fieldName (.path parts))
  | .nested inner => columnOf now inner
  | .call c => columnOfCall now c
  | e => .error (.unsupported (.expression e.render))

/-- The column of a select item.  The fields have to be listed; a star is refused. -/
def columnOfItem (now : Int) : SelectItem → Except Failure Column
  | .expr e => columnOf now e
  | .aliased e asName => do return (← columnOf now e).withAlias asName.text
  | item => .error (.unsupported (.selectItem item.render))

/-- **The heading of a select list.**  Each item is bound and added before the next is looked at. -/
def headingOf (now : Int) (items : List SelectItem) : Except Failure Heading :=
  items.foldlM (fun h item => do h.add (← columnOfItem now item)) .empty

end FacetSql.Query
