import FacetSql.Query.Projection
/-!
# Grouping — keys of GROUP BY as columns of the heading

A key names a column by its label, or a column by the field it shows.  The label goes first.  A key written as a call
of `DATE_HISTOGRAM` makes a histogram of the column it names, with the interval of the call.
-/
namespace FacetSql.Query

open Sql

/-- The column a key refers to: the column of its label, or else the first column that may group and shows its
field. -/
def referredColumn (h : Heading) (key : Column) : Option Column :=
  (h.byLabel? key.label) <|>
    h.columns.find? (fun c => c.operator.isGrouping && c.field.isSome && c.field == key.field)

/-- The column as a key: with the function and constants of the key if that cuts time into intervals. -/
def asKey (key c : Column) : Column :=
  if key.operator = .dateHistogram then { c with operator := .dateHistogram, arguments := key.arguments } else c

/-- **Resolves one key** behind the keys already found. -/
def resolveKey (h : Heading) (found : List Column) (key : Column) : Except Failure Column :=
  if key.operator.isGrouping then
    match referredColumn h key with
    | none => .error (.compile (.groupByUndefined key.label))
    | some c =>
      if !c.operator.isGrouping then .error (.compile (.groupByAggregate c.label))
      else if found.any (fun k => k.index == c.index) then .error (.compile (.groupByTwice c.label))
      else .ok (asKey key c)
  else .error (.compile (.groupByFunction key.label))

/-- **The keys of GROUP BY in order**, no two of them of one column. -/
def groupKeys (now : Int) (h : Heading) (keys : List Expr) : Except Failure (List Column) :=
  keys.foldlM (fun found e => do return found ++ [← resolveKey h found (← columnOf now e)]) []

end FacetSql.Query
