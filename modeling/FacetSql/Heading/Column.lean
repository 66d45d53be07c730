import FacetSql.Heading.Operator
/-!
# Column — one projected column

Other clauses refer to a column by its label, the engine by its aggregation name.  Both come from the alias, or from
the function and field where there is none.
-/
namespace FacetSql

/-- **A projected column.**  `field` is missing for `COUNT(*)` alone among statements' columns; `index` is the position
in the row. -/
structure Column where
  index : Nat
  field : Option String
  operator : Operator
  arguments : List Argument
  asName : Option String
  label : String
  aggName : String

/-- Characters that may stand in the name of an aggregation. -/
def isAggNameChar (c : Char) : Bool :=
  c.isAlphanum || c == '_' || c == '-' || c == '.' || c == '@'

/-- **The aggregation name of a label**: every other character becomes an underscore. -/
def aggNameOf (label : String) : String :=
  label.map (fun c => if isAggNameChar c then c else '_')

namespace Column

/-- The label of a column without an alias. -/
def defaultLabel : Operator → Option String → String
  | .plain, some field => field
  | op, some field => op.name ++ "(" ++ field ++ ")"
  | op, none => op.name ++ "(*)"

/-- A function over a field, not yet placed in a heading. -/
def function (op : Operator) (field : Option String) (arguments : List Argument) : Column where
  index := 0
  field := field
  operator := op
  arguments := arguments
  asName := none
  label := defaultLabel op field
  aggName := aggNameOf (defaultLabel op field)

/-- A field as it is. -/
def plain (field : String) : Column := function .plain (some field) []

/-- The column under another label. -/
def withAlias (c : Column) (asName : String) : Column :=
  { c with asName := some asName, label := asName, aggName := aggNameOf asName }

/-- `COUNT(*)`, answered by the document count of a bucket. -/
def isDocCount (c : Column) : Bool :=
  c.operator == .count && c.field.isNone

/-- Computed by a metric of the engine. -/
def isMetric (c : Column) : Bool :=
  c.operator.isMetric && !c.isDocCount

end Column
end FacetSql
