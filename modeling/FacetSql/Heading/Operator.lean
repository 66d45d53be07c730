import FacetSql.Text.UpperCase
import FacetSql.Numeral.Real
/-!
# Operator — what a projected column computes

A column shows a field as it is, or the value of one function over a field.  Five functions are metrics the engine
computes; `DATE_HISTOGRAM` cuts time into intervals; `GROWTH` extrapolates and is computed here.
-/
namespace FacetSql

/-- **The function of a column.** -/
inductive Operator where
  | plain
  | count
  | sum
  | avg
  | min
  | max
  | growth
  | dateHistogram
  deriving DecidableEq, Repr

namespace Operator

/-- The name in results. -/
def code : Operator → String
  | plain => "NONE"
  | count => "COUNT"
  | sum => "SUM"
  | avg => "AVG"
  | min => "MIN"
  | max => "MAX"
  | growth => "GROWTH"
  | dateHistogram => "DATE_HISTOGRAM"

/-- The name in labels and messages. -/
def name : Operator → String
  | plain => "none"
  | count => "count"
  | sum => "sum"
  | avg => "avg"
  | min => "min"
  | max => "max"
  | growth => "growth"
  | dateHistogram => "date_histogram"

/-- The functions a statement can call. -/
def functions : List Operator := [count, sum, avg, min, max, growth, dateHistogram]

/-- **The operator of a function name**, in any case. -/
def ofFunctionName? (name : String) : Option Operator :=
  functions.find? (fun op => op.code == Text.upperCase name)

/-- Computed by the engine within a bucket. -/
def isMetric : Operator → Bool
  | count | sum | avg | min | max => true
  | _ => false

/-- May be a key of GROUP BY. -/
def isGrouping : Operator → Bool
  | plain | dateHistogram => true
  | _ => false

end Operator

/-- **A constant argument of a function** after its field. -/
inductive Argument where
  | int (n : Int)
  | float (x : Float)
  | text (s : String)

namespace Argument

/-- The number of an argument; a text is read as a numeral, blanks and all. -/
def float? : Argument → Option Float
  | int n => some (Float.ofInt n)
  | float x => some x
  | text s => Numeral.readReal s

/-- The characters of a text argument. -/
def text? : Argument → Option String
  | text s => some s
  | _ => none

end Argument
end FacetSql
