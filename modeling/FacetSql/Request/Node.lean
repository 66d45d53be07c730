import FacetSql.Heading.Basic
import FacetSql.Json.Basic
/-!
# Node — the aggregations a request asks for

An aggregation cuts documents into buckets, by the values of a field or by intervals of time, keeps those that a filter
lets through, or computes one metric.  All but metrics have further aggregations inside them.  The engine is given a
map from names to aggregations.
-/
namespace FacetSql.Request

/-- **What the engine computes from the values of a field.** -/
inductive Metric where
  | avg | sum | min | max | valueCount
  deriving DecidableEq

/-- The engine's word for a metric. -/
def Metric.code : Metric → String
  | avg => "avg"
  | sum => "sum"
  | min => "min"
  | max => "max"
  | valueCount => "value_count"

/-- The metric of an operator.  An operator that is no other metric counts values. -/
def Metric.ofOperator : Operator → Metric
  | .avg => .avg
  | .sum => .sum
  | .min => .min
  | .max => .max
  | _ => .valueCount

/-- **A named aggregation.** -/
inductive Node where
  | terms (name field : String) (size : Nat) (children : List Node)
  | histogram (name field : String) (interval : Int) (children : List Node)
  | filter (name : String) (query : Json) (children : List Node)
  | metric (name : String) (kind : Metric) (field : String)

namespace Node

/-- The name under which the answer comes back. -/
def name : Node → String
  | terms name .. | histogram name .. | filter name .. | metric name .. => name

/-- The aggregations inside. -/
def children : Node → List Node
  | terms _ _ _ children | histogram _ _ _ children | filter _ _ children => children
  | metric .. => []

/-- The member for the aggregations inside, left out if there are none. -/
def inside (members : List (String × Json)) : List (String × Json) :=
  match members with
  | [] => []
  | members => [("aggs", .ofMembers members)]

mutual

/-- **The aggregation as the engine reads it**, without its name. -/
def body : Node → Json
  | terms _ field size children =>
    .ofMembers (("terms", .ofMembers [("field", .text field), ("size", .int size)]) :: inside (members children))
  | histogram _ field interval children =>
    .ofMembers (("date_histogram", .ofMembers [
      ("field", .text field),
      ("fixed_interval", .text (toString interval ++ "ms"))]) :: inside (members children))
  | filter _ query children => .ofMembers (("filter", query) :: inside (members children))
  | metric _ kind field => .ofMembers [(kind.code, .ofMembers [("field", .text field)])]

/-- The aggregations by name. -/
def members : List Node → List (String × Json)
  | [] => []
  | n :: ns => (n.name, n.body) :: members ns

end

/-- **The map of aggregations.** -/
def aggregations (nodes : List Node) : Json := .ofMembers (members nodes)

end Node
end FacetSql.Request
