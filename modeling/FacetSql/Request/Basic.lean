import FacetSql.Request.Tree
import FacetSql.Query.Plan
/-!
# Request — what is sent to the engine

A level without aggregations asks for documents: so many, of these fields, in this order.  Any other level asks for no
documents and one aggregation.  Only the innermost level of a plan is sent.
-/
namespace FacetSql

/-- **A request**: the index it goes to and its body. -/
structure Request where
  index : String
  body : Json

namespace Request

/-- How many documents a level asks for. -/
def hitCount (session : Session) (level : Level) : Nat :=
  match level.limit with
  | none => session.fetchSize
  | some limit => min limit session.fetchSize

/-- The field that documents are sorted by, and the direction. -/
def sortField (level : Level) : Option (String × String) := do
  let order ← level.order
  let c ← level.heading.byLabel? order.label
  return (← c.field, if order.descending then "desc" else "asc")

/-- The member that sorts documents, left out if no field does. -/
def sortMember (level : Level) : List (String × Json) :=
  match sortField level with
  | none => []
  | some (field, direction) => [("sort", .array [.ofMembers [(field, .ofMembers [("order", .text direction)])]])]

/-- **The body that asks for documents.** -/
def searchBody (session : Session) (level : Level) : Json :=
  .ofMembers ([
    ("size", .int (hitCount session level)),
    ("query", level.filter.toJson),
    ("_source", .array ((level.heading.columns.filterMap (·.field)).map .text))] ++ sortMember level)

/-- The body that asks for one aggregation of the documents that `query` lets through. -/
def aggregationBody (query : Json) (root : Node) : Json :=
  .ofMembers [("size", .int 0), ("query", query), ("aggs", Node.aggregations [root])]

/-- **The body for a level of the engine.**  Without keys the filter is part of the aggregation, and all documents are
let through to it. -/
def bodyOf (session : Session) (level : Level) : Except Failure Json :=
  if !level.isAggregation then .ok (searchBody session level)
  else if level.distinct then do
    return aggregationBody level.filter.toJson (← distinct session level.heading)
  else do
    let root ← grouped session level.groupBy level.heading level.filter.toJson
    let query := if level.groupBy.isEmpty then Filter.everything else level.filter
    return aggregationBody query.toJson root

/-- **The request of a plan.** -/
def ofPlan (session : Session) (plan : Plan) : Except Failure Request := do
  return ⟨plan.index, ← bodyOf session plan.engine⟩

/-- **The body for a bound query**, which is sent only if it selects from an index. -/
def bodyFor (session : Session) (q : BoundQuery) : Except Failure Json :=
  match q.kind with
  | .search | .aggregation => bodyOf session q.level
  | .reduction => .error (.compile .notSent)

/-- **The request for a bound query**, which needs an index. -/
def ofBound (session : Session) (q : BoundQuery) : Except Failure Request :=
  match q.index with
  | none => .error (.compile .noIndex)
  | some index => do return ⟨index, ← bodyFor session q⟩

end Request
end FacetSql
