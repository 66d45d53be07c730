import FacetSql.Request.Node
import FacetSql.Failure
import FacetSql.Session
/-!
# Tree — aggregations that answer a level

Each key of GROUP BY is a level of buckets inside the buckets of the key before it, and the metrics stand in the last
level only.  Without keys all documents fall into one bucket that a filter makes.  `COUNT(*)` needs no metric, since
every bucket comes with the number of its documents.
-/
namespace FacetSql.Request

/-- The name of the bucket that holds everything. -/
def filterName : String := "filter"

/-- The metric of a column. -/
def metricNode (c : Column) : Except Failure Node :=
  match c.field with
  | some field => .ok (.metric c.aggName (.ofOperator c.operator) field)
  | none => .error (.compile (.metricWithoutField c.label))

/-- **The metrics of a heading** in its order. -/
def metrics (h : Heading) : Except Failure (List Node) := h.metricColumns.mapM metricNode

/-- **A level of buckets** for a key, around the aggregations inside. -/
def bucketNode (session : Session) (key : Column) (children : List Node) : Except Failure Node :=
  match key.field with
  | none => .error (.compile (.groupByWithoutField key.label))
  | some field =>
    match key.operator with
    | .plain => .ok (.terms key.aggName field session.fetchSize children)
    | .dateHistogram =>
      .ok (.histogram key.aggName field (Span.ofArgument session.defaultInterval key.arguments.head?) children)
    | _ => .error (.compile (.groupByFunction key.label))

/-- **Buckets in buckets**, one level for each key; the metrics of the heading are in the innermost. -/
def nest (session : Session) (h : Heading) : Column → List Column → Except Failure Node
  | key, [] => do bucketNode session key (← metrics h)
  | key, next :: rest => do bucketNode session key [← nest session h next rest]

/-- **The aggregation of a grouped level**, or of all documents that `query` lets through. -/
def grouped (session : Session) (groupBy : List Column) (h : Heading) (query : Json) : Except Failure Node :=
  match groupBy with
  | [] => do return .filter filterName query (← metrics h)
  | key :: rest => nest session h key rest

/-- **The aggregation of DISTINCT**: one level of buckets for each plain column, and no metrics. -/
def distinct (session : Session) (h : Heading) : Except Failure Node :=
  match h.columns.filter (fun c => c.operator == .plain) with
  | [] => .error (.compile .distinctWithoutColumns)
  | key :: rest => nest session .empty key rest

end FacetSql.Request
