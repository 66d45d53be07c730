import FacetSql.Answer.Tree
import FacetSql.Heading.Basic
import FacetSql.Table.Basic
/-!
# Rows — the rows of a tree of buckets

The tree is walked from left to right with one row in hand.  Entering a bucket writes its key; a bucket without buckets
inside writes its counts and metrics and gives a row.  Leaving a bucket clears every cell that was written in it.  So
the keys of the buckets around stay in the row, and nothing of a bucket is left for its neighbour.
-/
namespace FacetSql.Answer

/-- **The column of an aggregation.** -/
def columnOf (h : Heading) (name : String) : Except Failure Column :=
  match h.byAggName? name with
  | some c => .ok c
  | none => .error (.unresolvedName name)

/-- A cell and the place it is written to. -/
abbrev Write := Nat × Cell

/-- The row with the cells written, one after the other. -/
def written (row : Row) (writes : List Write) : Row :=
  writes.foldl (fun row w => row.set w.1 w.2) row

/-- The row with the cells at these places missing. -/
def cleared (row : Row) (places : List Nat) : Row :=
  places.foldl (fun row place => row.set place .null) row

/-- A number of documents as a signed number of 64 bits; the greater half of the unsigned numbers turns negative. -/
def signedCount (count : Nat) : Int := Int.bmod count 18446744073709551616

/-- The counts of a bucket. -/
def countWrites (h : Heading) (count : Nat) : List Write :=
  h.countColumns.map (fun c => (c.index, .int (signedCount count)))

/-- **The cell of a metric.**  Counts are whole numbers. -/
def metricCell (op : Operator) : Option Float → Cell
  | none => .null
  | some x => if op = .count ∧ x.isFinite then .int (Decimal.truncate x) else .ofFloat x

/-- The write of a metric. -/
def metricWrite (h : Heading) (name : String) (value : Option Float) : Except Failure Write := do
  let c ← columnOf h name
  return (c.index, metricCell c.operator value)

/-- **What is inside a bucket**: buckets, by the name of the first, and metrics. -/
structure Inside where
  buckets : Option String
  metrics : List (String × Option Float)

/-- One more aggregation inside. -/
def Inside.add (inside : Inside) : Tree → Except Failure Inside
  | .metric name value => .ok { inside with metrics := inside.metrics ++ [(name, value)] }
  | .filter name _ _ => .error (.shape (.rootOnly name))
  | .buckets _ name _ =>
    match inside.buckets with
    | some _ => .error (.shape (.severalNested name))
    | none => .ok { inside with buckets := some name }

/-- Sorts out what is inside a bucket. -/
def Inside.ofTrees (ts : List Tree) : Except Failure Inside :=
  ts.foldlM Inside.add ⟨none, []⟩

/-- **A row given by a bucket**: the row in hand with the cells written, and the row in hand behind it. -/
def emit (row : Row) (writes : List Write) : List Row × Row :=
  ([written row writes], cleared (written row writes) (writes.map (·.1)))

/-- The row of a bucket without buckets inside. -/
def leafRow (h : Heading) (row : Row) (count : Nat) (metrics : List (String × Option Float)) :
    Except Failure (List Row × Row) := do
  let values ← metrics.mapM (fun m => metricWrite h m.1 m.2)
  return emit row (countWrites h count ++ values)

mutual

/-- **The rows of buckets** whose key is at a place, and the row in hand behind them. -/
def bucketRows (h : Heading) (place : Nat) (row : Row) : List Bucket → Except Failure (List Row × Row)
  | [] => .ok ([], row)
  | b :: bs => do
    let (rows, row) ← bucketRow h place row b
    let (more, row) ← bucketRows h place row bs
    return (rows ++ more, row)

/-- The rows of one bucket. -/
def bucketRow (h : Heading) (place : Nat) (row : Row) : Bucket → Except Failure (List Row × Row)
  | ⟨key, count, children⟩ => do
    let inside ← Inside.ofTrees children
    let (rows, row) ← (match inside.buckets, inside.metrics with
      | none, metrics => leafRow h (row.set place key) count metrics
      | some _, [] => nestedRows h (row.set place key) children
      | some name, _ => .error (.shape (.metricsAbove name)))
    return (rows, row.set place .null)

/-- The rows of the buckets among aggregations. -/
def nestedRows (h : Heading) (row : Row) : List Tree → Except Failure (List Row × Row)
  | [] => .ok ([], row)
  | .buckets _ name bs :: _ => do
    let c ← columnOf h name
    bucketRows h c.index row bs
  | _ :: ts => nestedRows h row ts

end

/-- A metric of the bucket that holds everything. -/
def filterWrite (h : Heading) : Tree → Except Failure Write
  | .metric name value => metricWrite h name value
  | t => .error (.shape (.rootOnly t.name))

/-- The rows of the one aggregation of an answer. -/
def rootRows (h : Heading) : Tree → Except Failure (List Row)
  | .buckets _ name bs => do
    let c ← columnOf h name
    return (← bucketRows h c.index (Row.blank h.width) bs).1
  | .filter _ count children => do
    let values ← children.mapM (filterWrite h)
    return (emit (Row.blank h.width) (countWrites h count ++ values)).1
  | .metric name _ => .error (.shape (.metricOutsideBucket name))

/-- **The rows of an answer.**  It has one aggregation, or none and no rows. -/
def treeRows (h : Heading) : List Tree → Except Failure (List Row)
  | [] => .ok []
  | [t] => rootRows h t
  | ts => .error (.shape (.severalRoots ts.length))

end FacetSql.Answer
