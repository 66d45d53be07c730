import FacetSql.Proofs.Answer.Cells
import FacetSql.Proofs.Request.Compiled
/-!
# Conforming — answers that fit a request, and the rows they ask for

An answer fits an aggregation if it comes back under its name and type, with any number of buckets on every level, and
any of the metrics asked for in the innermost.  Such an answer has leaves: the innermost buckets from left to right,
each with the keys on the way to it (`Conforms`).  A leaf asks for one row (`Shows`).
-/
namespace FacetSql.Answer

open Request

/-- The types under which buckets of one kind come back. -/
def KeyKind.types : KeyKind → List String
  | .terms => ["sterms", "lterms", "dterms", "terms"]
  | .histogram => ["date_histogram"]

/-- **An innermost bucket**: the keys on the way to it, the number of its documents, and the values of metrics by
name. -/
structure Leaf where
  keys : List Cell
  count : Nat
  values : List (String × Json)

/-- The leaf within a bucket. -/
def Leaf.under (key : Cell) (leaf : Leaf) : Leaf := { leaf with keys := key :: leaf.keys }

/-- The members that are aggregations. -/
def aggregationsAmong (own : List String) (ms : List (String × Json)) : List (String × Json) :=
  ms.filter (fun m => !own.contains m.1)

/-- The number of documents that members say, which is one of 63 bits. -/
def Counts (ms : List (String × Json)) (count : Nat) : Prop :=
  Json.lookUp "doc_count" ms = some (.int count) ∧ count < 9223372036854775808

/-- **Metrics that come back**: some of those asked for, each once, with a value. -/
structure Carries (nodes : List Node) (ms : List (String × Json)) (values : List (String × Json)) : Prop where
  each : List.Forall₂ (fun m v => ∃ metric field, Node.metric v.1 metric field ∈ nodes ∧
    m.1 = metric.code ++ "#" ++ v.1 ∧ m.2.member? "value" = some v.2) ms values
  once : (values.map (·.1)).Nodup

/-- **Buckets that come back**: the member under the name of their aggregation and one of its types. -/
def ComesBack (node : Node) (kind : KeyKind) (m : String × Json) (items : List Json) : Prop :=
  node.keyKind? = some kind ∧ ∃ type ∈ kind.types, ∃ body,
    m = (type ++ "#" ++ node.name, .object body) ∧ Json.lookUp "buckets" body = some (.array items)

/-- **The leaves of buckets**, from left to right.  `nodes` are the aggregations asked for inside each bucket: metrics,
or one aggregation with buckets in turn. -/
inductive LeavesOf : KeyKind → List Node → List Json → List Leaf → Prop where
  | nil (kind : KeyKind) (nodes : List Node) : LeavesOf kind nodes [] []
  | metrics {kind : KeyKind} {nodes : List Node} {ms : List (String × Json)} {key : Json} {count : Nat}
      {cell : Cell} {values : List (String × Json)} {items : List Json} {leaves : List Leaf}
      (innermost : ∀ node ∈ nodes, node.keyKind? = none)
      (hkey : Json.lookUp "key" ms = some key) (hcell : IsKeyCell kind key cell) (hcount : Counts ms count)
      (carries : Carries nodes (aggregationsAmong bucketMembers ms) values) (rest : LeavesOf kind nodes items leaves) :
      LeavesOf kind nodes (.object ms :: items) (⟨[cell], count, values⟩ :: leaves)
  | buckets {kind inner : KeyKind} {node : Node} {ms : List (String × Json)} {m : String × Json} {key : Json}
      {cell : Cell} {count : Nat} {items below : List Json} {leaves leavesBelow : List Leaf}
      (hkey : Json.lookUp "key" ms = some key) (hcell : IsKeyCell kind key cell) (hcount : Counts ms count)
      (one : aggregationsAmong bucketMembers ms = [m]) (comes : ComesBack node inner m below)
      (inside : LeavesOf inner node.children below leavesBelow) (rest : LeavesOf kind [node] items leaves) :
      LeavesOf kind [node] (.object ms :: items) (leavesBelow.map (Leaf.under cell) ++ leaves)

/-- **An answer to a request for one aggregation**, and its leaves. -/
inductive Conforms : Node → Json → List Leaf → Prop where
  | buckets {node : Node} {kind : KeyKind} {response : Json} {m : String × Json} {items : List Json}
      {leaves : List Leaf} (ok : response.present? "error" = none)
      (root : response.member? "aggregations" = some (.object [m])) (comes : ComesBack node kind m items)
      (inside : LeavesOf kind node.children items leaves) : Conforms node response leaves
  | filter {name : String} {query : Json} {nodes : List Node} {response : Json} {ms : List (String × Json)}
      {count : Nat} {values : List (String × Json)} (ok : response.present? "error" = none)
      (root : response.member? "aggregations" = some (.object [("filter#" ++ name, .object ms)]))
      (hcount : Counts ms count) (carries : Carries nodes (aggregationsAmong filterMembers ms) values) :
      Conforms (.filter name query nodes) response [⟨[], count, values⟩]

/-- **A row shows a leaf** over another row: the keys of the path, the count, and each metric that came back, and
everything else as it is in the other row. -/
structure Shows (h : Heading) (path : List Column) (before : Row) (leaf : Leaf) (row : Row) : Prop where
  length : row.length = before.length
  keys : List.Forall₂ (fun key cell => row.cell key.index = cell) path leaf.keys
  counts : ∀ c ∈ h.columns, c.isDocCount = true → row.cell c.index = .int leaf.count
  metrics : ∀ c ∈ h.columns, c.isMetric = true → ∀ value, (c.aggName, value) ∈ leaf.values →
    IsMetricCell c.operator value (row.cell c.index)
  others : ∀ c ∈ h.columns, c.index ∉ path.map (·.index) → c.isDocCount = false →
    (c.isMetric = true → c.aggName ∉ leaf.values.map (·.1)) → row.cell c.index = before.cell c.index

end FacetSql.Answer
