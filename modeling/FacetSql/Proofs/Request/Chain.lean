import FacetSql.Proofs.Request.Sources
/-!
# Chain — compiled trees, level by level

A compiled tree is a chain: buckets in buckets, one level for each key in order, and the measures of the heading in the
innermost (`exists_isChainOf`).  The names of a heading differ, and so do the names of any siblings in the tree
(`nodup_children`).
-/
namespace FacetSql.Request

/-- **A level of buckets.** -/
inductive Bucket where
  | terms (name field : String) (size : Nat)
  | histogram (name field : String) (interval : Int)
  | filter (name : String) (query : Json)

/-- **A metric in the innermost buckets.** -/
structure Measure where
  name : String
  kind : Metric
  field : String

/-- The name under which the level comes back. -/
def Bucket.name : Bucket → String
  | terms name .. | histogram name .. | filter name _ => name

/-- The level with aggregations inside its buckets. -/
def Bucket.node (inside : List Node) : Bucket → Node
  | terms name field size => .terms name field size inside
  | histogram name field interval => .histogram name field interval inside
  | filter name query => .filter name query inside

/-- The measure as an aggregation. -/
def Measure.node (m : Measure) : Node := .metric m.name m.kind m.field

/-- **Buckets in buckets**, the first outermost, with the measures in the last. -/
def chain : List Bucket → List Measure → List Node
  | [], ms => ms.map Measure.node
  | b :: bs, ms => [b.node (chain bs ms)]

/-- **The buckets of a key**: the values of its field, or its intervals. -/
inductive IsBucketOf (session : Session) (key : Column) : Bucket → Prop where
  | terms {field : String} (operator : key.operator = .plain) (shows : key.field = some field) :
    IsBucketOf session key (.terms key.aggName field session.fetchSize)
  | histogram {field : String} (operator : key.operator = .dateHistogram) (shows : key.field = some field) :
    IsBucketOf session key (.histogram key.aggName field
      (Span.ofArgument session.defaultInterval key.arguments.head?))

/-- **The measure of a column.** -/
inductive IsMeasureOf (c : Column) : Measure → Prop where
  | intro {field : String} (shows : c.field = some field) : IsMeasureOf c ⟨c.aggName, .ofOperator c.operator, field⟩

/-- **What a tree is compiled for**: groups of the documents that a query lets through, or DISTINCT. -/
inductive Task where
  | groups (keys : List Column) (query : Json)
  | distinct

/-- The tree of a task. -/
def Task.compile (session : Session) (h : Heading) : Task → Except Failure Node
  | groups keys query => grouped session keys h query
  | distinct => Request.distinct session h

/-- **The chain of a task**: without keys a filter with the measures of the heading; for keys their buckets in order,
with the measures inside; for DISTINCT the buckets of the plain columns, and no measures. -/
inductive IsChainOf (session : Session) (h : Heading) : Task → List Bucket → List Measure → Prop where
  | all {query : Json} {ms : List Measure} (measures : List.Forall₂ IsMeasureOf h.metricColumns ms) :
    IsChainOf session h (.groups [] query) [.filter filterName query] ms
  | groups {key : Column} {rest : List Column} {query : Json} {bs : List Bucket} {ms : List Measure}
    (buckets : List.Forall₂ (IsBucketOf session) (key :: rest) bs)
    (measures : List.Forall₂ IsMeasureOf h.metricColumns ms) : IsChainOf session h (.groups (key :: rest) query) bs ms
  | distinct {bs : List Bucket}
    (buckets : List.Forall₂ (IsBucketOf session) (h.columns.filter (fun c => c.operator == .plain)) bs) :
    IsChainOf session h .distinct bs []

section

variable {session : Session} {h : Heading} {key : Column} {rest : List Column} {nodes : List Node} {node root : Node}
  {bs : List Bucket} {ms : List Measure}

/-! ## Compilation -/

theorem exists_isBucketOf (hb : bucketNode session key nodes = .ok node) :
    ∃ b, IsBucketOf session key b ∧ node = b.node nodes := by
  obtain ⟨field, hfield, ⟨hop, rfl⟩ | ⟨hop, rfl⟩⟩ := bucketNode_eq_ok_iff.1 hb
  · exact ⟨_, .terms hop hfield, rfl⟩
  · exact ⟨_, .histogram hop hfield, rfl⟩

theorem exists_areMeasuresOf {cs : List Column} (hm : cs.mapM metricNode = .ok nodes) :
    ∃ ms, List.Forall₂ IsMeasureOf cs ms ∧ nodes = ms.map Measure.node := by
  have hall := mapM_eq_ok_iff.1 hm
  clear hm
  induction hall with
  | nil => exact ⟨[], .nil, rfl⟩
  | cons hnode _ ih =>
    obtain ⟨ms, hms, rfl⟩ := ih
    obtain ⟨field, hfield, rfl⟩ := metricNode_eq_ok_iff.1 hnode
    exact ⟨⟨_, _, field⟩ :: ms, .cons (.intro hfield) hms, rfl⟩

/-- **Keys nest to a chain**, with the measures in the last buckets. -/
theorem nest_eq_chain (hn : nest session h key rest = .ok node) :
    ∃ bs ms, List.Forall₂ (IsBucketOf session) (key :: rest) bs ∧ List.Forall₂ IsMeasureOf h.metricColumns ms ∧
      [node] = chain bs ms := by
  induction rest generalizing key node with
  | nil =>
    obtain ⟨nodes, hm, hb⟩ := bind_eq_ok_iff.1 hn
    obtain ⟨ms, hms, rfl⟩ := exists_areMeasuresOf hm
    obtain ⟨b, hkey, rfl⟩ := exists_isBucketOf hb
    exact ⟨[b], ms, .cons hkey .nil, hms, rfl⟩
  | cons next rest ih =>
    obtain ⟨inner, hi, hb⟩ := bind_eq_ok_iff.1 hn
    obtain ⟨bs, ms, hbs, hms, hinner⟩ := ih hi
    obtain ⟨b, hkey, rfl⟩ := exists_isBucketOf hb
    exact ⟨b :: bs, ms, .cons hkey hbs, hms, by rw [chain, ← hinner]⟩

/-- **Every compiled tree is the chain of its task.** -/
theorem exists_isChainOf {task : Task} (hr : task.compile session h = .ok root) :
    ∃ bs ms, IsChainOf session h task bs ms ∧ [root] = chain bs ms := by
  cases task with
  | groups keys query =>
    cases keys with
    | nil =>
      obtain ⟨nodes, hm, hr⟩ := bind_eq_ok_iff.1 hr
      obtain ⟨ms, hms, rfl⟩ := exists_areMeasuresOf hm
      cases hr
      exact ⟨_, ms, .all hms, rfl⟩
    | cons key rest =>
      obtain ⟨bs, ms, hbs, hms, hroot⟩ := nest_eq_chain hr
      exact ⟨bs, ms, .groups hbs hms, hroot⟩
  | distinct =>
    change Request.distinct session h = .ok root at hr
    unfold Request.distinct at hr
    split at hr
    · cases hr
    · rename_i key rest hcols
      obtain ⟨bs, ms, hbs, hms, hroot⟩ := nest_eq_chain hr
      -- the empty heading has no metrics
      rw [List.forall₂_nil_left_iff.1 hms] at hroot
      exact ⟨bs, [], .distinct (hcols ▸ hbs), hroot⟩

/-! ## Names -/

theorem map_name_of_areMeasuresOf {cs : List Column} (hms : List.Forall₂ IsMeasureOf cs ms) :
    ms.map Measure.name = cs.map Column.aggName := by
  induction hms with
  | nil => rfl
  | cons hm _ ih =>
    cases hm
    rw [List.map_cons, List.map_cons, ih]

/-- **The measures of a compiled tree have names of their own.** -/
theorem IsChainOf.nodup_names {task : Task} (hc : IsChainOf session h task bs ms) (hnames : h.aggNames.Nodup) :
    (ms.map Measure.name).Nodup := by
  have hmetrics : (h.metricColumns.map Column.aggName).Nodup :=
    (List.filter_sublist.map Column.aggName).nodup hnames
  cases hc with
  | all measures => rwa [map_name_of_areMeasuresOf measures]
  | groups _ measures => rwa [map_name_of_areMeasuresOf measures]
  | distinct => exact List.nodup_nil

theorem children_node (b : Bucket) (nodes : List Node) : (b.node nodes).children = nodes := by
  cases b <;> rfl

/-- **No two siblings in a chain have one name.** -/
theorem nodup_children (hms : (ms.map Measure.name).Nodup) {top : Node} (htop : top ∈ chain bs ms)
    (hw : Within top node) : (node.children.map Node.name).Nodup := by
  induction bs generalizing top with
  | nil =>
    obtain ⟨m, -, rfl⟩ := List.mem_map.1 htop
    rw [within_metric_iff.1 hw]
    exact List.nodup_nil
  | cons b bs ih =>
    cases List.mem_singleton.1 htop
    cases hw with
    | self =>
      rw [children_node]
      cases bs with
      | nil => rwa [chain, List.map_map]
      | cons => exact List.nodup_singleton _
    | inside hc hw =>
      rw [children_node] at hc
      exact ih hc hw

end

end FacetSql.Request
