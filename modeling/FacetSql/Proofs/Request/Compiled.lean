import FacetSql.Request.Basic
import FacetSql.Answer.Tree
import FacetSql.Proofs.Query.Bound
/-!
# Compiled — the aggregations that a level asks for

The one aggregation of a level cuts documents along its keys, one level of buckets for each, and the metrics of the
heading stand in the innermost buckets (`rootOf_cuts`).  Each aggregation is named after the column it fills.
-/
namespace FacetSql.Request

/-- **The columns along which a level cuts documents**, outermost first. -/
def pathOf (level : Level) : List Column :=
  if level.distinct then level.heading.columns.filter (fun c => c.operator == .plain) else level.groupBy

/-- **The aggregation that a level asks for.** -/
def rootOf (session : Session) (level : Level) : Except Failure Node :=
  if level.distinct then distinct session level.heading
  else grouped session level.groupBy level.heading level.filter.toJson

/-- The query that a level sends beside its aggregation. -/
def queryOf (level : Level) : Filter :=
  if !level.distinct && level.groupBy.isEmpty then Filter.everything else level.filter

theorem bodyOf_of_isAggregation {session : Session} {level : Level} (ha : level.isAggregation = true) :
    bodyOf session level = do return aggregationBody (queryOf level).toJson (← rootOf session level) := by
  unfold bodyOf rootOf queryOf
  rw [if_neg (by simp [ha])]
  cases hd : level.distinct with
  | true =>
    rw [if_pos rfl, if_pos rfl]
    rfl
  | false =>
    rw [if_neg Bool.false_ne_true, if_neg Bool.false_ne_true]
    rfl

/-- **The request for a level of aggregations** is made of its root. -/
theorem ofPlan_eq_ok {session : Session} {plan : Plan} {request : Request} (ha : plan.engine.isAggregation = true)
    (h : ofPlan session plan = .ok request) :
    ∃ root, rootOf session plan.engine = .ok root ∧
      request = ⟨plan.index, aggregationBody (queryOf plan.engine).toJson root⟩ := by
  obtain ⟨body, hb, h⟩ := bind_eq_ok_iff.1 h
  rw [bodyOf_of_isAggregation ha] at hb
  obtain ⟨root, hr, hb⟩ := bind_eq_ok_iff.1 hb
  cases hb
  exact ⟨root, hr, (Except.ok.inj h).symm⟩

/-- What the keys of an aggregation's buckets are, if it has buckets. -/
def Node.keyKind? : Node → Option Answer.KeyKind
  | .terms .. => some .terms
  | .histogram .. => some .histogram
  | .filter .. | .metric .. => none

/-- **A metric named after the column it fills.** -/
def IsMetricOf (h : Heading) (node : Node) : Prop :=
  ∃ c ∈ h.metricColumns, ∃ field, node = .metric c.aggName (.ofOperator c.operator) field

/-- **Aggregations that cut documents along columns**: metrics behind the last column, and before it one aggregation
with buckets, named after its column. -/
inductive Cuts (h : Heading) : List Column → List Node → Prop where
  | metrics {nodes : List Node} (each : ∀ node ∈ nodes, IsMetricOf h node) : Cuts h [] nodes
  | buckets {key : Column} {path : List Column} {node : Node} {kind : Answer.KeyKind} (name : node.name = key.aggName)
      (kind : node.keyKind? = some kind) (inside : Cuts h path node.children) : Cuts h (key :: path) [node]

theorem metricNode_eq_ok_iff {c : Column} {node : Node} : metricNode c = .ok node ↔
    ∃ field, c.field = some field ∧ node = .metric c.aggName (.ofOperator c.operator) field := by
  unfold metricNode
  cases c.field <;> simp [eq_comm]

/-- **The buckets of a key**, by its operator. -/
theorem bucketNode_eq_ok_iff {session : Session} {key : Column} {nodes : List Node} {node : Node} :
    bucketNode session key nodes = .ok node ↔ ∃ field, key.field = some field ∧
      (key.operator = .plain ∧ node = .terms key.aggName field session.fetchSize nodes ∨
        key.operator = .dateHistogram ∧ node = .histogram key.aggName field
          (Span.ofArgument session.defaultInterval key.arguments.head?) nodes) := by
  unfold bucketNode
  cases key.field with
  | none => exact iff_of_false nofun nofun
  | some field =>
    dsimp only
    cases key.operator with
    | plain => simp [eq_comm]
    | dateHistogram => simp [eq_comm]
    | count | sum | avg | min | max | growth => exact iff_of_false nofun nofun

theorem metrics_cuts {h : Heading} {nodes : List Node} (hm : metrics h = .ok nodes) : Cuts h [] nodes := by
  refine .metrics (fun node hn => ?_)
  obtain ⟨c, hc, hcn⟩ := (mem_mapM_iff hm node).1 hn
  obtain ⟨field, -, hnode⟩ := metricNode_eq_ok_iff.1 hcn
  exact ⟨c, hc, field, hnode⟩

theorem bucketNode_cuts {session : Session} {h : Heading} {key : Column} {path : List Column} {nodes : List Node}
    {node : Node} (hn : Cuts h path nodes) (hb : bucketNode session key nodes = .ok node) :
    Cuts h (key :: path) [node] := by
  obtain ⟨field, -, ⟨-, rfl⟩ | ⟨-, rfl⟩⟩ := bucketNode_eq_ok_iff.1 hb
  · exact .buckets rfl rfl hn
  · exact .buckets rfl rfl hn

theorem nest_cuts {session : Session} {h : Heading} {key : Column} {rest : List Column} {node : Node}
    (hn : nest session h key rest = .ok node) : Cuts h (key :: rest) [node] := by
  induction rest generalizing key node with
  | nil =>
    obtain ⟨nodes, hm, hb⟩ := bind_eq_ok_iff.1 hn
    exact bucketNode_cuts (metrics_cuts hm) hb
  | cons next rest ih =>
    obtain ⟨inner, hi, hb⟩ := bind_eq_ok_iff.1 hn
    exact bucketNode_cuts (ih hi) hb

-- DISTINCT compiles against an empty heading, which has no metrics
theorem Cuts.of_empty {h : Heading} {path : List Column} {nodes : List Node} (hc : Cuts .empty path nodes) :
    Cuts h path nodes := by
  induction hc with
  | metrics each =>
    refine .metrics (fun node hn => ?_)
    obtain ⟨c, hc, -⟩ := each node hn
    cases hc
  | buckets name kind _ ih => exact .buckets name kind ih

/-- **The root of a level cuts documents along its keys.**  Without keys it is a filter with the metrics inside. -/
theorem rootOf_cuts {session : Session} {level : Level} {root : Node} (h : rootOf session level = .ok root) :
    (pathOf level ≠ [] ∧ Cuts level.heading (pathOf level) [root]) ∨
      (pathOf level = [] ∧ ∃ query nodes, root = .filter filterName query nodes ∧ Cuts level.heading [] nodes) := by
  unfold rootOf distinct grouped at h
  unfold pathOf
  split at h
  · rename_i hd
    rw [if_pos hd]
    split at h
    · cases h
    · rename_i key rest hk
      rw [hk]
      exact .inl ⟨List.cons_ne_nil _ _, (nest_cuts h).of_empty⟩
  · rename_i hd
    rw [if_neg hd]
    split at h
    · rename_i hk
      obtain ⟨nodes, hm, h⟩ := bind_eq_ok_iff.1 h
      exact .inr ⟨hk, _, nodes, (Except.ok.inj h).symm, metrics_cuts hm⟩
    · rename_i key rest hk
      rw [hk]
      exact .inl ⟨List.cons_ne_nil _ _, nest_cuts h⟩

theorem areKeys_pathOf {level : Level} (hb : level.Bound) : AreKeys level.heading (pathOf level) := by
  unfold pathOf
  split
  · refine ⟨fun c hc => ?_, ?_⟩
    · obtain ⟨hmem, hp⟩ := List.mem_filter.1 hc
      exact ⟨c, hmem, by rw [eq_of_beq hp]; rfl, .inl rfl⟩
    · have hsub := (List.filter_sublist (p := fun c => c.operator == .plain) (l := level.heading.columns)).map (·.index)
      exact hsub.nodup (hb.heading.map_index ▸ List.nodup_range)
  · exact hb.keys

end FacetSql.Request
