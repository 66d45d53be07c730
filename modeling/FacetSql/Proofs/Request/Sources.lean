import FacetSql.Proofs.Request.Sendable
/-!
# Sources — what fills the columns of an aggregation

A column of an engine's level is filled from a key of the aggregation, from one of its metrics or from the document
count, if it has a source at all.  The planner does not ask for one: a field or a histogram that is no key of GROUP BY
has none, unless the level is DISTINCT, and every other column has one (`hasSource_iff`).
-/
namespace FacetSql.Request

open Query

/-- **An aggregation in the tree of another**, or that one itself. -/
inductive Within : Node → Node → Prop where
  | self (node : Node) : Within node node
  | inside {node child found : Node} (hc : child ∈ node.children) (h : Within child found) : Within node found

/-- **A column has a source** in a compiled tree: a level of buckets named after it, a metric named after it, or the
document count. -/
inductive HasSource (root : Node) (c : Column) : Prop where
  | key {node : Node} (within : Within root node) (cuts : node.keyKind?.isSome = true) (name : node.name = c.aggName)
  | metric {kind : Metric} {field : String} (within : Within root (.metric c.aggName kind field))
  | count (counts : c.isDocCount = true)

section

variable {h : Heading} {path : List Column} {nodes : List Node} {node : Node}

theorem within_metric_iff {name field : String} {kind : Metric} {found : Node} :
    Within (.metric name kind field) found ↔ found = .metric name kind field := by
  constructor
  · intro hw
    cases hw with
    | self => rfl
    | inside hc => cases hc
  · rintro rfl
    exact .self _

/-- **Buckets in the tree are cut along a column of the path.** -/
theorem Cuts.key_of_within (hn : Cuts h path nodes) (hmem : node ∈ nodes) {found : Node} (hw : Within node found)
    (hk : found.keyKind?.isSome = true) : ∃ key ∈ path, found.name = key.aggName := by
  induction hn generalizing node with
  | metrics each =>
    obtain ⟨c, -, field, rfl⟩ := each node hmem
    rw [within_metric_iff.1 hw] at hk
    cases hk
  | @buckets key path node' kind hname _ _ ih =>
    cases List.mem_singleton.1 hmem
    cases hw with
    | self => exact ⟨key, List.mem_cons_self, hname⟩
    | inside hc hw =>
      obtain ⟨k, hkmem, hkname⟩ := ih hc hw
      exact ⟨k, List.mem_cons_of_mem _ hkmem, hkname⟩

theorem Cuts.metric_of_within (hn : Cuts h path nodes) (hmem : node ∈ nodes) {name field : String} {kind : Metric}
    (hw : Within node (.metric name kind field)) : ∃ c ∈ h.metricColumns, name = c.aggName := by
  induction hn generalizing node with
  | metrics each =>
    obtain ⟨c, hc, field', rfl⟩ := each node hmem
    cases within_metric_iff.1 hw
    exact ⟨c, hc, rfl⟩
  | @buckets key path node' kind' _ hkind _ ih =>
    cases List.mem_singleton.1 hmem
    cases hw with
    | self => cases hkind
    | inside hc hw => exact ih hc hw

/-- **Every column of the path has its buckets in the tree.** -/
theorem Cuts.exists_within (hn : Cuts h path nodes) {key : Column} (hk : key ∈ path) :
    ∃ node ∈ nodes, ∃ found, Within node found ∧ found.keyKind?.isSome = true ∧ found.name = key.aggName := by
  induction hn with
  | metrics => cases hk
  | @buckets key' path node' kind hname hkind _ ih =>
    refine ⟨node', List.mem_cons_self, ?_⟩
    rcases List.mem_cons.1 hk with rfl | hk
    · exact ⟨node', .self node', by rw [hkind]; rfl, hname⟩
    · obtain ⟨child, hc, found, hw, hfound⟩ := ih hk
      exact ⟨found, .inside hc hw, hfound⟩

end

theorem exists_metric_of_metrics {h : Heading} {nodes : List Node} (hm : metrics h = .ok nodes) {c : Column}
    (hc : c ∈ h.metricColumns) : ∃ kind field, Node.metric c.aggName kind field ∈ nodes := by
  obtain ⟨node, hmem, hnode⟩ := exists_of_mem_right (mapM_eq_ok_iff.1 hm).flip hc
  obtain ⟨field, -, rfl⟩ := metricNode_eq_ok_iff.1 hnode
  exact ⟨_, field, hmem⟩

theorem children_of_bucketNode {session : Session} {key : Column} {nodes : List Node} {node : Node}
    (hb : bucketNode session key nodes = .ok node) : node.children = nodes := by
  obtain ⟨field, -, ⟨-, rfl⟩ | ⟨-, rfl⟩⟩ := bucketNode_eq_ok_iff.1 hb
  · rfl
  · rfl

/-- **Every metric of the heading is in the innermost buckets.** -/
theorem within_nest_of_metric {session : Session} {h : Heading} {key : Column} {rest : List Column} {node : Node}
    (hn : nest session h key rest = .ok node) {c : Column} (hc : c ∈ h.metricColumns) :
    ∃ kind field, Within node (.metric c.aggName kind field) := by
  induction rest generalizing key node with
  | nil =>
    obtain ⟨nodes, hm, hb⟩ := bind_eq_ok_iff.1 hn
    obtain ⟨kind, field, hmem⟩ := exists_metric_of_metrics hm hc
    exact ⟨kind, field, .inside (children_of_bucketNode hb ▸ hmem) (.self _)⟩
  | cons next rest ih =>
    obtain ⟨below, hbelow, hb⟩ := bind_eq_ok_iff.1 hn
    obtain ⟨kind, field, hw⟩ := ih hbelow
    exact ⟨kind, field, .inside (children_of_bucketNode hb ▸ List.mem_singleton_self below) hw⟩

section

variable {session : Session} {level : Level} {root : Node} {c : Column}

theorem within_rootOf_of_metric (hcheck : checkEngine level = .ok ()) (hroot : rootOf session level = .ok root)
    (hc : c ∈ level.heading.columns) (hm : c.isMetric = true) :
    ∃ kind field, Within root (.metric c.aggName kind field) := by
  have hcol : c ∈ level.heading.metricColumns := List.mem_filter.2 ⟨hc, hm⟩
  unfold rootOf at hroot
  split at hroot
  · rename_i hd
    -- under DISTINCT all columns are plain
    simp [Column.isMetric, Operator.isMetric, (of_checkEngine hcheck).2 hd c hc] at hm
  · unfold grouped at hroot
    split at hroot
    · obtain ⟨nodes, hnodes, hroot⟩ := bind_eq_ok_iff.1 hroot
      cases hroot
      obtain ⟨kind, field, hmem⟩ := exists_metric_of_metrics hnodes hcol
      exact ⟨kind, field, .inside hmem (.self _)⟩
    · exact within_nest_of_metric hroot hcol

theorem eq_of_aggName_eq (hw : level.heading.WellFormed) {d : Column} (hc : c ∈ level.heading.columns)
    (hd : d ∈ level.heading.columns) (hn : c.aggName = d.aggName) : c = d := by
  have hfound := hw.byAggName?_eq_some_iff.2 ⟨hc, hn⟩
  exact Option.some.inj (hfound.symm.trans (hw.byAggName?_eq_some_iff.2 ⟨hd, rfl⟩))

theorem index_mem_iff_aggName_mem (hw : level.heading.WellFormed) (hs : AreKeys level.heading path)
    (hc : c ∈ level.heading.columns) : c.index ∈ path.map (·.index) ↔ ∃ key ∈ path, key.aggName = c.aggName := by
  rw [List.mem_map]
  constructor
  · rintro ⟨key, hk, hi⟩
    obtain ⟨d, hd, -, hindex, hname, -⟩ := (hs.mem key hk).exists_column
    exact ⟨key, hk, hname.trans (congrArg Column.aggName (hw.eq_of_index_eq hd hc (hindex.symm.trans hi)))⟩
  · rintro ⟨key, hk, hn⟩
    obtain ⟨d, hd, -, hindex, hname, -⟩ := (hs.mem key hk).exists_column
    exact ⟨key, hk, hindex.trans (congrArg Column.index (eq_of_aggName_eq hw hd hc (hname.symm.trans hn)))⟩

/-- **A column has a source if it is on the path, a metric or a count**, and only then. -/
theorem hasSource_iff_of_rootOf (hb : level.Bound) (hcheck : checkEngine level = .ok ())
    (hroot : rootOf session level = .ok root) (hc : c ∈ level.heading.columns) :
    HasSource root c ↔ c.index ∈ (pathOf level).map (·.index) ∨ c.isMetric = true ∨ c.isDocCount = true := by
  have hkeys := areKeys_pathOf hb
  constructor
  · intro hsource
    cases hsource with
    | count counts => exact .inr (.inr counts)
    | metric within =>
      refine .inr (.inl ?_)
      have hcol : ∃ d ∈ level.heading.metricColumns, c.aggName = d.aggName := by
        rcases rootOf_cuts hroot with ⟨-, hn⟩ | ⟨-, query, nodes, rfl, hn⟩
        · exact hn.metric_of_within List.mem_cons_self within
        · cases within with
          | inside hmem within => exact hn.metric_of_within hmem within
      obtain ⟨d, hd, hname⟩ := hcol
      obtain ⟨hmem, hmetric⟩ := List.mem_filter.1 hd
      rwa [eq_of_aggName_eq hb.heading hc hmem hname]
    | @key node within cuts name =>
      refine .inl ?_
      rcases rootOf_cuts hroot with ⟨-, hn⟩ | ⟨-, query, nodes, rfl, hn⟩
      · obtain ⟨key, hk, hname⟩ := hn.key_of_within List.mem_cons_self within cuts
        exact (index_mem_iff_aggName_mem hb.heading hkeys hc).2 ⟨key, hk, hname.symm.trans name⟩
      · -- a filter has metrics inside and no buckets
        cases within with
        | self => cases cuts
        | inside hmem within =>
          obtain ⟨key, hk, -⟩ := hn.key_of_within hmem within cuts
          cases hk
  · rintro (hi | hm | hcount)
    · obtain ⟨key, hk, hname⟩ := (index_mem_iff_aggName_mem hb.heading hkeys hc).1 hi
      rcases rootOf_cuts hroot with ⟨-, hn⟩ | ⟨hnil, -⟩
      · obtain ⟨node, hmem, found, hw, hcuts, hfound⟩ := hn.exists_within hk
        cases List.mem_singleton.1 hmem
        exact .key hw hcuts (hfound.trans hname)
      · rw [hnil] at hk
        cases hk
    · obtain ⟨kind, field, hw⟩ := within_rootOf_of_metric hcheck hroot hc hm
      exact .metric hw
    · exact .count hcount

theorem isMetric_or_isDocCount (hcheck : checkEngine level = .ok ()) (hc : c ∈ level.heading.columns) :
    c.operator.isGrouping = false ↔ c.isMetric = true ∨ c.isDocCount = true := by
  have hgrowth := (of_checkEngine hcheck).1 c hc
  cases ho : c.operator <;> cases hf : c.field <;>
    simp_all [Operator.isGrouping, Column.isMetric, Column.isDocCount, Operator.isMetric]

theorem index_mem_pathOf (hcheck : checkEngine level = .ok ()) (hc : c ∈ level.heading.columns) :
    c.index ∈ (pathOf level).map (·.index) ↔ level.distinct = true ∨ c.index ∈ level.groupBy.map (·.index) := by
  unfold pathOf
  cases hd : level.distinct with
  | true =>
    have hmem : c ∈ level.heading.columns.filter (fun c => c.operator == .plain) :=
      List.mem_filter.2 ⟨hc, by rw [(of_checkEngine hcheck).2 hd c hc]; rfl⟩
    rw [if_pos rfl]
    exact iff_of_true (List.mem_map_of_mem hmem) (.inl rfl)
  | false =>
    rw [if_neg Bool.false_ne_true]
    exact ⟨.inr, fun h => h.resolve_left Bool.false_ne_true⟩

/-- **A column has a source unless it is a field or a histogram without a key**: a level that is not DISTINCT fills it
only from GROUP BY. -/
theorem hasSource_iff (hb : level.Bound) (hcheck : checkEngine level = .ok ())
    (hroot : rootOf session level = .ok root) (hc : c ∈ level.heading.columns) :
    HasSource root c ↔ c.operator.isGrouping = false ∨ level.distinct = true ∨
      c.index ∈ level.groupBy.map (·.index) := by
  rw [hasSource_iff_of_rootOf hb hcheck hroot hc, ← isMetric_or_isDocCount hcheck hc, index_mem_pathOf hcheck hc,
    or_comm]

end

end FacetSql.Request
