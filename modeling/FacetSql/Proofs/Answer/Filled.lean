import FacetSql.Proofs.Answer.RoundTrip
import FacetSql.Proofs.Request.Sources
/-!
# Filled — columns that some answer fills

A column with a source is filled by some answer: by one bucket on every level, with the column's metric inside
(`exists_conforms`).  A column without a source is missing in every row of every answer that conforms to the request
(`cell_eq_null_of_not_hasSource`), and the planner accepts such columns (`hasSource_iff_exists_filled`).
-/
namespace FacetSql.Answer

open Request Query

theorem aggregationsAmong_insertMember {own : List String} {key : String} (hkey : own.contains key = true) (v : Json)
    (ms : List (String × Json)) : aggregationsAmong own (Json.insertMember key v ms) = aggregationsAmong own ms := by
  have hdrop : ∀ (v : Json) (ms : List (String × Json)),
      aggregationsAmong own ((key, v) :: ms) = aggregationsAmong own ms := by
    intro v ms
    rw [aggregationsAmong, List.filter_cons, if_neg (by simpa using hkey)]
    rfl
  induction ms with
  | nil => exact hdrop v []
  | cons m ms ih =>
    obtain ⟨key', v'⟩ := m
    rw [Json.insertMember]
    split
    · exact hdrop v _
    · split
      · rename_i heq
        cases heq
        rw [hdrop, hdrop]
      · unfold aggregationsAmong at ih ⊢
        rw [List.filter_cons, List.filter_cons, ih]

/-- **Members with one document counted.** -/
def counted (ms : List (String × Json)) : List (String × Json) := Json.insertMember "doc_count" (.int 1) ms

/-- **A bucket of one document** under the key zero, around aggregations. -/
def bucketAround (ms : List (String × Json)) : List (String × Json) := counted (Json.insertMember "key" (.int 0) ms)

theorem counts_counted (ms : List (String × Json)) : Counts (counted ms) 1 :=
  ⟨by rw [counted, Json.lookUp_insertMember, if_pos rfl]; rfl, by decide⟩

theorem lookUp_key_bucketAround (ms : List (String × Json)) : Json.lookUp "key" (bucketAround ms) = some (.int 0) := by
  rw [bucketAround, counted, Json.lookUp_insertMember, if_neg (by decide), Json.lookUp_insertMember, if_pos rfl]

theorem aggregationsAmong_bucketAround {ms : List (String × Json)} (hms : ∀ m ∈ ms, '#' ∈ m.1.toList) :
    aggregationsAmong bucketMembers (bucketAround ms) = ms := by
  rw [bucketAround, counted, aggregationsAmong_insertMember (by decide), aggregationsAmong_insertMember (by decide)]
  exact aggregationsAmong_of_sign (by decide) hms

theorem aggregationsAmong_counted {ms : List (String × Json)} (hms : ∀ m ∈ ms, '#' ∈ m.1.toList) :
    aggregationsAmong filterMembers (counted ms) = ms := by
  rw [counted, aggregationsAmong_insertMember (by decide)]
  exact aggregationsAmong_of_sign (by decide) hms

theorem exists_isKeyCell_zero (kind : KeyKind) : ∃ cell, IsKeyCell kind (.int 0) cell ∧ cell ≠ .null := by
  cases kind with
  | terms =>
    refine ⟨_, .terms _, ?_⟩
    rw [Cell.ofJson, if_pos (by decide)]
    exact nofun
  | histogram => exact ⟨_, .instant (.whole (by decide)) (by decide) (by decide), nofun⟩

theorem ne_null_of_isMetricCell_one {op : Operator} {cell : Cell} (h : IsMetricCell op (.int 1) cell) :
    cell ≠ .null := by
  have hfinite : (Float.ofInt 1).isFinite = true := by decide +kernel
  rintro rfl
  cases h with
  | missing hnone => exact Bool.eq_false_iff.1 (hnone _ (.whole 1)) hfinite

theorem exists_carries {nodes : List Node} {values : List (String × Json)} (hn : (values.map (·.1)).Nodup)
    (hv : ∀ v ∈ values, ∃ kind field, Node.metric v.1 kind field ∈ nodes) :
    ∃ ms, (∀ m ∈ ms, '#' ∈ m.1.toList) ∧ Carries nodes ms values := by
  suffices hex : ∃ ms : List (String × Json), (∀ m ∈ ms, '#' ∈ m.1.toList) ∧ List.Forall₂ (fun m v =>
      ∃ kind field, Node.metric v.1 kind field ∈ nodes ∧ m.1 = kind.code ++ "#" ++ v.1 ∧
        m.2.member? "value" = some v.2) ms values by
    obtain ⟨ms, hms, each⟩ := hex
    exact ⟨ms, hms, each, hn⟩
  clear hn
  induction values with
  | nil => exact ⟨[], fun _ hm => absurd hm List.not_mem_nil, .nil⟩
  | cons v values ih =>
    obtain ⟨kind, field, hnode⟩ := hv v List.mem_cons_self
    obtain ⟨ms, hms, each⟩ := ih (fun v hmem => hv v (List.mem_cons_of_mem _ hmem))
    refine ⟨(kind.code ++ "#" ++ v.1, .object [("value", v.2)]) :: ms, fun m hm => ?_, .cons ?_ each⟩
    · rcases List.mem_cons.1 hm with rfl | hm
      · exact sign_mem_typed _ _
      · exact hms m hm
    · exact ⟨kind, field, hnode, rfl, by rw [Json.member?, Json.lookUp_cons, if_pos rfl]⟩

/-- **Values of metrics in the tree**, each name once. -/
structure Wanted (nodes : List Node) (values : List (String × Json)) : Prop where
  within : ∀ v ∈ values, ∃ node ∈ nodes, ∃ kind field, Within node (.metric v.1 kind field)
  once : (values.map (·.1)).Nodup

theorem Wanted.children {node : Node} {kind : KeyKind} {values : List (String × Json)} (hw : Wanted [node] values)
    (hkind : node.keyKind? = some kind) : Wanted node.children values := by
  refine ⟨fun v hv => ?_, hw.once⟩
  obtain ⟨node', hmem, metric, field, hwithin⟩ := hw.within v hv
  cases List.mem_singleton.1 hmem
  cases hwithin with
  | self => cases hkind
  | inside hc hwithin => exact ⟨_, hc, metric, field, hwithin⟩

theorem Wanted.exists_carries {h : Heading} {nodes : List Node} {values : List (String × Json)}
    (each : ∀ node ∈ nodes, IsMetricOf h node) (hw : Wanted nodes values) :
    ∃ ms, (∀ m ∈ ms, '#' ∈ m.1.toList) ∧ Carries nodes ms values := by
  refine Answer.exists_carries hw.once (fun v hv => ?_)
  obtain ⟨node, hmem, kind, field, hwithin⟩ := hw.within v hv
  obtain ⟨c, -, field', rfl⟩ := each node hmem
  obtain ⟨hname, -, -⟩ := Node.metric.inj (within_metric_iff.1 hwithin)
  exact ⟨_, _, hname ▸ hmem⟩

theorem exists_type (kind : KeyKind) : ∃ type, type ∈ kind.types := by
  cases kind with
  | terms => exact ⟨"sterms", List.mem_cons_self⟩
  | histogram => exact ⟨"date_histogram", List.mem_cons_self⟩

/-- **Members that come back as buckets of a node**, around one bucket. -/
theorem exists_comesBack {node : Node} {kind : KeyKind} (hkind : node.keyKind? = some kind) (items : List Json) :
    ∃ m, ComesBack node kind m items ∧ '#' ∈ m.1.toList := by
  obtain ⟨type, ht⟩ := exists_type kind
  have hbuckets : Json.lookUp "buckets" [("buckets", Json.array items)] = some (.array items) := by
    rw [Json.lookUp_cons, if_pos rfl]
  exact ⟨_, ⟨hkind, type, ht, _, rfl, hbuckets⟩, sign_mem_typed _ _⟩

/-- **One bucket on every level of a path**: a leaf with a key for each column and the metrics that are wanted. -/
theorem exists_leavesOf {h : Heading} {path : List Column} {nodes : List Node} {values : List (String × Json)}
    (hn : Cuts h path nodes) (hw : Wanted nodes values) (kind : KeyKind) :
    ∃ items keys, LeavesOf kind nodes items [⟨keys, 1, values⟩] ∧ ∀ key ∈ keys, key ≠ .null := by
  induction hn generalizing kind with
  | metrics each =>
    obtain ⟨ms, hms, hc⟩ := hw.exists_carries each
    obtain ⟨cell, hcell, hne⟩ := exists_isKeyCell_zero kind
    refine ⟨[.object (bucketAround ms)], _, .metrics (fun node hmem => ?_) (lookUp_key_bucketAround ms) hcell
      (counts_counted _) (by rwa [aggregationsAmong_bucketAround hms]) (.nil _ _), fun key hkey => ?_⟩
    · obtain ⟨c, -, field, rfl⟩ := each node hmem
      rfl
    · rwa [List.mem_singleton.1 hkey]
  | @buckets key path node inner hname hkind _ ih =>
    obtain ⟨items, keys, hleaves, hkeys⟩ := ih (hw.children hkind) inner
    obtain ⟨m, hm, hsign⟩ := exists_comesBack hkind items
    have hone : aggregationsAmong bucketMembers (bucketAround [m]) = [m] :=
      aggregationsAmong_bucketAround (fun m' hm' => List.mem_singleton.1 hm' ▸ hsign)
    obtain ⟨cell, hcell, hne⟩ := exists_isKeyCell_zero kind
    refine ⟨[.object (bucketAround [m])], cell :: keys, ?_, fun k hk => ?_⟩
    · exact .buckets (lookUp_key_bucketAround [m]) hcell (counts_counted _) hone hm hleaves (.nil _ _)
    · rcases List.mem_cons.1 hk with rfl | hk
      · exact hne
      · exact hkeys k hk

theorem present?_error_answer (ms : List (String × Json)) :
    Json.present? "error" (.object [("aggregations", .object ms)]) = none := rfl

theorem member?_aggregations_answer (ms : List (String × Json)) :
    Json.member? "aggregations" (.object [("aggregations", .object ms)]) = some (.object ms) := rfl

/-- **An answer of one leaf** conforms to the aggregation of a level, with any metrics of the aggregation in it. -/
theorem exists_conforms {session : Session} {level : Level} {root : Node} {values : List (String × Json)}
    (hroot : rootOf session level = .ok root) (hw : Wanted [root] values) :
    ∃ response keys, Conforms root response [⟨keys, 1, values⟩] ∧ ∀ key ∈ keys, key ≠ .null := by
  rcases rootOf_cuts hroot with ⟨hpath, hn⟩ | ⟨-, query, nodes, rfl, hn⟩
  · generalize pathOf level = path at hpath hn
    cases hn with
    | metrics => exact absurd rfl hpath
    | @buckets key path _ kind _ hkind hinside =>
      obtain ⟨items, keys, hleaves, hkeys⟩ := exists_leavesOf hinside (hw.children hkind) kind
      obtain ⟨m, hm, -⟩ := exists_comesBack hkind items
      exact ⟨_, keys, .buckets (present?_error_answer [m]) (member?_aggregations_answer [m]) hm hleaves, hkeys⟩
  · cases hn with
    | metrics each =>
      have hinside : Wanted nodes values := by
        refine ⟨fun v hv => ?_, hw.once⟩
        obtain ⟨node, hmem, kind, field, hwithin⟩ := hw.within v hv
        cases List.mem_singleton.1 hmem
        cases hwithin with
        | inside hc hwithin => exact ⟨_, hc, kind, field, hwithin⟩
      obtain ⟨ms, hms, hc⟩ := hinside.exists_carries each
      refine ⟨_, [], .filter (present?_error_answer _) (member?_aggregations_answer _) (counts_counted ms) ?_, nofun⟩
      rwa [aggregationsAmong_counted hms]

section

variable {session : Session} {level : Level} {root : Node} {response : Json} {leaves : List Leaf} {c : Column}

/-- **A column without a source is missing in every row** of every answer that conforms. -/
theorem cell_eq_null_of_not_hasSource (hb : level.Bound) (hcheck : checkEngine level = .ok ())
    (ha : level.isAggregation = true) (hroot : rootOf session level = .ok root) (hc : c ∈ level.heading.columns)
    (hno : ¬ HasSource root c) (hconf : Conforms root response leaves) {t : Table}
    (ht : Run.tableOf level response = .ok t) : ∀ row ∈ t.rows, row.cell c.index = .null := by
  obtain ⟨rows, htable, hshow⟩ := exists_table_of_conforms hb ha hroot hconf
  cases htable.symm.trans ht
  intro row hrow
  obtain ⟨leaf, -, hs⟩ := exists_of_mem_right hshow hrow
  rw [hasSource_iff_of_rootOf hb hcheck hroot hc, not_or, not_or] at hno
  obtain ⟨hpath, hmetric, hcount⟩ := hno
  rw [hs.others c hc hpath (by simpa using hcount) (fun hm => absurd hm hmetric)]
  exact Row.cell_blank _ _

/-- **A column with a source is filled** in the row of some answer that conforms. -/
theorem exists_filled_of_hasSource (hb : level.Bound) (hcheck : checkEngine level = .ok ())
    (ha : level.isAggregation = true) (hroot : rootOf session level = .ok root) (hc : c ∈ level.heading.columns)
    (hsource : HasSource root c) : ∃ response leaves t, Conforms root response leaves ∧
      Run.tableOf level response = .ok t ∧ ∃ row ∈ t.rows, row.cell c.index ≠ .null := by
  -- the answer carries the column's metric, should it have one
  obtain ⟨values, hw, hvalue⟩ : ∃ values, Wanted [root] values ∧
      (c.isMetric = true → (c.aggName, Json.int 1) ∈ values) := by
    cases hm : c.isMetric with
    | false => exact ⟨[], ⟨fun _ hv => absurd hv List.not_mem_nil, List.nodup_nil⟩, nofun⟩
    | true =>
      obtain ⟨kind, field, hwithin⟩ := within_rootOf_of_metric hcheck hroot hc hm
      refine ⟨[(c.aggName, .int 1)], ⟨fun v hv => ?_, List.nodup_singleton _⟩, fun _ => List.mem_singleton_self _⟩
      rw [List.mem_singleton.1 hv]
      exact ⟨root, List.mem_singleton_self _, kind, field, hwithin⟩
  obtain ⟨response, keys, hconf, hkeys⟩ := exists_conforms hroot hw
  obtain ⟨rows, htable, hshow⟩ := exists_table_of_conforms hb ha hroot hconf
  obtain ⟨row, rows', hs, -, rfl⟩ := List.forall₂_cons_left_iff.1 hshow
  refine ⟨response, _, _, hconf, htable, row, List.mem_cons_self, ?_⟩
  rcases (hasSource_iff_of_rootOf hb hcheck hroot hc).1 hsource with hpath | hmetric | hcount
  · obtain ⟨key, hk, hi⟩ := List.mem_map.1 hpath
    obtain ⟨cell, hcell, hrow⟩ := exists_of_mem_right hs.keys.flip hk
    rw [← hi, hrow]
    exact hkeys cell hcell
  · exact ne_null_of_isMetricCell_one (hs.metrics c hc hmetric _ (hvalue hmetric))
  · rw [hs.counts c hc hcount]
    exact nofun

end

/-- **A column of an accepted aggregation has a source exactly if some answer fills it**: the aggregation is compiled,
and the column has a source in it unless it is a field or a histogram, the level is not DISTINCT and GROUP BY leaves
the column out.  A column without a source is missing in every row of every answer that conforms to the request. -/
theorem hasSource_iff_exists_filled {now : Int} {q : Sql.Query} {plan : Plan} (hplan : planOf now q = .ok plan)
    (ha : plan.engine.isAggregation = true) (session : Session) {c : Column}
    (hc : c ∈ plan.engine.heading.columns) : ∃ root, rootOf session plan.engine = .ok root ∧
      (HasSource root c ↔ c.operator.isGrouping = false ∨ plan.engine.distinct = true ∨
        c.index ∈ plan.engine.groupBy.map (·.index)) ∧
      (HasSource root c ↔ ∃ response leaves t, Conforms root response leaves ∧
        Run.tableOf plan.engine response = .ok t ∧ ∃ row ∈ t.rows, row.cell c.index ≠ .null) := by
  obtain ⟨hbound, hcheck⟩ := (planOf_bound q hplan).engine
  obtain ⟨s, rest, -, hbinds, -⟩ := exists_binds_engine hplan
  have hcounts : CountsOnly plan.engine.heading := headingOf_countsOnly hbinds.heading
  obtain ⟨root, hroot⟩ := rootOf_eq_ok hbound hcounts hcheck (List.ne_nil_of_mem hc) session
  refine ⟨root, hroot, hasSource_iff hbound hcheck hroot hc, exists_filled_of_hasSource hbound hcheck ha hroot hc, ?_⟩
  rintro ⟨response, leaves, t, hconf, ht, row, hrow, hne⟩
  by_contra hno
  exact hne (cell_eq_null_of_not_hasSource hbound hcheck ha hroot hc hno hconf ht row hrow)

/-- `SELECT city, AVG(price) FROM sales` -/
def cityAndMean : Sql.Query :=
  ⟨"", .select ⟨none, "", [.expr (.name ⟨"city", none⟩),
    .expr (.call ⟨[⟨"AVG", none⟩], false, false, [.expr (.name ⟨"price", none⟩)], "", ""⟩)], "",
    [⟨.table [⟨"sales", none⟩] "" none "", []⟩], "", none, .keys [], ""⟩, [], none, ""⟩

/-- The mean is filled by some answer. -/
theorem exists_filled_mean : ∃ plan c root, planOf 0 cityAndMean = .ok plan ∧ c ∈ plan.engine.heading.columns ∧
    c.label = "avg(price)" ∧ rootOf .standard plan.engine = .ok root ∧ ∃ response leaves t,
      Conforms root response leaves ∧ Run.tableOf plan.engine response = .ok t ∧
        ∃ row ∈ t.rows, row.cell c.index ≠ .null := by
  obtain ⟨plan, c, hplan, ha, hc, hlabel, hop⟩ : ∃ plan c, planOf 0 cityAndMean = .ok plan ∧
      plan.engine.isAggregation = true ∧ c ∈ plan.engine.heading.columns ∧ c.label = "avg(price)" ∧
        c.operator.isGrouping = false :=
    ⟨_, _, by with_unfolding_all rfl, by decide, List.mem_cons_of_mem _ List.mem_cons_self, by decide, by decide⟩
  obtain ⟨root, hroot, hsource, hfilled⟩ := hasSource_iff_exists_filled hplan ha .standard hc
  exact ⟨plan, c, root, hplan, hc, hlabel, hroot, hfilled.1 (hsource.2 (.inl hop))⟩

/-- **The city has no source**: the query is accepted, and every answer to it has the city missing in every row. -/
theorem city_never_filled : ∃ plan c root, planOf 0 cityAndMean = .ok plan ∧ plan.engine.isAggregation = true ∧
    c ∈ plan.engine.heading.columns ∧ c.label = "city" ∧ rootOf .standard plan.engine = .ok root ∧
      ¬ HasSource root c ∧ ∀ response leaves t, Conforms root response leaves →
        Run.tableOf plan.engine response = .ok t → ∀ row ∈ t.rows, row.cell c.index = .null := by
  obtain ⟨plan, c, root, hplan, ha, hc, hlabel, hroot, hkey⟩ : ∃ plan c root, planOf 0 cityAndMean = .ok plan ∧
      plan.engine.isAggregation = true ∧ c ∈ plan.engine.heading.columns ∧ c.label = "city" ∧
        rootOf .standard plan.engine = .ok root ∧ ¬ (c.operator.isGrouping = false ∨ plan.engine.distinct = true ∨
          c.index ∈ plan.engine.groupBy.map (·.index)) :=
    ⟨_, _, _, by with_unfolding_all rfl, by decide, List.mem_cons_self, by decide, by with_unfolding_all rfl,
      by decide⟩
  obtain ⟨hbound, hcheck⟩ := (planOf_bound _ hplan).engine
  have hno : ¬ HasSource root c := by rwa [hasSource_iff hbound hcheck hroot hc]
  exact ⟨plan, c, root, hplan, ha, hc, hlabel, hroot, hno,
    fun _ _ _ hconf ht => cell_eq_null_of_not_hasSource hbound hcheck ha hroot hc hno hconf ht⟩

end FacetSql.Answer
