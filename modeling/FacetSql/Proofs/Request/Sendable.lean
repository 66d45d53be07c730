import FacetSql.Proofs.Query.Selects
import FacetSql.Proofs.Request.Compiled
/-!
# Sendable — accepted levels have a request

The checks of the planner leave nothing for the request to fail at: keys have fields and may group, metrics have
fields, and DISTINCT has plain columns only.  So a level of the engine that shows anything has an aggregation
(`rootOf_eq_ok`) and a body (`bodyOf_eq_ok`).
-/
namespace FacetSql.Request

open Query

theorem field_of_isMetric {h : Heading} (hf : CountsOnly h) {c : Column} (hc : c ∈ h.columns)
    (hm : c.isMetric = true) : ∃ field, c.field = some field := by
  cases hfield : c.field with
  | some field => exact ⟨field, rfl⟩
  | none =>
    -- a column without a field counts documents, so it is no metric
    have hcount : c.isDocCount = true := by simp [Column.isDocCount, hfield, hf c hc hfield]
    simp [Column.isMetric, hcount] at hm

theorem field_of_isKeyOf {h : Heading} (hf : CountsOnly h) {key : Column} (hk : IsKeyOf h key) :
    ∃ field, key.field = some field := by
  obtain ⟨c, hc, hg, -, -, hkf⟩ := hk.exists_column
  rw [hkf]
  cases hfield : c.field with
  | some field => exact ⟨field, rfl⟩
  | none =>
    rw [hf c hc hfield] at hg
    cases hg

theorem metricNode_eq_ok {h : Heading} (hf : CountsOnly h) {c : Column} (hc : c ∈ h.metricColumns) :
    ∃ node, metricNode c = .ok node := by
  obtain ⟨hmem, hm⟩ := List.mem_filter.1 hc
  obtain ⟨field, hfield⟩ := field_of_isMetric hf hmem hm
  exact ⟨_, metricNode_eq_ok_iff.2 ⟨field, hfield, rfl⟩⟩

theorem metrics_eq_ok {h : Heading} (hf : CountsOnly h) : ∃ nodes, metrics h = .ok nodes :=
  exists_mapM_eq_ok (fun _ hc => metricNode_eq_ok hf hc)

theorem bucketNode_eq_ok {h : Heading} (hf : CountsOnly h) {key : Column} (hk : IsKeyOf h key) (session : Session)
    (nodes : List Node) : ∃ node, bucketNode session key nodes = .ok node := by
  obtain ⟨field, hfield⟩ := field_of_isKeyOf hf hk
  have hop : key.operator = .plain ∨ key.operator = .dateHistogram := by
    obtain ⟨c, -, hg, rfl | ⟨arguments, rfl⟩⟩ := hk
    · cases ho : key.operator <;> simp_all [Operator.isGrouping]
    · exact .inr rfl
  rcases hop with ho | ho
  · exact ⟨_, bucketNode_eq_ok_iff.2 ⟨field, hfield, .inl ⟨ho, rfl⟩⟩⟩
  · exact ⟨_, bucketNode_eq_ok_iff.2 ⟨field, hfield, .inr ⟨ho, rfl⟩⟩⟩

/-- **Keys of a heading nest**, with the metrics of any heading whose metrics have fields inside them. -/
theorem nest_eq_ok {h inner : Heading} (hf : CountsOnly h) (hi : CountsOnly inner) (session : Session) {key : Column}
    {rest : List Column} (hs : ∀ k ∈ key :: rest, IsKeyOf h k) : ∃ node, nest session inner key rest = .ok node := by
  induction rest generalizing key with
  | nil =>
    obtain ⟨nodes, hn⟩ := metrics_eq_ok hi
    obtain ⟨node, hb⟩ := bucketNode_eq_ok hf (hs key List.mem_cons_self) session nodes
    exact ⟨node, bind_eq_ok_iff.2 ⟨nodes, hn, hb⟩⟩
  | cons next rest ih =>
    obtain ⟨below, hbelow⟩ := ih (fun k hk => hs k (List.mem_cons_of_mem _ hk))
    obtain ⟨node, hb⟩ := bucketNode_eq_ok hf (hs key List.mem_cons_self) session [below]
    exact ⟨node, bind_eq_ok_iff.2 ⟨below, hbelow, hb⟩⟩

theorem countsOnly_empty : CountsOnly .empty := fun _ hc => absurd hc List.not_mem_nil

/-- **What the check of an engine's level leaves**: no growth column, and only plain columns under DISTINCT. -/
theorem of_checkEngine {level : Level} (h : checkEngine level = .ok ()) :
    (∀ c ∈ level.heading.columns, c.operator ≠ .growth) ∧
      (level.distinct = true → ∀ c ∈ level.heading.columns, c.operator = .plain) := by
  unfold checkEngine at h
  split at h
  · cases h
  · rename_i hnone
    refine ⟨fun c hc ho => ?_, fun hd c hc => ?_⟩
    · simpa [ho] using List.find?_eq_none.1 hnone c hc
    · split at h
      · cases h
      · rename_i hagg
        have hplain : level.heading.hasAggregates = false := by simpa [hd] using hagg
        simpa [Heading.hasAggregates] using List.any_eq_false.1 hplain c hc

theorem distinct_eq_ok {level : Level} (hf : CountsOnly level.heading) (hc : checkEngine level = .ok ())
    (hd : level.distinct = true) (hne : level.heading.columns ≠ []) (session : Session) :
    ∃ node, distinct session level.heading = .ok node := by
  unfold distinct
  have hplain : level.heading.columns.filter (fun c => c.operator == .plain) = level.heading.columns := by
    rw [List.filter_eq_self]
    exact fun c hmem => by rw [(of_checkEngine hc).2 hd c hmem]; rfl
  rw [hplain]
  cases hcols : level.heading.columns with
  | nil => exact absurd hcols hne
  | cons key rest =>
    refine nest_eq_ok hf countsOnly_empty session (fun k hk => ?_)
    rw [← hcols] at hk
    exact ⟨k, hk, by rw [(of_checkEngine hc).2 hd k hk]; rfl, .inl rfl⟩

theorem grouped_eq_ok {level : Level} (hb : level.Bound) (hf : CountsOnly level.heading) (session : Session) :
    ∃ node, grouped session level.groupBy level.heading level.filter.toJson = .ok node := by
  unfold grouped
  cases hg : level.groupBy with
  | nil =>
    obtain ⟨nodes, hn⟩ := metrics_eq_ok hf
    exact ⟨_, bind_eq_ok_iff.2 ⟨nodes, hn, rfl⟩⟩
  | cons key rest => exact nest_eq_ok hf hf session (fun k hk => hb.keys.mem k (hg ▸ hk))

/-- **A level of the engine that shows a column has an aggregation**, should it ask for one. -/
theorem rootOf_eq_ok {level : Level} (hb : level.Bound) (hf : CountsOnly level.heading)
    (hc : checkEngine level = .ok ()) (hne : level.heading.columns ≠ []) (session : Session) :
    ∃ root, rootOf session level = .ok root := by
  unfold rootOf
  split
  · exact distinct_eq_ok hf hc ‹_› hne session
  · exact grouped_eq_ok hb hf session

/-- **A level of the engine that shows a column has a body.** -/
theorem bodyOf_eq_ok {level : Level} (hb : level.Bound) (hf : CountsOnly level.heading)
    (hc : checkEngine level = .ok ()) (hne : level.heading.columns ≠ []) (session : Session) :
    ∃ body, bodyOf session level = .ok body := by
  cases ha : level.isAggregation with
  | false => exact ⟨searchBody session level, by rw [bodyOf, ha]; rfl⟩
  | true =>
    obtain ⟨root, hr⟩ := rootOf_eq_ok hb hf hc hne session
    rw [bodyOf_of_isAggregation ha]
    exact ⟨_, bind_eq_ok_iff.2 ⟨root, hr, rfl⟩⟩

end FacetSql.Request
