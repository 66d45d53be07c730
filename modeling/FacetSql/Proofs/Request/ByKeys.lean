import FacetSql.Proofs.Request.Encoded
/-!
# ByKeys — requests that are cut by the keys of GROUP BY

The aggregation of a level is the chain of its task (`rootOf_eq_compile`), and its body says which buckets that chain
has (`isCutBy_aggregationBody_iff`).  Buckets of plain columns are buckets of no other keys (`eq_of_areBucketsOf`).  So
a DISTINCT level, which is cut by the columns of its heading, is cut by its keys exactly if these are the columns
(`isCutBy_iff`).
-/
namespace FacetSql.Request

open Query

/-- **The body cuts documents by keys**: one level of buckets for each, in their order, and nothing but measures in the
innermost. -/
def IsCutBy (session : Session) (keys : List Column) (body : Json) : Prop :=
  ∃ bs ms, body.member? "aggs" = some (Node.aggregations (chain bs ms)) ∧
    List.Forall₂ (IsBucketOf session) keys bs

/-- What a level is compiled for. -/
def taskOf (level : Level) : Task :=
  if level.distinct then .distinct else .groups level.groupBy level.filter.toJson

theorem rootOf_eq_compile (session : Session) (level : Level) :
    rootOf session level = (taskOf level).compile session level.heading := by
  unfold rootOf taskOf
  split
  · rfl
  · rfl

section

variable {session : Session} {level : Level} {keys cs : List Column} {bs : List Bucket} {ms : List Measure} {root : Node}

/-- **The body of a chain is cut by the keys that its buckets are of**, and by no others. -/
theorem isCutBy_aggregationBody_iff {query : Json} (hroot : [root] = chain bs ms) :
    IsCutBy session keys (aggregationBody query root) ↔ List.Forall₂ (IsBucketOf session) keys bs := by
  have haggs : (aggregationBody query root).member? "aggs" = some (Node.aggregations (chain bs ms)) := by
    rw [aggregationBody, Json.member?_ofMembers, hroot]
    rfl
  constructor
  · rintro ⟨bs', ms', haggs', hkeys⟩
    rw [haggs] at haggs'
    rwa [(aggregations_chain_inj (Option.some.inj haggs')).1]
  · exact fun hkeys => ⟨bs, ms, haggs, hkeys⟩

/-- **Buckets of plain columns are buckets of no other keys.** -/
theorem eq_of_areBucketsOf (hw : level.heading.WellFormed)
    (hkeys : List.Forall₂ (IsBucketOf session) keys bs) (hmem : ∀ key ∈ keys, IsKeyOf level.heading key)
    (hcs : List.Forall₂ (IsBucketOf session) cs bs)
    (hplain : ∀ c ∈ cs, c ∈ level.heading.columns ∧ c.operator = .plain) : keys = cs := by
  induction hkeys generalizing cs with
  | nil => exact (List.forall₂_nil_right_iff.1 hcs).symm
  | @cons key b keys bs hkey _ ih =>
    obtain ⟨c, cs', hc, hcs', rfl⟩ := List.forall₂_cons_right_iff.1 hcs
    obtain ⟨hcmem, hcop⟩ := hplain c List.mem_cons_self
    have hhead : key = c := by
      -- one level cannot be both the values of a field and its intervals, so the key is plain as well
      generalize hb : b = b' at hkey
      cases hc with
      | histogram hop => rw [hcop] at hop; cases hop
      | terms =>
        cases hkey with
        | histogram => cases hb
        | terms hop =>
          have hname : c.aggName = key.aggName := (Bucket.terms.inj hb).1
          exact (eq_of_aggName_eq hw hcmem ((hmem key List.mem_cons_self).mem_of_plain hop) hname).symm
    rw [hhead, ih (fun key hk => hmem key (List.mem_cons_of_mem _ hk)) hcs'
      (fun c hc => hplain c (List.mem_cons_of_mem _ hc))]

/-- Without DISTINCT a level is cut by its keys. -/
theorem isCutBy_groupBy (hd : level.distinct = false) (hgroup : level.groupBy ≠ [])
    (hr : rootOf session level = .ok root) (query : Json) :
    IsCutBy session level.groupBy (aggregationBody query root) := by
  rw [rootOf_eq_compile] at hr
  obtain ⟨bs, ms, hchain, hroot⟩ := exists_isChainOf hr
  rw [isCutBy_aggregationBody_iff hroot]
  rw [taskOf, hd, if_neg Bool.false_ne_true] at hchain
  cases hgroups : level.groupBy with
  | nil => exact absurd hgroups hgroup
  | cons key rest =>
    rw [hgroups] at hchain
    cases hchain with
    | groups buckets => exact buckets

/-- With DISTINCT it is cut by the columns of its heading. -/
theorem isCutBy_columns (hcheck : checkEngine level = .ok ()) (hd : level.distinct = true)
    (hr : rootOf session level = .ok root) (query : Json) :
    IsCutBy session level.heading.columns (aggregationBody query root) := by
  have hplain : level.heading.columns.filter (fun c => c.operator == .plain) = level.heading.columns :=
    List.filter_eq_self.2 (fun c hc => beq_iff_eq.2 ((of_checkEngine hcheck).2 hd c hc))
  rw [rootOf_eq_compile] at hr
  obtain ⟨bs, ms, hchain, hroot⟩ := exists_isChainOf hr
  rw [isCutBy_aggregationBody_iff hroot]
  rw [taskOf, hd, if_pos rfl] at hchain
  cases hchain with
  | distinct buckets => rwa [hplain] at buckets

/-- **A level with keys is cut by them** unless it is DISTINCT and they are not the columns of its heading. -/
theorem isCutBy_iff_of_bound (hb : level.Bound) (hcheck : checkEngine level = .ok ()) (hgroup : level.groupBy ≠ [])
    (hr : rootOf session level = .ok root) (query : Json) :
    IsCutBy session level.groupBy (aggregationBody query root) ↔
      (level.distinct = true → level.groupBy = level.heading.columns) := by
  cases hd : level.distinct with
  | false => exact iff_of_true (isCutBy_groupBy hd hgroup hr query) nofun
  | true =>
    have hcolumns := isCutBy_columns hcheck hd hr query
    constructor
    · intro hkeys _
      obtain ⟨bs, ms, -, hroot⟩ := exists_isChainOf (rootOf_eq_compile session level ▸ hr)
      rw [isCutBy_aggregationBody_iff hroot] at hkeys hcolumns
      exact eq_of_areBucketsOf hb.heading hkeys hb.keys.mem hcolumns
        (fun c hc => ⟨hc, (of_checkEngine hcheck).2 hd c hc⟩)
    · exact fun heq => heq rfl ▸ hcolumns

end

theorem ofPlan_of_rootOf {session : Session} {plan : Plan} {root : Node} (hgroup : plan.engine.groupBy ≠ [])
    (hr : rootOf session plan.engine = .ok root) :
    ofPlan session plan = .ok ⟨plan.index, aggregationBody (queryOf plan.engine).toJson root⟩ := by
  have ha : plan.engine.isAggregation = true := by
    simp [Level.isAggregation, hgroup]
  rw [ofPlan, bodyOf_of_isAggregation ha, hr]
  rfl

/-- **An accepted level with GROUP BY has a request, and it is cut by the keys** unless DISTINCT overrides them: then it
is cut by the columns of the heading, so by the keys only if they are these columns in this order. -/
theorem isCutBy_iff {now : Int} {q : Sql.Query} {plan : Plan} (hplan : planOf now q = .ok plan)
    (hgroup : plan.engine.groupBy ≠ []) (session : Session) :
    ∃ body, ofPlan session plan = .ok ⟨plan.index, body⟩ ∧
      (plan.engine.distinct = true → IsCutBy session plan.engine.heading.columns body) ∧
      (IsCutBy session plan.engine.groupBy body ↔
        (plan.engine.distinct = true → plan.engine.groupBy = plan.engine.heading.columns)) := by
  obtain ⟨hb, hcheck⟩ := (planOf_bound q hplan).engine
  obtain ⟨s, rest, -, hbinds, -⟩ := exists_binds_engine hplan
  obtain ⟨key, hkey⟩ := List.exists_mem_of_ne_nil _ hgroup
  obtain ⟨c, hc, -⟩ := (hb.keys.mem key hkey).exists_column
  obtain ⟨root, hr⟩ := rootOf_eq_ok hb (headingOf_countsOnly hbinds.heading) hcheck (List.ne_nil_of_mem hc) session
  exact ⟨_, ofPlan_of_rootOf hgroup hr, fun hd => isCutBy_columns hcheck hd hr _,
    isCutBy_iff_of_bound hb hcheck hgroup hr _⟩

/-- `SELECT ts FROM t GROUP BY DATE_HISTOGRAM(ts, '1d')`, with DISTINCT or without. -/
def timesByDay (distinct : Option Sql.Distinct) : Sql.Query :=
  ⟨"", .select ⟨distinct, "", [.expr (.name ⟨"ts", none⟩)], "", [⟨.table [⟨"t", none⟩] "" none "", []⟩], "", none,
    .keys [.call ⟨[⟨"DATE_HISTOGRAM", none⟩], false, false,
      [.expr (.name ⟨"ts", none⟩), .expr (.literal (.text "1d"))], "", ""⟩], ""⟩, [], none, ""⟩

/-- Without DISTINCT the times are cut by days. -/
theorem isCutBy_timesByDay : ∃ plan body, planOf 0 (timesByDay none) = .ok plan ∧ plan.engine.groupBy ≠ [] ∧
    ofPlan .standard plan = .ok ⟨plan.index, body⟩ ∧ IsCutBy .standard plan.engine.groupBy body := by
  obtain ⟨plan, hplan, hgroup, hd⟩ : ∃ plan, planOf 0 (timesByDay none) = .ok plan ∧ plan.engine.groupBy ≠ [] ∧
      plan.engine.distinct = false :=
    ⟨_, by with_unfolding_all rfl, List.cons_ne_nil _ _, rfl⟩
  obtain ⟨body, hbody, -, hcut⟩ := isCutBy_iff hplan hgroup .standard
  exact ⟨plan, body, hplan, hgroup, hbody, hcut.2 (fun h => absurd (hd.symm.trans h) (by decide))⟩

/-- **With DISTINCT the days are lost**: the query is accepted, and its body asks for every single time. -/
theorem not_isCutBy_distinct_timesByDay : ∃ plan body, planOf 0 (timesByDay (some .rows)) = .ok plan ∧
    plan.engine.groupBy ≠ [] ∧ ofPlan .standard plan = .ok ⟨plan.index, body⟩ ∧
      ¬ IsCutBy .standard plan.engine.groupBy body := by
  obtain ⟨plan, root, hplan, hgroup, hr, hd, hne⟩ : ∃ plan root, planOf 0 (timesByDay (some .rows)) = .ok plan ∧
      plan.engine.groupBy ≠ [] ∧ rootOf .standard plan.engine = .ok root ∧ plan.engine.distinct = true ∧
        plan.engine.groupBy.map (·.operator) ≠ plan.engine.heading.columns.map (·.operator) :=
    ⟨_, _, by with_unfolding_all rfl, List.cons_ne_nil _ _, by with_unfolding_all rfl, rfl, by decide⟩
  obtain ⟨hb, hcheck⟩ := (planOf_bound _ hplan).engine
  refine ⟨plan, _, hplan, hgroup, ofPlan_of_rootOf hgroup hr, fun hcut => hne ?_⟩
  rw [(isCutBy_iff_of_bound hb hcheck hgroup hr _).1 hcut hd]

end FacetSql.Request
