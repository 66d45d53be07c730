import FacetSql.Proofs.Query.Planned
import FacetSql.Proofs.Heading.WellFormed
/-!
# Bound — what every level of a plan keeps

Each level comes from one SELECT: its heading is well formed, and its keys are columns of the heading, no two of them
the same (`levelOf_bound`).  The level of the engine and the levels around it have passed the checks for where they
stand (`planOf_bound`).
-/
namespace FacetSql

/-- **A key of GROUP BY**: a column of the heading that may group, with or without a function of the key's own. -/
def IsKeyOf (h : Heading) (key : Column) : Prop :=
  ∃ c ∈ h.columns, c.operator.isGrouping = true ∧
    (key = c ∨ ∃ arguments, key = { c with operator := .dateHistogram, arguments := arguments })

/-- **Keys of one heading**, no two of them of one column. -/
structure AreKeys (h : Heading) (keys : List Column) : Prop where
  mem : ∀ key ∈ keys, IsKeyOf h key
  apart : (keys.map (·.index)).Nodup

/-- **A level as a SELECT binds it.** -/
structure Level.Bound (level : Level) : Prop where
  heading : level.heading.WellFormed
  keys : AreKeys level.heading level.groupBy

/-- All columns of a level can be computed from the rows of a subquery. -/
def Level.Reducible (level : Level) : Prop :=
  ∀ c ∈ level.heading.columns, Query.isReducible level.groupBy c = true

/-- **A plan as the planner accepts it**: every level is bound, and checked for where it stands. -/
structure Plan.Bound (plan : Plan) : Prop where
  engine : plan.engine.Bound ∧ Query.checkEngine plan.engine = .ok ()
  outer : ∀ level ∈ plan.outer, level.Bound ∧ ∃ condition, Query.checkOuter condition level = .ok ()

/-- **A key keeps its column's place, name and field.** -/
theorem IsKeyOf.exists_column {h : Heading} {key : Column} (hk : IsKeyOf h key) :
    ∃ c ∈ h.columns, c.operator.isGrouping = true ∧ key.index = c.index ∧ key.aggName = c.aggName ∧
      key.field = c.field := by
  obtain ⟨c, hc, hg, rfl | ⟨arguments, rfl⟩⟩ := hk
  · exact ⟨key, hc, hg, rfl, rfl, rfl⟩
  · exact ⟨c, hc, hg, rfl, rfl, rfl⟩

theorem IsKeyOf.mem_of_plain {h : Heading} {key : Column} (hk : IsKeyOf h key) (hop : key.operator = .plain) :
    key ∈ h.columns := by
  obtain ⟨c, hc, -, rfl | ⟨arguments, rfl⟩⟩ := hk
  · exact hc
  · cases hop

theorem areKeys_nil (h : Heading) : AreKeys h [] :=
  ⟨fun _ hm => absurd hm List.not_mem_nil, List.nodup_nil⟩

theorem AreKeys.append {h : Heading} {keys : List Column} {key : Column} (hs : AreKeys h keys) (hk : IsKeyOf h key)
    (hnew : key.index ∉ keys.map (·.index)) : AreKeys h (keys ++ [key]) := by
  refine ⟨fun d hd => ?_, ?_⟩
  · rcases List.mem_append.1 hd with hd | hd
    · exact hs.mem d hd
    · exact List.mem_singleton.1 hd ▸ hk
  · rw [List.map_append, List.nodup_append]
    refine ⟨hs.apart, List.nodup_singleton _, fun i hi j hj => ?_⟩
    rw [List.map_singleton, List.mem_singleton] at hj
    rintro rfl
    exact hnew (hj ▸ hi)

namespace Query

theorem isAggName_function (op : Operator) (field : Option String) (arguments : List Argument) :
    IsAggName (Column.function op field arguments).aggName :=
  isAggName_aggNameOf _

theorem placedExpr_eq_ok {a : Sql.CallArgument} {e : Sql.Expr} (h : placedExpr a = .ok e) : a = .expr e := by
  unfold placedExpr at h
  split at h
  · rw [Except.ok.inj h]
  · cases h

/-- **Everything that an accepted call was read as.** -/
theorem columnOfCall_cases {now : Int} {call : Sql.Call} {c : Column} (h : columnOfCall now call = .ok c) :
    ∃ op field extra arguments,
      Operator.ofFunctionName? (Sql.renderPath call.function) = some op ∧
      fieldOfCall (Text.upperCase (Sql.renderPath call.function)) op call.arguments = .ok field ∧
      (call.arguments.drop 1).mapM placedExpr = .ok extra ∧
      callArguments now (Text.upperCase (Sql.renderPath call.function)) op extra = .ok arguments ∧
      c = .function op field arguments := by
  unfold columnOfCall at h
  dsimp only at h
  split at h
  · cases h
  · rename_i op hop
    split at h
    · cases h
    · obtain ⟨field, hfield, h⟩ := bind_eq_ok_iff.1 h
      obtain ⟨extra, hextra, h⟩ := bind_eq_ok_iff.1 h
      obtain ⟨arguments, harguments, h⟩ := bind_eq_ok_iff.1 h
      exact ⟨op, field, extra, arguments, hop, hfield, hextra, harguments, (Except.ok.inj h).symm⟩

theorem columnOf_eq_ok {now : Int} {e : Sql.Expr} {c : Column} (h : columnOf now e = .ok c) :
    ∃ op field arguments, c = .function op field arguments := by
  fun_induction columnOf now e with
  | case1 n => exact ⟨_, _, _, (Except.ok.inj h).symm⟩
  | case2 parts =>
    obtain ⟨field, -, h⟩ := bind_eq_ok_iff.1 h
    exact ⟨_, _, _, (Except.ok.inj h).symm⟩
  | case3 inner ih => exact ih h
  | case4 call =>
    obtain ⟨op, field, _, arguments, -, -, -, -, hc⟩ := columnOfCall_cases h
    exact ⟨op, field, arguments, hc⟩
  | case5 e => cases h

theorem isAggName_columnOfItem {now : Int} {item : Sql.SelectItem} {c : Column} (h : columnOfItem now item = .ok c) :
    IsAggName c.aggName := by
  unfold columnOfItem at h
  split at h
  · obtain ⟨op, field, arguments, rfl⟩ := columnOf_eq_ok h
    exact isAggName_function op field arguments
  · obtain ⟨d, -, h⟩ := bind_eq_ok_iff.1 h
    rw [← Except.ok.inj h]
    exact isAggName_aggNameOf _
  · cases h

theorem headingOf_wellFormed {now : Int} {items : List Sql.SelectItem} {h : Heading}
    (hh : headingOf now items = .ok h) : h.WellFormed := by
  refine foldlM_induction hh Heading.wellFormed_empty (fun h item h' _ hw hs => ?_)
  obtain ⟨c, hc, hs⟩ := bind_eq_ok_iff.1 hs
  exact hw.add (isAggName_columnOfItem hc) hs

theorem asKey_index (key c : Column) : (asKey key c).index = c.index := by
  unfold asKey
  split <;> rfl

theorem isKeyOf_asKey {h : Heading} {c : Column} (key : Column) (hc : c ∈ h.columns)
    (hg : c.operator.isGrouping = true) : IsKeyOf h (asKey key c) := by
  refine ⟨c, hc, hg, ?_⟩
  unfold asKey
  split
  · exact .inr ⟨_, rfl⟩
  · exact .inl rfl

theorem referredColumn_mem {h : Heading} {key c : Column} (hr : referredColumn h key = some c) : c ∈ h.columns := by
  unfold referredColumn at hr
  cases hl : h.byLabel? key.label with
  | some d =>
    rw [hl] at hr
    cases hr
    exact List.mem_of_find?_eq_some hl
  | none =>
    rw [hl] at hr
    exact List.mem_of_find?_eq_some hr

/-- **A key is resolved** if it groups, and refers to a column that groups and is none of those found before. -/
theorem resolveKey_eq_ok_iff {h : Heading} {found : List Column} {key k : Column} :
    resolveKey h found key = .ok k ↔ key.operator.isGrouping = true ∧ ∃ c, referredColumn h key = some c ∧
      c.operator.isGrouping = true ∧ c.index ∉ found.map (·.index) ∧ k = asKey key c := by
  unfold resolveKey
  by_cases hkey : key.operator.isGrouping = true
  · rw [if_pos hkey, and_iff_right hkey]
    cases referredColumn h key with
    | none => simp
    | some c =>
      have hany : found.any (fun k => k.index == c.index) = true ↔ c.index ∈ found.map (·.index) := by simp
      simp only [Option.some.injEq, exists_eq_left']
      by_cases hg : c.operator.isGrouping = true
      · rw [if_neg (by simp [hg]), and_iff_right hg]
        by_cases hfound : c.index ∈ found.map (·.index)
        · rw [if_pos (hany.2 hfound)]
          exact iff_of_false nofun (fun h => h.1 hfound)
        · rw [if_neg (mt hany.1 hfound), and_iff_right hfound, Except.ok.injEq, eq_comm]
      · rw [if_pos (by simp [hg])]
        exact iff_of_false nofun (fun h => hg h.1)
  · rw [if_neg hkey]
    exact iff_of_false nofun (fun h => hkey h.1)

/-- **A resolved key is a column of the heading**, and none of the columns found before. -/
theorem resolveKey_eq_ok {h : Heading} {found : List Column} {key k : Column} (hk : resolveKey h found key = .ok k) :
    IsKeyOf h k ∧ k.index ∉ found.map (·.index) := by
  obtain ⟨-, c, hc, hg, hnew, rfl⟩ := resolveKey_eq_ok_iff.1 hk
  exact ⟨isKeyOf_asKey key (referredColumn_mem hc) hg, by rwa [asKey_index]⟩

theorem areKeys_groupKeys {now : Int} {h : Heading} {es : List Sql.Expr} {keys : List Column}
    (hk : groupKeys now h es = .ok keys) : AreKeys h keys := by
  refine foldlM_induction (motive := AreKeys h) hk (areKeys_nil h) (fun found e keys _ hf hs => ?_)
  obtain ⟨key, -, hs⟩ := bind_eq_ok_iff.1 hs
  obtain ⟨k, hk, hs⟩ := bind_eq_ok_iff.1 hs
  obtain ⟨hkey, hnew⟩ := resolveKey_eq_ok hk
  rw [← Except.ok.inj hs]
  exact hf.append hkey hnew

/-- **What a SELECT binds to**, clause by clause. -/
theorem levelOf_eq_ok_iff {now : Int} {s : Sql.Select} {order : List Sql.SortKey} {limit : Option Sql.Expr}
    {level : Level} :
    levelOf now s order limit = .ok level ↔
      headingOf now s.items = .ok level.heading ∧
      (∃ keys, writtenKeys s.grouping = .ok keys ∧ groupKeys now level.heading keys = .ok level.groupBy) ∧
      conditionOf s.condition = .ok level.filter ∧ distinctOf s.distinct = .ok level.distinct ∧
      limit.mapM limitOf = .ok level.limit ∧ orderOf now level.heading order = .ok level.order := by
  constructor
  · intro h
    obtain ⟨heading, hh, h⟩ := bind_eq_ok_iff.1 h
    obtain ⟨keys, hk, h⟩ := bind_eq_ok_iff.1 h
    obtain ⟨groupBy, hg, h⟩ := bind_eq_ok_iff.1 h
    obtain ⟨filter, hf, h⟩ := bind_eq_ok_iff.1 h
    obtain ⟨distinct, hd, h⟩ := bind_eq_ok_iff.1 h
    obtain ⟨limit, hl, h⟩ := bind_eq_ok_iff.1 h
    obtain ⟨order, ho, h⟩ := bind_eq_ok_iff.1 h
    cases h
    exact ⟨hh, ⟨keys, hk, hg⟩, hf, hd, hl, ho⟩
  · rintro ⟨hh, ⟨keys, hk, hg⟩, hf, hd, hl, ho⟩
    simp only [levelOf, hh, hk, hg, hf, hd, hl, ho, bind, Except.bind, pure, Except.pure]

/-- **Every level that a SELECT binds to is bound.** -/
theorem levelOf_bound {now : Int} {s : Sql.Select} {order : List Sql.SortKey} {limit : Option Sql.Expr} {level : Level}
    (h : levelOf now s order limit = .ok level) : level.Bound := by
  obtain ⟨hh, ⟨keys, -, hg⟩, -⟩ := levelOf_eq_ok_iff.1 h
  exact ⟨headingOf_wellFormed hh, areKeys_groupKeys hg⟩

theorem reducible_of_checkOuter {condition : Option Sql.Expr} {level : Level}
    (h : checkOuter condition level = .ok ()) : level.Reducible := by
  unfold checkOuter at h
  dsimp only at h
  split at h
  · cases h
  · split at h
    · cases h
    · rename_i hnone
      intro c hc
      simpa using List.find?_eq_none.1 hnone c hc

theorem plain_of_checkOuter {condition : Option Sql.Expr} {level : Level}
    (h : checkOuter condition level = .ok ()) : ∀ key ∈ level.groupBy, key.operator = .plain := by
  unfold checkOuter at h
  dsimp only at h
  split at h
  · cases h
  · split at h
    · cases h
    · split at h
      · cases h
      · rename_i hplain
        intro key hkey
        by_contra hop
        exact hplain (List.any_eq_true.2 ⟨key, hkey, by simpa using hop⟩)

theorem Plans.bound {now : Int} {q : Sql.Query} {plan : Plan} (h : Plans now q plan) : plan.Bound := by
  induction h with
  | table _ hl hc => exact ⟨⟨levelOf_bound hl, hc⟩, fun _ hm => absurd hm List.not_mem_nil⟩
  | subquery _ _ hl hc ih =>
    refine ⟨ih.engine, fun l hm => ?_⟩
    rcases List.mem_append.1 hm with hm | hm
    · exact ih.outer l hm
    · exact List.mem_singleton.1 hm ▸ ⟨levelOf_bound hl, _, hc⟩
  | parenthesized _ ih => exact ih

/-- **Every plan is bound**, whatever is nested in its query. -/
theorem planOf_bound {now : Int} (q : Sql.Query) {plan : Plan} (h : planOf now q = .ok plan) : plan.Bound :=
  (planOf_eq_ok_iff.1 h).bound

end Query
end FacetSql
