import FacetSql.Query.Plan
import FacetSql.Proofs.Checked
import Mathlib.Data.List.Induction
/-!
# Planned — bound queries as plans

A bound query is nested, a plan is flat.  The planner accepts bound queries of one shape only: an index at the
innermost level, and none at any other.  So an accepted query is its plan, nested again (`boundOf_eq_ok_iff`), no
accepted query is without an index or sent at a level around another (`planOf_eq_error_iff`), and a plan says of a
query what its bound form says (`Plans`).  The two walks over the levels of a bound query agree on every query, accepted
or not (`head?_levels`).
-/
namespace FacetSql

namespace BoundQuery

theorem levels_of_leaf (index : Option String) (level : Level) :
    levels ⟨index, level, none⟩ = [⟨index, level, none⟩] := by
  rw [levels, inwards, List.reverse_singleton]

theorem levels_of_around (index : Option String) (level : Level) (inner : BoundQuery) :
    levels ⟨index, level, some inner⟩ = inner.levels ++ [⟨index, level, some inner⟩] := by
  rw [levels, inwards, List.reverse_cons, levels]

/-- **Both walks find the same innermost query.** -/
theorem head?_levels : ∀ q : BoundQuery, q.levels.head? = some q.innermost
  | ⟨index, level, none⟩ => by rw [levels_of_leaf, innermost, List.head?_cons]
  | ⟨index, level, some inner⟩ => by
    rw [levels_of_around, List.head?_append, head?_levels inner, innermost, Option.some_or]

end BoundQuery

namespace Plan

/-- **The plan as a bound query**: each level around the one before. -/
def nested (plan : Plan) : BoundQuery :=
  plan.outer.foldl (fun inner level => ⟨none, level, some inner⟩) ⟨some plan.index, plan.engine, none⟩

theorem nested_around (plan : Plan) (level : Level) : (plan.around level).nested = ⟨none, level, some plan.nested⟩ := by
  rw [nested, around, List.foldl_append, List.foldl_cons, List.foldl_nil, nested]

/-- **Every plan is built from the engine's level outwards.** -/
theorem around_induction {motive : Plan → Prop} (engine : ∀ index level, motive ⟨index, level, []⟩)
    (around : ∀ plan level, motive plan → motive (plan.around level)) (plan : Plan) : motive plan := by
  obtain ⟨index, level, outer⟩ := plan
  -- a level around is appended, so the list is taken apart from its end
  induction outer using List.reverseRecOn with
  | nil => exact engine index level
  | append_singleton outer last ih => exact around ⟨index, level, outer⟩ last ih

theorem plan?_nested (plan : Plan) : plan.nested.plan? = some plan := by
  induction plan using around_induction with
  | engine index level => rfl
  | around plan level ih => rw [nested_around, BoundQuery.plan?, ih, Option.map_some]

theorem innermost_nested (plan : Plan) : plan.nested.innermost = ⟨some plan.index, plan.engine, none⟩ := by
  induction plan using around_induction with
  | engine index level => rfl
  | around plan level ih =>
    rw [nested_around, BoundQuery.innermost, ih]
    rfl

/-- **The levels of a nested plan**: the engine's with the index, and each further one around another query. -/
theorem exists_levels_nested (plan : Plan) : ∃ rest, plan.nested.levels = plan.nested.innermost :: rest ∧
    rest.map (·.level) = plan.outer ∧ ∀ q ∈ rest, q.kind = .reduction := by
  induction plan using around_induction with
  | engine index level => exact ⟨[], rfl, rfl, fun q hq => absurd hq List.not_mem_nil⟩
  | around plan level ih =>
    obtain ⟨rest, hlevels, houter, hkinds⟩ := ih
    refine ⟨rest ++ [⟨none, level, some plan.nested⟩], ?_, ?_, fun q hq => ?_⟩
    · rw [nested_around, BoundQuery.levels_of_around, hlevels, BoundQuery.innermost, List.cons_append]
    · rw [List.map_append, houter]
      rfl
    · rcases List.mem_append.1 hq with hq | hq
      · exact hkinds q hq
      · rw [List.mem_singleton.1 hq]
        rfl

end Plan

namespace Query

/-- **A query has a plan.**  A SELECT from a table is one level of the engine, a SELECT from a subquery is a level
around the subquery's plan, and parentheses add nothing. -/
inductive Plans (now : Int) : Sql.Query → Plan → Prop
  | table {common closing : String} {order : List Sql.SortKey} {limit : Option Sql.Expr} {s : Sql.Select}
      {path : List Sql.Name} {arguments hints : String} {asName : Option Sql.TableAlias} {level : Level}
      (hfrom : s.sources = [⟨.table path arguments asName hints, []⟩])
      (hlevel : levelOf now s order limit = .ok level) (hcheck : checkEngine level = .ok ()) :
      Plans now ⟨common, .select s, order, limit, closing⟩ ⟨".".intercalate (path.map Sql.Name.text), level, []⟩
  | subquery {common closing : String} {order : List Sql.SortKey} {limit : Option Sql.Expr} {s : Sql.Select}
      {lateral : Bool} {q : Sql.Query} {asName : Option Sql.TableAlias} {inner : Plan} {level : Level}
      (hfrom : s.sources = [⟨.derived lateral q asName, []⟩]) (hinner : Plans now q inner)
      (hlevel : levelOf now s order limit = .ok level) (hcheck : checkOuter s.condition level = .ok ()) :
      Plans now ⟨common, .select s, order, limit, closing⟩ (inner.around level)
  | parenthesized {common closing : String} {order : List Sql.SortKey} {limit : Option Sql.Expr} {q : Sql.Query}
      {plan : Plan} (hinner : Plans now q plan) : Plans now ⟨common, .nested q, order, limit, closing⟩ plan

/-- **What FROM names**: one table, or one subquery that has a plan. -/
inductive From (now : Int) : List Sql.Joined → Option String × Option BoundQuery → Prop
  | table (path : List Sql.Name) (arguments : String) (asName : Option Sql.TableAlias) (hints : String) :
      From now [⟨.table path arguments asName hints, []⟩] (some (".".intercalate (path.map Sql.Name.text)), none)
  | subquery (lateral : Bool) {q : Sql.Query} (asName : Option Sql.TableAlias) {inner : Plan} (h : Plans now q inner) :
      From now [⟨.derived lateral q asName, []⟩] (none, some inner.nested)

/-- **Everything that a SELECT was bound for.** -/
theorem boundOfSelect_eq_ok_iff {now : Int} {order : List Sql.SortKey} {limit : Option Sql.Expr} {s : Sql.Select}
    {b : BoundQuery} : boundOfSelect now order limit s = .ok b ↔
      originOf now s.sources = .ok (b.index, b.inner) ∧ levelOf now s order limit = .ok b.level ∧
        checkLevel s.condition b = .ok () := by
  obtain ⟨distinct, top, items, into, sources, views, condition, grouping, closing⟩ := s
  obtain ⟨index, level, inner⟩ := b
  rw [boundOfSelect]
  constructor
  · intro h
    obtain ⟨origin, ho, h⟩ := bind_eq_ok_iff.1 h
    obtain ⟨l, hl, h⟩ := bind_eq_ok_iff.1 h
    obtain ⟨⟨⟩, hc, h⟩ := bind_eq_ok_iff.1 h
    cases h
    exact ⟨ho, hl, hc⟩
  · rintro ⟨ho, hl, hc⟩
    exact bind_eq_ok_iff.2 ⟨_, ho, bind_eq_ok_iff.2 ⟨_, hl, bind_eq_ok_iff.2 ⟨(), hc, rfl⟩⟩⟩

/-- **A SELECT from something with a plan has a plan**, if its level passes the checks for where it stands. -/
theorem exists_plans_of_from {now : Int} {order : List Sql.SortKey} {limit : Option Sql.Expr} {s : Sql.Select}
    {b : BoundQuery} (hf : From now s.sources (b.index, b.inner)) (hl : levelOf now s order limit = .ok b.level)
    (hc : checkLevel s.condition b = .ok ()) (common closing : String) :
    ∃ plan, Plans now ⟨common, .select s, order, limit, closing⟩ plan ∧ b = plan.nested := by
  obtain ⟨index, level, inner⟩ := b
  dsimp only at hf hl hc
  generalize hsources : s.sources = sources at hf
  cases hf with
  | table path arguments asName hints => exact ⟨_, .table hsources hl hc, rfl⟩
  | subquery lateral asName h => exact ⟨_, .subquery hsources h hl hc, (Plan.nested_around _ _).symm⟩

-- the one walk along the planner's own recursion: what else is true of accepted queries goes by induction on `Plans`
mutual

/-- **Whatever the planner accepts is a plan, nested.** -/
theorem exists_plans_of_boundOf {now : Int} : ∀ (q : Sql.Query) {b : BoundQuery}, boundOf now q = .ok b →
    ∃ plan, Plans now q plan ∧ b = plan.nested
  | ⟨common, body, _, _, closing⟩, _, h => exists_plans_of_boundOfBody body h common closing

theorem exists_plans_of_boundOfBody {now : Int} {order : List Sql.SortKey} {limit : Option Sql.Expr} :
    ∀ (body : Sql.Body) {b : BoundQuery}, boundOfBody now order limit body = .ok b → ∀ common closing,
      ∃ plan, Plans now ⟨common, body, order, limit, closing⟩ plan ∧ b = plan.nested
  | .select s, _, h, common, closing => by
    obtain ⟨-, hl, hc⟩ := boundOfSelect_eq_ok_iff.1 h
    exact exists_plans_of_from (from_of_boundOfSelect s h) hl hc common closing
  | .nested q, _, h, _, _ => by
    obtain ⟨plan, hplan, hb⟩ := exists_plans_of_boundOf q h
    exact ⟨plan, hplan.parenthesized, hb⟩

theorem from_of_boundOfSelect {now : Int} {order : List Sql.SortKey} {limit : Option Sql.Expr} :
    ∀ (s : Sql.Select) {b : BoundQuery}, boundOfSelect now order limit s = .ok b →
      From now s.sources (b.index, b.inner)
  | ⟨_, _, _, _, sources, _, _, _, _⟩, _, h => from_of_originOf sources (boundOfSelect_eq_ok_iff.1 h).1

theorem from_of_originOf {now : Int} : ∀ (sources : List Sql.Joined) {origin : Option String × Option BoundQuery},
    originOf now sources = .ok origin → From now sources origin
  | [⟨source, []⟩], _, h => from_of_originOfSource source h

theorem from_of_originOfSource {now : Int} :
    ∀ (source : Sql.Source) {origin : Option String × Option BoundQuery},
      originOfSource now source = .ok origin → From now [⟨source, []⟩] origin
  | .table path arguments asName hints, _, h => by
    cases h
    exact .table path arguments asName hints
  | .derived lateral q asName, _, h => by
    obtain ⟨b, hb, h⟩ := bind_eq_ok_iff.1 h
    obtain ⟨plan, hplan, rfl⟩ := exists_plans_of_boundOf q hb
    cases h
    exact .subquery lateral asName hplan

end

/-- **Whatever has a plan is accepted as that plan, nested.** -/
theorem Plans.boundOf {now : Int} {q : Sql.Query} {plan : Plan} (h : Plans now q plan) :
    boundOf now q = .ok plan.nested := by
  induction h with
  | table hfrom hl hc =>
    refine boundOfSelect_eq_ok_iff.2 ⟨?_, hl, hc⟩
    rw [hfrom]
    rfl
  | @subquery _ _ _ _ s lateral q asName inner level hfrom hinner hl hc ih =>
    rw [Plan.nested_around]
    refine boundOfSelect_eq_ok_iff.2 ⟨?_, hl, hc⟩
    rw [hfrom]
    exact bind_eq_ok_iff.2 ⟨_, ih, rfl⟩
  | parenthesized _ ih => exact ih

/-- **The planner accepts plans**, and nothing else. -/
theorem boundOf_eq_ok_iff {now : Int} {q : Sql.Query} {b : BoundQuery} :
    boundOf now q = .ok b ↔ ∃ plan, Plans now q plan ∧ b = plan.nested := by
  constructor
  · exact exists_plans_of_boundOf q
  · rintro ⟨plan, hplan, rfl⟩
    exact hplan.boundOf

theorem planOf_eq_ok_iff {now : Int} {q : Sql.Query} {plan : Plan} : planOf now q = .ok plan ↔ Plans now q plan := by
  constructor
  · intro h
    obtain ⟨b, hb, h⟩ := bind_eq_ok_iff.1 h
    obtain ⟨p, hp, rfl⟩ := boundOf_eq_ok_iff.1 hb
    rw [Plan.plan?_nested] at h
    cases h
    exact hp
  · intro h
    refine bind_eq_ok_iff.2 ⟨_, h.boundOf, ?_⟩
    rw [Plan.plan?_nested]
    rfl

/-- **A query has no plan for the reason it is not accepted.**  An accepted one is not without an index. -/
theorem planOf_eq_error_iff {now : Int} {q : Sql.Query} {e : Failure} :
    planOf now q = .error e ↔ boundOf now q = .error e := by
  rw [planOf]
  cases hb : boundOf now q with
  | error e' => simp only [bind, Except.bind, Except.error.injEq]
  | ok b =>
    obtain ⟨plan, -, rfl⟩ := boundOf_eq_ok_iff.1 hb
    simp only [bind, Except.bind, Plan.plan?_nested]
    exact iff_of_false nofun nofun

end Query
end FacetSql
