import FacetSql.Proofs.Query.Bound
/-!
# Clauses — ORDER BY and LIMIT around a SELECT, and queries without them

A query in parentheses has clauses of its own, and so has the query around it.  Stripped of all of them a query is
accepted no less, and is planned the same but for one thing: how the rows of its outermost level are finished
(`planOf_stripped`).  That is said by the clauses next to the SELECT; those outside the parentheses are not looked at.
-/
namespace FacetSql

/-- The level, its rows neither sorted nor cut off. -/
def Level.unfinished (level : Level) : Level := { level with limit := none, order := none }

namespace Query

/-- **ORDER BY and LIMIT of one query.** -/
structure Clauses where
  order : List Sql.SortKey
  limit : Option Sql.Expr

mutual

/-- **The clauses of a query and of the queries in parentheses that it consists of**, from the inside outwards. -/
def clausesAround : Sql.Query → List Clauses
  | ⟨_, body, order, limit, _⟩ => clausesWithin body ++ [⟨order, limit⟩]

/-- The clauses inside a body in parentheses. -/
def clausesWithin : Sql.Body → List Clauses
  | .nested q => clausesAround q
  | .select _ | .other _ => []

end

mutual

/-- **The query without these clauses.** -/
def stripped : Sql.Query → Sql.Query
  | ⟨common, body, _, _, closing⟩ => ⟨common, strippedBody body, [], none, closing⟩

/-- The body without the clauses inside. -/
def strippedBody : Sql.Body → Sql.Body
  | .nested q => .nested (stripped q)
  | .select s => .select s
  | .other written => .other written

end

/-- **A plan, and the same plan with its outermost level unfinished.** -/
inductive LastUnfinished (level : Level) : Plan → Plan → Prop
  | engine (index : String) : LastUnfinished level ⟨index, level, []⟩ ⟨index, level.unfinished, []⟩
  | around (inner : Plan) : LastUnfinished level (inner.around level) (inner.around level.unfinished)

/-- **A query and the query without its clauses, planned side by side**: both plans end in one level, which the clauses
next to the SELECT finish in the first and nothing finishes in the second. -/
structure Strips (now : Int) (q : Sql.Query) (plan bare : Plan) (level : Level) (first : Clauses)
    (around : List Clauses) : Prop where
  clauses : clausesAround q = first :: around
  binds : ∃ s, levelOf now s first.order first.limit = .ok level
  plans : LastUnfinished level plan bare
  bare : Plans now (stripped q) bare

theorem levelOf_unfinished {now : Int} {s : Sql.Select} {order : List Sql.SortKey} {limit : Option Sql.Expr}
    {level : Level} (h : levelOf now s order limit = .ok level) : levelOf now s [] none = .ok level.unfinished := by
  obtain ⟨heading, keys, condition, distinct, -, -⟩ := levelOf_eq_ok_iff.1 h
  exact levelOf_eq_ok_iff.2 ⟨heading, keys, condition, distinct, rfl, rfl⟩

-- a level is checked for its columns and keys, not for how its rows are finished
theorem checkEngine_unfinished (level : Level) : checkEngine level.unfinished = checkEngine level := rfl

theorem checkOuter_unfinished (condition : Option Sql.Expr) (level : Level) :
    checkOuter condition level.unfinished = checkOuter condition level := rfl

theorem Plans.strips {now : Int} {q : Sql.Query} {plan : Plan} (h : Plans now q plan) :
    ∃ bare level first around, Strips now q plan bare level first around := by
  induction h with
  | table hfrom hl hc =>
    exact ⟨_, _, _, _, rfl, ⟨_, hl⟩, .engine _,
      .table hfrom (levelOf_unfinished hl) ((checkEngine_unfinished _).trans hc)⟩
  | subquery hfrom hinner hl hc _ =>
    exact ⟨_, _, _, _, rfl, ⟨_, hl⟩, .around _,
      .subquery hfrom hinner (levelOf_unfinished hl) ((checkOuter_unfinished _ _).trans hc)⟩
  | @parenthesized _ _ order limit q plan _ ih =>
    obtain ⟨bare, level, first, around, hs⟩ := ih
    refine ⟨bare, level, first, around ++ [⟨order, limit⟩], ?_, hs.binds, hs.plans, hs.bare.parenthesized⟩
    rw [clausesAround, clausesWithin, hs.clauses, List.cons_append]

/-- **Every accepted query is accepted without its clauses**, and its plan keeps of them what stands next to the
SELECT. -/
theorem planOf_stripped {now : Int} (q : Sql.Query) {plan : Plan} (h : planOf now q = .ok plan) :
    ∃ bare level first around, Strips now q plan bare level first around :=
  (planOf_eq_ok_iff.1 h).strips

end Query
end FacetSql
