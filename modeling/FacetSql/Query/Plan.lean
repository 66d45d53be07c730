import FacetSql.Query.Filter
import FacetSql.Query.Grouping
/-!
# Plan — what a query asks for, level by level

A query over a table asks the engine.  A query over a subquery is reduced in memory from the rows of the subquery.  So
a query binds to a level with an index, or to a level around another bound query.  A plan is the same laid flat: the
levels from the inside outwards, one for the engine and any number around it.  What is run is the bound query; that it
has a plan, and runs as its plan does, is a theorem (`boundOf_eq_ok_iff`, `runBound_nested`).

Clauses are bound in a fixed order, and the first that cannot be bound is reported: FROM with everything inside it, the
select list, GROUP BY, WHERE, DISTINCT, LIMIT, ORDER BY; then the level is checked as a whole.  `now` is what the clock
says to every call of `NOW` in the query.
-/
namespace FacetSql

/-- The order of the rows of a level, by the column of a label. -/
structure SortOrder where
  label : String
  descending : Bool

/-- **One level of a query.** -/
structure Level where
  heading : Heading
  groupBy : List Column
  filter : Filter
  distinct : Bool
  limit : Option Nat
  order : Option SortOrder

/-- **The level is answered by buckets and metrics**, not by documents. -/
def Level.isAggregation (level : Level) : Bool :=
  level.distinct || !level.groupBy.isEmpty || level.heading.hasAggregates

/-- **A bound query**: a level, and the index or the bound query that it takes its rows from.  Nothing here keeps it
from having both or neither. -/
structure BoundQuery where
  index : Option String
  level : Level
  inner : Option BoundQuery

/-- How a level comes to its rows: from documents, from buckets, or from the rows of a subquery. -/
inductive LevelKind where
  | search
  | aggregation
  | reduction
  deriving DecidableEq

/-- **A plan**: an index and the level the engine answers from it, then the levels computed in memory. -/
structure Plan where
  index : String
  engine : Level
  outer : List Level

/-- All levels from the inside outwards. -/
def Plan.levels (p : Plan) : List Level := p.engine :: p.outer

/-- The plan of a level around another plan. -/
def Plan.around (p : Plan) (level : Level) : Plan := ⟨p.index, p.engine, p.outer ++ [level]⟩

namespace BoundQuery

/-- **How the outermost level comes to its rows.** -/
def kind (q : BoundQuery) : LevelKind :=
  if q.inner.isSome then .reduction
  else if q.level.isAggregation then .aggregation
  else .search

/-- The query and the queries inside it, each inside the one before. -/
def inwards : BoundQuery → List BoundQuery
  | ⟨index, level, none⟩ => [⟨index, level, none⟩]
  | ⟨index, level, some inner⟩ => ⟨index, level, some inner⟩ :: inner.inwards

/-- **The queries from the inside outwards.** -/
def levels (q : BoundQuery) : List BoundQuery := q.inwards.reverse

/-- **The query with no other inside.** -/
def innermost : BoundQuery → BoundQuery
  | ⟨index, level, none⟩ => ⟨index, level, none⟩
  | ⟨_, _, some inner⟩ => inner.innermost

/-- **The plan of a bound query**, if its innermost level has an index and no other has one. -/
def plan? : BoundQuery → Option Plan
  | ⟨some index, level, none⟩ => some ⟨index, level, []⟩
  | ⟨none, level, some inner⟩ => inner.plan?.map (·.around level)
  | _ => none

end BoundQuery

namespace Query

open Sql

/-- The number of LIMIT. -/
def limitOf : Expr → Except Failure Nat
  | .literal (.number numeral _) =>
    match Numeral.word64.read numeral with
    | .ok n => .ok n.toNat
    | .error _ => .error (.parse (.badLimit numeral))
  | e => .error (.parse (.badLimit e.render))

/-- **The order of a level**: the first key of ORDER BY, which is the label of a column. -/
def orderOf (now : Int) (h : Heading) : List SortKey → Except Failure (Option SortOrder)
  | [] => .ok none
  | key :: _ => do
    let label := (← columnOf now key.key).label
    if (h.byLabel? label).isNone then throw (.compile (.orderByUndefined label))
    return some ⟨label, key.descending == some true⟩

/-- The keys of GROUP BY as written. -/
def writtenKeys : Grouping → Except Failure (List Expr)
  | .all => .error (.unsupported .groupByAll)
  | .keys keys => .ok keys

/-- The filter of WHERE. -/
def conditionOf : Option Expr → Except Failure Filter
  | none => .ok .everything
  | some e => filterOf e

/-- Whether repeated rows are dropped. -/
def distinctOf : Option Distinct → Except Failure Bool
  | none => .ok false
  | some .rows => .ok true
  | some (.on _) => .error (.unsupported .distinctOn)

/-- **Binds the clauses of a level** behind FROM. -/
def levelOf (now : Int) (s : Select) (order : List SortKey) (limit : Option Expr) : Except Failure Level := do
  let heading ← headingOf now s.items
  let groupBy ← groupKeys now heading (← writtenKeys s.grouping)
  let filter ← conditionOf s.condition
  let distinct ← distinctOf s.distinct
  let limit ← limit.mapM limitOf
  return ⟨heading, groupBy, filter, distinct, limit, ← orderOf now heading order⟩

/-- The column can be computed from the rows of a subquery. -/
def isReducible (groupBy : List Column) (c : Column) : Bool :=
  match c.operator with
  | .min | .max | .avg | .growth => true
  | .plain => groupBy.any (fun k => k.index == c.index)
  | _ => false

/-- **Checks a level over a subquery.** -/
def checkOuter (condition : Option Expr) (level : Level) : Except Failure Unit := do
  if condition.isSome then throw (.unsupported .whereOverSubquery)
  match level.heading.columns.find? (fun c => !isReducible level.groupBy c) with
  | some c => throw (.compile (.operationOverSubquery c.label))
  | none =>
    if level.groupBy.any (fun k => k.operator != .plain) then throw (.compile .plainKeysOnly)
    return ()

/-- **Checks a level of the engine.** -/
def checkEngine (level : Level) : Except Failure Unit := do
  match level.heading.columns.find? (fun c => c.operator == .growth) with
  | some c => throw (.compile (.growthOnEngine c.label))
  | none =>
    if level.distinct && level.heading.hasAggregates then throw (.unsupported .distinctWithAggregates)
    return ()

/-- **Checks a bound level** for where it stands. -/
def checkLevel (condition : Option Expr) (q : BoundQuery) : Except Failure Unit :=
  if q.inner.isSome then checkOuter condition q.level else checkEngine q.level

mutual

/-- **Binds a query.** -/
def boundOf (now : Int) : Sql.Query → Except Failure BoundQuery
  | ⟨_, body, order, limit, _⟩ => boundOfBody now order limit body

/-- Binds a body.  A query in parentheses is bound by itself. -/
def boundOfBody (now : Int) (order : List SortKey) (limit : Option Expr) : Body → Except Failure BoundQuery
  | .select s => boundOfSelect now order limit s
  | .nested query => boundOf now query
  | _ => .error (.unsupported .notASelect)

/-- Binds a SELECT. -/
def boundOfSelect (now : Int) (order : List SortKey) (limit : Option Expr) : Select → Except Failure BoundQuery
  | s@⟨_, _, _, _, sources, _, _, _, _⟩ => do
    let (index, inner) ← originOf now sources
    let level ← levelOf now s order limit
    checkLevel s.condition ⟨index, level, inner⟩
    return ⟨index, level, inner⟩

/-- **What FROM names**: the index of one table, or one bound subquery. -/
def originOf (now : Int) : List Joined → Except Failure (Option String × Option BoundQuery)
  | [] => .error (.parse .noSource)
  | [⟨source, []⟩] => originOfSource now source
  | _ => .error (.unsupported .joins)

/-- What a source is. -/
def originOfSource (now : Int) : Source → Except Failure (Option String × Option BoundQuery)
  | .table path _ _ _ => .ok (some (".".intercalate (path.map Name.text)), none)
  | .derived _ query _ => do return (none, some (← boundOf now query))
  | .nested inner asName => .error (.unsupported (.source (Source.nested inner asName).render))
  | .other opening asName closing => .error (.unsupported (.source (Source.other opening asName closing).render))

end

/-- **The plan of a query.** -/
def planOf (now : Int) (q : Sql.Query) : Except Failure Plan := do
  match (← boundOf now q).plan? with
  | some plan => return plan
  | none => throw (.compile .noIndex)

end Query
end FacetSql
