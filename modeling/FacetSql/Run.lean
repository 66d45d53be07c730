import FacetSql.Sql.Parser
import FacetSql.Request.Basic
import FacetSql.Answer.Hits
import FacetSql.Answer.Rows
import FacetSql.Reduction.Level
/-!
# Run — from a statement to its result

The engine is a function from requests to replies, so a run is a function too.  One request is sent for a statement,
whatever is nested in it; the levels around are computed from its answer.  `EXPLAIN` sends nothing and tells what would
be sent.
-/
namespace FacetSql

/-- **What comes back for a request.** -/
inductive Reply where
  | answered (response : Json)
  | failed (reason : String)
  | silent

/-- An engine. -/
abbrev Engine := Request → Reply

/-- **What a statement comes to**: the requests that were sent, and the table or the reason there is none. -/
structure Outcome where
  requests : List Request
  result : Except Failure Table

namespace Run

/-- The response of a reply. -/
def responseOf (session : Session) : Reply → Except Failure Json
  | .answered response => .ok response
  | .failed reason => .error (.engine reason)
  | .silent => .error (.timeout session.timeout)

/-- **The rows of the engine's level** from its response. -/
def rowsOf (level : Level) (response : Json) : Except Failure (List Row) :=
  if level.isAggregation then do
    Answer.treeRows level.heading (← Answer.Tree.ofResponse response)
  else Answer.hitRows level.heading response

/-- The table of the engine's level. -/
def tableOf (level : Level) (response : Json) : Except Failure Table := do
  Table.ofRows level.heading (← rowsOf level response)

/-- **Sorts a table and cuts it off** as its level says. -/
def finish (level : Level) (t : Table) : Table :=
  let sorted := match level.order with
    | none => t
    | some order => t.sortBy order.label order.descending
  match level.limit with
  | none => sorted
  | some limit => sorted.truncate limit

/-- The table of a level around another. -/
def outerStep (t : Table) (level : Level) : Except Failure Table := do
  return finish level (← Reduction.apply t level)

/-- **The table of a plan** from the response to its request. -/
def resultOf (plan : Plan) (response : Json) : Except Failure Table := do
  plan.outer.foldlM outerStep (finish plan.engine (← tableOf plan.engine response))

/-- **Runs a plan**, as its bound query is run (`runBound_nested`). -/
def runPlan (session : Session) (engine : Engine) (plan : Plan) : Outcome :=
  match Request.ofPlan session plan with
  | .error e => ⟨[], .error e⟩
  | .ok request => ⟨[request], do resultOf plan (← responseOf session (engine request))⟩

/-- The table of a bound query that was sent. -/
def fetchedTable (q : BoundQuery) (response : Json) : Except Failure Table :=
  match q.kind with
  | .search | .aggregation => tableOf q.level response
  | .reduction => .error (.compile .notSent)

/-- **Runs a bound query**: the innermost of its levels is sent, and the others are computed around its table. -/
def runBound (session : Session) (engine : Engine) (q : BoundQuery) : Outcome :=
  match q.levels with
  | [] => ⟨[], .error (.compile .noLevels)⟩
  | sent :: around =>
    match Request.ofBound session sent with
    | .error e => ⟨[], .error e⟩
    | .ok request =>
      ⟨[request], do
        let t ← fetchedTable sent (← responseOf session (engine request))
        (around.map (·.level)).foldlM outerStep (finish sent.level t)⟩

/-- What is told of a level that is sent. -/
def requestStep (index : Option String) (body : Json) : Json :=
  .ofMembers [("index", (index.map .text).getD .null), ("request", body)]

/-- What is told of a level computed here. -/
def levelStep (level : Level) : Json :=
  .ofMembers [("pipeline", .ofMembers [
    ("columns", .array (level.heading.columns.map (fun c => .text c.label))),
    ("groupBy", .array (level.groupBy.map (fun c => .text c.label)))])]

/-- What is told of a level, by its kind. -/
def stepOf (session : Session) (q : BoundQuery) : Except Failure Json :=
  match q.kind with
  | .reduction => .ok (levelStep q.level)
  | .search | .aggregation => do return requestStep q.index (← Request.bodyFor session q)

/-- **A table of one text.** -/
def explanation (steps : List Json) : Except Failure Table := do
  Table.ofRows (← Heading.empty.add (.plain "Explanation")) [[.text (Json.array steps).pretty]]

/-- **Explains a bound query**, level by level from the inside outwards. -/
def explainBound (session : Session) (q : BoundQuery) : Except Failure Table := do
  explanation (← q.levels.mapM (stepOf session))

/-- The failure that shows a statement, which needs a text for it. -/
def failureAbout (fault : String → Unsupported) (s : Sql.Statement) : Failure :=
  match s.render with
  | some written => .unsupported (fault written)
  | none => .unwritten

/-- **Explains a statement**, which has to be a query. -/
def explainStatement (session : Session) (now : Int) : Sql.Statement → Except Failure Table
  | .query q => do explainBound session (← Query.boundOf now q)
  | s => .error (failureAbout .explained s)

/-- **Explains a text.**  The word `EXPLAIN` in front of it changes nothing. -/
def explain (session : Session) (now : Int) (sql : String) : Except Failure Table := do
  match ← Sql.readStatement sql with
  | .explain _ s => explainStatement session now s
  | s => explainStatement session now s

/-- **Runs a statement.** -/
def runStatement (session : Session) (now : Int) (engine : Engine) : Sql.Statement → Outcome
  | .query q =>
    match Query.boundOf now q with
    | .error e => ⟨[], .error e⟩
    | .ok bound => runBound session engine bound
  | .explain _ s => ⟨[], explainStatement session now s⟩
  | s => ⟨[], .error (failureAbout .statement s)⟩

/-- **Runs a text** of one statement.  `now` is the clock in milliseconds. -/
def execute (session : Session) (now : Int) (engine : Engine) (sql : String) : Outcome :=
  match Sql.readStatement sql with
  | .error e => ⟨[], .error e⟩
  | .ok s => runStatement session now engine s

end Run
end FacetSql
