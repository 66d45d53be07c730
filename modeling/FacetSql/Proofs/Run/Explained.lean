import FacetSql.Json.Lemmas
import FacetSql.Proofs.Query.Timeless
import FacetSql.Proofs.Request.Sendable
import FacetSql.Proofs.Run.Planned
/-!
# Explained — EXPLAIN tells what would be sent

A query sends one request, however many levels are computed around its answer.  Its explanation is one text that shows
an array: first that request, then each level around, from the inside outwards (`explain_tells_what_is_sent`).  What is
not accepted is neither sent nor explained, for one and the same reason.

While a query is bound the clock stands still: all calls of `NOW` in it read the same.  But a query is bound once to be
run and once more to be explained, and in between the clock may go on.  So the two go together if the query does not ask
the clock, and if it does as long as the clock says the same both times.
-/
namespace FacetSql.Run

open Query

/-- The labels of columns. -/
def labels (columns : List Column) : Json := .array (columns.map (fun c => .text c.label))

/-- **What is told of a request and of the levels around**: an object with the index and the body, then one for each
level with the labels of its columns and of its keys. -/
def stepsAbout (request : Request) (around : List Level) : List Json :=
  .object [("index", .text request.index), ("request", request.body)] ::
    around.map (fun level => .object [("pipeline", .object [
      ("columns", labels level.heading.columns), ("groupBy", labels level.groupBy)])])

/-- **A table tells of a request and of the levels around**: in one row of one text, under the label `Explanation`. -/
structure Tells (request : Request) (around : List Level) (t : Table) : Prop where
  columns : t.heading.columns.map (fun c => (c.label, c.operator)) = [("Explanation", .plain)]
  rows : t.rows = [[.text (Json.array (stepsAbout request around)).pretty]]

theorem requestStep_eq (index : String) (body : Json) :
    requestStep (some index) body = .object [("index", .text index), ("request", body)] :=
  Json.ofMembers_pair (by decide) _ _

theorem levelStep_eq (level : Level) : levelStep level = .object [("pipeline", .object [
    ("columns", labels level.heading.columns), ("groupBy", labels level.groupBy)])] := by
  have hlabels : Json.ofMembers [("columns", labels level.heading.columns), ("groupBy", labels level.groupBy)] =
      .object [("columns", labels level.heading.columns), ("groupBy", labels level.groupBy)] :=
    Json.ofMembers_pair (by decide) _ _
  rw [← hlabels]
  rfl

theorem exists_explanation (request : Request) (around : List Level) :
    ∃ t, explanation (stepsAbout request around) = .ok t ∧ Tells request around t :=
  ⟨_, rfl, rfl, rfl⟩

theorem columns_ne_nil_of_items {items : List Sql.SelectItem} {now : Int} {h : Heading}
    (hh : headingOf now items = .ok h) (hne : items ≠ []) : h.columns ≠ [] := by
  have hlen : h.columns.length = items.length := length_headingOf hh
  intro hnil
  rw [hnil, List.length_nil] at hlen
  exact hne (List.eq_nil_of_length_eq_zero hlen.symm)

/-- **An accepted query has a body to send**, whatever the session, if its innermost SELECT shows something. -/
theorem bodyOf_eq_ok_of_planOf {now : Int} {q : Sql.Query} {plan : Plan} (hplan : planOf now q = .ok plan)
    (hitems : ∀ s, (selects q).head? = some s → s.items ≠ []) (session : Session) :
    ∃ body, Request.bodyOf session plan.engine = .ok body := by
  obtain ⟨s, rest, hs, hbinds, -⟩ := exists_binds_engine hplan
  have hne : plan.engine.heading.columns ≠ [] :=
    columns_ne_nil_of_items hbinds.heading (hitems s (by rw [hs, List.head?_cons]))
  obtain ⟨hbound, hcheck⟩ := (planOf_bound q hplan).engine
  exact Request.bodyOf_eq_ok hbound (headingOf_countsOnly hbinds.heading) hcheck hne session

section

variable {session : Session} {plan : Plan} {body : Json}

theorem requests_of_bodyOf (hbody : Request.bodyOf session plan.engine = .ok body) (engine : Engine) :
    (runPlan session engine plan).requests = [⟨plan.index, body⟩] := by
  simp only [runPlan, Request.ofPlan, hbody, bind, Except.bind, pure, Except.pure]

/-- **Each level is told of as its kind asks**: the innermost as a request, every other as a level. -/
theorem mapM_stepOf_nested (hbody : Request.bodyOf session plan.engine = .ok body) :
    plan.nested.levels.mapM (stepOf session) = .ok (stepsAbout ⟨plan.index, body⟩ plan.outer) := by
  obtain ⟨rest, hlevels, houter, hkinds⟩ := plan.exists_levels_nested
  rw [hlevels, mapM_eq_ok_iff, stepsAbout, ← houter, List.map_map]
  refine .cons ?_ ?_
  · rw [stepOf, kind_innermost, bodyFor_innermost, hbody, plan.innermost_nested]
    cases plan.engine.isAggregation <;> exact congrArg Except.ok (requestStep_eq plan.index body)
  · rw [List.forall₂_map_right_iff, List.forall₂_same]
    intro q hq
    rw [stepOf, hkinds q hq]
    exact congrArg Except.ok (levelStep_eq q.level)

theorem exists_explainBound (hbody : Request.bodyOf session plan.engine = .ok body) :
    ∃ t, explainBound session plan.nested = .ok t ∧ Tells ⟨plan.index, body⟩ plan.outer t := by
  obtain ⟨t, ht, htells⟩ := exists_explanation ⟨plan.index, body⟩ plan.outer
  refine ⟨t, ?_, htells⟩
  rw [explainBound, mapM_stepOf_nested hbody]
  exact ht

end

/-- **A query is explained as it is run**, if the clock says the same or is not asked.  If it is not accepted, nothing
is sent, and running and explaining it fail alike.  If it is accepted, and its innermost SELECT shows something, then
its innermost level has an index and a body; running it sends that body to that index and nothing else, whatever the
engine and however many levels there are around; and explaining it tells of the same index and body, and then of the
levels around, of which there is one for each subquery, from the inside outwards.  Both walks over its levels find the
same innermost one, and no other is sent.  Texts of the query are run and explained so, with EXPLAIN or without. -/
theorem explain_tells_what_is_sent (session : Session) (q : Sql.Query) (sent told : Int)
    (hclock : readsClock q = true → told = sent) :
    (∀ e, boundOf sent q = .error e →
      (∀ engine, runStatement session sent engine (.query q) = ⟨[], .error e⟩) ∧
        explainStatement session told (.query q) = .error e) ∧
    (∀ bound, boundOf sent q = .ok bound → (∀ s, (selects q).head? = some s → s.items ≠ []) →
      ∃ index body around t, bound.innermost.index = some index ∧
        Request.bodyFor session bound.innermost = .ok body ∧
        (∀ engine, (runStatement session sent engine (.query q)).requests = [⟨index, body⟩]) ∧
        explainStatement session told (.query q) = .ok t ∧ Tells ⟨index, body⟩ around t ∧
        around.length = depth q ∧ List.Forall₂ (Binds sent) (selects q).tail around ∧
        ∃ rest, bound.levels = bound.innermost :: rest ∧ rest.map (·.level) = around ∧
          ∀ outer ∈ rest, outer.kind = .reduction) ∧
    ∀ now sql,
      (Sql.readStatement sql = .ok (.query q) →
        (∀ engine, execute session now engine sql = runStatement session now engine (.query q)) ∧
          explain session now sql = explainStatement session now (.query q)) ∧
      ∀ opening, Sql.readStatement sql = .ok (.explain opening (.query q)) →
        (∀ engine, execute session now engine sql = ⟨[], explainStatement session now (.query q)⟩) ∧
          explain session now sql = explainStatement session now (.query q) := by
  have htold : boundOf told q = boundOf sent q := boundOf_congr hclock
  refine ⟨fun e he => ⟨runStatement_of_boundOf_error he, ?_⟩, fun bound hbound hitems => ?_,
    fun now sql => ⟨fun hsql => ?_, ?_⟩⟩
  · rw [explainStatement, htold, he]
    rfl
  · obtain ⟨plan, hplans, rfl⟩ := boundOf_eq_ok_iff.1 hbound
    have hplan : planOf sent q = .ok plan := planOf_eq_ok_iff.2 hplans
    obtain ⟨body, hbody⟩ := bodyOf_eq_ok_of_planOf hplan hitems session
    obtain ⟨t, ht, htells⟩ := exists_explainBound hbody
    obtain ⟨s, ss, hs, -, haround⟩ := exists_binds_engine hplan
    refine ⟨plan.index, body, plan.outer, t, ?_, ?_, fun engine => ?_, ?_, htells, length_outer_eq_depth hplan, ?_,
      plan.exists_levels_nested⟩
    · rw [plan.innermost_nested]
    · rw [bodyFor_innermost, hbody]
    · rw [runStatement_of_planOf hplan, requests_of_bodyOf hbody]
    · rw [explainStatement, htold, hbound]
      exact ht
    · rw [hs, List.tail_cons]
      exact haround
  · exact ⟨fun engine => by simp only [execute, hsql], by simp only [explain, hsql, bind, Except.bind]⟩
  · intro opening hsql
    exact ⟨fun engine => by simp only [execute, hsql, runStatement], by simp only [explain, hsql, bind, Except.bind]⟩

/-- `SELECT MAX(n) FROM (SELECT DISTINCT a AS n FROM t)` -/
def maxOfDistinct : Sql.Query :=
  let inner : Sql.Query := ⟨"", .select ⟨some .rows, "", [.aliased (.name ⟨"a", none⟩) ⟨"n", none⟩], "",
    [⟨.table [⟨"t", none⟩] "" none "", []⟩], "", none, .keys [], ""⟩, [], none, ""⟩
  ⟨"", .select ⟨none, "", [.expr (.call ⟨[⟨"MAX", none⟩], false, false, [.expr (.name ⟨"n", none⟩)], "", ""⟩)], "",
    [⟨.derived false inner none, []⟩], "", none, .keys [], ""⟩, [], none, ""⟩

/-- The body that asks for the values of `a`. -/
def distinctA : Json :=
  .object [("aggs", .object [("n", .object [("terms", .object [("field", .text "a"), ("size", .int 10000)])])]),
    ("query", .object [("match_all", .object [])]), ("size", .int 0)]

/-- Two SELECTs, one request, and two steps that tell of them, whatever the clock says. -/
theorem explain_tells_maxOfDistinct :
    readsClock maxOfDistinct = false ∧ depth maxOfDistinct = 1 ∧ ∃ t,
      (∀ engine, (runStatement .standard 0 engine (.query maxOfDistinct)).requests = [⟨"t", distinctA⟩]) ∧
      explainStatement .standard 86400000 (.query maxOfDistinct) = .ok t ∧ t.rows = [[.text ("\n".intercalate [
        "[", "  \x7b", "    \"index\": \"t\",", "    \"request\": \x7b", "      \"aggs\": \x7b", "        \"n\": \x7b",
        "          \"terms\": \x7b", "            \"field\": \"a\",", "            \"size\": 10000", "          \x7d",
        "        \x7d", "      \x7d,", "      \"query\": \x7b", "        \"match_all\": \x7b\x7d", "      \x7d,",
        "      \"size\": 0", "    \x7d", "  \x7d,", "  \x7b", "    \"pipeline\": \x7b", "      \"columns\": [",
        "        \"max(n)\"", "      ],", "      \"groupBy\": []", "    \x7d", "  \x7d", "]"])]] := by
  obtain ⟨bound, hbound, hindex, hbody, hlabels⟩ : ∃ bound, boundOf 0 maxOfDistinct = .ok bound ∧
      bound.innermost.index = some "t" ∧ Request.bodyFor .standard bound.innermost = .ok distinctA ∧
      (bound.levels.tail.map (·.level)).map (fun level => (labels level.heading.columns, labels level.groupBy)) =
        [(.array [.text "max(n)"], .array [])] :=
    ⟨_, by with_unfolding_all rfl, by with_unfolding_all rfl, by with_unfolding_all rfl, by with_unfolding_all rfl⟩
  have hclock : readsClock maxOfDistinct = false := by decide
  have hitems : ∀ s, (selects maxOfDistinct).head? = some s → s.items ≠ [] := by
    rintro s ⟨⟩
    exact List.cons_ne_nil _ _
  obtain ⟨index, body, around, t, hindex', hbody', hsent, htold, htells, -, -, rest, hlevels, haround, -⟩ :=
    (explain_tells_what_is_sent .standard maxOfDistinct 0 86400000 (fun h => absurd (hclock.symm.trans h) nofun)).2.1
      bound hbound hitems
  cases hindex.symm.trans hindex'
  cases hbody.symm.trans hbody'
  rw [hlevels, List.tail_cons, haround] at hlabels
  obtain ⟨level, rfl, hlevel⟩ := List.map_eq_singleton_iff.1 hlabels
  obtain ⟨hcolumns, hkeys⟩ := Prod.mk.inj hlevel
  refine ⟨hclock, rfl, t, hsent, htold, ?_⟩
  rw [htells.rows, stepsAbout, List.map_cons, List.map_nil, hcolumns, hkeys]
  refine congrArg (fun text => [[Cell.text text]]) ?_
  decide +kernel

end FacetSql.Run
