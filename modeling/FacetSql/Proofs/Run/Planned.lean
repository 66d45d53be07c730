import FacetSql.Run
import FacetSql.Proofs.Query.Planned
/-!
# Planned — a bound query runs as its plan does

A bound query is taken apart into its levels, and what is done with each of them hangs on its kind.  For the query that
a plan is, nested, nothing of that is left to chance: the innermost level is sent, every other is computed, and the run
is the run of the plan (`runBound_nested`).  So a query that is accepted runs as its plan does, and one that is not has
no request.
-/
namespace FacetSql.Run

open Query

theorem kind_innermost (plan : Plan) :
    plan.nested.innermost.kind = if plan.engine.isAggregation then .aggregation else .search := by
  rw [plan.innermost_nested]
  rfl

theorem bodyFor_innermost (session : Session) (plan : Plan) :
    Request.bodyFor session plan.nested.innermost = Request.bodyOf session plan.engine := by
  rw [Request.bodyFor, kind_innermost, plan.innermost_nested]
  cases plan.engine.isAggregation <;> rfl

theorem ofBound_innermost (session : Session) (plan : Plan) :
    Request.ofBound session plan.nested.innermost = Request.ofPlan session plan := by
  unfold Request.ofBound Request.ofPlan
  rw [bodyFor_innermost, plan.innermost_nested]

theorem fetchedTable_innermost (plan : Plan) (response : Json) :
    fetchedTable plan.nested.innermost response = tableOf plan.engine response := by
  rw [fetchedTable, kind_innermost, plan.innermost_nested]
  cases plan.engine.isAggregation <;> rfl

/-- **A plan, nested, runs as the plan.** -/
theorem runBound_nested (session : Session) (engine : Engine) (plan : Plan) :
    runBound session engine plan.nested = runPlan session engine plan := by
  obtain ⟨rest, hlevels, houter, -⟩ := plan.exists_levels_nested
  have hlevel : plan.nested.innermost.level = plan.engine := by rw [plan.innermost_nested]
  simp only [runBound, hlevels, ofBound_innermost, fetchedTable_innermost, houter, hlevel, runPlan, resultOf]

section

variable {session : Session} {now : Int} {q : Sql.Query}

/-- **An accepted query runs as its plan.** -/
theorem runStatement_of_planOf {plan : Plan} (h : planOf now q = .ok plan) (engine : Engine) :
    runStatement session now engine (.query q) = runPlan session engine plan := by
  rw [runStatement, (planOf_eq_ok_iff.1 h).boundOf]
  exact runBound_nested session engine plan

/-- **A query that is not accepted sends nothing.** -/
theorem runStatement_of_boundOf_error {e : Failure} (h : boundOf now q = .error e) (engine : Engine) :
    runStatement session now engine (.query q) = ⟨[], .error e⟩ := by
  rw [runStatement, h]

end

end FacetSql.Run
