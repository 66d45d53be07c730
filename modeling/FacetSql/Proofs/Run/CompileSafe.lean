import FacetSql.Answer.Lemmas
import FacetSql.Proofs.Query.Bound
import FacetSql.Proofs.Reduction.Readable
import FacetSql.Proofs.Run.Finished
import FacetSql.Proofs.Run.Fits
import FacetSql.Proofs.Run.Planned
/-!
# CompileSafe — when compile failures come before any request

A compile failure should come before a request is sent, and not depend on the answer.  It does exactly if the levels
around a subquery find all that they read (`compileSafe_iff`): their columns are looked up only after the answer has
come, and only where a row is made.
-/
namespace FacetSql.Run

open Reduction

/-- **The levels around a subquery find all that they read.**  `hasRows` tells whether the subquery may have rows. -/
def LevelsReadable : Heading → Prop → List Level → Prop
  | _, _, [] => True
  | inner, hasRows, level :: levels =>
    LevelReadable inner hasRows level ∧
      LevelsReadable level.heading ((hasRows ∨ level.groupBy = []) ∧ level.limit ≠ some 0) levels

/-- **The levels of a plan find all that they read.** -/
def PlanReadable (plan : Plan) : Prop :=
  LevelsReadable plan.engine.heading (plan.engine.limit ≠ some 0) plan.outer

theorem outerStep_eq_ok {t : Table} {level : Level}
    (hred : level.Reducible)
    (hl : LevelReadable t.heading (t.rows ≠ []) level) :
    ∃ t', outerStep t level = .ok t' ∧ t'.heading = level.heading ∧
      (t'.rows ≠ [] ↔ (t.rows ≠ [] ∨ level.groupBy = []) ∧ level.limit ≠ some 0) := by
  obtain ⟨t', ht, hh, hr⟩ := apply_eq_ok hred hl
  refine ⟨finish level t', ?_, (heading_finish level t').trans hh, ?_⟩
  · rw [outerStep, ht]
    rfl
  · rw [rows_finish_ne_nil_iff, hr]

theorem levelReadable_mono {inner : Heading} {P Q : Prop} {level : Level} (hPQ : P → Q)
    (hl : LevelReadable inner Q level) : LevelReadable inner P level :=
  ⟨hl.1, fun h => hl.2 (h.imp_left hPQ)⟩

/-- **Levels that find all that they read have a table**, whatever the rows of the subquery are. -/
theorem foldlM_outerStep_eq_ok {levels : List Level}
    (hred : ∀ level ∈ levels, level.Reducible) {t : Table}
    {hasRows : Prop} (hrows : t.rows ≠ [] → hasRows) (hl : LevelsReadable t.heading hasRows levels) :
    ∃ t', levels.foldlM outerStep t = .ok t' := by
  induction levels generalizing t hasRows with
  | nil => exact ⟨t, rfl⟩
  | cons level levels ih =>
    obtain ⟨t', ht, hh, hr⟩ := outerStep_eq_ok (hred level List.mem_cons_self) (levelReadable_mono hrows hl.1)
    have hrows' : t'.rows ≠ [] → (hasRows ∨ level.groupBy = []) ∧ level.limit ≠ some 0 :=
      fun h => (hr.1 h).imp_left (Or.imp_left hrows)
    obtain ⟨out, hout⟩ := ih (fun l hm => hred l (List.mem_cons_of_mem _ hm)) hrows' (hh ▸ hl.2)
    exact ⟨out, by rw [List.foldlM_cons, ht]; exact hout⟩

/-- **Levels that do not find all that they read raise a compile failure** over a subquery with all rows it may
have. -/
theorem foldlM_outerStep_misfits {levels : List Level}
    (hred : ∀ level ∈ levels, level.Reducible) {t : Table}
    {hasRows : Prop} (hrows : t.rows ≠ [] ↔ hasRows) (hl : ¬ LevelsReadable t.heading hasRows levels) :
    Misfits (levels.foldlM outerStep t) := by
  induction levels generalizing t hasRows with
  | nil => exact absurd trivial hl
  | cons level levels ih =>
    rw [List.foldlM_cons]
    have hlevel := hred level List.mem_cons_self
    by_cases hfirst : LevelReadable t.heading (t.rows ≠ []) level
    · obtain ⟨t', ht, hh, hr⟩ := outerStep_eq_ok hlevel hfirst
      rw [ht]
      refine ih (fun l hm => hred l (List.mem_cons_of_mem _ hm)) (hr.trans (by rw [hrows])) (fun hrest => ?_)
      exact hl ⟨levelReadable_mono hrows.2 hfirst, hh ▸ hrest⟩
    · exact ((apply_misfits hlevel hfirst).bind _).bind _

theorem reducible_of_bound {plan : Plan} (hb : plan.Bound) : ∀ level ∈ plan.outer, level.Reducible := by
  intro level hm
  obtain ⟨-, condition, hc⟩ := hb.outer level hm
  exact Query.reducible_of_checkOuter hc

/-- **A plan that finds all that it reads raises no compile failure**, whatever the engine answers. -/
theorem resultOf_fits {plan : Plan} (hb : plan.Bound) (hp : PlanReadable plan) (response : Json) :
    Fits (resultOf plan response) := by
  refine (tableOf_fits plan.engine response).bind (fun t ht => ?_)
  have hheading : t.heading = plan.engine.heading := by
    obtain ⟨rows, -, hrows⟩ := bind_eq_ok_iff.1 ht
    rw [(Table.length_of_ofRows hrows).1]
  have hrows := rows_finish_ne_nil_iff plan.engine t
  obtain ⟨out, hout⟩ := foldlM_outerStep_eq_ok (reducible_of_bound hb) (fun h => (hrows.1 h).2)
    ((heading_finish plan.engine t).trans hheading ▸ hp)
  rw [hout]
  exact .ok out

/-- **An answer of one row**, to any request: one bucket for everything, and one document. -/
def oneRow : Json :=
  .object [("aggregations", .object [("filter#", .object [])]), ("hits", .object [("hits", .array [.object []])])]

theorem tableOf_oneRow (level : Level) : ∃ row, tableOf level oneRow = .ok ⟨level.heading, [row]⟩ := by
  have hrows : ∃ row, rowsOf level oneRow = .ok [row] ∧ row.length = level.heading.width := by
    unfold rowsOf
    split
    · refine ⟨_, rfl, ?_⟩
      rw [Answer.length_written]
      exact Row.length_blank _
    · exact ⟨_, rfl, List.length_map _⟩
  obtain ⟨row, hrow, hlen⟩ := hrows
  refine ⟨row, ?_⟩
  rw [tableOf, hrow]
  exact Table.ofRows_of_length (fun r hr => List.mem_singleton.1 hr ▸ hlen)

/-- **A plan that does not find all that it reads raises a compile failure** once the engine answers with a row. -/
theorem resultOf_oneRow_misfits {plan : Plan} (hb : plan.Bound) (hp : ¬ PlanReadable plan) :
    Misfits (resultOf plan oneRow) := by
  obtain ⟨row, ht⟩ := tableOf_oneRow plan.engine
  unfold resultOf
  rw [ht]
  have hrows : (finish plan.engine ⟨plan.engine.heading, [row]⟩).rows ≠ [] ↔ plan.engine.limit ≠ some 0 := by
    rw [rows_finish_ne_nil_iff]
    exact ⟨And.right, fun hlimit => ⟨List.cons_ne_nil _ _, hlimit⟩⟩
  refine foldlM_outerStep_misfits (reducible_of_bound hb) hrows ?_
  rw [heading_finish]
  exact hp

theorem execute_eq_of_request {session : Session} {now : Int} {sql : String} {q : Sql.Query} {plan : Plan}
    {request : Request} (hq : Sql.readStatement sql = .ok (.query q)) (hplan : Query.planOf now q = .ok plan)
    (hrequest : Request.ofPlan session plan = .ok request) (engine : Engine) :
    execute session now engine sql =
      ⟨[request], do resultOf plan (← responseOf session (engine request))⟩ := by
  simp only [execute, hq, runStatement_of_planOf hplan, runPlan, hrequest]

/-- **What a run can come to**: nothing is sent and the engine does not matter, or the one request of a plan is sent. -/
theorem execute_cases (session : Session) (now : Int) (sql : String) :
    (∃ result, ∀ engine, execute session now engine sql = ⟨[], result⟩) ∨
      ∃ q plan request, Sql.readStatement sql = .ok (.query q) ∧ Query.planOf now q = .ok plan ∧
        Request.ofPlan session plan = .ok request := by
  cases hread : Sql.readStatement sql with
  | error e => exact .inl ⟨.error e, fun engine => by simp only [execute, hread]⟩
  | ok s =>
    cases s with
    | query q =>
      cases hplan : Query.planOf now q with
      | error e =>
        have hbound := Query.planOf_eq_error_iff.1 hplan
        exact .inl ⟨.error e, fun engine => by simp only [execute, hread, runStatement_of_boundOf_error hbound]⟩
      | ok plan =>
        cases hrequest : Request.ofPlan session plan with
        | error e =>
          refine .inl ⟨.error e, fun engine => ?_⟩
          simp only [execute, hread, runStatement_of_planOf hplan, runPlan, hrequest]
        | ok request => exact .inr ⟨q, plan, request, rfl, hplan, hrequest⟩
    | explain | explainTable | other | unwritten =>
      exact .inl ⟨_, fun engine => by simp only [execute, hread, runStatement]; rfl⟩

/-- **Compile failures of a text come before any request**, and do not depend on the engine. -/
def CompileSafe (session : Session) (now : Int) (sql : String) : Prop :=
  ∀ engine other : Engine, Misfits (execute session now engine sql).result →
    (execute session now engine sql).requests = [] ∧ Misfits (execute session now other sql).result

/-- **Compile failures come before any request exactly if the levels around subqueries find all that they read**, in
every text that sends a request at all. -/
theorem compileSafe_iff (session : Session) (now : Int) (sql : String) :
    CompileSafe session now sql ↔
      ∀ q plan request, Sql.readStatement sql = .ok (.query q) → Query.planOf now q = .ok plan →
        Request.ofPlan session plan = .ok request → PlanReadable plan := by
  constructor
  · intro hsafe q plan request hq hplan hrequest
    by_contra hp
    -- one row reaches every level that a row can reach, so it shows whatever is not found
    have hrun := execute_eq_of_request hq hplan hrequest
    have hmis : Misfits (execute session now (fun _ => .answered oneRow) sql).result := by
      rw [hrun]
      exact resultOf_oneRow_misfits (Query.planOf_bound q hplan) hp
    have hnone := (hsafe _ (fun _ => .silent) hmis).1
    rw [hrun] at hnone
    cases hnone
  · intro hread engine other hmis
    rcases execute_cases session now sql with ⟨result, hrun⟩ | ⟨q, plan, request, hq, hplan, hrequest⟩
    · rw [hrun] at hmis
      rw [hrun, hrun]
      exact ⟨rfl, hmis⟩
    · have hp := hread q plan request hq hplan hrequest
      rw [execute_eq_of_request hq hplan hrequest] at hmis
      have hfits := (responseOf_fits session (engine request)).bind
        (fun response _ => resultOf_fits (Query.planOf_bound q hplan) hp response)
      exact absurd hmis hfits.not_misfits

/-- A column of the outer SELECT that the inner one does not have is missed only after the request, even if the answer
has no documents. -/
theorem not_compileSafe_of_missing_column : ¬ CompileSafe .standard 0 "SELECT max(nope) FROM (SELECT a FROM t)" := by
  let outcome := execute .standard 0 (fun _ => .answered (.object [])) "SELECT max(nope) FROM (SELECT a FROM t)"
  have hmissed : (match outcome.result with
      | .error (.compile (.columnNotFound "nope")) => true
      | _ => false) = true := by
    decide +kernel
  have hsent : outcome.requests.length = 1 := by decide +kernel
  intro hsafe
  have hmis : Misfits outcome.result := by
    split at hmissed
    · rename_i h
      exact ⟨_, h⟩
    · cases hmissed
  rw [(hsafe _ (fun _ => .silent) hmis).1] at hsent
  cases hsent

end FacetSql.Run
