import FacetSql.Proofs.Query.Clauses
import FacetSql.Proofs.Run.Finished
/-!
# Honoured — which ORDER BY and LIMIT a run honours

Every ORDER BY and LIMIT should be honoured, those of a query in parentheses and then those around it (`Honours`).  A
run honours the clauses next to the SELECT, and of its ORDER BY the first key; clauses outside parentheses and further
keys are dropped without a word (`honours_iff`).  A subquery in FROM is a query of its own, of which the same is true.
-/
namespace FacetSql

namespace Query

/-- The table sorted by a key of ORDER BY, or as it is if the key is no column. -/
def sortedBy (now : Int) (key : Sql.SortKey) (t : Table) : Table :=
  match columnOf now key.key with
  | .ok c => t.sortBy c.label (key.descending == some true)
  | .error _ => t

/-- **What clauses ask of a table**: to be sorted by the first key, rows alike in it by the next, and so on, and then
to be cut off. -/
def Clauses.applied (now : Int) (c : Clauses) (t : Table) : Table :=
  let sorted := c.order.foldr (sortedBy now) t
  match c.limit.map limitOf with
  | some (.ok limit) => sorted.truncate limit
  | _ => sorted

/-- What clauses ask for from the inside outwards. -/
def appliedAll (now : Int) (cs : List Clauses) (t : Table) : Table := cs.foldl (fun t c => c.applied now t) t

/-- The clauses without the keys behind the first. -/
def Clauses.leading (c : Clauses) : Clauses := ⟨c.order.take 1, c.limit⟩

theorem length_rows_sortedBy (now : Int) (key : Sql.SortKey) (t : Table) :
    (sortedBy now key t).rows.length = t.rows.length := by
  unfold sortedBy
  split
  · exact t.length_rows_sortBy _ _
  · rfl

theorem length_rows_sorted (now : Int) (order : List Sql.SortKey) (t : Table) :
    (order.foldr (sortedBy now) t).rows.length = t.rows.length := by
  induction order with
  | nil => rfl
  | cons key order ih => rw [List.foldr_cons, length_rows_sortedBy, ih]

theorem Clauses.length_applied (now : Int) (c : Clauses) (t : Table) : (c.applied now t).rows.length ≤ t.rows.length ∧
    ∀ e limit, c.limit = some e → limitOf e = .ok limit → (c.applied now t).rows.length ≤ limit := by
  have hsorted : (c.order.foldr (sortedBy now) t).rows.length = t.rows.length := length_rows_sorted now c.order t
  unfold applied
  dsimp only
  split
  · rename_i limit hlimit
    have hlength := Table.length_rows_truncate (c.order.foldr (sortedBy now) t) limit
    refine ⟨by omega, fun e n he hn => ?_⟩
    rw [he, Option.map_some, hn] at hlimit
    cases hlimit
    omega
  · rename_i hno
    refine ⟨Nat.le_of_eq hsorted, fun e n he hn => ?_⟩
    exact absurd (by rw [he, Option.map_some, hn]) (hno n)

/-- **All clauses together leave at most as many rows as each LIMIT says.** -/
theorem length_appliedAll (now : Int) (cs : List Clauses) (t : Table) :
    (appliedAll now cs t).rows.length ≤ t.rows.length ∧ ∀ c ∈ cs, ∀ e limit, c.limit = some e →
      limitOf e = .ok limit → (appliedAll now cs t).rows.length ≤ limit := by
  induction cs generalizing t with
  | nil => exact ⟨Nat.le_refl _, fun c hc => absurd hc List.not_mem_nil⟩
  | cons first cs ih =>
    obtain ⟨hfewer, hlimits⟩ := ih (first.applied now t)
    obtain ⟨hfirst, hlimit⟩ := first.length_applied now t
    refine ⟨Nat.le_trans hfewer hfirst, fun c hc e limit he hl => ?_⟩
    rcases List.mem_cons.1 hc with rfl | hc
    · exact Nat.le_trans hfewer (hlimit e limit he hl)
    · exact hlimits c hc e limit he hl

theorem appliedAll_of_empty (now : Int) {cs : List Clauses} (hcs : ∀ c ∈ cs, c = ⟨[], none⟩) (t : Table) :
    appliedAll now cs t = t := by
  induction cs generalizing t with
  | nil => rfl
  | cons c cs ih =>
    obtain ⟨hc, hcs⟩ := List.forall_mem_cons.1 hcs
    rw [appliedAll, List.foldl_cons, hc]
    exact ih hcs t

end Query

namespace Run

open Query

variable {now : Int}

theorem orderOf_cons_eq_ok {h : Heading} {key : Sql.SortKey} {keys : List Sql.SortKey} {order : Option SortOrder}
    (ho : orderOf now h (key :: keys) = .ok order) :
    ∃ c, columnOf now key.key = .ok c ∧ order = some ⟨c.label, key.descending == some true⟩ := by
  obtain ⟨c, hc, ho⟩ := bind_eq_ok_iff.1 ho
  refine ⟨c, hc, ?_⟩
  dsimp only at ho
  split at ho
  · cases ho
  · exact (Except.ok.inj ho).symm

theorem sortedAs_of_orderOf {h : Heading} {keys : List Sql.SortKey} {order : Option SortOrder}
    (ho : orderOf now h keys = .ok order) (t : Table) : sortedAs order t = (keys.take 1).foldr (sortedBy now) t := by
  cases keys with
  | nil =>
    cases ho
    rfl
  | cons key keys =>
    obtain ⟨c, hc, rfl⟩ := orderOf_cons_eq_ok ho
    show _ = sortedBy now key t
    rw [sortedBy, hc]
    rfl

theorem finish_eq_applied {s : Sql.Select} {c : Clauses} {level : Level}
    (h : levelOf now s c.order c.limit = .ok level) (t : Table) : finish level t = c.leading.applied now t := by
  obtain ⟨-, -, -, -, hlimit, horder⟩ := levelOf_eq_ok_iff.1 h
  rw [finish_eq, sortedAs_of_orderOf horder, Clauses.applied]
  dsimp only [Clauses.leading]
  -- what is left is LIMIT, which is a number where the level is bound
  cases hl : c.limit with
  | none =>
    rw [hl] at hlimit
    rw [← Except.ok.inj hlimit]
    rfl
  | some e =>
    rw [hl] at hlimit
    obtain ⟨limit, he, hlimit⟩ := bind_eq_ok_iff.1 hlimit
    rw [← Except.ok.inj hlimit, Option.map_some, he]
    rfl

theorem resultOf_append (index : String) (engine level : Level) (outer : List Level) (response : Json) :
    resultOf ⟨index, engine, outer ++ [level]⟩ response =
      (resultOf ⟨index, engine, outer⟩ response >>= fun t => outerStep t level) := by
  unfold resultOf
  cases tableOf engine response with
  | error e => rfl
  | ok t =>
    show (outer ++ [level]).foldlM outerStep _ = _
    rw [List.foldlM_append]
    simp only [List.foldlM_cons, List.foldlM_nil, bind_pure]
    rfl

/-- **A plan and the plan with its outermost level unfinished run alike** up to that level, whose rows are then
finished. -/
theorem resultOf_of_lastUnfinished {level : Level} {plan bare : Plan} (h : LastUnfinished level plan bare)
    (response : Json) : resultOf plan response = (resultOf bare response).map (finish level) := by
  cases h with
  | engine index =>
    -- neither reading the answer nor computing a level looks at how its rows are finished
    have htable : tableOf level.unfinished response = tableOf level response := rfl
    unfold resultOf
    rw [htable]
    cases tableOf level response <;> rfl
  | around inner =>
    unfold Plan.around
    rw [resultOf_append, resultOf_append]
    cases resultOf ⟨inner.index, inner.engine, inner.outer⟩ response with
    | error e => rfl
    | ok t =>
      show outerStep t level = (outerStep t level.unfinished).map (finish level)
      have happly : Reduction.apply t level.unfinished = Reduction.apply t level := rfl
      unfold outerStep
      rw [happly]
      cases Reduction.apply t level <;> rfl

/-- **The clauses of a query are honoured**: the rows are those of the query without them, sorted and cut off as they
ask for from the inside outwards, and no LIMIT is exceeded. -/
def Honours (now : Int) (q : Sql.Query) (response : Json) : Prop :=
  ∀ plan out, planOf now q = .ok plan → resultOf plan response = .ok out →
    (∀ c ∈ clausesAround q, ∀ e limit, c.limit = some e → limitOf e = .ok limit → out.rows.length ≤ limit) ∧
    ∃ bare t, planOf now (stripped q) = .ok bare ∧ resultOf bare response = .ok t ∧
      out = appliedAll now (clausesAround q) t

section

variable {q : Sql.Query} {plan bare : Plan} {level : Level} {first : Clauses} {around : List Clauses}

/-- **The result of a query is the result without its clauses**, finished as those next to the SELECT ask for. -/
theorem resultOf_eq_map (hs : Strips now q plan bare level first around) (response : Json) :
    resultOf plan response = (resultOf bare response).map (first.leading.applied now) := by
  obtain ⟨s, hlevel⟩ := hs.binds
  rw [resultOf_of_lastUnfinished hs.plans response]
  exact congrArg (fun f => (resultOf bare response).map f) (funext (finish_eq_applied hlevel))

theorem honours_iff_of_strips (hplan : planOf now q = .ok plan) (hs : Strips now q plan bare level first around)
    (response : Json) : Honours now q response ↔ ∀ t, resultOf bare response = .ok t →
      appliedAll now (first :: around) t = first.leading.applied now t := by
  have hrun := resultOf_eq_map hs response
  constructor
  · intro hhonours t ht
    have hout : resultOf plan response = .ok (first.leading.applied now t) := hrun.trans (map_eq_ok_iff.2 ⟨t, ht, rfl⟩)
    obtain ⟨-, bare', t', hbare', ht', heq⟩ := hhonours plan _ hplan hout
    cases (planOf_eq_ok_iff.2 hs.bare).symm.trans hbare'
    cases ht.symm.trans ht'
    rw [heq, hs.clauses]
  · intro hsame plan' out hplan' hout
    cases hplan.symm.trans hplan'
    obtain ⟨t, ht, hfinished⟩ := map_eq_ok_iff.1 (hrun.symm.trans hout)
    have hall : out = appliedAll now (clausesAround q) t := by rw [← hfinished, ← hsame t ht, hs.clauses]
    refine ⟨?_, bare, t, planOf_eq_ok_iff.2 hs.bare, ht, hall⟩
    rw [hall]
    exact (length_appliedAll now (clausesAround q) t).2

end

/-- **A run honours the clauses next to the SELECT, with the first key of ORDER BY, and no others.**  An accepted query
is accepted without its clauses too, and its result is the result without them, finished as these clauses ask for.  So
all clauses are honoured exactly if those outside the parentheses and the further keys change nothing, and they are
whenever there are none. -/
theorem honours_iff {q : Sql.Query} {plan : Plan} (hplan : planOf now q = .ok plan) :
    ∃ bare first around, planOf now (stripped q) = .ok bare ∧ clausesAround q = first :: around ∧ ∀ response,
      resultOf plan response = (resultOf bare response).map (first.leading.applied now) ∧
      (Honours now q response ↔ ∀ t, resultOf bare response = .ok t →
        appliedAll now (first :: around) t = first.leading.applied now t) ∧
      (first.order.length ≤ 1 → (∀ c ∈ around, c = ⟨[], none⟩) → Honours now q response) := by
  obtain ⟨bare, level, first, around, hs⟩ := planOf_stripped q hplan
  refine ⟨bare, first, around, planOf_eq_ok_iff.2 hs.bare, hs.clauses, fun response => ?_⟩
  refine ⟨resultOf_eq_map hs response, honours_iff_of_strips hplan hs response, fun hone hnone => ?_⟩
  rw [honours_iff_of_strips hplan hs response]
  intro t _
  have hleading : first.leading = first := by rw [Clauses.leading, List.take_of_length_le hone]
  rw [hleading]
  exact appliedAll_of_empty now hnone (first.applied now t)

/-- `SELECT a FROM t` with clauses behind it. -/
def selectA (c : Clauses) : Sql.Query :=
  ⟨"", .select ⟨none, "", [.expr (.name ⟨"a", none⟩)], "", [⟨.table [⟨"t", none⟩] "" none "", []⟩], "", none,
    .keys [], ""⟩, c.order, c.limit, ""⟩

/-- `LIMIT 1` -/
def one : Sql.Expr := .literal (.number "1" false)

/-- Two documents, the greater number first. -/
def twoHits : Json :=
  let hit (n : Int) : Json := .object [("_source", .object [("a", .int n)])]
  .object [("hits", .object [("hits", .array [hit 2, hit 1])])]

/-- `SELECT a FROM t ORDER BY a LIMIT 1` is sorted and cut off. -/
theorem honours_sorted_selectA : (planOf 0 (selectA ⟨[⟨.name ⟨"a", none⟩, none, none⟩], one⟩)).isOk = true ∧
    Honours 0 (selectA ⟨[⟨.name ⟨"a", none⟩, none, none⟩], one⟩) twoHits := by
  obtain ⟨plan, hplan⟩ : ∃ plan, planOf 0 (selectA ⟨[⟨.name ⟨"a", none⟩, none, none⟩], one⟩) = .ok plan :=
    ⟨_, by with_unfolding_all rfl⟩
  obtain ⟨bare, first, around, -, hclauses, hrun⟩ := honours_iff hplan
  obtain ⟨rfl, rfl⟩ := List.cons.inj hclauses
  exact ⟨by rw [hplan]; rfl, (hrun twoHits).2.2 (Nat.le_refl 1) (fun c hc => absurd hc List.not_mem_nil)⟩

/-- `(SELECT a FROM t) LIMIT 1` is not cut off. -/
theorem not_honours_limit_outside :
    ¬ Honours 0 ⟨"", .nested (selectA ⟨[], none⟩), [], some one, ""⟩ twoHits := by
  intro hhonours
  obtain ⟨plan, hplan⟩ : ∃ plan, planOf 0 ⟨"", .nested (selectA ⟨[], none⟩), [], some one, ""⟩ = .ok plan :=
    ⟨_, by with_unfolding_all rfl⟩
  have hrows : (match planOf 0 ⟨"", .nested (selectA ⟨[], none⟩), [], some one, ""⟩ with
      | .ok plan =>
        match resultOf plan twoHits with
        | .ok out => out.rows.length == 2
        | .error _ => false
      | .error _ => false) = true := by
    decide +kernel
  rw [hplan] at hrows
  dsimp only at hrows
  split at hrows
  · rename_i out hout
    have hread : limitOf one = .ok 1 := by with_unfolding_all rfl
    have houtside : ⟨[], some one⟩ ∈ clausesAround ⟨"", .nested (selectA ⟨[], none⟩), [], some one, ""⟩ :=
      List.mem_cons_of_mem _ List.mem_cons_self
    have hlimit := (hhonours plan out hplan hout).1 _ houtside one 1 rfl hread
    rw [eq_of_beq hrows] at hlimit
    exact absurd hlimit (by decide)
  · cases hrows

end Run
end FacetSql
