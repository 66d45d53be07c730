import FacetSql.Proofs.Query.Bound
import FacetSql.Proofs.Reduction.Reduced
import FacetSql.Proofs.Run.Finished
import FacetSql.Proofs.Run.Fits
/-!
# Stages — the tables that a run goes through

A run makes the table of the engine's level, then the table of each level around, each from the finished table before.
Every one of them is sound, whatever the engine answers (`Stage.sound`), and every place that is read in its rows is
that of a column (`ReadsAt.lt_width`).  So no row is ever refused for its width, and no NaN or infinity comes out
(`inShape_of_planOf`).
-/
namespace FacetSql.Run

open Reduction

/-- **A stage of a run**: a level that was reached, its table before it is sorted and cut off, and the levels around it
that are still to come. -/
inductive Stage (plan : Plan) (response : Json) : Level → Table → List Level → Prop where
  | engine {t : Table} (ht : tableOf plan.engine response = .ok t) : Stage plan response plan.engine t plan.outer
  | outer {level next : Level} {t t' : Table} {rest : List Level} (before : Stage plan response level t (next :: rest))
      (ht : apply (finish level t) next = .ok t') : Stage plan response next t' rest

/-- **A place that is read in the rows of a stage**: to sort them, or by the level around for a key, for a column, or
for the axis of a growth curve. -/
inductive ReadsAt (level : Level) (t : Table) : List Level → Nat → Prop where
  | order {order : SortOrder} {c : Column} {rest : List Level} (ho : level.order = some order)
      (hc : t.heading.byLabel? order.label = some c) : ReadsAt level t rest c.index
  | key {next : Level} {rest : List Level} {key : Column} {place : Nat} (hk : key ∈ next.groupBy)
      (hp : readPlace t.heading key = .ok place) : ReadsAt level t (next :: rest) place
  | column {next : Level} {rest : List Level} {c : Column} {place : Nat} (hc : c ∈ next.heading.columns)
      (hp : readPlace t.heading c = .ok place) : ReadsAt level t (next :: rest) place
  | axis {next : Level} {rest : List Level} {c : Column} {place : Nat} {target : Float}
      (hc : c ∈ next.heading.columns) (ha : axisOf t.heading c = .ok (.column place target)) :
      ReadsAt level t (next :: rest) place

section

variable {plan : Plan} {response : Json} {level : Level} {t : Table} {rest : List Level}

theorem Stage.levels (hs : Stage plan response level t rest) : (level :: rest) <:+ plan.levels := by
  induction hs with
  | engine => exact List.suffix_refl _
  | outer _ _ ih => exact (List.suffix_cons _ _).trans ih

/-- **The table of every stage is sound** under the heading of its level. -/
theorem Stage.sound (hs : Stage plan response level t rest) : t.heading = level.heading ∧ t.Sound := by
  induction hs with
  | engine ht => exact (tableOf_ends plan.engine response).of_ok ht
  | @outer level next t t' rest before ht ih => exact (apply_ends (sound_finish level ih.2) next).of_ok ht

theorem bound_of_mem_levels (hb : plan.Bound) (hm : level ∈ plan.levels) : level.Bound := by
  rcases List.mem_cons.1 hm with rfl | hm
  · exact hb.engine.1
  · exact (hb.outer level hm).1

theorem Stage.wellFormed (hb : plan.Bound) (hs : Stage plan response level t rest) : t.heading.WellFormed := by
  rw [hs.sound.1]
  exact (bound_of_mem_levels hb (hs.levels.subset List.mem_cons_self)).heading

theorem ReadsAt.lt_width (hw : t.heading.WellFormed) {place : Nat} (hp : ReadsAt level t rest place) :
    place < t.heading.width := by
  cases hp with
  | order _ hc => exact hw.index_lt (hw.byLabel?_eq_some_iff.1 hc).1
  | key _ hp => exact readPlace_lt hw hp
  | column _ hp => exact readPlace_lt hw hp
  | axis _ ha => exact axisOf_lt hw ha

theorem Stage.exists_last {out : Table} (hs : Stage plan response level t rest)
    (hrun : rest.foldlM outerStep (finish level t) = .ok out) :
    ∃ last made, Stage plan response last made [] ∧ out = finish last made := by
  induction rest generalizing level t with
  | nil =>
    cases hrun
    exact ⟨level, t, hs, rfl⟩
  | cons next rest ih =>
    rw [List.foldlM_cons] at hrun
    obtain ⟨t', hstep, hrun⟩ := bind_eq_ok_iff.1 hrun
    obtain ⟨made, hmade, hstep⟩ := bind_eq_ok_iff.1 hstep
    cases hstep
    exact ih (hs.outer hmade) hrun

theorem exists_stage_of_resultOf {out : Table} (hrun : resultOf plan response = .ok out) :
    ∃ last made, Stage plan response last made [] ∧ out = finish last made := by
  obtain ⟨t, ht, hrun⟩ := bind_eq_ok_iff.1 hrun
  exact (Stage.engine ht).exists_last hrun

end

theorem outerStep_ends {t : Table} (ht : t.Sound) (level : Level) :
    Ends Failure.OfLevel Table.Sound (outerStep t level) :=
  (apply_ends ht level).bind (fun _ hmade => sound_finish level hmade.2)

/-- **A run ends in a sound table**, or for what the answer is or what a level asks for. -/
theorem resultOf_ends (plan : Plan) (response : Json) :
    Ends (fun e => e.OfAnswer ∨ e.OfLevel) Table.Sound (resultOf plan response) := by
  refine ((tableOf_ends plan.engine response).mono (fun _ => .inl) (fun _ => id)).bind (fun t ht => ?_)
  refine Ends.foldlM (sound_finish plan.engine ht.2) (fun t ht level _ => ?_)
  exact (outerStep_ends ht level).mono (fun _ => .inr) (fun _ => id)

theorem runPlan_eq_ok {session : Session} {engine : Engine} {plan : Plan} {t : Table}
    (hrun : (runPlan session engine plan).result = .ok t) : ∃ response, resultOf plan response = .ok t := by
  unfold runPlan at hrun
  split at hrun
  · cases hrun
  · obtain ⟨response, -, hrun⟩ := bind_eq_ok_iff.1 hrun
    exact ⟨response, hrun⟩

/-- **A run that stays in shape**: what it makes on the way and in the end has one cell for each column and finite
floats only, and what it writes and reads are places of columns. -/
structure InShape (plan : Plan) (response : Json) : Prop where
  accepted : resultOf plan response ≠ .error .rowWidth
  result : ∀ out, resultOf plan response = .ok out →
    out.Sound ∧ ∃ last made, Stage plan response last made [] ∧ out = finish last made
  stages : ∀ level t rest, Stage plan response level t rest →
    t.heading = level.heading ∧ t.Sound ∧ (finish level t).heading = level.heading ∧ (finish level t).Sound
  groups : ∀ level t rest, Stage plan response level t rest → ∀ places, ∀ g ∈ groupsOf places (finish level t).rows,
    Table.Sound ⟨t.heading, g.rows⟩
  columns : ∀ level ∈ plan.levels, ∀ c ∈ level.heading.columns, c.index < level.heading.width
  writes : ∀ place, Answer.WritesAt plan.engine.heading place → place < plan.engine.heading.width
  reads : ∀ level t rest, Stage plan response level t rest → ∀ place, ReadsAt level t rest place →
    place < t.heading.width

/-- **Every run of an accepted query stays in shape**, whatever the engine answers, and so does what reaches the
caller. -/
theorem inShape_of_planOf {now : Int} {q : Sql.Query} {plan : Plan} (hplan : Query.planOf now q = .ok plan) :
    (∀ response, InShape plan response) ∧
      ∀ session engine out, (runPlan session engine plan).result = .ok out → out.Sound := by
  have hb : plan.Bound := Query.planOf_bound q hplan
  have hresult : ∀ response out, resultOf plan response = .ok out → out.Sound :=
    fun response out hout => (resultOf_ends plan response).of_ok hout
  refine ⟨fun response => ⟨fun hwidth => ?_, fun out hout => ?_, fun level t rest hs => ?_, ?_, ?_, ?_, ?_⟩, ?_⟩
  · have hends := resultOf_ends plan response
    rw [hwidth] at hends
    exact hends.elim id id
  · exact ⟨hresult response out hout, exists_stage_of_resultOf hout⟩
  · obtain ⟨hheading, hsound⟩ := hs.sound
    exact ⟨hheading, hsound, (heading_finish level t).trans hheading, sound_finish level hsound⟩
  · intro level t rest hs places g hg
    rw [← heading_finish level t]
    exact sound_group (sound_finish level hs.sound.2) hg
  · exact fun level hm c hc => (bound_of_mem_levels hb hm).heading.index_lt hc
  · exact fun place hp => hp.lt_width hb.engine.1.heading
  · exact fun level t rest hs place hp => hp.lt_width (hs.wellFormed hb)
  · intro session engine out hout
    obtain ⟨response, hout⟩ := runPlan_eq_ok hout
    exact hresult response out hout

/-- `SELECT AVG(n) FROM (SELECT a AS n FROM t)` -/
def meanOfColumn : Sql.Query :=
  let inner : Sql.Query := ⟨"", .select ⟨none, "", [.aliased (.name ⟨"a", none⟩) ⟨"n", none⟩], "",
    [⟨.table [⟨"t", none⟩] "" none "", []⟩], "", none, .keys [], ""⟩, [], none, ""⟩
  ⟨"", .select ⟨none, "", [.expr (.call ⟨[⟨"AVG", none⟩], false, false, [.expr (.name ⟨"n", none⟩)], "", ""⟩)], "",
    [⟨.derived false inner none, []⟩], "", none, .keys [], ""⟩, [], none, ""⟩

/-- Two documents whose numbers are finite, and whose sum is not. -/
def hugePair : Json :=
  let hit : Json := .object [("_source", .object [("a", .float 1e308)])]
  .object [("hits", .object [("hits", .array [hit, hit])])]

/-- The mean of two huge numbers is missing, not infinite. -/
theorem inShape_meanOfColumn : ∃ plan out, Query.planOf 0 meanOfColumn = .ok plan ∧
    (runPlan .standard (fun _ => .answered hugePair) plan).result = .ok out ∧
      out.rows.map (·.map Cell.isNull) = [[true]] ∧ out.Sound ∧ InShape plan hugePair := by
  obtain ⟨plan, hplan⟩ : ∃ plan, Query.planOf 0 meanOfColumn = .ok plan := ⟨_, by with_unfolding_all rfl⟩
  have hrows : (match Query.planOf 0 meanOfColumn with
      | .ok plan =>
        match (runPlan .standard (fun _ => .answered hugePair) plan).result with
        | .ok out => out.rows.map (·.map Cell.isNull) == [[true]]
        | .error _ => false
      | .error _ => false) = true := by
    decide +kernel
  obtain ⟨hshape, hsound⟩ := inShape_of_planOf hplan
  rw [hplan] at hrows
  dsimp only at hrows
  split at hrows
  · rename_i out hout
    exact ⟨plan, out, hplan, hout, by simpa using hrows, hsound _ _ _ hout, hshape _⟩
  · cases hrows

end FacetSql.Run
