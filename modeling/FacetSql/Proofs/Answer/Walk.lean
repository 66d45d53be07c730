import FacetSql.Answer.Lemmas
import FacetSql.Proofs.Checked
/-!
# Walk — how buckets are walked

A bucket is accepted if it holds metrics only, and then gives a row, or one aggregation with buckets in turn.  `Walk`
says this as a relation between the row in hand, the buckets, their rows, and the row in hand behind them; the buckets
are read exactly as it says (`bucketRows_eq_ok_iff`).  What is read is a walk or one filter (`treeRows_cases`), and what
is not is refused for its shape or a name (`treeRows_fails`).
-/
namespace FacetSql

/-- **A failure for the shape of a tree or a name in it.** -/
def Failure.OfTree : Failure → Prop
  | .shape _ | .unresolvedName _ => True
  | _ => False

namespace Answer

/-- **What a bucket holds if it is accepted**: metrics only, or buckets of one aggregation and nothing else. -/
theorem foldlM_add_eq_ok {ts : List Tree} {found inside : Inside} (h : ts.foldlM Inside.add found = .ok inside) :
    (inside.buckets = none → found.buckets = none ∧ ∃ ms : List (String × Option Float),
      ts = ms.map (fun m => .metric m.1 m.2) ∧ inside.metrics = found.metrics ++ ms) ∧
    (inside.buckets ≠ none → inside.metrics = [] → found.metrics = [] ∧
      (found.buckets ≠ none → ts = []) ∧
      (found.buckets = none → ∃ kind name bs, ts = [.buckets kind name bs])) := by
  induction ts generalizing found with
  | nil =>
    cases h
    exact ⟨fun hb => ⟨hb, [], rfl, (List.append_nil _).symm⟩, fun hb hm => ⟨hm, fun _ => rfl, fun h => absurd h hb⟩⟩
  | cons t ts ih =>
    obtain ⟨next, hadd, h⟩ := bind_eq_ok_iff.1 h
    obtain ⟨hnone, hsome⟩ := ih h
    cases t with
    | filter => cases hadd
    | metric name value =>
      cases hadd
      refine ⟨fun hb => ?_, fun hb hm => ?_⟩
      · obtain ⟨hf, ms, rfl, hms⟩ := hnone hb
        refine ⟨hf, (name, value) :: ms, rfl, ?_⟩
        rw [hms, List.append_assoc, List.singleton_append]
      · exact absurd (hsome hb hm).1 (List.append_ne_nil_of_right_ne_nil _ (List.cons_ne_nil _ _))
    | buckets kind name bs =>
      rw [Inside.add] at hadd
      split at hadd
      · cases hadd
      · rename_i hf
        cases hadd
        refine ⟨fun hb => absurd (hnone hb).1 (Option.some_ne_none _), fun hb hm => ?_⟩
        obtain ⟨hmetrics, hts, -⟩ := hsome hb hm
        refine ⟨hmetrics, fun hne => absurd hf hne, fun _ => ⟨kind, name, bs, ?_⟩⟩
        rw [hts (Option.some_ne_none _)]

theorem foldlM_add_metrics (found : Inside) (metrics : List (String × Option Float)) :
    (metrics.map (fun m => Tree.metric m.1 m.2)).foldlM Inside.add found =
      .ok { found with metrics := found.metrics ++ metrics } := by
  induction metrics generalizing found with
  | nil => simp [pure, Except.pure]
  | cons m ms ih =>
    rw [List.map_cons, List.foldlM_cons]
    refine (ih { found with metrics := found.metrics ++ [(m.1, m.2)] }).trans ?_
    simp

theorem ofTrees_metrics (metrics : List (String × Option Float)) :
    Inside.ofTrees (metrics.map (fun m => Tree.metric m.1 m.2)) = .ok ⟨none, metrics⟩ :=
  foldlM_add_metrics ⟨none, []⟩ metrics

variable {h : Heading}

theorem bucketRows_cons {place : Nat} {row behind after : Row} {b : Bucket} {bs : List Bucket} {rows more : List Row}
    (hb : bucketRow h place row b = .ok (rows, behind)) (hbs : bucketRows h place behind bs = .ok (more, after)) :
    bucketRows h place row (b :: bs) = .ok (rows ++ more, after) := by
  rw [bucketRows, hb]
  show (bucketRows h place behind bs >>= _) = _
  rw [hbs]
  rfl

/-- A bucket with metrics only. -/
theorem bucketRow_metrics {place count : Nat} {row behind : Row} {key : Cell} {metrics : List (String × Option Float)}
    {rows : List Row} (hleaf : leafRow h (row.set place key) count metrics = .ok (rows, behind)) :
    bucketRow h place row ⟨key, count, metrics.map (fun m => .metric m.1 m.2)⟩ =
      .ok (rows, behind.set place .null) := by
  rw [bucketRow, ofTrees_metrics]
  show (leafRow h (row.set place key) count metrics >>= _) = _
  rw [hleaf]
  rfl

/-- A bucket with buckets inside. -/
theorem bucketRow_buckets {place count : Nat} {row behind : Row} {key : Cell} {kind : KeyKind} {name : String}
    {c : Column} {bs : List Bucket} {rows : List Row} (hc : columnOf h name = .ok c)
    (hbs : bucketRows h c.index (row.set place key) bs = .ok (rows, behind)) :
    bucketRow h place row ⟨key, count, [.buckets kind name bs]⟩ = .ok (rows, behind.set place .null) := by
  rw [bucketRow]
  show (nestedRows h (row.set place key) [.buckets kind name bs] >>= _) = _
  rw [nestedRows, hc]
  show (bucketRows h c.index (row.set place key) bs >>= _) = _
  rw [hbs]
  rfl

/-- **A walk over buckets** whose key is at a place: from the row in hand and the buckets to the rows they give and the
row in hand behind them. -/
inductive Walk (h : Heading) : Nat → Row → List Bucket → List Row → Row → Prop where
  | nil (place : Nat) (row : Row) : Walk h place row [] [] row
  | leaf {place count : Nat} {row after : Row} {key : Cell} {metrics : List (String × Option Float)}
      {values : List Write} {bs : List Bucket} {rows : List Row}
      (hvalues : metrics.mapM (fun m => metricWrite h m.1 m.2) = .ok values)
      (rest : Walk h place ((emit (row.set place key) (countWrites h count ++ values)).2.set place .null) bs rows
        after) :
      Walk h place row (⟨key, count, metrics.map (fun m => .metric m.1 m.2)⟩ :: bs)
        (written (row.set place key) (countWrites h count ++ values) :: rows) after
  | nested {place count : Nat} {row behind after : Row} {key : Cell} {kind : KeyKind} {name : String} {c : Column}
      {below bs : List Bucket} {rows more : List Row} (hc : columnOf h name = .ok c)
      (inner : Walk h c.index (row.set place key) below rows behind)
      (rest : Walk h place (behind.set place .null) bs more after) :
      Walk h place row (⟨key, count, [.buckets kind name below]⟩ :: bs) (rows ++ more) after

theorem Walk.append {place : Nat} {row between after : Row} {bs more : List Bucket} {rows rows' : List Row}
    (hw : Walk h place row bs rows between) (hmore : Walk h place between more rows' after) :
    Walk h place row (bs ++ more) (rows ++ rows') after := by
  induction hw with
  | nil => exact hmore
  | leaf hvalues _ ih => exact .leaf hvalues (ih hmore)
  | nested hc inner _ _ ih =>
    rw [List.append_assoc]
    exact .nested hc inner (ih hmore)

theorem bucketRows_of_walk {place : Nat} {row after : Row} {bs : List Bucket} {rows : List Row}
    (hw : Walk h place row bs rows after) : bucketRows h place row bs = .ok (rows, after) := by
  induction hw with
  | nil => rfl
  | @leaf place count row _ key metrics values _ _ hvalues _ ih =>
    have hleaf : leafRow h (row.set place key) count metrics =
        .ok (emit (row.set place key) (countWrites h count ++ values)) := by
      rw [leafRow, hvalues]
      rfl
    exact bucketRows_cons (bucketRow_metrics hleaf) ih
  | nested hc _ _ ihinner ih => exact bucketRows_cons (bucketRow_buckets hc ihinner) ih

mutual

theorem walk_of_bucketRows : ∀ (bs : List Bucket) {place : Nat} {row after : Row} {rows : List Row},
    bucketRows h place row bs = .ok (rows, after) → Walk h place row bs rows after
  | [], _, _, _, _, hok => by
    cases hok
    exact .nil _ _
  | b :: bs, place, row, after, rows, hok => by
    rw [bucketRows] at hok
    obtain ⟨first, hfirst, hok⟩ := bind_eq_ok_iff.1 hok
    obtain ⟨rest, hrest, hok⟩ := bind_eq_ok_iff.1 hok
    cases hok
    exact (walk_of_bucketRow b hfirst).append (walk_of_bucketRows bs hrest)

theorem walk_of_bucketRow : ∀ (b : Bucket) {place : Nat} {row after : Row} {rows : List Row},
    bucketRow h place row b = .ok (rows, after) → Walk h place row [b] rows after
  | ⟨key, count, children⟩, place, row, after, rows, hok => by
    rw [bucketRow] at hok
    obtain ⟨inside, hinside, hok⟩ := bind_eq_ok_iff.1 hok
    obtain ⟨out, hout, hok⟩ := bind_eq_ok_iff.1 hok
    cases hok
    obtain ⟨hmetrics, hbuckets⟩ := foldlM_add_eq_ok hinside
    -- metrics only, one aggregation only, or both, which is refused
    split at hout
    · rename_i hnone
      obtain ⟨-, ms, rfl, hms⟩ := hmetrics hnone
      rw [hms, List.nil_append] at hout
      obtain ⟨values, hvalues, hout⟩ := bind_eq_ok_iff.1 hout
      cases hout
      exact .leaf hvalues (.nil _ _)
    · rename_i hsome hempty
      have hne : inside.buckets ≠ none := by rw [hsome]; exact nofun
      obtain ⟨kind, name, bs, hchildren⟩ := (hbuckets hne hempty).2.2 rfl
      obtain ⟨c, hc, hinner⟩ := walk_of_nestedRows children hchildren hout
      rw [hchildren, ← List.append_nil out.1]
      exact .nested hc hinner (.nil _ _)
    · cases hout

theorem walk_of_nestedRows : ∀ (ts : List Tree) {row after : Row} {rows : List Row} {kind : KeyKind} {name : String}
    {bs : List Bucket}, ts = [.buckets kind name bs] → nestedRows h row ts = .ok (rows, after) →
    ∃ c, columnOf h name = .ok c ∧ Walk h c.index row bs rows after
  | [], _, _, _, _, _, _, he, _ => by cases he
  | .buckets _ _ bs :: _, row, _, _, _, _, _, he, hok => by
    cases he
    rw [nestedRows] at hok
    obtain ⟨c, hc, hok⟩ := bind_eq_ok_iff.1 hok
    exact ⟨c, hc, walk_of_bucketRows bs hok⟩
  | .filter .. :: _, _, _, _, _, _, _, he, _ => by cases he
  | .metric .. :: _, _, _, _, _, _, _, he, _ => by cases he

end

/-- **Buckets are read exactly as they are walked.** -/
theorem bucketRows_eq_ok_iff {place : Nat} {row after : Row} {bs : List Bucket} {rows : List Row} :
    bucketRows h place row bs = .ok (rows, after) ↔ Walk h place row bs rows after :=
  ⟨walk_of_bucketRows bs, bucketRows_of_walk⟩

/-- **What trees are if they are read**: none, the buckets of a walk, or one filter with metrics. -/
theorem treeRows_cases {ts : List Tree} {rows : List Row} (hok : treeRows h ts = .ok rows) :
    (ts = [] ∧ rows = []) ∨
    (∃ kind name bs c after, ts = [.buckets kind name bs] ∧ columnOf h name = .ok c ∧
      Walk h c.index (Row.blank h.width) bs rows after) ∨
    (∃ name count children values, ts = [.filter name count children] ∧
      children.mapM (filterWrite h) = .ok values ∧
      rows = [written (Row.blank h.width) (countWrites h count ++ values)]) := by
  unfold treeRows at hok
  split at hok
  · cases hok
    exact .inl ⟨rfl, rfl⟩
  · rename_i t
    cases t with
    | metric => cases hok
    | buckets kind name bs =>
      obtain ⟨c, hc, hok⟩ := bind_eq_ok_iff.1 hok
      obtain ⟨out, hout, hok⟩ := bind_eq_ok_iff.1 hok
      cases hok
      exact .inr (.inl ⟨kind, name, bs, c, out.2, rfl, hc, walk_of_bucketRows bs hout⟩)
    | filter name count children =>
      obtain ⟨values, hvalues, hok⟩ := bind_eq_ok_iff.1 hok
      cases hok
      exact .inr (.inr ⟨name, count, children, values, rfl, hvalues, rfl⟩)
  · cases hok

theorem columnOf_fails (name : String) : Ends Failure.OfTree (fun _ => True) (columnOf h name) := by
  unfold columnOf
  split <;> trivial

theorem metricWrite_fails (name : String) (value : Option Float) :
    Ends Failure.OfTree (fun _ => True) (metricWrite h name value) :=
  (columnOf_fails name).bind (fun _ _ => trivial)

theorem ofTrees_fails (ts : List Tree) : Ends Failure.OfTree (fun _ => True) (Inside.ofTrees ts) := by
  refine Ends.foldlM trivial (fun inside _ t _ => ?_)
  unfold Inside.add
  split
  · trivial
  · trivial
  · split <;> trivial

mutual

/-- **Buckets that are not read are refused for their shape or a name.** -/
theorem bucketRows_fails (place : Nat) : ∀ (bs : List Bucket) (row : Row),
    Ends Failure.OfTree (fun _ => True) (bucketRows h place row bs)
  | [], _ => trivial
  | b :: bs, row => by
    rw [bucketRows]
    refine (bucketRow_fails place b row).bind (fun first _ => ?_)
    exact (bucketRows_fails place bs first.2).bind (fun _ _ => trivial)

theorem bucketRow_fails (place : Nat) : ∀ (b : Bucket) (row : Row),
    Ends Failure.OfTree (fun _ => True) (bucketRow h place row b)
  | ⟨key, count, children⟩, row => by
    rw [bucketRow]
    refine (ofTrees_fails children).bind (fun inside _ => Ends.bind ?_ (fun _ (_ : True) => trivial))
    split
    · exact (Ends.mapM (fun m _ => metricWrite_fails m.1 m.2)).bind (fun _ _ => trivial)
    · exact nestedRows_fails children (row.set place key)
    · trivial

theorem nestedRows_fails : ∀ (ts : List Tree) (row : Row), Ends Failure.OfTree (fun _ => True) (nestedRows h row ts)
  | [], _ => trivial
  | .buckets _ name bs :: _, row => by
    rw [nestedRows]
    exact (columnOf_fails name).bind (fun c _ => bucketRows_fails c.index bs row)
  | .filter .. :: ts, row => by
    rw [nestedRows]
    · exact nestedRows_fails ts row
    · exact nofun
  | .metric .. :: ts, row => by
    rw [nestedRows]
    · exact nestedRows_fails ts row
    · exact nofun

end

theorem filterWrite_fails (t : Tree) : Ends Failure.OfTree (fun _ => True) (filterWrite h t) := by
  unfold filterWrite
  split
  · exact metricWrite_fails _ _
  · trivial

theorem treeRows_fails (ts : List Tree) : Ends Failure.OfTree (fun _ => True) (treeRows h ts) := by
  unfold treeRows rootRows
  split
  · trivial
  · split
    · exact (columnOf_fails _).bind (fun c _ => (bucketRows_fails c.index _ _).bind (fun _ _ => trivial))
    · exact (Ends.mapM (fun t _ => filterWrite_fails t)).bind (fun _ _ => trivial)
    · trivial
  · trivial

end Answer
end FacetSql
