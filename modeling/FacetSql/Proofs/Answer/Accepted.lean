import FacetSql.Proofs.Answer.Siblings
/-!
# Accepted — the trees that are read, and their rows

A tree is read if it is of one shape: levels of buckets, one inside the other, with metrics in the innermost alone, or
one filter with metrics, and every name is that of a column (`Accepted`).  Its leaves are the innermost buckets in
depth-first order (`leavesAmong`), and each gives one row (`treeRows_accepts`).
-/
namespace FacetSql

namespace Answer

/-- The name is that of a column. -/
def Resolves (h : Heading) (name : String) : Prop := name ∈ h.aggNames

/-- A metric of a column. -/
def Tree.Measures (h : Heading) : Tree → Prop
  | .metric name _ => Resolves h name
  | _ => False

mutual

/-- **Buckets of one aggregation that are accepted**: its name is that of a column, and each of the buckets is
accepted. -/
inductive Tree.Levels (h : Heading) : Tree → Prop where
  | buckets {kind : KeyKind} {name : String} {bs : List Bucket} (hname : Resolves h name)
      (each : ∀ b ∈ bs, b.Accepted h) : Tree.Levels h (.buckets kind name bs)

/-- **A bucket that is accepted** holds metrics only, or one aggregation with buckets and nothing else. -/
inductive Bucket.Accepted (h : Heading) : Bucket → Prop where
  | innermost {key : Cell} {count : Nat} {children : List Tree} (each : ∀ t ∈ children, t.Measures h) :
      Bucket.Accepted h ⟨key, count, children⟩
  | around {key : Cell} {count : Nat} {t : Tree} (inside : t.Levels h) : Bucket.Accepted h ⟨key, count, [t]⟩

end

/-- **The aggregations of an answer that are accepted**: none, one filter with metrics, or one aggregation with
buckets. -/
inductive Accepted (h : Heading) : List Tree → Prop where
  | none : Accepted h []
  | filter {name : String} {count : Nat} {children : List Tree} (each : ∀ t ∈ children, t.Measures h) :
      Accepted h [.filter name count children]
  | levels {t : Tree} (root : t.Levels h) : Accepted h [t]

/-- **A leaf of a tree**: the buckets on the way to it, itself the last, its documents, and its metrics. -/
structure LeafAt where
  path : List Step
  count : Nat
  metrics : List (String × Option Float)

/-- The metrics among aggregations. -/
def metricsAmong (ts : List Tree) : List (String × Option Float) :=
  ts.filterMap (fun t => match t with
    | .metric name value => some (name, value)
    | _ => none)

/-- The aggregation has buckets. -/
def Tree.hasBuckets : Tree → Bool
  | .buckets .. => true
  | _ => false

mutual

/-- **The leaves of aggregations below a path**, in depth-first order.  A filter is a leaf without a key. -/
def leavesAmong (path : List Step) : List Tree → List LeafAt
  | [] => []
  | .buckets kind name bs :: ts => leavesIn kind name path bs ++ leavesAmong path ts
  | .filter _ count children :: ts => ⟨path, count, metricsAmong children⟩ :: leavesAmong path ts
  | .metric .. :: ts => leavesAmong path ts

/-- **The leaves of buckets**: a bucket without buckets inside is one. -/
def leavesIn (kind : KeyKind) (name : String) (path : List Step) : List Bucket → List LeafAt
  | [] => []
  | ⟨key, count, children⟩ :: bs =>
    (if children.any Tree.hasBuckets then leavesAmong (path ++ [⟨kind, name, key, count⟩]) children
      else [⟨path ++ [⟨kind, name, key, count⟩], count, metricsAmong children⟩]) ++ leavesIn kind name path bs

end

/-- The row has no cells but those of the keys of a path. -/
structure HoldsOnly (h : Heading) (path : List Step) (row : Row) : Prop where
  length : row.length = h.width
  cells : ∀ i, row.cell i = .null ∨ row.cell i = (keysOf h path).cell i

/-- **The row of a leaf**: its key, no other cells than keys of the path to it, and over them its document count and
its metrics. -/
inductive GivenBy (h : Heading) : LeafAt → Row → Prop where
  | row {leaf : LeafAt} {before : Row} {values : List Write} (keys : HoldsOnly h leaf.path before)
      (own : ∀ step c, leaf.path.getLast? = some step → h.byAggName? step.name = some c →
        before.cell c.index = (keysOf h leaf.path).cell c.index)
      (hvalues : leaf.metrics.mapM (fun m => metricWrite h m.1 m.2) = .ok values) :
      GivenBy h leaf (written before (countWrites h leaf.count ++ values))

variable {h : Heading}

theorem resolves_iff {name : String} : Resolves h name ↔ ∃ c, columnOf h name = .ok c := by
  simp only [columnOf_eq_ok_iff, ← Option.isSome_iff_exists]
  simp [Resolves, Heading.byAggName?, Heading.aggNames, List.find?_isSome]

theorem metricsAmong_metrics (metrics : List (String × Option Float)) :
    metricsAmong (metrics.map (fun m => .metric m.1 m.2)) = metrics := by
  rw [metricsAmong, List.filterMap_map]
  exact List.filterMap_some

/-- Aggregations that are metrics of columns. -/
theorem exists_metrics {ts : List Tree} (each : ∀ t ∈ ts, t.Measures h) :
    ∃ metrics : List (String × Option Float), ts = metrics.map (fun m => .metric m.1 m.2) ∧
      ∃ values, metrics.mapM (fun m => metricWrite h m.1 m.2) = .ok values := by
  induction ts with
  | nil => exact ⟨[], rfl, [], rfl⟩
  | cons t ts ih =>
    obtain ⟨ht, hts⟩ := List.forall_mem_cons.1 each
    obtain ⟨metrics, rfl, values, hvalues⟩ := ih hts
    cases t with
    | buckets | filter => exact ht.elim
    | metric name value =>
      obtain ⟨c, hc⟩ := resolves_iff.1 ht
      have hw : metricWrite h name value = .ok (c.index, metricCell c.operator value) := by rw [metricWrite, hc]; rfl
      exact ⟨(name, value) :: metrics, rfl, _, mapM_eq_ok_iff.2 (.cons hw (mapM_eq_ok_iff.1 hvalues))⟩

theorem mapM_filterWrite_metrics (metrics : List (String × Option Float)) :
    (metrics.map (fun m => Tree.metric m.1 m.2)).mapM (filterWrite h) =
      metrics.mapM (fun m => metricWrite h m.1 m.2) := by
  rw [List.mapM_map]
  rfl

theorem measures_of_mapM {ts : List Tree} {values : List Write} (hvalues : ts.mapM (filterWrite h) = .ok values) :
    ∀ t ∈ ts, t.Measures h := by
  intro t ht
  obtain ⟨w, -, hw⟩ := exists_of_mem_right (mapM_eq_ok_iff.1 hvalues).flip ht
  cases t with
  | metric name value =>
    obtain ⟨c, hc, -⟩ := bind_eq_ok_iff.1 hw
    exact resolves_iff.2 ⟨c, hc⟩
  | buckets | filter => cases hw

mutual

/-- **Accepted buckets are walked**, with any row in hand. -/
theorem exists_walk : ∀ (bs : List Bucket), (∀ b ∈ bs, b.Accepted h) → ∀ (place : Nat) (row : Row),
    ∃ rows after, Walk h place row bs rows after
  | [], _, place, row => ⟨[], row, .nil place row⟩
  | b :: bs, each, place, row => by
    obtain ⟨hb, hbs⟩ := List.forall_mem_cons.1 each
    obtain ⟨rows, between, hw⟩ := exists_walk_bucket b hb place row
    obtain ⟨more, after, hmore⟩ := exists_walk bs hbs place between
    exact ⟨rows ++ more, after, hw.append hmore⟩

theorem exists_walk_bucket : ∀ (b : Bucket), b.Accepted h → ∀ (place : Nat) (row : Row),
    ∃ rows after, Walk h place row [b] rows after
  | ⟨key, count, children⟩, hb, place, row => by
    cases hb with
    | innermost each =>
      obtain ⟨metrics, rfl, values, hvalues⟩ := exists_metrics each
      exact ⟨_, _, .leaf hvalues (.nil _ _)⟩
    | @around _ _ t inside =>
      obtain ⟨kind, name, bs, c, rfl, hc, hwalk⟩ := exists_walk_levels [t] rfl inside
      obtain ⟨rows, behind, hw⟩ := hwalk (row.set place key)
      exact ⟨_, _, .nested hc hw (.nil _ _)⟩

theorem exists_walk_levels : ∀ (ts : List Tree) {t : Tree}, ts = [t] → t.Levels h →
    ∃ kind name bs c, t = .buckets kind name bs ∧ columnOf h name = .ok c ∧
      ∀ row, ∃ rows after, Walk h c.index row bs rows after
  | [], _, he, _ => by cases he
  | .buckets kind name bs :: ts, t, he, hl => by
    cases he
    cases hl with
    | buckets hname each =>
      obtain ⟨c, hc⟩ := resolves_iff.1 hname
      exact ⟨kind, name, bs, c, rfl, hc, fun row => exists_walk bs each c.index row⟩
  | .filter .. :: _, _, he, hl => by
    cases he
    cases hl
  | .metric .. :: _, _, he, hl => by
    cases he
    cases hl

end

/-- **What is walked is accepted.** -/
theorem accepted_of_walk {place : Nat} {row after : Row} {bs : List Bucket} {rows : List Row}
    (hw : Walk h place row bs rows after) : ∀ b ∈ bs, b.Accepted h := by
  induction hw with
  | nil => exact fun _ hb => absurd hb List.not_mem_nil
  | leaf hvalues _ ih =>
    rw [← mapM_filterWrite_metrics] at hvalues
    exact List.forall_mem_cons.2 ⟨.innermost (measures_of_mapM hvalues), ih⟩
  | nested hc _ _ ihinner ih =>
    exact List.forall_mem_cons.2 ⟨.around (.buckets (resolves_iff.2 ⟨_, hc⟩) ihinner), ih⟩

section

variable {path : List Step} {row after : Row} {c : Column}

theorem keysOf_concat {step : Step} (hc : h.byAggName? step.name = some c) :
    keysOf h (path ++ [step]) = (keysOf h path).set c.index step.key := by
  rw [keysOf, List.foldl_append]
  show Step.enter h (keysOf h path) step = _
  rw [Step.enter, hc]

theorem holdsOnly_blank (h : Heading) : HoldsOnly h [] (Row.blank h.width) :=
  ⟨Row.length_blank _, fun i => .inl (Row.cell_blank _ i)⟩

theorem HoldsOnly.enter (hr : HoldsOnly h path row) (step : Step) (hc : h.byAggName? step.name = some c) :
    HoldsOnly h (path ++ [step]) (row.set c.index step.key) := by
  refine ⟨List.length_set.trans hr.length, fun i => ?_⟩
  rw [keysOf_concat hc, Row.cell_set, Row.cell_set, hr.length, length_keysOf]
  split
  · exact .inr rfl
  · exact hr.cells i

theorem HoldsOnly.own (hr : HoldsOnly h path row) (step : Step) (hc : h.byAggName? step.name = some c) :
    Row.cell (row.set c.index step.key) c.index = (keysOf h (path ++ [step])).cell c.index := by
  rw [keysOf_concat hc, Row.cell_set, Row.cell_set, hr.length, length_keysOf]
  split
  · rfl
  · -- a place outside the row holds no key
    rename_i hout
    have hle : h.width ≤ c.index := Nat.le_of_not_lt (fun hlt => hout ⟨rfl, hlt⟩)
    rw [Row.cell_of_length_le (hr.length ▸ hle), Row.cell_of_length_le (length_keysOf (h := h) path ▸ hle)]

theorem HoldsOnly.behind (hr : HoldsOnly h path row) {place : Nat} {bs : List Bucket}
    (hl : Leaves h place bs row after) : HoldsOnly h path after := by
  refine ⟨hl.length.trans hr.length, fun i => ?_⟩
  rcases hl.either i with hnull | hkept
  · exact .inl hnull
  · rw [hkept]
    exact hr.cells i

end

theorem any_hasBuckets_metrics (metrics : List (String × Option Float)) :
    (metrics.map (fun m => Tree.metric m.1 m.2)).any Tree.hasBuckets = false := by
  rw [List.any_map]
  exact List.any_eq_false.2 (fun _ _ => Bool.false_ne_true)

/-- **The rows of a walk are those of the leaves**, in their order. -/
theorem givenBy_of_walk {place : Nat} {row after : Row} {bs : List Bucket} {rows : List Row}
    (hw : Walk h place row bs rows after) {kind : KeyKind} {name : String} {c : Column} {path : List Step}
    (hc : h.byAggName? name = some c) (hplace : c.index = place) (hr : HoldsOnly h path row) :
    List.Forall₂ (GivenBy h) (leavesIn kind name path bs) rows := by
  induction hw generalizing kind name c path with
  | nil =>
    rw [leavesIn]
    exact .nil
  | @leaf place count row _ key metrics values _ _ hvalues _ ih =>
    subst hplace
    have hbefore : HoldsOnly h (path ++ [⟨kind, name, key, count⟩]) (row.set c.index key) := hr.enter _ hc
    rw [leavesIn, any_hasBuckets_metrics, metricsAmong_metrics]
    refine .cons (.row hbefore (fun step d hlast hd => ?_) hvalues) (ih hc rfl (hr.behind (leaves_leaf hvalues)))
    rw [List.getLast?_concat] at hlast
    cases hlast
    cases hc.symm.trans hd
    exact hr.own ⟨kind, name, key, count⟩ hc
  | @nested place count _ _ _ key kind' name' d below _ _ _ hd hinner _ ihinner ih =>
    subst hplace
    have hbefore : HoldsOnly h (path ++ [⟨kind, name, key, count⟩]) (List.set _ c.index key) := hr.enter _ hc
    have hbuckets : [Tree.buckets kind' name' below].any Tree.hasBuckets = true := rfl
    rw [leavesIn, if_pos hbuckets, leavesAmong, leavesAmong, List.append_nil]
    have hleaves : Leaves h c.index [⟨key, count, [.buckets kind' name' below]⟩] _ _ := leaves_nested hd hinner.leaves
    exact List.rel_append (ihinner (columnOf_eq_ok_iff.1 hd) rfl hbefore) (ih hc rfl (hr.behind hleaves))

theorem exists_treeRows {ts : List Tree} (ha : Accepted h ts) : ∃ rows, treeRows h ts = .ok rows := by
  cases ha with
  | none => exact ⟨[], rfl⟩
  | @filter name count children each =>
    obtain ⟨metrics, rfl, values, hvalues⟩ := exists_metrics each
    rw [← mapM_filterWrite_metrics] at hvalues
    refine ⟨(emit (Row.blank h.width) (countWrites h count ++ values)).1, ?_⟩
    rw [treeRows, rootRows, hvalues]
    rfl
  | @levels t root =>
    obtain ⟨kind, name, bs, c, rfl, hc, hwalk⟩ := exists_walk_levels [t] rfl root
    obtain ⟨rows, after, hw⟩ := hwalk (Row.blank h.width)
    refine ⟨rows, ?_⟩
    rw [treeRows, rootRows, hc]
    show (bucketRows h c.index (Row.blank h.width) bs >>= _) = _
    rw [bucketRows_of_walk hw]
    rfl

/-- What is read is accepted, and its rows are those of its leaves. -/
theorem accepted_of_treeRows {ts : List Tree} {rows : List Row} (hok : treeRows h ts = .ok rows) :
    Accepted h ts ∧ List.Forall₂ (GivenBy h) (leavesAmong [] ts) rows := by
  rcases treeRows_cases hok with ⟨rfl, rfl⟩ | ⟨kind, name, bs, c, after, rfl, hc, hw⟩ |
    ⟨name, count, children, values, rfl, hvalues, rfl⟩
  · rw [leavesAmong]
    exact ⟨.none, .nil⟩
  · rw [leavesAmong, leavesAmong, List.append_nil]
    exact ⟨.levels (.buckets (resolves_iff.2 ⟨c, hc⟩) (accepted_of_walk hw)),
      givenBy_of_walk hw (columnOf_eq_ok_iff.1 hc) rfl (holdsOnly_blank h)⟩
  · have each := measures_of_mapM hvalues
    obtain ⟨metrics, rfl, -⟩ := exists_metrics each
    rw [mapM_filterWrite_metrics] at hvalues
    rw [leavesAmong, leavesAmong, metricsAmong_metrics]
    refine ⟨.filter each, .cons (.row (holdsOnly_blank h) (fun step c hlast => ?_) hvalues) .nil⟩
    cases hlast

/-- **An answer is read exactly if its tree is accepted; then each leaf gives one row, in depth-first order, and
otherwise the tree is refused for its shape or a name in it.** -/
theorem treeRows_accepts (h : Heading) (ts : List Tree) :
    ((∃ rows, treeRows h ts = .ok rows) ↔ Accepted h ts) ∧
      Ends Failure.OfTree
        (fun rows => rows.length = (leavesAmong [] ts).length ∧ List.Forall₂ (GivenBy h) (leavesAmong [] ts) rows)
        (treeRows h ts) := by
  refine ⟨⟨fun ⟨rows, hok⟩ => (accepted_of_treeRows hok).1, exists_treeRows⟩, ?_⟩
  refine (treeRows_fails ts).of_succeeds (fun rows hok => ?_)
  have hrows := (accepted_of_treeRows hok).2
  exact ⟨hrows.length_eq.symm, hrows⟩

end Answer
end FacetSql
