import FacetSql.Run
import FacetSql.Table.Lemmas
import FacetSql.Proofs.Answer.Reading
import FacetSql.Proofs.Answer.RowInHand
import FacetSql.Proofs.Answer.Walk
/-!
# RoundTrip — from a request through a conforming answer to rows

Whatever a level asks for, an answer that conforms to it becomes one row for each leaf, in the order of the leaves, and
each row shows its leaf (`tableOf_of_conforms`).  One row in hand serves all leaves: every list of buckets gives it
back as it was (`bucketRows_of_rawLeavesOf`), so no bucket leaves anything for its neighbour.
-/
namespace FacetSql.Answer

open Request

variable {h : Heading}

theorem columnOf_eq_ok (hw : h.WellFormed) {c : Column} (hc : c ∈ h.columns) : columnOf h c.aggName = .ok c := by
  rw [columnOf, hw.byAggName?_eq_some_iff.2 ⟨hc, rfl⟩]

theorem columnOf_key (hw : h.WellFormed) {key : Column} (hk : IsKeyOf h key) :
    ∃ c, columnOf h key.aggName = .ok c ∧ c.index = key.index := by
  obtain ⟨c, hc, hi, hn, -, -⟩ := isGrouping_of_isKeyOf hk
  exact ⟨c, hn ▸ columnOf_eq_ok hw hc, hi⟩

theorem column_of_carries {nodes : List Node} {ms values : List (String × Json)} (hn : Cuts h [] nodes)
    (hc : Carries nodes ms values) {v : String × Json} (hv : v ∈ values) :
    ∃ c ∈ h.columns, c.isMetric = true ∧ c.aggName = v.1 := by
  obtain ⟨each⟩ := hn
  obtain ⟨m, -, metric, field, hnode, -, -⟩ := exists_of_mem_right hc.each hv
  obtain ⟨c, hmem, field', heq⟩ := each _ hnode
  obtain ⟨hcol, hmetric⟩ := List.mem_filter.1 hmem
  exact ⟨c, hcol, hmetric, by injection heq with hname; exact hname.symm⟩

/-- **A value and its write**, into the column of its name. -/
def WritesValue (h : Heading) (v : String × Json) (w : Write) : Prop :=
  ∃ c ∈ h.columns, c.isMetric = true ∧ c.aggName = v.1 ∧ w = (c.index, metricCell c.operator v.2.float?)

theorem metricWrite_eq_ok (hw : h.WellFormed) {nodes : List Node} {ms values : List (String × Json)}
    (hn : Cuts h [] nodes) (hc : Carries nodes ms values) {v : String × Json} (hv : v ∈ values) :
    ∃ w, metricWrite h v.1 v.2.float? = .ok w ∧ WritesValue h v w := by
  obtain ⟨c, hcol, hmetric, hname⟩ := column_of_carries hn hc hv
  refine ⟨(c.index, metricCell c.operator v.2.float?), ?_, c, hcol, hmetric, hname, rfl⟩
  rw [metricWrite, ← hname, columnOf_eq_ok hw hcol]
  rfl

theorem figures_of_writesValue (hw : h.WellFormed) {values : List (String × Json)} {writes : List Write} {count : Nat}
    (hwrites : List.Forall₂ (WritesValue h) values writes) :
    Figures h (signedCount count) values (countWrites h count ++ writes) := by
  refine ⟨fun w hmem => ?_, fun c hc hcount => ?_, fun c hc hmetric value hv => ?_⟩
  · rcases List.mem_append.1 hmem with hmem | hmem
    · obtain ⟨c, hc, rfl⟩ := List.mem_map.1 hmem
      obtain ⟨hcol, hcount⟩ := List.mem_filter.1 hc
      exact ⟨c, hcol, rfl, .inl ⟨hcount, rfl⟩⟩
    · obtain ⟨v, hv, c, hcol, hmetric, hname, rfl⟩ := exists_of_mem_right hwrites hmem
      exact ⟨c, hcol, rfl, .inr ⟨hmetric, v.2, hname ▸ hv, rfl⟩⟩
  · exact List.mem_append_left _ (List.mem_map.2 ⟨c, List.mem_filter.2 ⟨hc, hcount⟩, rfl⟩)
  · obtain ⟨w, hmem, d, hd, -, hname, rfl⟩ := exists_of_mem_right hwrites.flip hv
    have hdc : d = c := by
      have hfound := hw.byAggName?_eq_some_iff.2 ⟨hd, hname⟩
      exact Option.some.inj (hfound.symm.trans (hw.byAggName?_eq_some_iff.2 ⟨hc, rfl⟩))
    subst hdc
    exact List.mem_append_right _ hmem

theorem figures_of_carries (hw : h.WellFormed) {nodes : List Node} {ms values : List (String × Json)} {count : Nat}
    (hn : Cuts h [] nodes) (hc : Carries nodes ms values) :
    ∃ writes, values.mapM (fun v => metricWrite h v.1 v.2.float?) = .ok writes ∧
      Figures h (signedCount count) values (countWrites h count ++ writes) := by
  obtain ⟨writes, hok, hwrites⟩ := mapM_eq_ok_of_forall (fun v hv => metricWrite_eq_ok hw hn hc hv)
  exact ⟨writes, hok, figures_of_writesValue hw hwrites⟩

/-- **The row of a leaf** shows it, and the row in hand is as it was. -/
theorem leafRow_of_carries (hw : h.WellFormed) {nodes : List Node} {ms : List (String × Json)} (leaf : RawLeaf)
    {row : Row} (hn : Cuts h [] nodes) (hkeys : leaf.keys = []) (hc : Carries nodes ms leaf.values)
    (hr : Ready h [] row) :
    ∃ r, leafRow h row leaf.documents (leaf.values.map (fun v => (v.1, v.2.float?))) = .ok ([r], row) ∧
      ShowsRaw h [] row leaf r := by
  obtain ⟨writes, hok, hf⟩ := figures_of_carries hw hn hc
  refine ⟨_, ?_, .of_figures hw hr.length hkeys hc.once hf⟩
  have hmap : (leaf.values.map (fun v => (v.1, v.2.float?))).mapM (fun m => metricWrite h m.1 m.2) = .ok writes := by
    rw [mapM_eq_ok_iff, List.forall₂_map_left_iff, ← mapM_eq_ok_iff]
    exact hok
  rw [leafRow, hmap]
  show Except.ok (emit row (countWrites h leaf.documents ++ writes)) = _
  rw [emit, cleared_figures hr hf]

/-- A bucket of metrics that leaves the row as the key made it leaves it as it was. -/
theorem bucketRow_values {place count : Nat} {row r : Row} {cell : Cell} {values : List (String × Json)}
    (hmiss : row.cell place = .null)
    (hleaf : leafRow h (row.set place cell) count (values.map (fun v => (v.1, v.2.float?))) =
      .ok ([r], row.set place cell)) :
    bucketRow h place row ⟨cell, count, values.map (fun v => .metric v.1 v.2.float?)⟩ = .ok ([r], row) := by
  have hrow := bucketRow_metrics hleaf
  rwa [List.map_map, Row.set_set_null hmiss] at hrow

/-- A bucket around buckets that leave the row as the key made it leaves it as it was. -/
theorem bucketRow_around {place count : Nat} {row : Row} {cell : Cell} {kind : KeyKind} {name : String} {c : Column}
    {bs : List Bucket} {rows : List Row} (hmiss : row.cell place = .null) (hc : columnOf h name = .ok c)
    (hbs : bucketRows h c.index (row.set place cell) bs = .ok (rows, row.set place cell)) :
    bucketRow h place row ⟨cell, count, [.buckets kind name bs]⟩ = .ok (rows, row) := by
  have hrow : bucketRow h place row ⟨cell, count, [.buckets kind name bs]⟩ =
      .ok (rows, (row.set place cell).set place .null) := bucketRow_buckets hc hbs
  rwa [Row.set_set_null hmiss] at hrow

theorem Ready.cell_key {key : Column} {path : List Column} {row : Row} (hs : AreKeys h (key :: path))
    (hr : Ready h (key :: path) row) : row.cell key.index = .null := by
  obtain ⟨c, hc, hi, -⟩ := isGrouping_of_isKeyOf (AreKeys.tail hs).1
  rw [← hi]
  exact hr.missing c hc (.inl (hi ▸ List.mem_cons_self))

/-- **Buckets become one row for each of their leaves**, and the row in hand is given back as it was.  The induction is
on the leaves: an innermost bucket writes its figures and takes them back, a bucket around others writes no more than
its key. -/
theorem bucketRows_of_rawLeavesOf (hw : h.WellFormed) {kind : KeyKind} {nodes : List Node} {items : List Json}
    {leaves : List RawLeaf} (hl : RawLeavesOf kind nodes items leaves) (name : String) {key : Column}
    {path : List Column} {row : Row} (hn : Cuts h path nodes) (hs : AreKeys h (key :: path))
    (hr : Ready h (key :: path) row) :
    ∃ bs rows, Tree.bucketItems kind name items = .ok bs ∧ bucketRows h key.index row bs = .ok (rows, row) ∧
      List.Forall₂ (ShowsRaw h (key :: path) row) leaves rows := by
  induction hl generalizing name key path row with
  | nil kind nodes => exact ⟨[], [], rfl, by rw [bucketRows], .nil⟩
  | @metrics kind nodes ms jkey values items leaves innermost hkey carries _ ih =>
    obtain ⟨bs, rows, hbs, hrows, hshow⟩ := ih name hn hs hr
    cases hn with
    -- with a column left on the path there is an aggregation with buckets inside, not metrics
    | buckets _ hkind _ =>
      rw [innermost _ List.mem_cons_self] at hkind
      cases hkind
    | metrics each =>
      have hr' := hr.enter hw hs (bucketKey kind ms)
      obtain ⟨r, hleaf, hr₁⟩ :=
        leafRow_of_carries hw ⟨[], Json.lookUp "doc_count" ms, values⟩ (.metrics each) rfl carries hr'
      have hitem : Tree.bucketItem kind name (.object ms) = .ok ⟨bucketKey kind ms, documentCount ms, _⟩ :=
        bucketItem_eq_ok (ofMembers_of_carries carries)
      refine ⟨_ :: bs, r :: rows, ?_, bucketRows_cons (bucketRow_values (hr.cell_key hs) hleaf) hrows,
        .cons (hr₁.under hs hr hw ((isKeyCell_iff hkey).2 rfl)) hshow⟩
      rw [Tree.bucketItems, hitem, hbs]
      rfl
  | @buckets kind inner node ms m jkey items below leaves leavesBelow hkey one comes _ _ ihBelow ih =>
    obtain ⟨bs, rows, hbs, hrows, hshow⟩ := ih name hn hs hr
    cases hn with
    | metrics each =>
      obtain ⟨c, -, field, rfl⟩ := each node List.mem_cons_self
      cases comes.1
    | @buckets next rest _ _ hname _ hinside =>
      have hr' := hr.enter hw hs (bucketKey kind ms)
      have hs' := (AreKeys.tail hs).2.2
      -- the buckets below leave the row as the key made it, so clearing the key gives back `row`
      obtain ⟨bsBelow, rowsBelow, hbsBelow, hrowsBelow, hshowBelow⟩ := ihBelow node.name hinside hs' hr'
      obtain ⟨c, hc, hci⟩ := columnOf_key hw (AreKeys.tail hs').1
      have hts : Tree.ofMembers bucketMembers ms = .ok [.buckets inner node.name bsBelow] := by
        rw [ofMembers_eq_mapM, one, mapM_eq_ok_iff]
        exact .cons (ofMember_of_comesBack comes hbsBelow) .nil
      have hrow : bucketRow h key.index row
          ⟨bucketKey kind ms, documentCount ms, [.buckets inner node.name bsBelow]⟩ = .ok (rowsBelow, row) :=
        bucketRow_around (hr.cell_key hs) (hname ▸ hc) (hci.symm ▸ hrowsBelow)
      refine ⟨_ :: bs, rowsBelow ++ rows, ?_, bucketRows_cons hrow hrows, ?_⟩
      · rw [Tree.bucketItems, bucketItem_eq_ok hts, hbs]
        rfl
      · refine List.rel_append ?_ hshow
        rw [List.forall₂_map_left_iff]
        exact hshowBelow.imp (fun _ _ hleaf => hleaf.under hs hr hw ((isKeyCell_iff hkey).2 rfl))

/-- **An answer with buckets becomes one row for each leaf.** -/
theorem rootRows_of_buckets (hw : h.WellFormed) {path : List Column} {node : Node} {kind : KeyKind}
    {items : List Json} {leaves : List RawLeaf} (hs : AreKeys h path) (hn : Cuts h path [node])
    (hkind : node.keyKind? = some kind) (hl : RawLeavesOf kind node.children items leaves) :
    ∃ bs rows, Tree.bucketItems kind node.name items = .ok bs ∧
      rootRows h (.buckets kind node.name bs) = .ok rows ∧
      List.Forall₂ (ShowsRaw h path (Row.blank h.width)) leaves rows := by
  cases hn with
  | metrics each =>
    obtain ⟨c, -, field, rfl⟩ := each node List.mem_cons_self
    exact absurd hkind nofun
  | buckets hname _ hinside =>
    obtain ⟨bs, rows, hbs, hrows, hshow⟩ := bucketRows_of_rawLeavesOf hw hl node.name hinside hs (ready_blank h _)
    obtain ⟨c, hc, hci⟩ := columnOf_key hw (AreKeys.tail hs).1
    refine ⟨bs, rows, hbs, ?_, hshow⟩
    rw [rootRows, hname, hc]
    show ((bucketRows h c.index (Row.blank h.width) bs) >>= _) = _
    rw [hci, hrows]
    rfl

theorem rootRows_of_filter (hw : h.WellFormed) {nodes : List Node} {ms : List (String × Json)} (leaf : RawLeaf)
    (name : String) (hn : Cuts h [] nodes) (hkeys : leaf.keys = []) (hc : Carries nodes ms leaf.values) :
    ∃ r, rootRows h (.filter name leaf.documents (leaf.values.map (fun v => .metric v.1 v.2.float?))) = .ok [r] ∧
      ShowsRaw h [] (Row.blank h.width) leaf r := by
  obtain ⟨writes, hok, hf⟩ := figures_of_carries hw hn hc
  refine ⟨_, ?_, .of_figures hw (Row.length_blank _) hkeys hc.once hf⟩
  have hmap : (leaf.values.map (fun v => Tree.metric v.1 v.2.float?)).mapM (filterWrite h) = .ok writes := by
    rw [mapM_eq_ok_iff, List.forall₂_map_left_iff]
    exact mapM_eq_ok_iff.1 hok
  rw [rootRows, hmap]
  rfl

theorem ofMember_filter {name : String} {nodes : List Node} {ms values : List (String × Json)}
    (hc : Carries nodes (aggregationsAmong filterMembers ms) values) :
    Tree.ofMember ("filter#" ++ name) (.object ms) =
      .ok (.filter name (documentCount ms) (values.map (fun v => .metric v.1 v.2.float?))) := by
  have hsplit : splitKey ("filter#" ++ name) = some ("filter", name) :=
    splitKey_typed (show '#' ∉ "filter".toList by decide) name
  rw [Tree.ofMember, hsplit]
  show (Tree.ofMembers filterMembers ms >>= _) = _
  rw [ofMembers_of_carries hc]
  rfl

/-- **An answer of the shape asked for becomes one row for each leaf.** -/
theorem treeRows_of_shaped {session : Session} {level : Level} {root : Node} {response : Json} {leaves : List RawLeaf}
    (hb : level.Bound) (hroot : rootOf session level = .ok root) (hc : Shaped root response leaves) :
    ∃ ts rows, Tree.ofResponse response = .ok ts ∧ treeRows level.heading ts = .ok rows ∧
      List.Forall₂ (ShowsRaw level.heading (pathOf level) (Row.blank level.heading.width)) leaves rows := by
  rcases rootOf_cuts hroot with ⟨hpath, hn⟩ | ⟨hpath, query, nodes, rfl, hn⟩
  · cases hc with
    | buckets ok root comes inside =>
      obtain ⟨bs, rows, hbs, hrows, hshow⟩ :=
        rootRows_of_buckets hb.heading (areKeys_pathOf hb) hn comes.1 inside
      exact ⟨_, rows, ofResponse_eq_ok ok root (ofMember_of_comesBack comes hbs), hrows, hshow⟩
    | filter =>
      generalize pathOf level = path at hpath hn
      cases hn with
      | metrics => exact absurd rfl hpath
      | buckets _ hkind _ => exact absurd hkind nofun
  · cases hc with
    | buckets _ _ comes => exact absurd comes.1 nofun
    | @filter _ _ _ _ ms values ok root carries =>
      obtain ⟨r, hrows, hshow⟩ := rootRows_of_filter hb.heading ⟨[], Json.lookUp "doc_count" ms, values⟩
        filterName hn rfl carries
      exact ⟨_, [r], ofResponse_eq_ok ok root (ofMember_filter carries), hrows, hpath ▸ .cons hshow .nil⟩

/-- **An answer of the shape asked for becomes a table.** -/
theorem exists_table_of_shaped {session : Session} {level : Level} {root : Node} {response : Json}
    {leaves : List RawLeaf} (hb : level.Bound) (ha : level.isAggregation = true)
    (hroot : rootOf session level = .ok root) (hc : Shaped root response leaves) :
    ∃ rows, Run.tableOf level response = .ok ⟨level.heading, rows⟩ ∧
      List.Forall₂ (ShowsRaw level.heading (pathOf level) (Row.blank level.heading.width)) leaves rows := by
  obtain ⟨ts, rows, hts, hrows, hshow⟩ := treeRows_of_shaped hb hroot hc
  refine ⟨rows, ?_, hshow⟩
  have hwidth : ∀ row ∈ rows, row.length = level.heading.width := by
    intro row hrow
    obtain ⟨leaf, -, hs⟩ := exists_of_mem_right hshow hrow
    rw [hs.length]
    exact Row.length_blank _
  have hrowsOf : Run.rowsOf level response = .ok rows := by
    rw [Run.rowsOf, if_pos ha, hts]
    exact hrows
  rw [Run.tableOf, hrowsOf]
  exact Table.ofRows_of_length hwidth

theorem exists_table_of_conforms {session : Session} {level : Level} {root : Node} {response : Json}
    {leaves : List Leaf} (hb : level.Bound) (ha : level.isAggregation = true)
    (hroot : rootOf session level = .ok root) (hc : Conforms root response leaves) :
    ∃ rows, Run.tableOf level response = .ok ⟨level.heading, rows⟩ ∧
      List.Forall₂ (Shows level.heading (pathOf level) (Row.blank level.heading.width)) leaves rows := by
  obtain ⟨raws, hshaped, hread⟩ := hc.shaped
  obtain ⟨rows, htable, hshow⟩ := exists_table_of_shaped hb ha hroot hshaped
  exact ⟨rows, htable, forall₂_trans (fun _ _ _ hleaf hraw => hraw.shows hleaf) hread.flip hshow⟩

/-- **The round trip of a plan**: what it sends asks for one aggregation, and every answer that conforms to it becomes
a table of one row for each leaf, in the order of the leaves, and each row shows its leaf over a row of missing
cells. -/
theorem tableOf_of_conforms {session : Session} {now : Int} {q : Sql.Query} {plan : Plan} {request : Request}
    (hplan : Query.planOf now q = .ok plan) (ha : plan.engine.isAggregation = true)
    (hrequest : Request.ofPlan session plan = .ok request) :
    ∃ root, rootOf session plan.engine = .ok root ∧
      request = ⟨plan.index, aggregationBody (queryOf plan.engine).toJson root⟩ ∧
      ∀ response leaves, Conforms root response leaves →
        ∃ rows, Run.tableOf plan.engine response = .ok ⟨plan.engine.heading, rows⟩ ∧
          List.Forall₂ (Shows plan.engine.heading (pathOf plan.engine) (Row.blank plan.engine.heading.width))
            leaves rows := by
  obtain ⟨root, hroot, hr⟩ := ofPlan_eq_ok ha hrequest
  exact ⟨root, hroot, hr, fun response leaves hc =>
    exists_table_of_conforms (Query.planOf_bound q hplan).engine.1 ha hroot hc⟩

/-- `SELECT a, DATE_HISTOGRAM(ts, '1d') AS day, COUNT(*), COUNT(v) AS n, AVG(v) AS mean FROM t GROUP BY a, day` -/
def byDay : Sql.Query :=
  let ofV (function : String) : Sql.Expr := .call ⟨[⟨function, none⟩], false, false, [.expr (.name ⟨"v", none⟩)], "", ""⟩
  ⟨"", .select ⟨none, "",
    [.expr (.name ⟨"a", none⟩),
      .aliased (.call ⟨[⟨"DATE_HISTOGRAM", none⟩], false, false,
        [.expr (.name ⟨"ts", none⟩), .expr (.literal (.text "1d"))], "", ""⟩) ⟨"day", none⟩,
      .expr (.call ⟨[⟨"COUNT", none⟩], false, false, [.all], "", ""⟩),
      .aliased (ofV "COUNT") ⟨"n", none⟩, .aliased (ofV "AVG") ⟨"mean", none⟩],
    "", [⟨.table [⟨"t", none⟩] "" none "", []⟩], "", none, .keys [.name ⟨"a", none⟩, .name ⟨"day", none⟩], ""⟩,
    [], none, ""⟩

def byDayPlan : Plan :=
  let a : Column := ⟨0, some "a", .plain, [], none, "a", "a"⟩
  let day : Column := ⟨1, some "ts", .dateHistogram, [.text "1d"], some "day", "day", "day"⟩
  let count : Column := ⟨2, none, .count, [], none, "count(*)", "count___"⟩
  let n : Column := ⟨3, some "v", .count, [], some "n", "n", "n"⟩
  let mean : Column := ⟨4, some "v", .avg, [], some "mean", "mean", "mean"⟩
  ⟨"t", ⟨⟨[a, day, count, n, mean]⟩, [a, day], .everything, false, none, none⟩, []⟩

/-- Two days; on the second there is nothing to take a mean of. -/
def bucketsOfDays : List Json := [
  .object [("avg#mean", .object [("value", .float 1.5)]), ("doc_count", .int 2), ("key", .int 86400000),
    ("value_count#n", .object [("value", .int 2)])],
  .object [("avg#mean", .object [("value", .null)]), ("doc_count", .int 1), ("key", .float 172800000.5)]]

/-- A bucket of `a` around the two days. -/
def bucketOfA : List (String × Json) :=
  [("date_histogram#day", .object [("buckets", .array bucketsOfDays)]), ("doc_count", .int 3), ("key", .text "x")]

/-- An answer with that bucket. -/
def answerWithA : Json :=
  .object [("aggregations", .object [("sterms#a", .object [("buckets", .array [.object bucketOfA])])])]

theorem leavesOf_bucketsOfDays : LeavesOf .histogram [.metric "n" .valueCount "v", .metric "mean" .avg "v"]
    bucketsOfDays [⟨[.instant 86400000], 2, [("mean", .float 1.5), ("n", .int 2)]⟩,
      ⟨[.instant 172800000], 1, [("mean", .null)]⟩] := by
  have hnone : ∀ node ∈ [Node.metric "n" .valueCount "v", .metric "mean" .avg "v"], node.keyKind? = none := by
    simp [Node.keyKind?]
  refine .metrics hnone (show Json.lookUp "key" _ = some (.int 86400000) from rfl)
    (.instant (.whole (by decide)) (by decide) (by decide)) ⟨rfl, by decide⟩ ⟨?_, by decide⟩ ?_
  · exact .cons ⟨.avg, "v", by simp, rfl, rfl⟩ (.cons ⟨.valueCount, "v", by simp, rfl, rfl⟩ .nil)
  · have hcut : StandsFor (.float 172800000.5) 172800000 := .float (Decimal.cutsOff_iff.2 (by decide +kernel))
    refine .metrics hnone (show Json.lookUp "key" _ = some (.float 172800000.5) from rfl)
      (.instant hcut (by decide) (by decide)) ⟨rfl, by decide⟩ ⟨?_, by decide⟩ (.nil _ _)
    exact .cons ⟨.avg, "v", by simp, rfl, rfl⟩ .nil

/-- **A row of the days is known by its leaf.** -/
theorem exists_row_of_shows {a day : Cell} {count : Nat} {values : List (String × Json)} {row : Row}
    (hs : Shows byDayPlan.engine.heading byDayPlan.engine.groupBy (Row.blank 5) ⟨[a, day], count, values⟩ row) :
    ∃ n mean, row = [a, day, .int count, n, mean] ∧ (∀ v, ("n", v) ∈ values → IsMetricCell .count v n) ∧
      ("n" ∉ values.map (·.1) → n = .null) ∧ ∀ v, ("mean", v) ∈ values → IsMetricCell .avg v mean := by
  obtain ⟨hlength, hkeys, hcounts, hmetrics, hothers⟩ := hs
  simp only [byDayPlan, List.forall_mem_cons] at hcounts hmetrics hothers
  obtain ⟨-, -, hcount, -⟩ := hcounts
  obtain ⟨-, -, -, hn, hmean, -⟩ := hmetrics
  obtain ⟨-, -, -, hnone, -⟩ := hothers
  obtain _ | ⟨ha, _ | ⟨hday, _⟩⟩ := hkeys
  refine ⟨row.cell 3, row.cell 4, Row.ext_cell hlength (fun i => ?_), hn rfl, ?_, hmean rfl⟩
  · match i with
    | 0 => exact ha
    | 1 => exact hday
    | 2 => exact hcount rfl
    | 3 | 4 => rfl
    | i + 5 =>
      rw [Row.cell_of_length_le (by rw [hlength]; exact Nat.le_add_left 5 i)]
      rfl
  · exact fun hn => hnone (by decide) rfl (fun _ => hn)

/-- Two leaves under one key: two rows, and the figures of the first are not in the second. -/
theorem tableOf_answerWithA :
    Query.planOf 0 byDay = .ok byDayPlan ∧ byDayPlan.engine.isAggregation = true ∧
    ∃ request, Request.ofPlan .standard byDayPlan = .ok request ∧
      Run.tableOf byDayPlan.engine answerWithA = .ok ⟨byDayPlan.engine.heading,
        [[.text "x", .instant 86400000, .int 2, .int 2, .float 1.5],
          [.text "x", .instant 172800000, .int 1, .null, .null]]⟩ := by
  have hplan : Query.planOf 0 byDay = .ok byDayPlan := by with_unfolding_all rfl
  obtain ⟨request, hrequest⟩ : ∃ request, Request.ofPlan .standard byDayPlan = .ok request := ⟨_, rfl⟩
  obtain ⟨root, hroot, -, hrows⟩ := tableOf_of_conforms hplan rfl hrequest
  cases hroot
  have hinside := LeavesOf.buckets (show Json.lookUp "key" bucketOfA = some (.text "x") from rfl) (.terms _)
    (show Counts bucketOfA 3 from ⟨rfl, by decide⟩) rfl ⟨rfl, "date_histogram", by decide, _, rfl, rfl⟩
    leavesOf_bucketsOfDays (.nil .terms [.histogram "day" "ts" 86400000
      [.metric "n" .valueCount "v", .metric "mean" .avg "v"]])
  obtain ⟨rows, htable, hshow⟩ := hrows answerWithA _ (.buckets rfl rfl ⟨rfl, "sterms", by decide, _, rfl, rfl⟩ hinside)
  obtain _ | ⟨hfirst, _ | ⟨hsecond, _ | _⟩⟩ := hshow
  obtain ⟨n, mean, rfl, hn, -, hmean⟩ := exists_row_of_shows hfirst
  obtain ⟨n', mean', rfl, -, hn', hmean'⟩ := exists_row_of_shows hsecond
  have hcounted : IsMetricCell .count (.int 2) (.int 2) := isMetricCell_iff.2 (by with_unfolding_all rfl)
  have hfloat : IsMetricCell .avg (.float 1.5) (.float 1.5) := .float (by decide) (.float 1.5) (by decide +kernel)
  have hmissing : IsMetricCell .avg .null .null := .missing nofun
  rw [(hn _ (by simp)).unique hcounted, (hmean _ (by simp)).unique hfloat, hn' (by decide),
    (hmean' _ (by simp)).unique hmissing] at htable
  exact ⟨hplan, rfl, request, hrequest, htable⟩

end FacetSql.Answer
