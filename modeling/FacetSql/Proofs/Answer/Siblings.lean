import FacetSql.Proofs.Answer.Behind
/-!
# Siblings — what a bucket takes from the buckets beside it

Leaving a bucket makes the cells missing that were written in it, keys of the path to it included.  So the buckets
beside it are read as if the path had no keys in those columns (`treeRows_beside`), and they are read as on their own
exactly if no key of the path is written over.
-/
namespace FacetSql
namespace Answer

variable {h : Heading}

/-- **A bucket on the way to others**: the aggregation it belongs to, its key, and the number of its documents. -/
structure Step where
  kind : KeyKind
  name : String
  key : Cell
  count : Nat

/-- **The tree of a path**: one bucket for each step, and inside the last one buckets under a name. -/
def Tree.under (kind : KeyKind) (name : String) (bs : List Bucket) : List Step → Tree
  | [] => .buckets kind name bs
  | step :: path => .buckets step.kind step.name [⟨step.key, step.count, [under kind name bs path]⟩]

/-- The row in hand with the key of a step. -/
def Step.enter (h : Heading) (row : Row) (step : Step) : Row :=
  match h.byAggName? step.name with
  | some c => row.set c.index step.key
  | none => row

/-- **The row of the keys of a path.** -/
def keysOf (h : Heading) (path : List Step) : Row := path.foldl (Step.enter h) (Row.blank h.width)

/-- The step without its key if the place of the key is written inside buckets. -/
def Step.forgetting (h : Heading) (bs : List Bucket) (step : Step) : Step :=
  if (h.byAggName? step.name).any (fun c => writtenIn h c.index bs) then { step with key := .null } else step

/-- **The path without the keys whose places are written inside buckets.** -/
def forgetting (h : Heading) (bs : List Bucket) (path : List Step) : List Step := path.map (Step.forgetting h bs)

theorem nestedRows_singleton {kind : KeyKind} {name : String} {bs : List Bucket} {row after : Row} {rows : List Row} :
    nestedRows h row [.buckets kind name bs] = .ok (rows, after) ↔
      ∃ c, h.byAggName? name = some c ∧ Walk h c.index row bs rows after := by
  rw [nestedRows, bind_eq_ok_iff]
  simp only [columnOf_eq_ok_iff, bucketRows_eq_ok_iff]

/-- A bucket around buckets gives the rows of these over the row with its key. -/
theorem walk_around {place count : Nat} {key : Cell} {kind : KeyKind} {name : String} {bs : List Bucket} {row : Row}
    {rows : List Row} : (∃ after, Walk h place row [⟨key, count, [.buckets kind name bs]⟩] rows after) ↔
      ∃ c, h.byAggName? name = some c ∧ ∃ behind, Walk h c.index (row.set place key) bs rows behind := by
  constructor
  · rintro ⟨after, hw⟩
    generalize hb : [(⟨key, count, [.buckets kind name bs]⟩ : Bucket)] = buckets at hw
    cases hw with
    | nil => cases hb
    | @leaf _ _ _ _ _ metrics _ _ _ _ _ =>
      obtain ⟨hbucket, -⟩ := List.cons.inj hb
      have hchildren := congrArg Bucket.children hbucket
      cases metrics <;> cases hchildren
    | nested hc inner rest =>
      obtain ⟨hbucket, hnil⟩ := List.cons.inj hb
      cases hbucket
      subst hnil
      cases rest
      rw [List.append_nil]
      exact ⟨_, columnOf_eq_ok_iff.1 hc, _, inner⟩
  · rintro ⟨c, hc, behind, inner⟩
    rw [← List.append_nil rows]
    exact ⟨_, .nested (columnOf_eq_ok_iff.2 hc) inner (.nil _ _)⟩

theorem nestedRows_under {kind : KeyKind} {name : String} {bs : List Bucket} {rows : List Row} (path : List Step)
    {row : Row} : (∃ after, nestedRows h row [.under kind name bs path] = .ok (rows, after)) ↔
      (∀ step ∈ path, (h.byAggName? step.name).isSome = true) ∧ ∃ c, h.byAggName? name = some c ∧
        ∃ after, Walk h c.index (path.foldl (Step.enter h) row) bs rows after := by
  induction path generalizing row with
  | nil =>
    simp only [Tree.under, nestedRows_singleton, List.not_mem_nil, false_implies, implies_true, true_and,
      List.foldl_nil]
    exact ⟨fun ⟨after, c, hc, hw⟩ => ⟨c, hc, after, hw⟩, fun ⟨c, hc, after, hw⟩ => ⟨after, c, hc, hw⟩⟩
  | cons step path ih =>
    obtain ⟨kind', name', bs', hunder⟩ : ∃ kind' name' bs', Tree.under kind name bs path = .buckets kind' name' bs' := by
      cases path with
      | nil => exact ⟨kind, name, bs, rfl⟩
      | cons next path => exact ⟨next.kind, next.name, _, rfl⟩
    have hstep : ∀ c, h.byAggName? step.name = some c →
        ((∃ after, Walk h c.index row [⟨step.key, step.count, [.under kind name bs path]⟩] rows after) ↔
          ∃ after, nestedRows h (Step.enter h row step) [.under kind name bs path] = .ok (rows, after)) := by
      intro c hc
      rw [hunder, walk_around, Step.enter, hc]
      simp only [nestedRows_singleton]
      exact ⟨fun ⟨d, hd, after, hw⟩ => ⟨after, d, hd, hw⟩, fun ⟨after, d, hd, hw⟩ => ⟨d, hd, after, hw⟩⟩
    rw [List.forall_mem_cons, List.foldl_cons, and_assoc, ← ih]
    constructor
    · rintro ⟨after, hok⟩
      obtain ⟨c, hc, hw⟩ := nestedRows_singleton.1 hok
      exact ⟨by rw [hc]; rfl, (hstep c hc).1 ⟨after, hw⟩⟩
    · rintro ⟨hsome, hok⟩
      obtain ⟨c, hc⟩ := Option.isSome_iff_exists.1 hsome
      obtain ⟨after, hw⟩ := (hstep c hc).2 hok
      exact ⟨after, nestedRows_singleton.2 ⟨c, hc, hw⟩⟩

/-- **The rows of the tree of a path** are those of its buckets over the keys of the path. -/
theorem treeRows_under {kind : KeyKind} {name : String} {bs : List Bucket} {rows : List Row} (path : List Step) :
    treeRows h [.under kind name bs path] = .ok rows ↔
      (∀ step ∈ path, (h.byAggName? step.name).isSome = true) ∧ ∃ c, h.byAggName? name = some c ∧
        ∃ after, Walk h c.index (keysOf h path) bs rows after := by
  rw [keysOf, ← nestedRows_under]
  have hroot : ∀ kind name bs, rootRows h (.buckets kind name bs) = .ok rows ↔
      ∃ after, nestedRows h (Row.blank h.width) [.buckets kind name bs] = .ok (rows, after) := by
    intro kind name bs
    rw [rootRows, nestedRows]
    cases columnOf h name with
    | error e => exact ⟨nofun, nofun⟩
    | ok c =>
      show (bucketRows h c.index (Row.blank h.width) bs >>= fun out => .ok out.1) = .ok rows ↔ _
      rw [bind_eq_ok_iff]
      constructor
      · rintro ⟨out, hok, hrows⟩
        exact ⟨out.2, hok.trans (by rw [← Except.ok.inj hrows])⟩
      · rintro ⟨after, hok⟩
        exact ⟨_, hok, rfl⟩
  cases path with
  | nil => exact hroot _ _ _
  | cons step path => exact hroot _ _ _

theorem name_forgetting (bs : List Bucket) (step : Step) : (step.forgetting h bs).name = step.name := by
  unfold Step.forgetting
  split <;> rfl

theorem length_enter (row : Row) (step : Step) : (step.enter h row).length = row.length := by
  unfold Step.enter
  split
  · exact List.length_set
  · rfl

theorem cell_enter_forgetting {bs : List Bucket} {row row' : Row} (hlen : row'.length = row.length)
    (hcells : ∀ i, row'.cell i = if writtenIn h i bs = true then .null else row.cell i) (step : Step) (i : Nat) :
    ((step.forgetting h bs).enter h row').cell i =
      if writtenIn h i bs = true then .null else (step.enter h row).cell i := by
  unfold Step.enter
  rw [name_forgetting]
  cases hc : h.byAggName? step.name with
  | none => exact hcells i
  | some c =>
    dsimp only
    by_cases hw : writtenIn h c.index bs = true
    · have hkey : (step.forgetting h bs).key = .null := by rw [Step.forgetting, hc, Option.any_some, if_pos hw]
      rw [hkey, Row.cell_set_null, hcells i]
      by_cases hi : c.index = i
      · rw [if_pos hi, ← hi, if_pos hw]
      · rw [if_neg hi, Row.cell_set_ne hi]
    · have hkey : (step.forgetting h bs).key = step.key := by rw [Step.forgetting, hc, Option.any_some, if_neg hw]
      rw [hkey, Row.cell_set, Row.cell_set, hlen, hcells i]
      by_cases hi : c.index = i ∧ c.index < row.length
      · rw [if_pos hi, if_pos hi, ← hi.1, if_neg hw]
      · rw [if_neg hi, if_neg hi]

/-- **The keys of a path that are not forgotten.** -/
theorem cell_keysOf_forgetting (bs : List Bucket) (path : List Step) (i : Nat) :
    (keysOf h (forgetting h bs path)).cell i = if writtenIn h i bs = true then .null else (keysOf h path).cell i := by
  have hfold : ∀ row row' : Row, row'.length = row.length →
      (∀ i, row'.cell i = if writtenIn h i bs = true then .null else row.cell i) →
      ∀ i, Row.cell ((forgetting h bs path).foldl (Step.enter h) row') i =
        if writtenIn h i bs = true then .null else Row.cell (path.foldl (Step.enter h) row) i := by
    induction path with
    | nil => exact fun _ _ _ hcells => hcells
    | cons step path ih =>
      intro row row' hlen hcells
      exact ih _ _ (by rw [length_enter, length_enter, hlen]) (cell_enter_forgetting hlen hcells step)
  exact hfold _ _ rfl (fun i => by rw [Row.cell_blank, ite_self]) i

theorem length_keysOf (path : List Step) : (keysOf h path).length = h.width := by
  have hfold : ∀ row : Row, (path.foldl (Step.enter h) row).length = row.length := by
    induction path with
    | nil => exact fun _ => rfl
    | cons step path ih => exact fun row => (ih _).trans (length_enter row step)
  rw [keysOf, hfold, Row.length_blank]

/-- **The buckets beside others are read as if the path had no keys in the columns written inside those.** -/
theorem treeRows_beside {kind : KeyKind} {name : String} {bs more : List Bucket} {path : List Step}
    {rows rows' : List Row} (hbs : treeRows h [.under kind name bs path] = .ok rows)
    (hmore : treeRows h [.under kind name more (forgetting h bs path)] = .ok rows') :
    treeRows h [.under kind name (bs ++ more) path] = .ok (rows ++ rows') := by
  obtain ⟨hpath, c, hc, between, hw⟩ := (treeRows_under path).1 hbs
  obtain ⟨-, d, hd, behind, hw'⟩ := (treeRows_under _).1 hmore
  cases hc.symm.trans hd
  have hleaves := hw.leaves
  -- what the buckets leave behind and the keys not forgotten differ at places that every leaf writes at most
  have halike : Row.AlikeBut (fun i => i = c.index ∨ i ∈ countPlaces h) (keysOf h (forgetting h bs path)) between := by
    refine ⟨by rw [hleaves.length, length_keysOf, length_keysOf], fun i hi => ?_⟩
    rw [cell_keysOf_forgetting]
    by_cases hwritten : writtenIn h i bs = true
    · rw [if_pos hwritten]
      exact hleaves.missing i hwritten
    · rw [if_neg hwritten]
      exact hleaves.kept i (Bool.eq_false_iff.2 hwritten) (fun _ => not_or.1 hi)
  obtain ⟨after, hw'', -⟩ := hw'.of_alikeBut (fun _ hi => hi) halike
  exact (treeRows_under path).2 ⟨hpath, c, hc, after, hw.append hw''⟩

/-- **The law of siblings at a node**: buckets beside others are read as on their own. -/
def ReadsAlone (h : Heading) (kind : KeyKind) (name : String) (bs : List Bucket) (path : List Step) : Prop :=
  ∀ more rows rows', treeRows h [.under kind name bs path] = .ok rows →
    treeRows h [.under kind name more path] = .ok rows' →
    treeRows h [.under kind name (bs ++ more) path] = .ok (rows ++ rows')

/-- **No key of the path is lost in buckets**: what is written inside them is no key of the path, or stands in a place
that every bucket beside them writes itself. -/
def LosesNoKey (h : Heading) (name : String) (bs : List Bucket) (path : List Step) : Prop :=
  ∀ i, writtenIn h i bs = true →
    standsAt h i name = true ∨ i ∈ countPlaces h ∨ (keysOf h path).cell i = .null

theorem readsAlone_of_losesNoKey {kind : KeyKind} {name : String} {bs : List Bucket} {path : List Step}
    (hkeys : LosesNoKey h name bs path) : ReadsAlone h kind name bs path := by
  intro more rows rows' hbs hmore
  refine treeRows_beside hbs ?_
  obtain ⟨hpath, c, hc, after, hw⟩ := (treeRows_under path).1 hmore
  have halike : Row.AlikeBut (fun i => i = c.index ∨ i ∈ countPlaces h) (keysOf h path)
      (keysOf h (forgetting h bs path)) := by
    refine ⟨by rw [length_keysOf, length_keysOf], fun i hi => ?_⟩
    obtain ⟨hown, hcount⟩ := not_or.1 hi
    rw [cell_keysOf_forgetting]
    split
    · rename_i hwritten
      rcases hkeys i hwritten with hstands | hcounts | hnull
      · rw [standsAt_of_columnOf (columnOf_eq_ok_iff.2 hc), decide_eq_true_iff] at hstands
        exact absurd hstands.symm hown
      · exact absurd hcounts hcount
      · exact hnull.symm
    · rfl
  obtain ⟨after', hw', -⟩ := hw.of_alikeBut (fun _ hi => hi) halike
  refine (treeRows_under _).2 ⟨fun step hstep => ?_, c, hc, after', hw'⟩
  obtain ⟨step', hstep', rfl⟩ := List.mem_map.1 hstep
  rw [name_forgetting]
  exact hpath step' hstep'

/-- A bucket without a key, documents and anything inside. -/
def bareBucket : Bucket := ⟨.null, 0, []⟩

/-- The row of a bare bucket over the row in hand. -/
def bareRow (h : Heading) (place : Nat) (row : Row) : Row := written (row.set place .null) (countWrites h 0)

theorem walk_bareBucket (place : Nat) (row : Row) :
    ∃ after, Walk h place row [bareBucket] [bareRow h place row] after := by
  have hleaf : Walk h place row [⟨.null, 0, ([] : List (String × Option Float)).map (fun m => .metric m.1 m.2)⟩]
      [written (row.set place .null) (countWrites h 0 ++ [])] _ := .leaf rfl (.nil _ _)
  rw [List.append_nil] at hleaf
  exact ⟨_, hleaf⟩

theorem cell_bareRow {place : Nat} (row : Row) {i : Nat} (hi : i ≠ place) (hc : i ∉ countPlaces h) :
    (bareRow h place row).cell i = row.cell i := by
  have hnot : i ∉ (countWrites h 0).map (·.1) := by rwa [map_fst_countWrites]
  rw [bareRow, cell_written_of_not_mem hnot, Row.cell_set_ne hi.symm]

/-- A bare bucket beside others shows which keys they have lost. -/
theorem losesNoKey_of_readsAlone {kind : KeyKind} {name : String} {bs : List Bucket} {path : List Step}
    {rows : List Row} (hbs : treeRows h [.under kind name bs path] = .ok rows)
    (halone : ReadsAlone h kind name bs path) : LosesNoKey h name bs path := by
  obtain ⟨hpath, c, hc, between, hw⟩ := (treeRows_under path).1 hbs
  obtain ⟨behind, hbare⟩ := walk_bareBucket (h := h) c.index (keysOf h path)
  have hboth := halone [bareBucket] rows _ hbs ((treeRows_under path).2 ⟨hpath, c, hc, behind, hbare⟩)
  obtain ⟨-, d, hd, after, hboth⟩ := (treeRows_under path).1 hboth
  cases hc.symm.trans hd
  -- behind the others the bare bucket is read over what they leave, and this is the row it has alone
  obtain ⟨after', hbeside⟩ := walk_bareBucket (h := h) c.index between
  have hrows := bucketRows_of_walk (hw.append hbeside)
  rw [bucketRows_of_walk hboth] at hrows
  have hsame : bareRow h c.index (keysOf h path) = bareRow h c.index between := by
    have hlists := List.append_cancel_left (Prod.mk.inj (Except.ok.inj hrows)).1
    exact List.head_eq_of_cons_eq hlists
  intro i hwritten
  by_cases hown : i = c.index
  · exact .inl (by rw [standsAt_of_columnOf (columnOf_eq_ok_iff.2 hc), decide_eq_true_iff, hown])
  by_cases hcount : i ∈ countPlaces h
  · exact .inr (.inl hcount)
  refine .inr (.inr ?_)
  rw [← cell_bareRow _ hown hcount, hsame, cell_bareRow _ hown hcount]
  exact hw.leaves.missing i hwritten

/-- **Buckets beside others are read as if the path to them had no keys in the columns written inside those.**  So they
are read as on their own exactly if no key of the path is lost, and always on the first level, where the path has no
keys. -/
theorem readsAlone_iff_losesNoKey {kind : KeyKind} {name : String} {bs : List Bucket} {path : List Step}
    {rows : List Row} (hbs : treeRows h [.under kind name bs path] = .ok rows) :
    (∀ more rows', treeRows h [.under kind name more (forgetting h bs path)] = .ok rows' →
      treeRows h [.under kind name (bs ++ more) path] = .ok (rows ++ rows')) ∧
    (ReadsAlone h kind name bs path ↔ LosesNoKey h name bs path) ∧
    (path = [] → ReadsAlone h kind name bs path) := by
  refine ⟨fun more rows' hmore => treeRows_beside hbs hmore, ⟨losesNoKey_of_readsAlone hbs, readsAlone_of_losesNoKey⟩,
    ?_⟩
  rintro rfl
  refine readsAlone_of_losesNoKey (fun i _ => .inr (.inr ?_))
  exact Row.cell_blank h.width i

/-- Columns for two keys, a document count and a metric. -/
def keysAndFigures : Heading :=
  ⟨[⟨0, some "a", .plain, [], none, "a", "a"⟩, ⟨1, some "b", .plain, [], none, "b", "b"⟩,
    ⟨2, none, .count, [], none, "count(*)", "count___"⟩, ⟨3, some "v", .max, [], none, "max(v)", "max_v_"⟩]⟩

/-- A bucket of `b` with a metric of its own beside others, inside a bucket of `a`. -/
theorem readsAlone_own_metric :
    treeRows keysAndFigures [.under .terms "b" [⟨.int 1, 2, [.metric "max_v_" none]⟩] [⟨.terms, "a", .text "x", 3⟩]] =
      .ok [[.text "x", .int 1, .int 2, .null]] ∧
    ReadsAlone keysAndFigures .terms "b" [⟨.int 1, 2, [.metric "max_v_" none]⟩] [⟨.terms, "a", .text "x", 3⟩] := by
  have hrows : treeRows keysAndFigures
      [.under .terms "b" [⟨.int 1, 2, [.metric "max_v_" none]⟩] [⟨.terms, "a", .text "x", 3⟩]] =
        .ok [[.text "x", .int 1, .int 2, .null]] := rfl
  refine ⟨hrows, (readsAlone_iff_losesNoKey hrows).2.1.2 (fun i hi => ?_)⟩
  have hmax : columnOf keysAndFigures "max_v_" = .ok ⟨3, some "v", .max, [], none, "max(v)", "max_v_"⟩ := rfl
  rw [writtenIn_singleton, writtenBy, writtenBy, standsAt_of_columnOf hmax, Bool.or_false, decide_eq_true_iff] at hi
  subst hi
  exact .inr (.inr rfl)

/-- A metric that is named like the key of the bucket around takes this key from the bucket beside it. -/
theorem not_readsAlone_metric_named_like_key :
    ¬ ReadsAlone keysAndFigures .terms "b" [⟨.int 1, 2, [.metric "a" none]⟩] [⟨.terms, "a", .text "x", 3⟩] := by
  intro halone
  have hboth := halone [⟨.int 2, 1, []⟩] [[.null, .int 1, .int 2, .null]] [[.text "x", .int 2, .int 1, .null]] rfl rfl
  have hread : treeRows keysAndFigures [.under .terms "b" ([⟨.int 1, 2, [.metric "a" none]⟩] ++ [⟨.int 2, 1, []⟩])
      [⟨.terms, "a", .text "x", 3⟩]] = .ok [[.null, .int 1, .int 2, .null], [.null, .int 2, .int 1, .null]] := rfl
  rw [hread] at hboth
  cases hboth

end Answer
end FacetSql
