import FacetSql.Proofs.Query.Bound
import FacetSql.Proofs.Reduction.Alone
import FacetSql.Proofs.Reduction.Grouped
import FacetSql.Proofs.Run.Finished
/-!
# Distinct — rows that never repeat

Every key of a level over a subquery is a plain column of its heading, so a row shows the key of its group
(`keyOf_of_reduce`).  Groups have different keys, so no row of a level is repeated (`apart_of_apply`), and a run
that would drop repeated rows comes to the same table as one that does not (`distinctResultOf_eq`).
-/
namespace FacetSql

namespace Reduction

section

variable {inner outer : Heading} {keys : List Column} {places : List Nat} {row row' first : Row} {more : List Row}

theorem same_cell_of_sameKey : ∀ {row row' : Row}, sameKey row row' = true → ∀ i, (row.cell i).same (row'.cell i) = true
  | [], [], _, _ => rfl
  | _ :: _, _ :: _, h, 0 => (Bool.and_eq_true_iff.1 h).1
  | _ :: _, _ :: _, h, i + 1 => same_cell_of_sameKey (Bool.and_eq_true_iff.1 h).2 i

theorem sameKey_keyOf (h : sameKey row row' = true) : ∀ places : List Nat,
    sameKey (keyOf places row) (keyOf places row') = true
  | [] => rfl
  | i :: places => Bool.and_eq_true_iff.2 ⟨same_cell_of_sameKey h i, sameKey_keyOf h places⟩

/-- **A row shows the key of its group** in the columns of the keys. -/
theorem keyOf_of_reduce (hw : outer.WellFormed) (hkeys : ∀ key ∈ keys, key ∈ outer.columns ∧ key.operator = .plain)
    (hplaces : keys.mapM (readPlace inner) = .ok places)
    (h : reduce (.ofTable ⟨inner, first :: more⟩) outer = .ok row) :
    keyOf (keys.map (·.index)) row = keyOf places first := by
  rw [keyOf, List.map_map, keyOf]
  refine (map_eq_of_mapM hplaces (fun key hkey place hplace => ?_)).symm
  obtain ⟨hmem, hop⟩ := hkeys key hkey
  obtain ⟨place', hplace', hcell⟩ := bind_eq_ok_iff.1 (reduceColumn_of_reduce hw rfl h hmem)
  cases Except.ok.inj (hplace.symm.trans hplace')
  rw [hop] at hcell
  exact Except.ok.inj hcell

/-- **No row is repeated.** -/
def Apart (rows : List Row) : Prop := rows.Pairwise (fun row row' => sameKey row row' = false)

/-- **No row is repeated** where all keys are plain columns of the heading. -/
theorem apart_of_reduceGrouped {t : Table} {out : List Row} (hw : outer.WellFormed)
    (hkeys : ∀ key ∈ keys, key ∈ outer.columns ∧ key.operator = .plain)
    (h : reduceGrouped (.ofTable t) outer keys = .ok out) : Apart out := by
  rw [reduceGrouped_eq] at h
  obtain ⟨places, hplaces, hrows⟩ := bind_eq_ok_iff.1 h
  have hshown : out.map (keyOf (keys.map (·.index))) = (groupsOf places t.rows).map Group.key := by
    refine map_eq_of_mapM hrows (fun g hg row hrow => ?_)
    obtain ⟨first, -, more, hmore, hkey⟩ := exists_head_of_mem_groupsOf places t.rows hg
    rw [hmore] at hrow
    exact (keyOf_of_reduce hw hkeys hplaces hrow).trans hkey
  have hapart : (out.map (keyOf (keys.map (·.index)))).Pairwise (fun key key' => sameKey key key' = false) := by
    rw [hshown, List.pairwise_map]
    exact pairwise_groupsOf places t.rows
  refine (List.pairwise_map.1 hapart).imp (fun {row row'} hother => ?_)
  rw [Bool.eq_false_iff] at hother ⊢
  exact fun hsame => hother (sameKey_keyOf hsame _)

/-- **No row of an accepted level is repeated.** -/
theorem apart_of_apply {t out : Table} {level : Level} {condition : Option Sql.Expr} (hb : level.Bound)
    (hc : Query.checkOuter condition level = .ok ()) (h : apply t level = .ok out) :
    Apart out.rows := by
  have hkeys : ∀ key ∈ level.groupBy, key ∈ level.heading.columns ∧ key.operator = .plain := fun key hkey =>
    have hop := Query.plain_of_checkOuter hc key hkey
    ⟨(hb.keys.mem key hkey).mem_of_plain hop, hop⟩
  obtain ⟨rows, hrows, hout⟩ := bind_eq_ok_iff.1 h
  obtain ⟨rfl, -⟩ := Table.length_of_ofRows hout
  unfold levelRows at hrows
  split at hrows
  · obtain ⟨row, -, hone⟩ := bind_eq_ok_iff.1 hrows
    cases hone
    exact List.pairwise_singleton _ _
  · exact apart_of_reduceGrouped hb.heading hkeys hrows

end

end Reduction

namespace Run

open Reduction

/-- The table without the rows that repeat an earlier one. -/
def withoutRepeats (t : Table) : Table := ⟨t.heading, t.rows.eraseDupsBy sameKey⟩

/-- **The table of a level around another**, if the rows that DISTINCT does not want are dropped before it is sorted and
cut off. -/
def distinctStep (t : Table) (level : Level) : Except Failure Table := do
  let made ← apply t level
  return finish level (if level.distinct then withoutRepeats made else made)

/-- **The table of a plan**, if every level around the engine's drops the rows that DISTINCT does not want. -/
def distinctResultOf (plan : Plan) (response : Json) : Except Failure Table := do
  plan.outer.foldlM distinctStep (finish plan.engine (← tableOf plan.engine response))

theorem withoutRepeats_of_apart {t : Table} (h : Apart t.rows) : withoutRepeats t = t := by
  rw [withoutRepeats, eraseDupsBy_of_pairwise (h.imp sameKey_false_symm)]

theorem distinctStep_eq {level : Level} {condition : Option Sql.Expr} (hb : level.Bound)
    (hc : Query.checkOuter condition level = .ok ()) (t : Table) : distinctStep t level = outerStep t level := by
  unfold distinctStep outerStep
  cases hmade : apply t level with
  | error e => rfl
  | ok made =>
    have hkept := withoutRepeats_of_apart (apart_of_apply hb hc hmade)
    show Except.ok (finish level (if level.distinct then withoutRepeats made else made)) = Except.ok (finish level made)
    rw [hkept, ite_self]

/-- **Dropping repeated rows changes no result.** -/
theorem distinctResultOf_eq {plan : Plan} (hb : plan.Bound) (response : Json) :
    distinctResultOf plan response = resultOf plan response := by
  have hlevels : ∀ (levels : List Level) (t : Table),
      (∀ level ∈ levels, level.Bound ∧ ∃ condition, Query.checkOuter condition level = .ok ()) →
        levels.foldlM distinctStep t = levels.foldlM outerStep t := by
    intro levels
    induction levels with
    | nil => exact fun _ _ => rfl
    | cons level levels ih =>
      intro t h
      obtain ⟨⟨hlevel, condition, hc⟩, hlevels⟩ := List.forall_mem_cons.1 h
      rw [List.foldlM_cons, List.foldlM_cons, distinctStep_eq hlevel hc]
      exact congrArg _ (funext (fun t => ih t hlevels))
  exact congrArg _ (funext (fun t => hlevels plan.outer _ hb.outer))

theorem apart_finish (level : Level) {t : Table} (h : Apart t.rows) : Apart (finish level t).rows := by
  have hsorted : Apart (sortedAs level.order t).rows := by
    unfold sortedAs
    split
    · exact h
    · exact (Table.rows_sortBy_perm _ _ _).symm.pairwise h sameKey_false_symm
  rw [finish_eq]
  unfold cutAs
  split
  · exact hsorted
  · exact hsorted.sublist (List.take_sublist _ _)

/-- **Grouped rows are a partition, and no row of a level is repeated**, so it makes no difference that DISTINCT is not
looked at around a subquery. -/
theorem grouped_rows_apart :
    (∀ (cursor : Cursor) (outer : Heading) (keys : List Column) (out : List Row), cursor.closed = false →
      (∀ row ∈ cursor.table.rows, row.NotNaN) → reduceGrouped cursor outer keys = .ok out →
        ∃ places, keys.mapM (readPlace cursor.heading) = .ok places ∧ Partitioned cursor.table outer places out) ∧
    ∀ (now : Int) (q : Sql.Query) (plan : Plan), Query.planOf now q = .ok plan →
      (∀ level ∈ plan.outer, ∀ t made, apply t level = .ok made → Apart made.rows ∧ Apart (finish level made).rows) ∧
      ∀ response, distinctResultOf plan response = resultOf plan response := by
  refine ⟨fun cursor outer keys out => partitioned_of_reduceGrouped, fun now q plan hplan => ?_⟩
  have hb : plan.Bound := Query.planOf_bound q hplan
  refine ⟨fun level hlevel t made hmade => ?_, distinctResultOf_eq hb⟩
  obtain ⟨hbound, condition, hc⟩ := hb.outer level hlevel
  have hapart := apart_of_apply hbound hc hmade
  exact ⟨hapart, apart_finish level hapart⟩

/-- `SELECT DISTINCT k, MAX(v) FROM (SELECT k, v FROM t) GROUP BY k` -/
def distinctMaxima : Sql.Query :=
  let inner : Sql.Query := ⟨"", .select ⟨none, "", [.expr (.name ⟨"k", none⟩), .expr (.name ⟨"v", none⟩)], "",
    [⟨.table [⟨"t", none⟩] "" none "", []⟩], "", none, .keys [], ""⟩, [], none, ""⟩
  ⟨"", .select ⟨some .rows, "", [.expr (.name ⟨"k", none⟩),
      .expr (.call ⟨[⟨"MAX", none⟩], false, false, [.expr (.name ⟨"v", none⟩)], "", ""⟩)], "",
    [⟨.derived false inner none, []⟩], "", none, .keys [.name ⟨"k", none⟩], ""⟩, [], none, ""⟩

/-- Three documents of two keys. -/
def keyedTriple : Json :=
  let hit (k : String) (v : Int) : Json := .object [("_source", .object [("k", .text k), ("v", .int v)])]
  .object [("hits", .object [("hits", .array [hit "a" 1, hit "b" 5, hit "a" 3])])]

/-- The rows of the documents. -/
def keyedRows : Table := ⟨⟨[.plain "k", { Column.plain "v" with index := 1 }]⟩,
  [[.text "a", .int 1], [.text "b", .int 5], [.text "a", .int 3]]⟩

/-- Three rows in two groups, read by themselves and in a run. -/
theorem grouped_rows_apart_of_maxima :
    reduceGrouped (.ofTable keyedRows) maximaByK [.plain "k"] = .ok [[.text "a", .int 3], [.text "b", .int 5]] ∧
      Partitioned keyedRows maximaByK [0] [[.text "a", .int 3], [.text "b", .int 5]] ∧
      ∃ plan, Query.planOf 0 distinctMaxima = .ok plan ∧ plan.outer.map Level.distinct = [true] ∧
        (resultOf plan keyedTriple).map Table.rows = .ok [[.text "a", .int 3], [.text "b", .int 5]] ∧
        distinctResultOf plan keyedTriple = resultOf plan keyedTriple := by
  obtain ⟨hgrouped, hplanned⟩ := grouped_rows_apart
  have hrows : reduceGrouped (.ofTable keyedRows) maximaByK [.plain "k"] =
      .ok [[.text "a", .int 3], [.text "b", .int 5]] := by
    with_unfolding_all rfl
  obtain ⟨places, hplaces, hparts⟩ := hgrouped _ _ _ _ rfl (by decide +kernel) hrows
  cases hplaces
  obtain ⟨plan, hplan, hdistinct, hresult⟩ : ∃ plan, Query.planOf 0 distinctMaxima = .ok plan ∧
      plan.outer.map Level.distinct = [true] ∧
      (resultOf plan keyedTriple).map Table.rows = .ok [[.text "a", .int 3], [.text "b", .int 5]] :=
    ⟨_, by with_unfolding_all rfl, by with_unfolding_all rfl, by with_unfolding_all rfl⟩
  exact ⟨hrows, hparts, plan, hplan, hdistinct, hresult, (hplanned 0 _ plan hplan).2 keyedTriple⟩

end Run
end FacetSql
