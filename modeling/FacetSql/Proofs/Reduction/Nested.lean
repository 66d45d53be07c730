import FacetSql.Proofs.Reduction.Alone
import FacetSql.Proofs.Reduction.Grouped
import FacetSql.Proofs.Reduction.Readable
/-!
# Nested — extremes of extremes

The furthest of the furthest cells of parts is furthest among all (`Furthest.flatten`), and cells that are furthest have
one float (`Furthest.sameView`).  Groups are parts of the rows, whatever their keys are.  So MIN of MIN and MAX of MAX
over groups see the same number as one MIN or MAX over all rows (`sameView_of_groups`), though the cell itself may be
another one with that number.
-/
namespace FacetSql

/-- **Cells that count as the same number**: both missing or both not, and with equal floats or none. -/
structure SameView (a b : Cell) : Prop where
  missing : a = .null ↔ b = .null
  float : (a.abscissa? == b.abscissa?) = true

namespace Reduction

open Numeral

/-- **A cell furthest out**: missing if no cell has a float, and else one of the cells. -/
inductive Furthest (side : Side) (cells : List Cell) (best : Cell) : Prop where
  | missing (hbest : best = .null) (hnone : ∀ d ∈ cells, d.abscissa? = none)
  | found {x : Float} (among : best ∈ cells) (hx : best.abscissa? = some x)
      (hle : ∀ d ∈ cells, ∀ y, d.abscissa? = some y → side.distance x ≤ side.distance y)

section

variable {side : Side} {cells cells' : List Cell} {parts : List (List Cell)} {best best' : Cell}

theorem furthest_extreme (side : Side) (hline : ∀ d ∈ cells, d.OnLine) :
    Furthest side cells (extreme side.isBetter cells) := by
  rcases extreme_cases_of_onLine side hline with ⟨hbest, hnone⟩ | ⟨x, hfirst⟩
  · exact .missing hbest hnone
  · exact .found hfirst.mem hfirst.abscissa? hfirst.le

theorem Furthest.onLine (h : Furthest side cells best) (hline : ∀ d ∈ cells, d.OnLine) : best.OnLine := by
  cases h with
  | missing hbest =>
    rw [hbest]
    exact nofun
  | found among => exact hline _ among

theorem Furthest.of_perm (h : Furthest side cells best) (hperm : cells.Perm cells') : Furthest side cells' best := by
  cases h with
  | missing hbest hnone => exact .missing hbest (fun d hd => hnone d (hperm.mem_iff.2 hd))
  | found among hx hle => exact .found (hperm.mem_iff.1 among) hx (fun d hd => hle d (hperm.mem_iff.2 hd))

theorem Furthest.sameView (h : Furthest side cells best) (h' : Furthest side cells best')
    (hline : ∀ d ∈ cells, d.OnLine) : SameView best best' := by
  have hne : ∀ {c : Cell} {x : Float}, c.abscissa? = some x → c ≠ .null := by
    rintro c x hx rfl
    cases hx
  cases h with
  | missing hbest hnone =>
    cases h' with
    | missing hbest' =>
      rw [hbest, hbest']
      exact ⟨Iff.rfl, rfl⟩
    | found among' hy => cases (hnone _ among').symm.trans hy
  | @found x among hx hle =>
    cases h' with
    | missing _ hnone => cases (hnone _ among).symm.trans hx
    | @found y among' hy hle' =>
      have hdistance : side.distance x = side.distance y := (hle _ among' y hy).antisymm (hle' _ among x hx)
      refine ⟨iff_of_false (hne hx) (hne hy), ?_⟩
      rw [hx, hy, Option.some_beq_some, beq_iff_place (hline _ among x hx) (hline _ among' y hy)]
      exact Side.distance_inj.1 hdistance

/-- **The furthest of the furthest cells of parts is furthest among all.** -/
theorem Furthest.flatten {furthest : List Cell → Cell} (hparts : ∀ part ∈ parts, Furthest side part (furthest part))
    (h : Furthest side (parts.map furthest) best) : Furthest side parts.flatten best := by
  -- a part with a float has a furthest cell with one, and it lies no nearer
  have hfound : ∀ part ∈ parts, ∀ d ∈ part, ∀ y, d.abscissa? = some y →
      ∃ x, (furthest part).abscissa? = some x ∧ side.distance x ≤ side.distance y := by
    intro part hpart d hd y hy
    cases hparts part hpart with
    | missing _ hnone => cases (hnone d hd).symm.trans hy
    | found among hx hle => exact ⟨_, hx, hle d hd y hy⟩
  cases h with
  | missing hbest hnone =>
    refine .missing hbest (fun d hd => ?_)
    obtain ⟨part, hpart, hd⟩ := List.mem_flatten.1 hd
    cases hy : d.abscissa? with
    | none => rfl
    | some y =>
      obtain ⟨x, hx, -⟩ := hfound part hpart d hd y hy
      cases (hnone _ (List.mem_map_of_mem hpart)).symm.trans hx
  | @found x among hx hle =>
    obtain ⟨part, hpart, rfl⟩ := List.mem_map.1 among
    refine .found (List.mem_flatten.2 ⟨part, hpart, ?_⟩) hx (fun d hd y hy => ?_)
    · cases hparts part hpart with
      | missing hbest =>
        rw [hbest] at hx
        cases hx
      | found among => exact among
    · obtain ⟨part', hpart', hd⟩ := List.mem_flatten.1 hd
      obtain ⟨x', hx', hle'⟩ := hfound part' hpart' d hd y hy
      exact (hle _ (List.mem_map_of_mem hpart') x' hx').trans hle'

theorem sameView_extreme_of_parts (side : Side) (hperm : parts.flatten.Perm cells) (hline : ∀ d ∈ cells, d.OnLine) :
    SameView (extreme side.isBetter (parts.map (extreme side.isBetter))) (extreme side.isBetter cells) := by
  have honLine : ∀ part ∈ parts, ∀ d ∈ part, d.OnLine := fun part hpart d hd =>
    hline d (hperm.mem_iff.1 (List.mem_flatten.2 ⟨part, hpart, hd⟩))
  have hparts : ∀ part ∈ parts, Furthest side part (extreme side.isBetter part) := fun part hpart =>
    furthest_extreme side (honLine part hpart)
  have hbests : ∀ d ∈ parts.map (extreme side.isBetter), d.OnLine := by
    intro d hd
    obtain ⟨part, hpart, rfl⟩ := List.mem_map.1 hd
    exact (hparts part hpart).onLine (honLine part hpart)
  exact (((furthest_extreme side hbests).flatten hparts).of_perm hperm).sameView (furthest_extreme side hline) hline

end

/-- **A heading has a row over another**, whatever the rows are. -/
def Reduces (inner outer : Heading) : Prop := ∀ rows, ∃ row, reduce (.ofTable ⟨inner, rows⟩) outer = .ok row

/-- **A column of a heading that picks the extreme** of the inner column of a label. -/
structure Picks (side : Side) (inner : Heading) (label : String) (outer : Heading) (c : Column) : Prop where
  heading : outer.WellFormed
  mem : c ∈ outer.columns
  operator : c.operator = side.operator
  field : c.field = some label
  reduces : Reduces inner outer

section

variable {side : Side} {inner outer : Heading} {rows : List Row} {c v : Column} {cell : Cell} {row : Row} {label : String}

theorem exists_reduceColumn (h : reduceColumn inner rows c = .ok cell) (rows' : List Row) :
    ∃ cell', reduceColumn inner rows' c = .ok cell' := by
  obtain ⟨place, hplace, h⟩ := bind_eq_ok_iff.1 h
  unfold reduceColumn
  rw [hplace]
  cases hop : c.operator with
  | plain | min | max | avg => exact ⟨_, rfl⟩
  | growth =>
    rw [hop] at h
    obtain ⟨axis, haxis, -⟩ := bind_eq_ok_iff.1 h
    rw [haxis]
    exact ⟨_, rfl⟩
  | count | sum | dateHistogram =>
    rw [hop] at h
    cases h

theorem reduces_of_reduce (h : reduce (.ofTable ⟨inner, rows⟩) outer = .ok row) : Reduces inner outer := by
  intro rows'
  have hcells := (reduce_eq_ok_iff rfl).1 h
  have hall : ∀ c ∈ outer.columns, ∃ cell, reduceColumn inner rows' c = .ok cell := by
    intro c hc
    obtain ⟨cell, -, hcell⟩ := exists_of_mem_right hcells.flip hc
    exact exists_reduceColumn hcell rows'
  obtain ⟨row', hrow'⟩ := exists_mapM_eq_ok hall
  exact ⟨row', (reduce_eq _ _).trans hrow'⟩

theorem Picks.cell_eq (hp : Picks side inner label outer c) (hv : inner.byLabel? label = some v)
    (h : reduce (.ofTable ⟨inner, rows⟩) outer = .ok row) :
    row.cell c.index = extreme side.isBetter (cellsAt v.index rows) := by
  have hread : readPlace inner c = .ok v.index := readPlace_eq_ok_iff.2 ⟨label, v, hp.field, hv, rfl⟩
  have hcell := reduceColumn_of_reduce hp.heading rfl h hp.mem
  exact Except.ok.inj (hcell.symm.trans (reduceColumn_side hp.operator hread rows))

end

section

variable {side : Side} {t : Table} {v : Column} {label : String} {keys : List Column} {mid outer whole : Heading}
  {part c d : Column}

/-- **MIN and MAX compose across levels.**  From the rows of any groups the extreme of the extremes counts as the same
number as the extreme of all rows. -/
theorem sameView_of_groups (hv : t.heading.byLabel? label = some v) (hline : ∀ d ∈ cellsAt v.index t.rows, d.OnLine)
    (hkeys : ∀ key ∈ keys, ReadsField t.heading key) (hpart : Picks side t.heading label mid part)
    (hc : Picks side mid part.label outer c) (hd : Picks side t.heading label whole d) :
    ∃ rows row row', reduceGrouped (.ofTable t) mid keys = .ok rows ∧
      reduce (.ofTable ⟨mid, rows⟩) outer = .ok row ∧ reduce (.ofTable t) whole = .ok row' ∧
      SameView (row.cell c.index) (row'.cell d.index) := by
  obtain ⟨places, hplaces⟩ := mapM_readPlace_eq_ok hkeys
  have hgroups : ∀ g ∈ groupsOf places t.rows, ∃ row, reduce (.ofTable ⟨t.heading, g.rows⟩) mid = .ok row :=
    fun g _ => hpart.reduces g.rows
  obtain ⟨rows, hrows⟩ := exists_mapM_eq_ok hgroups
  obtain ⟨row, hrow⟩ := hc.reduces rows
  obtain ⟨row', hrow'⟩ := hd.reduces t.rows
  refine ⟨rows, row, row', ?_, hrow, hrow', ?_⟩
  · rw [reduceGrouped_eq]
    exact bind_eq_ok_iff.2 ⟨places, hplaces, hrows⟩
  · have hmid : mid.byLabel? part.label = some part := hpart.heading.byLabel?_eq_some_iff.2 ⟨hpart.mem, rfl⟩
    let parts := (groupsOf places t.rows).map (fun g => cellsAt v.index g.rows)
    have hextremes : cellsAt part.index rows = parts.map (extreme side.isBetter) := by
      rw [List.map_map]
      exact map_eq_of_mapM hrows (fun g _ row hrow => hpart.cell_eq hv hrow)
    have hperm : parts.flatten.Perm (cellsAt v.index t.rows) := by
      rw [← List.flatMap_def, ← List.map_flatMap]
      exact (flatMap_groupsOf_perm places t.rows).map _
    rw [hc.cell_eq hmid hrow, hd.cell_eq hv hrow', hextremes]
    exact sameView_extreme_of_parts side hperm hline

end

/-- `SELECT MAX(v)` over a subquery, of any label for `v` -/
def maximumOf (label : String) : Heading := ⟨[.function .max (some label) []]⟩

/-- Two zeros of either sign, and a number below them. -/
def signedZeros : Table := ⟨⟨[.plain "k", { Column.plain "v" with index := 1 }]⟩,
  [[.text "a", .int (-1)], [.text "b", .float 0.0], [.text "a", .float (-0.0)]]⟩

theorem picks_maximumOf {inner : Heading} {label : String} {rows : List Row} {row : Row}
    (h : reduce (.ofTable ⟨inner, rows⟩) (maximumOf label) = .ok row) :
    Picks .greatest inner label (maximumOf label) (.function .max (some label) []) where
  heading := Heading.wellFormed_empty.reach (List.forall_mem_singleton.2 (Query.isAggName_function .max (some label) []))
  mem := List.mem_cons_self
  operator := rfl
  field := rfl
  reduces := reduces_of_reduce h

theorem wellFormed_maximaByK : maximaByK.WellFormed := by
  have hreach : Heading.empty.reach [.plain "k", .function .max (some "v") []] = maximaByK := by
    with_unfolding_all rfl
  rw [← hreach]
  exact Heading.wellFormed_empty.reach
    (List.forall_mem_cons.2 ⟨Query.isAggName_function .plain (some "k") [],
      List.forall_mem_singleton.2 (Query.isAggName_function .max (some "v") [])⟩)

/-- The zero that is kept is another one. -/
theorem sameView_of_signedZeros :
    reduceGrouped (.ofTable signedZeros) maximaByK [.plain "k"] =
        .ok [[.text "a", .float (-0.0)], [.text "b", .float 0.0]] ∧
      reduce (.ofTable ⟨maximaByK, [[.text "a", .float (-0.0)], [.text "b", .float 0.0]]⟩) (maximumOf "max(v)") =
        .ok [.float (-0.0)] ∧
      reduce (.ofTable signedZeros) (maximumOf "v") = .ok [.float 0.0] ∧
      SameView (.float (-0.0)) (.float 0.0) := by
  have hgrouped : reduceGrouped (.ofTable signedZeros) maximaByK [.plain "k"] =
      .ok [[.text "a", .float (-0.0)], [.text "b", .float 0.0]] := by
    with_unfolding_all rfl
  have houter : reduce (.ofTable ⟨maximaByK, [[.text "a", .float (-0.0)], [.text "b", .float 0.0]]⟩)
      (maximumOf "max(v)") = .ok [.float (-0.0)] := by
    with_unfolding_all rfl
  have hwhole : reduce (.ofTable signedZeros) (maximumOf "v") = .ok [.float 0.0] := by
    with_unfolding_all rfl
  have hmid : reduce (.ofTable signedZeros) maximaByK = .ok [.text "a", .float 0.0] := by
    with_unfolding_all rfl
  have hpart : Picks .greatest signedZeros.heading "v" maximaByK _ :=
    ⟨wellFormed_maximaByK, List.mem_cons_of_mem _ List.mem_cons_self, rfl, rfl, reduces_of_reduce hmid⟩
  have hkeys : ∀ key ∈ [Column.plain "k"], ReadsField signedZeros.heading key :=
    List.forall_mem_singleton.2 ⟨"k", rfl, List.mem_cons_self⟩
  obtain ⟨rows, row, row', hrows, hrow, hrow', hview⟩ := sameView_of_groups rfl (by decide +kernel) hkeys hpart
    (picks_maximumOf houter) (picks_maximumOf hwhole)
  cases hgrouped.symm.trans hrows
  cases houter.symm.trans hrow
  cases hwhole.symm.trans hrow'
  exact ⟨hgrouped, houter, hwhole, hview⟩

end Reduction
end FacetSql
