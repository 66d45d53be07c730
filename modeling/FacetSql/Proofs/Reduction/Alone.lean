import FacetSql.Proofs.Checked
import FacetSql.Proofs.Heading.WellFormed
import FacetSql.Proofs.Reduction.Extreme
import FacetSql.Reduction.Lemmas
/-!
# Alone — each column of a level by itself

The columns of a level share one cursor, and each reading leaves it somewhere else.  Nevertheless a cell hangs on the
rows of the subquery and on its own column alone (`cell_alone_of_reduce`): it is what `IsCellOf` says of all rows,
wherever the cursor stood, and any columns that read alike have the same cells in any other row.
-/
namespace FacetSql

/-- **Columns that read alike**, under whatever labels and names. -/
structure Column.ReadsAs (c d : Column) : Prop where
  field : c.field = d.field
  operator : c.operator = d.operator
  arguments : c.arguments = d.arguments

namespace Reduction

/-- **The first of the cells whose float lies furthest out**: missing exactly if no cell has a float. -/
structure FirstBest (side : Side) (cells : List Cell) (best : Cell) : Prop where
  missing : best = .null ↔ ∀ d ∈ cells, d.abscissa? = none
  first : best ≠ .null → ∃ before after x, cells = before ++ best :: after ∧ best.abscissa? = some x ∧
    (∀ d ∈ before, ∀ y, d.abscissa? = some y → side.isBetter x y = true) ∧
    ∀ d ∈ after, ∀ y, d.abscissa? = some y → side.isBetter y x = false

/-- The sum of numbers in their order through their number. -/
def quotientOf (numbers : List Float) : Float := numbers.foldl (· + ·) 0.0 / Float.ofNat numbers.length

/-- **The mean of numbers**: missing if there are none, or if it is not finite. -/
def IsMean (numbers : List Float) (mean : Cell) : Prop :=
  mean = if numbers = [] ∨ (quotientOf numbers).isFinite = false then .null else .float (quotientOf numbers)

/-- **The cell of a column**, said of all cells of the inner column that it names. -/
def IsCellOf (inner : Heading) (rows : List Row) (c : Column) (cell : Cell) : Prop :=
  ∃ label named, c.field = some label ∧ inner.byLabel? label = some named ∧
    let cells := cellsAt named.index rows
    match c.operator with
    | .plain => cell = cells.headD .null
    | .min => (∀ d ∈ cells, d.OnLine) → FirstBest .least cells cell
    | .max => (∀ d ∈ cells, d.OnLine) → FirstBest .greatest cells cell
    | .avg => IsMean (cells.filterMap Cell.float?) cell
    | .growth => ∃ axis, axisOf inner c = .ok axis ∧ cell = projection axis named.index rows
    | _ => False

section

variable {inner : Heading} {rows : List Row} {c d : Column} {cell : Cell} {cells : List Cell}

theorem firstBest_extreme (side : Side) (hline : ∀ d ∈ cells, d.OnLine) :
    FirstBest side cells (extreme side.isBetter cells) := by
  rcases extreme_cases_of_onLine side hline with ⟨hbest, hnone⟩ | ⟨x, hfirst⟩
  · exact ⟨iff_of_true hbest hnone, fun hne => absurd hbest hne⟩
  · have hx := hfirst.abscissa?
    have hxnan := hline _ hfirst.mem x hx
    refine ⟨iff_of_false hfirst.ne_null (fun hnone => ?_), fun _ => ?_⟩
    · rw [hnone _ hfirst.mem] at hx
      cases hx
    · obtain ⟨before, after, hsplit, -, hbefore, hafter⟩ := hfirst
      have hmem : ∀ d, d ∈ before ∨ d ∈ after → d ∈ cells := by
        rw [hsplit]
        simp only [List.mem_append, List.mem_cons]
        tauto
      refine ⟨before, after, x, hsplit, hx, fun d hd y hy => ?_, fun d hd y hy => ?_⟩
      · exact (side.isBetter_iff hxnan (hline d (hmem d (.inl hd)) y hy)).2 (hbefore d hd y hy)
      · rw [Bool.eq_false_iff, Ne, side.isBetter_iff (hline d (hmem d (.inr hd)) y hy) hxnan, not_lt]
        exact hafter d hd y hy

theorem isMean_average (cells : List Cell) : IsMean (cells.filterMap Cell.float?) (average cells) := by
  unfold average
  cases cells.filterMap Cell.float? with
  | nil => rfl
  | cons x numbers =>
    show Cell.ofFloat (quotientOf (x :: numbers)) = _
    unfold Cell.ofFloat
    cases (quotientOf (x :: numbers)).isFinite <;> rfl

theorem readPlace_eq_ok_iff {place : Nat} : readPlace inner c = .ok place ↔
    ∃ label named, c.field = some label ∧ inner.byLabel? label = some named ∧ named.index = place := by
  unfold readPlace
  cases c.field with
  | none => simp
  | some label =>
    cases hnamed : inner.byLabel? label <;> simp [placeOf, hnamed]

/-- **A column that has a cell has the one it names.** -/
theorem isCellOf_reduceColumn (h : reduceColumn inner rows c = .ok cell) : IsCellOf inner rows c cell := by
  obtain ⟨place, hplace, h⟩ := bind_eq_ok_iff.1 h
  obtain ⟨label, named, hfield, hnamed, rfl⟩ := readPlace_eq_ok_iff.1 hplace
  refine ⟨label, named, hfield, hnamed, ?_⟩
  cases hop : c.operator with
  | plain =>
    rw [hop] at h
    cases h
    dsimp only
    cases rows <;> rfl
  | min =>
    rw [hop] at h
    cases h
    exact firstBest_extreme .least
  | max =>
    rw [hop] at h
    cases h
    exact firstBest_extreme .greatest
  | avg =>
    rw [hop] at h
    cases h
    exact isMean_average _
  | growth =>
    rw [hop] at h
    obtain ⟨axis, haxis, h⟩ := bind_eq_ok_iff.1 h
    cases h
    exact ⟨axis, haxis, rfl⟩
  | count | sum | dateHistogram =>
    rw [hop] at h
    cases h

theorem axisOf_of_readsAs (hread : c.ReadsAs d) {axis : Axis} (h : axisOf inner d = .ok axis) :
    axisOf inner c = .ok axis := by
  unfold axisOf at h ⊢
  rw [hread.arguments]
  split at h
  · exact h
  · split at h
    · cases h
    · obtain ⟨place, hplace, h⟩ := bind_eq_ok_iff.1 h
      refine bind_eq_ok_iff.2 ⟨place, hplace, ?_⟩
      split at h
      · exact h
      · cases h

/-- **Columns that read alike have the same cell.** -/
theorem reduceColumn_of_readsAs (hread : c.ReadsAs d) (h : reduceColumn inner rows d = .ok cell) :
    reduceColumn inner rows c = .ok cell := by
  obtain ⟨place, hplace, h⟩ := bind_eq_ok_iff.1 h
  have hplace' : readPlace inner c = .ok place := by
    rw [readPlace_eq_ok_iff] at hplace ⊢
    rwa [hread.field]
  refine bind_eq_ok_iff.2 ⟨place, hplace', ?_⟩
  rw [hread.operator]
  cases hop : d.operator with
  | plain | min | max | avg =>
    rw [hop] at h
    exact h
  | growth =>
    rw [hop] at h
    obtain ⟨axis, haxis, h⟩ := bind_eq_ok_iff.1 h
    exact bind_eq_ok_iff.2 ⟨axis, axisOf_of_readsAs hread haxis, h⟩
  | count | sum | dateHistogram =>
    rw [hop] at h
    cases h

end

section

variable {cursor : Cursor} {outer : Heading} {row : Row} {c : Column}

theorem reduce_eq_ok_iff (hopen : cursor.closed = false) : reduce cursor outer = .ok row ↔
    List.Forall₂ (fun c cell => reduceColumn cursor.heading cursor.table.rows c = .ok cell) outer.columns row := by
  rw [reduce_eq, Cursor.rest_rewind, hopen]
  exact mapM_eq_ok_iff

/-- **The cell at the place of a column is that of the column.** -/
theorem reduceColumn_of_reduce (hw : outer.WellFormed) (hopen : cursor.closed = false)
    (h : reduce cursor outer = .ok row) (hc : c ∈ outer.columns) :
    reduceColumn cursor.heading cursor.table.rows c = .ok (row.cell c.index) := by
  have hcells := (reduce_eq_ok_iff hopen).1 h
  obtain ⟨hlt, hget⟩ := List.getElem?_eq_some_iff.1 (hw.getElem?_index hc)
  have hrow : c.index < row.length := hcells.length_eq ▸ hlt
  have hcell := hcells.get hlt hrow
  rw [List.get_eq_getElem, hget] at hcell
  simpa [Row.cell, hrow] using hcell

/-- **Each cell is that of its own column, from all rows of the subquery.**  Wherever another cursor over them stands,
and whichever columns a heading draws from this one, in whatever order, the cells are drawn in the same way. -/
theorem cell_alone_of_reduce (hopen : cursor.closed = false) (h : reduce cursor outer = .ok row) :
    List.Forall₂ (IsCellOf cursor.heading cursor.table.rows) outer.columns row ∧
      ∀ (cursor' : Cursor) (outer' : Heading) (source : Nat → Nat), cursor'.table = cursor.table →
        cursor'.closed = false →
        (∀ i c, outer'.columns[i]? = some c → ∃ d, outer.columns[source i]? = some d ∧ c.ReadsAs d) →
        reduce cursor' outer' = .ok ((List.range outer'.width).map (fun i => row.cell (source i))) := by
  have hcells := (reduce_eq_ok_iff hopen).1 h
  refine ⟨hcells.imp (fun _ _ => isCellOf_reduceColumn), ?_⟩
  intro cursor' outer' source htable hopen' hsource
  have hheading : cursor'.heading = cursor.heading := congrArg Table.heading htable
  rw [reduce_eq_ok_iff hopen', hheading, htable, List.forall₂_iff_get]
  refine ⟨by simp [Heading.width], fun i hi hi' => ?_⟩
  obtain ⟨d, hd, hread⟩ := hsource i _ (List.getElem?_eq_getElem hi)
  obtain ⟨hlt, rfl⟩ := List.getElem?_eq_some_iff.1 hd
  have hrow : source i < row.length := hcells.length_eq ▸ hlt
  have hcell := reduceColumn_of_readsAs hread (hcells.get hlt hrow)
  simpa [Row.cell, hrow] using hcell

end

/-- `SELECT MIN(a), AVG(a), a` over a subquery -/
def summaryOfA : Heading := ⟨[.function .min (some "a") [], .function .avg (some "a") [], .plain "a"]⟩

/-- `SELECT a, MIN(a)` over a subquery -/
def firstAndLeastOfA : Heading := ⟨[.plain "a", .function .min (some "a") []]⟩

/-- A missing cell, two numbers and an instant. -/
def mixedA : Table := ⟨⟨[.plain "a"]⟩, [[.null], [.int 3], [.float 2.0], [.instant 5]]⟩

/-- Two columns in another order, through a cursor that stands elsewhere. -/
theorem cell_alone_of_mixedA :
    reduce ⟨mixedA, 3, false⟩ summaryOfA = .ok [.float 2.0, .float 2.5, .null] ∧
      reduce ⟨mixedA, 1, false⟩ firstAndLeastOfA = .ok [.null, .float 2.0] ∧
      FirstBest .least (cellsAt 0 mixedA.rows) (.float 2.0) := by
  have hmean : average (cellsAt 0 mixedA.rows) = .float 2.5 := by
    have hquotient : Fit.total [Float.ofInt 3, 2.0] / Float.ofNat 2 = 2.5 := by decide +kernel
    have hfinite : (2.5 : Float).isFinite = true := by decide +kernel
    show Cell.ofFloat (Fit.total [Float.ofInt 3, 2.0] / Float.ofNat 2) = .float 2.5
    rw [hquotient]
    exact if_pos hfinite
  have hrow : reduce ⟨mixedA, 3, false⟩ summaryOfA = .ok [.float 2.0, .float 2.5, .null] := by
    rw [reduce_eq_ok_iff rfl]
    exact .cons rfl (.cons (congrArg Except.ok hmean) (.cons rfl .nil))
  obtain ⟨hcells, hdrawn⟩ := cell_alone_of_reduce rfl hrow
  refine ⟨hrow, ?_, ?_⟩
  · have hsource : ∀ i c, firstAndLeastOfA.columns[i]? = some c →
        ∃ d, summaryOfA.columns[2 - 2 * i]? = some d ∧ c.ReadsAs d := by
      intro i c hc
      match i with
      | 0 | 1 =>
        cases hc
        exact ⟨_, rfl, rfl, rfl, rfl⟩
    exact hdrawn ⟨mixedA, 1, false⟩ firstAndLeastOfA (fun i => 2 - 2 * i) rfl rfl hsource
  · obtain ⟨⟨label, named, hlabel, hnamed, hbest⟩, -⟩ := List.forall₂_cons.1 hcells
    cases hlabel
    cases hnamed
    exact hbest (by decide +kernel)

end Reduction
end FacetSql
