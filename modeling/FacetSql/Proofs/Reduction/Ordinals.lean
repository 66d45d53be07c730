import FacetSql.Proofs.Reduction.Alone
/-!
# Ordinals — a growth curve over the numbers of the rows

A growth column without an axis counts the rows from zero and projects one step past the last.  Over a column that holds
the same numbers, with their count for a target, it has the same points (`pointsFrom_of_counts`) and the same target,
so it has the same cell whatever its values are (`growth_of_ordinals`).
-/
namespace FacetSql.Reduction

/-- `GROWTH(y)` over a subquery -/
def growthOf (y : String) : Column := .function .growth (some y) []

/-- `GROWTH(y, x, target)` over a subquery -/
def growthAlong (y x : String) (target : Nat) : Column := .function .growth (some y) [.text x, .int target]

/-- **The column at a place counts the rows** from a number on. -/
def Counts (place ordinal : Nat) (rows : List Row) : Prop :=
  ∀ (i : Nat) (row : Row), rows[i]? = some row → row.cell place = .int ((ordinal + i : Nat) : Int)

theorem Counts.tail {place ordinal : Nat} {row : Row} {rows : List Row} (h : Counts place ordinal (row :: rows)) :
    Counts place (ordinal + 1) rows := by
  intro i r hr
  rw [h (i + 1) r hr, Nat.add_right_comm, Nat.add_assoc]

theorem pointOf?_of_counts {axisPlace ordinal : Nat} {row : Row} {rows : List Row}
    (h : Counts axisPlace ordinal (row :: rows)) (target : Float) (place : Nat) :
    pointOf? (.column axisPlace target) place ordinal row = pointOf? .ordinals place ordinal row := by
  have hcell : row.cell axisPlace = .int (ordinal : Int) := h 0 row rfl
  have habscissa : (Axis.column axisPlace target).abscissa? ordinal row = Axis.ordinals.abscissa? ordinal row := by
    show (row.cell axisPlace).abscissa? = some (Float.ofNat ordinal)
    rw [hcell]
    rfl
  rw [pointOf?, pointOf?, habscissa]

/-- **A column that counts the rows gives the points of the numbers of the rows.** -/
theorem pointsFrom_of_counts (axisPlace : Nat) (target : Float) (place : Nat) : ∀ (rows : List Row) (ordinal : Nat),
    Counts axisPlace ordinal rows →
      pointsFrom (.column axisPlace target) place ordinal rows = pointsFrom .ordinals place ordinal rows
  | [], _, _ => rfl
  | row :: rows, ordinal, h => by
    rw [pointsFrom_cons, pointsFrom_cons, pointOf?_of_counts h,
      pointsFrom_of_counts axisPlace target place rows (ordinal + 1) h.tail]

theorem length_of_pointsFrom (axis : Axis) (place : Nat) : ∀ (rows : List Row) (ordinal : Nat) {points},
    pointsFrom axis place ordinal rows = some points → points.length = rows.length
  | [], _, _, h => by
    cases h
    rfl
  | row :: rows, ordinal, points, h => by
    rw [pointsFrom_cons] at h
    obtain ⟨point, -, h⟩ := Option.bind_eq_some_iff.1 h
    obtain ⟨more, hmore, rfl⟩ := Option.map_eq_some_iff.1 h
    rw [List.length_cons, List.length_cons, length_of_pointsFrom axis place rows (ordinal + 1) hmore]

theorem count_of_growthCurve {points : List (Float × Float)} {fit : Fit Float} (h : growthCurve points = some fit) :
    fit.count = points.length := by
  unfold growthCurve Fit.ofPoints at h
  split at h
  · cases h
  · dsimp only at h
    split at h
    · cases h
    · split at h
      · cases h
        exact List.length_map _
      · cases h

theorem projection_of_counts {axisPlace : Nat} {rows : List Row} (h : Counts axisPlace 0 rows) (place : Nat) :
    projection (.column axisPlace (Float.ofNat rows.length)) place rows = projection .ordinals place rows := by
  unfold projection
  rw [pointsFrom_of_counts axisPlace _ place rows 0 h]
  cases hpoints : pointsFrom .ordinals place 0 rows with
  | none => rfl
  | some points =>
    rw [Option.bind_some]
    cases hfit : growthCurve points with
    | none => rfl
    | some fit =>
      have hcount : fit.count = rows.length :=
        (count_of_growthCurve hfit).trans (length_of_pointsFrom .ordinals place rows 0 hpoints)
      have htarget : Axis.ordinals.target fit.count = Float.ofNat rows.length := by rw [Axis.target, hcount]
      dsimp only
      rw [htarget, Axis.target]

section

variable {cursor : Cursor} {c c' named axis : Column} {y x : String}

/-- **`GROWTH(y)` and `GROWTH(y, x, n)` have the same cell** over `n` rows that `x` counts from zero. -/
theorem growth_of_ordinals (hopen : cursor.closed = false) (hy : cursor.heading.byLabel? y = some named)
    (hx : cursor.heading.byLabel? x = some axis) (hcounts : Counts axis.index 0 cursor.table.rows)
    (hc : c.ReadsAs (growthOf y)) (hc' : c'.ReadsAs (growthAlong y x cursor.table.rows.length)) :
    ∃ cell, reduce cursor ⟨[c]⟩ = .ok [cell] ∧ reduce cursor ⟨[c']⟩ = .ok [cell] := by
  refine ⟨projection .ordinals named.index cursor.table.rows, ?_, ?_⟩
  · rw [reduce_eq_ok_iff hopen]
    refine .cons (reduceColumn_of_readsAs hc ?_) .nil
    have hplace : readPlace cursor.heading (growthOf y) = .ok named.index :=
      readPlace_eq_ok_iff.2 ⟨y, named, rfl, hy, rfl⟩
    rw [reduceColumn, hplace]
    rfl
  · rw [reduce_eq_ok_iff hopen]
    refine .cons (reduceColumn_of_readsAs hc' ?_) .nil
    have hplace : readPlace cursor.heading (growthAlong y x cursor.table.rows.length) = .ok named.index :=
      readPlace_eq_ok_iff.2 ⟨y, named, rfl, hy, rfl⟩
    have haxis : axisOf cursor.heading (growthAlong y x cursor.table.rows.length) =
        .ok (.column axis.index (Float.ofNat cursor.table.rows.length)) := by
      show (placeOf cursor.heading x >>= _) = _
      rw [placeOf, hx]
      rfl
    rw [← projection_of_counts hcounts, reduceColumn, hplace]
    show (axisOf cursor.heading (growthAlong y x cursor.table.rows.length) >>= _) = _
    rw [haxis]
    rfl

end

/-- Three numbered rows with doubling values. -/
def doubling : Table :=
  ⟨⟨[.plain "x", { Column.plain "y" with index := 1 }]⟩,
    [[.int 0, .int 1], [.int 1, .float 2.0], [.int 2, .int 4]]⟩

theorem growth_of_ordinals_doubling : Counts 0 0 doubling.rows ∧
    ∃ cell, reduce (.ofTable doubling) ⟨[growthOf "y"]⟩ = .ok [cell] ∧
      reduce (.ofTable doubling) ⟨[growthAlong "y" "x" 3]⟩ = .ok [cell] := by
  have hcounts : Counts 0 0 doubling.rows := by
    intro i row hrow
    match i with
    | 0 | 1 | 2 =>
      cases hrow
      rfl
  exact ⟨hcounts, growth_of_ordinals rfl rfl rfl hcounts ⟨rfl, rfl, rfl⟩ ⟨rfl, rfl, rfl⟩⟩

end FacetSql.Reduction
