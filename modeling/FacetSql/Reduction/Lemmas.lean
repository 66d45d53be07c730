import FacetSql.Reduction.Level
import FacetSql.Table.Lemmas
/-!
# Reduction.Lemmas — what is read through a cursor

A reading gives what its column makes of the rows that are left, and keeps the cursor over the same rows
(`readColumn_eq`).  So each column of a level sees all rows, wherever the column before it has left the cursor
(`reduce_eq`), and so do the keys (`reduceGrouped_eq`).
-/
namespace FacetSql.Reduction

variable {cursor : Cursor} {place : Nat}

/-- **A reading comes to a value** and leaves its cursor over the same rows. -/
structure Reads {α : Type} (cursor : Cursor) (value : α) (reading : α × Cursor) : Prop where
  value : reading.1 = value
  rewind : reading.2.rewind = cursor.rewind

theorem reads_first (place : Nat) (cursor : Cursor) :
    Reads cursor (firstCell (cursor.rest.map (fun row => row.cell place))) (readFirst place cursor) := by
  have hrewind := Cursor.rewind_next cursor
  unfold readFirst
  split
  · rename_i row behind hnext
    rw [Cursor.rest_of_next hnext]
    exact ⟨rfl, by rwa [hnext] at hrewind⟩
  · rename_i behind hnext
    rw [Cursor.rest_of_next_eq_none hnext]
    exact ⟨rfl, by rwa [hnext] at hrewind⟩

theorem reads_extreme (isBetter : Float → Float → Bool) (place : Nat) (cursor : Cursor) :
    Reads cursor (extreme isBetter (cursor.rest.map (fun row => row.cell place))) (readExtreme isBetter place cursor) := by
  refine ⟨?_, Cursor.rewind_scan _ _ cursor⟩
  have hscan := Cursor.scan_yield (fun best row => better isBetter best (row.cell place)) none cursor
  rw [← List.foldl_map] at hscan
  exact congrArg keptCell hscan

theorem foldl_tallied : ∀ (cells : List Cell) (sum : Float) (count : Nat),
    cells.foldl tallied (sum, count) =
      ((cells.filterMap Cell.float?).foldl (· + ·) sum, count + (cells.filterMap Cell.float?).length)
  | [], _, _ => rfl
  | c :: cells, sum, count => by
    rw [List.foldl_cons, tallied, List.filterMap_cons]
    cases c.float? with
    | none => exact foldl_tallied cells sum count
    | some x =>
      rw [foldl_tallied cells (sum + x) (count + 1), List.foldl_cons, List.length_cons]
      rw [Nat.add_right_comm, Nat.add_assoc]

theorem meanOf_tallied (cells : List Cell) : meanOf (cells.foldl tallied (0.0, 0)) = average cells := by
  rw [foldl_tallied, average, meanOf]
  cases cells.filterMap Cell.float? with
  | nil => rfl
  | cons x xs =>
    rw [if_neg (by simp), Nat.zero_add]
    rfl

theorem reads_average (place : Nat) (cursor : Cursor) :
    Reads cursor (average (cursor.rest.map (fun row => row.cell place))) (readAverage place cursor) := by
  refine ⟨?_, Cursor.rewind_scan _ _ cursor⟩
  have hscan := Cursor.scan_yield (fun tally row => tallied tally (row.cell place)) (0.0, 0) cursor
  rw [← List.foldl_map] at hscan
  exact (congrArg meanOf hscan).trans (meanOf_tallied _)

theorem pointsFrom_cons (axis : Axis) (place ordinal : Nat) (row : Row) (rows : List Row) :
    pointsFrom axis place ordinal (row :: rows) =
      (pointOf? axis place ordinal row).bind (fun point => (pointsFrom axis place (ordinal + 1) rows).map (point :: ·)) := by
  rw [pointsFrom, pointOf?]
  cases axis.abscissa? ordinal row with
  | none => rfl
  | some x =>
    cases (row.cell place).float? with
    | none => rfl
    | some y =>
      dsimp only
      split <;> rfl

/-- **The points of the rows that are left** come behind the points so far. -/
theorem scan_pointAdded (axis : Axis) (place ordinal : Nat) (points : List (Float × Float)) (cursor : Cursor) :
    (cursor.scan (pointAdded axis place) (some (ordinal, points))).1.map Prod.snd =
      (pointsFrom axis place ordinal cursor.rest).map (points ++ ·) := by
  generalize hread : some (ordinal, points) = read
  fun_induction Cursor.scan (pointAdded axis place) read cursor generalizing ordinal points with
  | case1 read cursor behind hnext =>
    subst hread
    rw [Cursor.rest_of_next_eq_none hnext]
    simp [pointsFrom]
  | case2 read cursor row behind hnext read' hstep =>
    subst hread
    rw [Cursor.rest_of_next hnext, pointsFrom_cons]
    dsimp only [pointAdded] at hstep
    cases hpoint : pointOf? axis place ordinal row with
    | none =>
      rw [hpoint] at hstep
      cases hstep
      rfl
    | some point =>
      rw [hpoint] at hstep
      cases hstep
  | case3 read cursor row behind hnext read' hstep ih =>
    subst hread
    rw [Cursor.rest_of_next hnext, pointsFrom_cons]
    dsimp only [pointAdded] at hstep
    cases hpoint : pointOf? axis place ordinal row with
    | none =>
      rw [hpoint] at hstep
      cases hstep
    | some point =>
      rw [hpoint] at hstep
      cases hstep
      rw [ih (ordinal + 1) (points ++ [point]) rfl, Option.bind_some, Option.map_map]
      congr 1
      funext more
      exact (List.append_cons ..).symm

theorem reads_projection (axis : Axis) (place : Nat) (cursor : Cursor) :
    Reads cursor (projection axis place cursor.rest) (readProjection axis place cursor) := by
  refine ⟨?_, Cursor.rewind_scan _ _ cursor⟩
  have hscan := scan_pointAdded axis place 0 [] cursor
  simp only [List.nil_append, Option.map_id'] at hscan
  exact congrArg (projectionThrough axis) hscan

/-- **What is read for a column is its cell from the rows that are left.** -/
theorem readColumn_eq (cursor : Cursor) (c : Column) : ∃ behind : Cursor, behind.rewind = cursor.rewind ∧
    readColumn cursor c = (reduceColumn cursor.heading cursor.rest c).map (·, behind) := by
  -- a reading that comes to the cell is the cell with the cursor behind it
  have hreads : ∀ {cell : Cell} {reading : Cell × Cursor}, Reads cursor cell reading →
      ∃ behind : Cursor, behind.rewind = cursor.rewind ∧
        (.ok reading : Except Failure (Cell × Cursor)) = (Except.ok cell).map (·, behind) := by
    rintro cell ⟨_, behind⟩ ⟨rfl, hrewind⟩
    exact ⟨behind, hrewind, rfl⟩
  unfold readColumn reduceColumn
  cases readPlace cursor.heading c with
  | error e => exact ⟨cursor, rfl, rfl⟩
  | ok place =>
    cases c.operator with
    | plain => exact hreads (reads_first place cursor)
    | min => exact hreads (reads_extreme _ place cursor)
    | max => exact hreads (reads_extreme _ place cursor)
    | avg => exact hreads (reads_average place cursor)
    | growth =>
      cases axisOf cursor.heading c with
      | error e => exact ⟨cursor, rfl, rfl⟩
      | ok axis => exact hreads (reads_projection axis place cursor)
    | count | sum | dateHistogram => exact ⟨cursor, rfl, rfl⟩

theorem readColumns_eq (columns : List Column) (cursor : Cursor) : ∃ behind : Cursor, behind.rewind = cursor.rewind ∧
    readColumns columns cursor =
      (columns.mapM (reduceColumn cursor.heading cursor.rewind.rest)).map (·, behind) := by
  induction columns generalizing cursor with
  | nil => exact ⟨cursor, rfl, rfl⟩
  | cons c columns ih =>
    obtain ⟨behind, hbehind, hcell⟩ := readColumn_eq cursor.rewind c
    replace hbehind : behind.rewind = cursor.rewind := hbehind
    obtain ⟨last, hlast, hcells⟩ := ih behind
    rw [Cursor.heading_eq_of_rewind_eq hbehind, hbehind] at hcells
    refine ⟨last, hlast.trans hbehind, ?_⟩
    rw [readColumns, hcell, List.mapM_cons]
    change (Except.map (·, behind) (reduceColumn cursor.heading cursor.rewind.rest c) >>= _) = _
    cases reduceColumn cursor.heading cursor.rewind.rest c with
    | error e => rfl
    | ok cell =>
      change (readColumns columns behind >>= _) = _
      rw [hcells]
      cases columns.mapM (reduceColumn cursor.heading cursor.rewind.rest) with
      | error e => rfl
      | ok cells => rfl

/-- **Each column sees all rows**, wherever the cursor stands. -/
theorem reduce_eq (cursor : Cursor) (outer : Heading) :
    reduce cursor outer = outer.columns.mapM (reduceColumn cursor.heading cursor.rewind.rest) := by
  obtain ⟨behind, -, hcells⟩ := readColumns_eq outer.columns cursor
  rw [reduce, hcells]
  cases outer.columns.mapM (reduceColumn cursor.heading cursor.rewind.rest) <;> rfl

theorem reads_groups (places : List Nat) (cursor : Cursor) :
    Reads cursor (groupsOf places cursor.rewind.rest) (readGroups places cursor) :=
  ⟨Cursor.scan_yield _ _ _, Cursor.rewind_scan _ _ _⟩

/-- **Each row falls into its group**, wherever the cursor stands. -/
theorem reduceGrouped_eq (cursor : Cursor) (outer : Heading) (keys : List Column) :
    reduceGrouped cursor outer keys = keys.mapM (readPlace cursor.heading) >>= fun places =>
      (groupsOf places cursor.rewind.rest).mapM (fun g => reduce (.ofTable ⟨cursor.heading, g.rows⟩) outer) := by
  unfold reduceGrouped
  congr 1
  funext places
  have hread := reads_groups places cursor
  show ((readGroups places cursor).1.mapM fun g =>
    reduce (.ofTable ⟨(readGroups places cursor).2.heading, g.rows⟩) outer) = _
  rw [hread.value, Cursor.heading_eq_of_rewind_eq hread.rewind]

end FacetSql.Reduction
