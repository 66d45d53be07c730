import FacetSql.Table.Cursor
import FacetSql.Reduction.Column
/-!
# Reading — a column read through a cursor

The columns of a level share one cursor over the rows of its subquery.  A reading starts where the cursor stands and
leaves it where it ends: behind the first row, behind the last, or behind the first row that no growth curve goes
through.
-/
namespace FacetSql.Reduction

/-- Reads the first cell. -/
def readFirst (place : Nat) (cursor : Cursor) : Cell × Cursor :=
  match cursor.next with
  | (some row, behind) => (row.cell place, behind)
  | (none, behind) => (.null, behind)

/-- The cell that a scan has kept. -/
def keptCell : Option (Float × Cell) → Cell
  | some (_, c) => c
  | none => .null

/-- **Reads the best cell.** -/
def readExtreme (isBetter : Float → Float → Bool) (place : Nat) (cursor : Cursor) : Cell × Cursor :=
  let (best, behind) := cursor.scan (fun best row => .yield (better isBetter best (row.cell place))) none
  (keptCell best, behind)

/-- Adds the number of a cell to a sum and counts it; cells without a number are passed over. -/
def tallied (tally : Float × Nat) (c : Cell) : Float × Nat :=
  match c.float? with
  | some x => (tally.1 + x, tally.2 + 1)
  | none => tally

/-- The mean of what was added and counted. -/
def meanOf (tally : Float × Nat) : Cell :=
  if tally.2 = 0 then .null else .ofFloat (tally.1 / Float.ofNat tally.2)

/-- **Reads the mean of the numbers.** -/
def readAverage (place : Nat) (cursor : Cursor) : Cell × Cursor :=
  let (tally, behind) := cursor.scan (fun tally row => .yield (tallied tally (row.cell place))) (0.0, 0)
  (meanOf tally, behind)

/-- The point of a row, if it has an abscissa and a positive value. -/
def pointOf? (axis : Axis) (place ordinal : Nat) (row : Row) : Option (Float × Float) :=
  match axis.abscissa? ordinal row, (row.cell place).float? with
  | some x, some y => if 0.0 < y then some (x, y) else none
  | _, _ => none

/-- The number of rows and the points so far, with the next row; nothing from the first row on that has no point. -/
def pointAdded (axis : Axis) (place : Nat) (read : Option (Nat × List (Float × Float))) (row : Row) :
    ForInStep (Option (Nat × List (Float × Float))) :=
  match read with
  | none => .done none
  | some (ordinal, points) =>
    match pointOf? axis place ordinal row with
    | some point => .yield (some (ordinal + 1, points ++ [point]))
    | none => .done none

/-- The projection of the growth curve through points. -/
def projectionThrough (axis : Axis) (points : Option (List (Float × Float))) : Cell :=
  match points.bind growthCurve with
  | some fit => .ofFloat (growthAt fit (axis.target fit.count))
  | none => .null

/-- **Reads the projection of a growth curve.** -/
def readProjection (axis : Axis) (place : Nat) (cursor : Cursor) : Cell × Cursor :=
  let (read, behind) := cursor.scan (pointAdded axis place) (some (0, []))
  (projectionThrough axis (read.map Prod.snd), behind)

/-- **Reads the cell of a column** from the rows that are left. -/
def readColumn (cursor : Cursor) (c : Column) : Except Failure (Cell × Cursor) := do
  let place ← readPlace cursor.heading c
  match c.operator with
  | .plain => return readFirst place cursor
  | .min => return readExtreme (fun x y => decide (x < y)) place cursor
  | .max => return readExtreme (fun x y => decide (y < x)) place cursor
  | .avg => return readAverage place cursor
  | .growth => return readProjection (← axisOf cursor.heading c) place cursor
  | op => throw (.unsupported (.overSubquery op.name))

/-- **Reads one cell for each column**, each from the first row on. -/
def readColumns : List Column → Cursor → Except Failure (Row × Cursor)
  | [], cursor => .ok ([], cursor)
  | c :: columns, cursor => do
    let (cell, behind) ← readColumn cursor.rewind c
    let (cells, behind) ← readColumns columns behind
    return (cell :: cells, behind)

end FacetSql.Reduction
