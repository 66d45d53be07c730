import FacetSql.Heading.Basic
import FacetSql.Table.Basic
import FacetSql.Reduction.Fit
/-!
# Column — one cell from many rows

A column over a subquery takes one cell from all rows of the subquery: the first, the least, the greatest, the mean, or
the next on a growth curve.  It names the column it reads by label.
-/
namespace FacetSql.Reduction

/-- The place of the column of a label. -/
def placeOf (inner : Heading) (label : String) : Except Failure Nat :=
  match inner.byLabel? label with
  | some c => .ok c.index
  | none => .error (.compile (.columnNotFound label))

/-- **The place of the column that a column reads.** -/
def readPlace (inner : Heading) (c : Column) : Except Failure Nat :=
  match c.field with
  | some label => placeOf inner label
  | none => .error (.compile (.needsColumn c.label))

/-- The first cell, missing if there is none. -/
def firstCell : List Cell → Cell
  | [] => .null
  | c :: _ => c

/-- The better of the best cell so far and the next; the best stays unless the next is strictly better, and cells
without a number are passed over. -/
def better (isBetter : Float → Float → Bool) (best : Option (Float × Cell)) (c : Cell) : Option (Float × Cell) :=
  match c.abscissa?, best with
  | none, best => best
  | some x, none => some (x, c)
  | some x, some (y, b) => if isBetter x y then some (x, c) else some (y, b)

/-- **The best cell**, missing if no cell has a number. -/
def extreme (isBetter : Float → Float → Bool) (cells : List Cell) : Cell :=
  match cells.foldl (better isBetter) none with
  | some (_, c) => c
  | none => .null

/-- **The least cell.** -/
def least : List Cell → Cell := extreme (fun x y => decide (x < y))

/-- **The greatest cell.** -/
def greatest : List Cell → Cell := extreme (fun x y => decide (y < x))

/-- **The mean of the numbers among cells**, missing if there are none. -/
def average (cells : List Cell) : Cell :=
  match cells.filterMap Cell.float? with
  | [] => .null
  | xs => .ofFloat (Fit.total xs / Float.ofNat xs.length)

/-- What a growth curve is drawn over: the numbers of the rows, projected one step further, or another column and the
abscissa to project to. -/
inductive Axis where
  | ordinals
  | column (place : Nat) (target : Float)

/-- **The axis of a growth column.** -/
def axisOf (inner : Heading) (c : Column) : Except Failure Axis :=
  match c.arguments with
  | [] => .ok .ordinals
  | abscissa :: rest =>
    match abscissa.text? with
    | none => .error (.compile (.growthPredictor c.label))
    | some label => do
      let place ← placeOf inner label
      match rest.head?.bind Argument.float? with
      | some target => return .column place target
      | none => throw (.compile (.growthTarget c.label))

/-- The abscissa of a row. -/
def Axis.abscissa? (axis : Axis) (ordinal : Nat) (row : Row) : Option Float :=
  match axis with
  | .ordinals => some (Float.ofNat ordinal)
  | .column place _ => (row.cell place).abscissa?

/-- The abscissa a curve is projected to. -/
def Axis.target (axis : Axis) (count : Nat) : Float :=
  match axis with
  | .ordinals => Float.ofNat count
  | .column _ target => target

/-- **The points of the rows**, numbered from `ordinal`; none at all if one row has no abscissa or no positive
value. -/
def pointsFrom (axis : Axis) (place : Nat) : Nat → List Row → Option (List (Float × Float))
  | _, [] => some []
  | ordinal, row :: rows =>
    match axis.abscissa? ordinal row, (row.cell place).float? with
    | some x, some y =>
      if 0.0 < y then (pointsFrom axis place (ordinal + 1) rows).map ((x, y) :: ·) else none
    | _, _ => none

/-- **The projection of a growth curve**, missing if there is no curve. -/
def projection (axis : Axis) (place : Nat) (rows : List Row) : Cell :=
  match (pointsFrom axis place 0 rows).bind growthCurve with
  | some fit => .ofFloat (growthAt fit (axis.target fit.count))
  | none => .null

/-- **The cell of a column from all rows.** -/
def reduceColumn (inner : Heading) (rows : List Row) (c : Column) : Except Failure Cell := do
  let place ← readPlace inner c
  let cells := rows.map (fun row => row.cell place)
  match c.operator with
  | .plain => return firstCell cells
  | .min => return least cells
  | .max => return greatest cells
  | .avg => return average cells
  | .growth => return projection (← axisOf inner c) place rows
  | op => throw (.unsupported (.overSubquery op.name))

end FacetSql.Reduction
