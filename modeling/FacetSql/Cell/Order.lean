import FacetSql.Cell.Basic
/-!
# Order — the order of cells in ORDER BY

Cells of one kind compare by their values, whole numbers exactly and other numbers as floats; cells of different kinds
compare by kind: truth values, numbers, instants, texts, missing cells.
-/
namespace FacetSql.Cell

/-- The place of the kind of a cell. -/
def rank : Cell → Nat
  | .bool _ => 0
  | .int _ | .float _ => 1
  | .instant _ => 2
  | .text _ => 3
  | .null => 4

/-- The order of two floats.  A float that is no number counts as equal to every other. -/
def compareFloats (x y : Float) : Ordering :=
  if x < y then .lt else if y < x then .gt else .eq

/-- **The order of two cells.** -/
def compare : Cell → Cell → Ordering
  | .bool a, .bool b => Ord.compare a b
  | .int a, .int b => Ord.compare a b
  | .int a, .float b => compareFloats (Float.ofInt a) b
  | .float a, .int b => compareFloats a (Float.ofInt b)
  | .float a, .float b => compareFloats a b
  | .instant a, .instant b => Ord.compare a b
  | .text a, .text b => compareOfLessAndEq a b
  | a, b => Ord.compare a.rank b.rank

/-- **The order of rows by one cell.**  Missing cells come last in both directions; otherwise the descending order
compares the two cells the other way round. -/
def compareIn (descending : Bool) (a b : Cell) : Ordering :=
  match a.isNull, b.isNull with
  | true, false => .gt
  | false, true => .lt
  | _, _ => if descending then b.compare a else a.compare b

end FacetSql.Cell
