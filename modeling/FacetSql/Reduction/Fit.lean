import FacetSql.Cell.Basic
/-!
# Fit — a straight line through points, by least squares

The sums are taken around the means.  The computation needs no more than the four operations and an order, so it is the
same over floats and over numbers without rounding.  A growth curve is a line through the logarithms of its values.
-/
namespace FacetSql.Reduction

/-- **A line** `alpha + beta * x` through a number of points. -/
structure Fit (α : Type) where
  alpha : α
  beta : α
  count : Nat

/-- **What a fit takes from its numbers** beside the four operations. -/
structure FitRules (α : Type) where
  /-- The number of a count. -/
  ofCount : Nat → α
  /-- How near abscissas may lie to their mean, relative to it, to count as equal. -/
  tolerance : α
  /-- The number may be an answer. -/
  usable : α → Bool

namespace Fit

variable {α : Type} [Zero α] [Add α] [Sub α] [Mul α] [Div α] [Neg α] [LT α] [LE α] [DecidableLT α] [DecidableLE α]

/-- The sum from left to right. -/
def total (xs : List α) : α := xs.foldl (· + ·) 0

/-- The distance from zero. -/
def magnitude (x : α) : α := if x < 0 then -x else x

/-- The greatest of zero and the numbers. -/
def greatest (xs : List α) : α := xs.foldl (fun best x => if best < x then x else best) 0

/-- The arithmetic mean. -/
def mean (rules : FitRules α) (xs : List α) : α := total xs / rules.ofCount xs.length

/-- How far the abscissas lie from their mean at most. -/
def spread (xMean : α) (points : List (α × α)) : α :=
  greatest (points.map (fun p => magnitude (p.1 - xMean)))

/-- The sum of the squares of the abscissas around their mean. -/
def squares (xMean : α) (points : List (α × α)) : α :=
  total (points.map (fun p => (p.1 - xMean) * (p.1 - xMean)))

/-- The sum of the products of both coordinates around their means. -/
def products (xMean yMean : α) (points : List (α × α)) : α :=
  total (points.map (fun p => (p.1 - xMean) * (p.2 - yMean)))

/-- All abscissas are equal, or nearly so. -/
def isDegenerate (rules : FitRules α) (xMean : α) (points : List (α × α)) : Bool :=
  decide (squares xMean points ≤ 0) || decide (spread xMean points ≤ rules.tolerance * magnitude xMean)

/-- **The line through points.**  There is none through no points, nor if all abscissas are equal. -/
def ofPoints (rules : FitRules α) (points : List (α × α)) : Option (Fit α) :=
  if points.isEmpty then none
  else
    let xMean := mean rules (points.map (·.1))
    let yMean := mean rules (points.map (·.2))
    if isDegenerate rules xMean points then none
    else
      let beta := products xMean yMean points / squares xMean points
      let alpha := yMean - beta * xMean
      if rules.usable alpha && rules.usable beta then some ⟨alpha, beta, points.length⟩ else none

/-- The ordinate of the line. -/
def ordinate (fit : Fit α) (x : α) : α := fit.alpha + fit.beta * x

end Fit

/-- Fits of floats: abscissas are equal if only rounding keeps them apart, and answers are finite. -/
def floatRules : FitRules Float where
  ofCount := Float.ofNat
  tolerance := 8.0 * 2.220446049250313e-16
  usable := Float.isFinite

instance zeroFloat : Zero Float := ⟨0.0⟩

/-- **The growth curve through points**, a line through the logarithms of the ordinates. -/
def growthCurve (points : List (Float × Float)) : Option (Fit Float) :=
  Fit.ofPoints floatRules (points.map (fun p => (p.1, Float.log p.2)))

/-- The value of a growth curve. -/
def growthAt (fit : Fit Float) (x : Float) : Float := Float.exp (fit.ordinate x)

end FacetSql.Reduction
