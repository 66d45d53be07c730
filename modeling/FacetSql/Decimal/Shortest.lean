import FacetSql.Decimal.Exact
/-!
# Shortest — the fewest digits that read back

A positive finite float is `m * 2 ^ q`.  The decimals that read back as it fill the interval between the midpoints to
its two neighbours; the ends belong to it exactly when `m` is even.  `shortest` tries the grids of 1, 2, … 17 digits:
on each the two neighbours of the value are tested, the first grid with a hit wins, of two hits the nearer one, and an
exact tie goes to the even digit.
-/
namespace FacetSql.Decimal

/-- **A decimal** `digits * 10 ^ scale`. -/
structure Digits where
  digits : Nat
  scale : Int

/-- The order of `d * 10 ^ k` and `b * 2 ^ q`, by cross-multiplication in whole numbers. -/
def comparePowers (d : Nat) (k : Int) (b : Nat) (q : Int) : Ordering :=
  compare (d * Nat.pow 10 k.toNat * Nat.pow 2 (-q).toNat) (b * Nat.pow 2 q.toNat * Nat.pow 10 (-k).toNat)

/-- Four times the lower end of the interval around `m * 2 ^ q`, in units of `2 ^ q`: at a power of two the neighbour
below is only half as far. -/
def lowerEnd (m : Nat) (q : Int) : Nat :=
  if m = fractionEnd ∧ -1074 < q then 4 * m - 1 else 4 * m - 2

/-- **The decimal reads back as** `m * 2 ^ q`. -/
def readsBack (m : Nat) (q : Int) (p : Digits) : Bool :=
  let below := comparePowers p.digits p.scale (lowerEnd m q) (q - 2)
  let above := comparePowers p.digits p.scale (4 * m + 2) (q - 2)
  if m % 2 = 0 then below.isGE && above.isLE else below.isGT && above.isLT

/-- The value `m * 2 ^ q` cut down to the grid of `10 ^ k`. -/
def cutToGrid (m : Nat) (q k : Int) : Nat :=
  (m * Nat.pow 2 q.toNat * Nat.pow 10 (-k).toNat) / (Nat.pow 2 (-q).toNat * Nat.pow 10 k.toNat)

/-- The decimal exponent of the leading digit of a positive float.  Every one is above `10 ^ -330`. -/
def leadingExponent (m : Nat) (q : Int) : Int :=
  ((Nat.toDigits 10 (cutToGrid m q (-330))).length : Int) - 331

/-- The neighbour of the value on the grid of `10 ^ k` that reads back; the nearer one if both do. -/
def hitOnGrid (m : Nat) (q k : Int) : Option Digits :=
  let d := cutToGrid m q k
  let low : Digits := ⟨d, k⟩
  let high : Digits := ⟨d + 1, k⟩
  match readsBack m q low, readsBack m q high with
  | false, false => none
  | true, false => some low
  | false, true => some high
  | true, true =>
    -- twice the value against the sum of its two neighbours
    match comparePowers (2 * d + 1) k (2 * m) q with
    | .gt => some low
    | .lt => some high
    | .eq => some (if d % 2 = 0 then low else high)

/-- **The shortest decimal that reads back**, the nearest of those. -/
def shortest (m : Nat) (q : Int) : Digits :=
  let e := leadingExponent m q
  match (List.range 17).findSome? (fun (n : Nat) => hitOnGrid m q (e - n)) with
  | some p => p
  | none => ⟨cutToGrid m q (e - 16), e - 16⟩

end FacetSql.Decimal
