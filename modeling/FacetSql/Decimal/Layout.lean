import FacetSql.Decimal.Shortest
/-!
# Layout — writing a decimal

A `Layout` fixes which decimals are written positionally; all others get one digit before the point and an exponent
with its sign.  A whole number keeps one zero after the point.
-/
namespace FacetSql.Decimal

/-- **Where positional notation begins and ends**, by the decimal exponent of the leading digit, both ends included. -/
structure Layout where
  plainFrom : Int
  plainTo : Int

/-- Digits around a point, the leading one standing for `10 ^ e`. -/
def positional (ds : List Char) (e : Int) : List Char :=
  if e < 0 then
    '0' :: '.' :: (List.replicate ((-e).toNat - 1) '0' ++ ds)
  else if ds.length ≤ e.toNat + 1 then
    ds ++ List.replicate (e.toNat + 1 - ds.length) '0' ++ ['.', '0']
  else
    ds.take (e.toNat + 1) ++ '.' :: ds.drop (e.toNat + 1)

/-- One digit before the point, the others after it, and the exponent with its sign. -/
def scientific (ds : List Char) (e : Int) : List Char :=
  let tail := match ds.drop 1 with
    | [] => []
    | rest => '.' :: rest
  ds.take 1 ++ tail ++ 'e' :: (if e < 0 then '-' else '+') :: Nat.toDigits 10 e.natAbs

/-- Writes a decimal whose last digit is not 0. -/
def Layout.write (l : Layout) (p : Digits) : List Char :=
  let ds := Nat.toDigits 10 p.digits
  let e := p.scale + ds.length - 1
  if l.plainFrom ≤ e ∧ e ≤ l.plainTo then positional ds e else scientific ds e

/-- Takes the zeros off the end of a decimal, keeping its value. -/
def stripZeros : Nat → Digits → Digits
  | 0, p => p
  | fuel + 1, p =>
    if p.digits ≠ 0 ∧ p.digits % 10 = 0 then stripZeros fuel ⟨p.digits / 10, p.scale + 1⟩ else p

/-- **The text of a float** by its shortest digits.  `none` for what is no number and for the infinities. -/
def Layout.float (l : Layout) (x : Float) : Option String :=
  match Exact.ofFloat x with
  | .nan | .infinity _ => none
  | .finite negative m q =>
    let body := if m = 0 then ['0', '.', '0'] else l.write (stripZeros 20 (shortest m q))
    some (String.ofList (if negative then '-' :: body else body))

end FacetSql.Decimal
