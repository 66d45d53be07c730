import FacetSql.Numeral.Whole
/-!
# Real — reading decimal numerals into floats

A numeral is digits with an optional point and an optional exponent; at least one digit stands before or after the
point.  The value is the float nearest to the decimal.  `readReal` also takes a sign and the words for infinity and
for what is no number.
-/
namespace FacetSql.Numeral

/-- The float at infinity. -/
def infinity : Float := 1.0 / 0.0

/-- The float that is no number. -/
def notANumber : Float := 0.0 / 0.0

/-- **The float nearest to** `m * 10 ^ scale`.  Beyond the greatest float it is infinity; a number below every float is
zero, and neither case computes a power. -/
def nearestFloat (m : Nat) (scale : Int) : Float :=
  let size := ((Nat.toDigits 10 m).length : Int) + scale
  if m = 0 then 0.0
  else if 310 < size then infinity
  else if size < -330 then 0.0
  else Float.ofScientific m (decide (scale < 0)) scale.natAbs

/-- Splits the leading digits off. -/
def splitDigits (cs : List Char) : List Char × List Char :=
  (cs.takeWhile Char.isDigit, cs.dropWhile Char.isDigit)

/-- The exponent at the end of a numeral: nothing, or a mark, an optional sign and digits. -/
def readExponent : List Char → Option Int
  | [] => some 0
  | c :: cs =>
    if c = 'e' ∨ c = 'E' then
      let (negative, ds) := match cs with
        | '+' :: ds => (false, ds)
        | '-' :: ds => (true, ds)
        | ds => (false, ds)
      if ds ≠ [] ∧ ds.all Char.isDigit then
        some (if negative then -(digitsFrom 0 ds : Int) else (digitsFrom 0 ds : Int))
      else none
    else none

/-- **Reads an unsigned decimal numeral.** -/
def readDecimal (cs : List Char) : Option Float :=
  let (whole, rest) := splitDigits cs
  let (fraction, rest) := match rest with
    | '.' :: rest => splitDigits rest
    | rest => ([], rest)
  if whole = [] ∧ fraction = [] then none
  else (readExponent rest).map (fun e => nearestFloat (digitsFrom 0 (whole ++ fraction)) (e - fraction.length))

/-- An unsigned numeral, or in any case a word for infinity or for no number. -/
def readUnsigned (cs : List Char) : Option Float :=
  let word := String.ofList (cs.map Char.toLower)
  if word = "inf" ∨ word = "infinity" then some infinity
  else if word = "nan" then some notANumber
  else readDecimal cs

/-- **Reads a float**: an optional sign, then a numeral or a word. -/
def readReal (s : String) : Option Float :=
  match s.toList with
  | '+' :: cs => readUnsigned cs
  | '-' :: cs => (readUnsigned cs).map Float.neg
  | cs => readUnsigned cs

end FacetSql.Numeral
