/-!
# Exact — what a float stands for, exactly

A float is not a number, an infinity, or `± mantissa * 2 ^ exponent`.  `Exact.ofFloat` reads that off its sixty-four
bits; everything that prints or truncates a float starts from it.
-/
namespace FacetSql.Decimal

/-- **The exact value of a float.** -/
inductive Exact where
  | nan
  | infinity (negative : Bool)
  | finite (negative : Bool) (mantissa : Nat) (exponent : Int)

/-- The greatest of the sixty-four bits, which is the sign. -/
def signBit : Nat := 9223372036854775808

/-- The end of the fifty-two bits of the fraction. -/
def fractionEnd : Nat := 4503599627370496

/-- **Reads sign, exponent and mantissa off the bits.**  Exponent field 0 marks zero and the subnormal numbers, whose
leading bit is not implied. -/
def Exact.ofFloat (x : Float) : Exact :=
  let bits := x.toBits.toNat
  let negative := decide (signBit ≤ bits)
  let field : Nat := bits / fractionEnd % 2048
  let fraction := bits % fractionEnd
  if field = 2047 then
    if fraction = 0 then .infinity negative else .nan
  else if field = 0 then .finite negative fraction (-1074)
  else .finite negative (fractionEnd + fraction) ((field : Int) - 1075)

/-- The whole part of `mantissa * 2 ^ exponent`. -/
def wholePart (mantissa : Nat) (exponent : Int) : Nat :=
  if 0 ≤ exponent then mantissa * Nat.pow 2 exponent.toNat else mantissa / Nat.pow 2 (-exponent).toNat

/-- The number moved to the nearer end of the signed 64-bit range when it lies outside. -/
def clampInt64 (n : Int) : Int := max (-9223372036854775808) (min 9223372036854775807 n)

/-- **The whole number of a float**: cut off toward zero and clamped to 64 signed bits; what is not a number gives 0. -/
def truncate (x : Float) : Int :=
  match Exact.ofFloat x with
  | .nan => 0
  | .infinity negative => if negative then -9223372036854775808 else 9223372036854775807
  | .finite negative m e =>
    clampInt64 (if negative then -(wholePart m e : Int) else (wholePart m e : Int))

end FacetSql.Decimal
