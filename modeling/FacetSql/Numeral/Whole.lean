/-!
# Whole — reading whole numbers of a bounded range

`Range.read` reads an optional sign and ASCII digits, nothing else: no blanks, no separators.  A numeral is refused for
the first reason met from left to right, so digits that leave the range are reported before a bad character that
stands after them.
-/
namespace FacetSql.Numeral

/-- **Why a text is not a whole number of the range.** -/
inductive Fault where
  | empty
  | badDigit
  | tooLarge
  | tooSmall
  deriving DecidableEq, Repr

/-- The wording of a fault. -/
def Fault.message : Fault → String
  | .empty => "cannot parse integer from empty string"
  | .badDigit => "invalid digit found in string"
  | .tooLarge => "number too large to fit in target type"
  | .tooSmall => "number too small to fit in target type"

/-- **A range of whole numbers**, both ends included. -/
structure Range where
  least : Int
  greatest : Int

/-- Signed numbers of 64 bits. -/
def int64 : Range := ⟨-9223372036854775808, 9223372036854775807⟩

/-- Unsigned numbers of 32 bits. -/
def word32 : Range := ⟨0, 4294967295⟩

/-- Unsigned numbers of 64 bits. -/
def word64 : Range := ⟨0, 18446744073709551615⟩

/-- The range holds a number. -/
def Range.holds (r : Range) (n : Int) : Bool :=
  decide (r.least ≤ n) && decide (n ≤ r.greatest)

/-- The value of an ASCII digit. -/
def digitValue (c : Char) : Nat := c.toNat - '0'.toNat

/-- The number written by a list of digits, continuing from `start`. -/
def digitsFrom (start : Nat) (ds : List Char) : Nat :=
  ds.foldl (fun n d => 10 * n + digitValue d) start

/-- **Reads digits up to a limit.**  `beyond` is the fault of a number beyond it. -/
def readDigits (limit : Nat) (window : Fault) : Nat → List Char → Except Fault Nat
  | n, [] => .ok n
  | n, c :: cs =>
    if c.isDigit then
      if limit < 10 * n + digitValue c then .error window
      else readDigits limit window (10 * n + digitValue c) cs
    else .error .badDigit

/-- The magnitude after a sign; a sign needs a digit after it. -/
def readMagnitude (limit : Nat) (window : Fault) : List Char → Except Fault Nat
  | [] => .error .badDigit
  | c :: cs => readDigits limit window 0 (c :: cs)

/-- **Reads a whole number of the range**: an optional sign, then at least one digit.  A minus sign belongs to ranges
with negative numbers only. -/
def Range.read (r : Range) (s : String) : Except Fault Int :=
  match s.toList with
  | [] => .error .empty
  | '+' :: cs => (readMagnitude r.greatest.toNat .tooLarge cs).map Int.ofNat
  | '-' :: cs =>
    if r.least < 0 then (readMagnitude r.least.natAbs .tooSmall cs).map (fun n => -Int.ofNat n)
    else .error .badDigit
  | cs => (readDigits r.greatest.toNat .tooLarge 0 cs).map Int.ofNat

end FacetSql.Numeral
