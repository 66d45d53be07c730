import FacetSql.Sql.Printer
import FacetSql.Span
/-!
# Constant — names and constants in expressions

What a clause needs from an expression is often no more than the name of a field or the value of a constant.  A numeral
is a whole number if it fits into 64 signed bits, and a float otherwise.
-/
namespace FacetSql.Query

open Sql

/-- **The field an expression names.**  Parentheses around it say nothing; the parts of a path are joined by points. -/
def fieldName : Expr → Except Failure String
  | .name n => .ok n.text
  | .path parts => .ok (".".intercalate (parts.map Name.text))
  | .nested inner => fieldName inner
  | e => .error (.unsupported (.notAField e.render))

/-- **The number of a numeral.** -/
inductive Number where
  | int (n : Int)
  | float (x : Float)

/-- Reads a numeral. -/
def readNumber (numeral : String) : Except Failure Number :=
  match Numeral.int64.read numeral with
  | .ok n => .ok (.int n)
  | .error _ =>
    match Numeral.readReal numeral with
    | some x => .ok (.float x)
    | none => .error (.parse (.badNumber numeral))

/-- The offset that `NOW` is given, in milliseconds; none at all is no offset. -/
def clockOffset : List CallArgument → Except Failure Int
  | [] => .ok 0
  | .expr (.literal (.text s)) :: _ => (Span.offset s).mapError .span
  | .expr e :: _ => .error (.parse (.offsetExpected e.render))
  | a :: _ => .error (.parse (.badArgument a.render))

/-- **The value of a constant argument.**  `now` is the clock in milliseconds, which `NOW` reads. -/
def argument (now : Int) : Expr → Except Failure Argument
  | .literal (.number numeral _) => do
    match ← readNumber numeral with
    | .int n => return .int n
    | .float x => return .float x
  | .literal (.text s) => .ok (.text s)
  | .call c =>
    if Text.sameIgnoringAsciiCase (renderPath c.function) "NOW" then do
      let offset ← clockOffset c.arguments
      if Numeral.int64.holds (now + offset) then return .int (now + offset)
      throw .clockOverflow
    else .error (.parse (.notAConstant (Expr.call c).render))
  | e => .error (.parse (.notAConstant e.render))

end FacetSql.Query
