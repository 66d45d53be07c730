import FacetSql.Text.Blank
import FacetSql.Json.Printer
import FacetSql.Numeral.Real
import FacetSql.Cell.Instant
/-!
# Cell — one value of a row

A cell is missing, a truth value, a number (whole or float), a text or an instant.  Cells come from the engine's JSON
and go back into JSON; in between they are compared, grouped and averaged through their numeric views.
-/
namespace FacetSql

/-- **One value of a row.**  `null` is the missing value; an instant counts milliseconds. -/
inductive Cell where
  | null
  | bool (b : Bool)
  | int (n : Int)
  | float (x : Float)
  | text (s : String)
  | instant (millis : Int)
  deriving Inhabited

/-- A row of cells, one for each column. -/
abbrev Row := List Cell

namespace Cell

/-- **A float cell.**  What is no finite number is missing. -/
def ofFloat (x : Float) : Cell :=
  if x.isFinite then .float x else .null

/-- **The cell of an instant.**  A number beyond all instants is missing. -/
def ofMillis (millis : Int) : Cell :=
  if Instant.isValid millis then .instant millis else .null

/-- **The cell of a value in a document.**  Whole numbers of 64 signed bits stay whole; arrays and objects are kept as
their text. -/
def ofJson : Json → Cell
  | .null => .null
  | .bool b => .bool b
  | .int n => if Numeral.int64.holds n then .int n else ofFloat (Float.ofInt n)
  | .float x => ofFloat x
  | .text s => .text s
  | j => .text j.compact

/-- The cell is missing. -/
def isNull : Cell → Bool
  | .null => true
  | _ => false

/-- **The numeric view**: numbers, and texts that are numerals with blanks around them. -/
def float? : Cell → Option Float
  | .int n => some (Float.ofInt n)
  | .float x => some x
  | .text s => Numeral.readReal (Text.trim s)
  | _ => none

/-- **The numeric view on a time axis**, where instants are numbers too. -/
def abscissa? : Cell → Option Float
  | .instant millis => some (Float.ofInt millis)
  | c => c.float?

/-- **Sameness of group keys**: of one kind and equal.  A float that is no number differs from itself, and the two
zeros are the same. -/
def same : Cell → Cell → Bool
  | .null, .null => true
  | .bool a, .bool b => a == b
  | .int a, .int b => a == b
  | .float a, .float b => a == b
  | .text a, .text b => a == b
  | .instant a, .instant b => a == b
  | _, _ => false

/-- The cell in a result. -/
def toJson : Cell → Json
  | .null => .null
  | .bool b => .bool b
  | .int n => .int n
  | .float x => Json.ofFloat x
  | .text s => .text s
  | .instant millis => .text (Instant.write millis)

end Cell
end FacetSql
