import FacetSql.Text.Blank
import FacetSql.Decimal.Exact
import FacetSql.Failure
import FacetSql.Heading.Operator
/-!
# Span — spans of time as text

A span is a whole number of milliseconds, or a whole number directly followed by one unit letter.  An interval is a
span that is not zero; an offset is a span with an optional sign.  Months have thirty days and years 365.
-/
namespace FacetSql.Span

/-- The interval taken where none can be read. -/
def defaultInterval : Int := 24 * 60 * 6000

/-- **The milliseconds of a unit.**  Small `m` is a minute and capital `M` a month. -/
def unitMillis? : Char → Option Int
  | 's' => some 1000
  | 'm' => some 60000
  | 'h' => some 3600000
  | 'd' => some 86400000
  | 'w' => some 604800000
  | 'M' => some 2592000000
  | 'y' => some 31536000000
  | _ => none

/-- The whole number of 64 signed bits that a text is. -/
def number? (s : String) : Option Int := (Numeral.int64.read s).toOption

/-- The multiple of a unit, within 64 signed bits. -/
def scaled (literal : String) (k unit : Int) : Except SpanFault Int :=
  if k < 0 then .error (.negative literal)
  else if Numeral.int64.holds (k * unit) then .ok (k * unit)
  else .error (.overflow literal)

/-- A text that is no plain number: a multiplier and a unit letter. -/
def readUnit (literal : String) : Except SpanFault Int :=
  match literal.toList.getLast? with
  | none => .error .empty
  | some unit =>
    match unitMillis? unit with
    | none => .error (.unknownUnit literal)
    | some millis =>
      match number? (String.ofList literal.toList.dropLast) with
      | none => .error (.badMultiplier literal)
      | some k => scaled literal k millis

/-- **Reads a span of milliseconds**; zero is a span. -/
def read (s : String) : Except SpanFault Int :=
  let literal := Text.trim s
  match number? literal with
  | some millis => if millis < 0 then .error (.negative literal) else .ok millis
  | none => readUnit literal

/-- **Reads an interval**, a span that is not zero. -/
def interval (s : String) : Except SpanFault Int := do
  let millis ← read s
  if millis = 0 then throw (.notPositive (Text.trim s))
  return millis

/-- The interval of a text, or the fallback if it is none. -/
def intervalOr (fallback : Int) (s : String) : Int :=
  match interval s with
  | .ok millis => millis
  | .error _ => fallback

/-- **The interval a histogram argument asks for**, or the fallback: a positive number of milliseconds, whole or cut
off, or the text of an interval. -/
def ofArgument (fallback : Int) : Option Argument → Int
  | some (.int n) => if 0 < n then n else fallback
  | some (.float x) => if 1.0 ≤ x then Decimal.truncate x else fallback
  | some (.text s) => intervalOr fallback s
  | none => fallback

/-- **Reads an offset**, a span with an optional sign in front. -/
def offset (s : String) : Except SpanFault Int :=
  match (Text.trim s).toList with
  | '-' :: rest => (read (String.ofList rest)).map (- ·)
  | '+' :: rest => read (String.ofList rest)
  | rest => read (String.ofList rest)

end FacetSql.Span
