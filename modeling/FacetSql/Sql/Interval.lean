import FacetSql.Sql.Operator
/-!
# Interval — spans of time and the fields of dates

An interval is a value and the fields it is counted in, each with a precision or without.  No step asks for its length,
so it is read into its canonical text.
-/
namespace FacetSql.Sql

open Reader

/-- The fields of an interval. -/
def intervalFields : List String :=
  ["YEAR", "MONTH", "WEEK", "DAY", "HOUR", "MINUTE", "SECOND", "CENTURY", "DECADE", "DOW", "DOY", "EPOCH", "ISODOW",
    "ISOYEAR", "JULIAN", "MICROSECOND", "MICROSECONDS", "MILLENIUM", "MILLENNIUM", "MILLISECOND", "MILLISECONDS",
    "NANOSECOND", "NANOSECONDS", "QUARTER", "TIMEZONE", "TIMEZONE_HOUR", "TIMEZONE_MINUTE"]

/-- **A field of a date or a time.** -/
def dateField : Reader String :=
  oneOf (intervalFields ++ ["DAYOFWEEK", "DAYOFYEAR", "DATE", "ISOWEEK", "TIME"])

/-- How tight an operator binds in the value of an interval, which logical operators end. -/
def intervalPrecedence (tokens : List Token) : Nat :=
  match keywordOf tokens.head? with
  | "AND" | "OR" | "XOR" => 0
  | _ => precedence tokens

/-- The text in front of a precision, and the precision if it is there. -/
def withSize (written : String) : Reader String := do
  return inWords [written, ← DataType.size]

/-- **An interval**, behind its keyword. -/
def interval (r : Rules) : Reader String := do
  let value ← operators r intervalPrecedence 0 (← r.operand)
  let start := "INTERVAL " ++ value.render
  match ← oneOf? intervalFields with
  | some "SECOND" => return inWords [start, "SECOND", ← DataType.precisionAndScale ", "]
  | field =>
    let first ← withSize (inWords [start, field.getD ""])
    if ← keyword? "TO" then
      let last ← dateField
      if last = "SECOND" then return first ++ " TO " ++ (← withSize last)
      return first ++ " TO " ++ last
    return first

end FacetSql.Sql
