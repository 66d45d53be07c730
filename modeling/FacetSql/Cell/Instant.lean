/-!
# Instant — points in time and their text

An instant is a number of milliseconds from the start of 1970, and is written by the calendar in which every fourth
year has a leap day, but of the full centuries only every fourth.
-/
namespace FacetSql.Instant

/-- The least instant. -/
def least : Int := -8334601228800000

/-- The greatest instant. -/
def greatest : Int := 8210266876799999

/-- The number is an instant. -/
def isValid (millis : Int) : Bool :=
  decide (least ≤ millis) && decide (millis ≤ greatest)

theorem isValid_iff {millis : Int} : isValid millis = true ↔ least ≤ millis ∧ millis ≤ greatest := by
  rw [isValid, Bool.and_eq_true, decide_eq_true_iff, decide_eq_true_iff]

/-- **A day of the calendar.** -/
structure Date where
  year : Int
  month : Nat
  day : Nat

/-- **The date of a day counted from the start of 1970.**  Years are taken to begin in March, so that the leap day is
the last of its year; 146097 days make 400 years. -/
def dateOfDay (n : Int) : Date :=
  let shifted := n + 719468
  let era := shifted / 146097
  let dayOfEra := (shifted % 146097).toNat
  let yearOfEra := (dayOfEra - dayOfEra / 1460 + dayOfEra / 36524 - dayOfEra / 146096) / 365
  let dayOfYear := dayOfEra - (365 * yearOfEra + yearOfEra / 4 - yearOfEra / 100)
  let fromMarch := (5 * dayOfYear + 2) / 153
  let month := if fromMarch < 10 then fromMarch + 3 else fromMarch - 9
  let year := 400 * era + yearOfEra
  ⟨if month ≤ 2 then year + 1 else year, month, dayOfYear - (153 * fromMarch + 2) / 5 + 1⟩

/-- A number with zeros in front up to the given width. -/
def padded (width n : Nat) : String :=
  let ds := Nat.toDigits 10 n
  String.ofList (List.replicate (width - ds.length) '0' ++ ds)

/-- The year, with a sign outside 0 to 9999. -/
def yearText (year : Int) : String :=
  let sign := if year < 0 then "-" else if 9999 < year then "+" else ""
  sign ++ padded 4 year.natAbs

/-- **The text of an instant**: date and time of day, the milliseconds where there are any. -/
def write (millis : Int) : String :=
  let date := dateOfDay (millis / 86400000)
  let ofDay := (millis % 86400000).toNat
  let fraction := if ofDay % 1000 = 0 then "" else "." ++ padded 3 (ofDay % 1000)
  yearText date.year ++ "-" ++ padded 2 date.month ++ "-" ++ padded 2 date.day ++ "T" ++
    padded 2 (ofDay / 3600000) ++ ":" ++ padded 2 (ofDay / 60000 % 60) ++ ":" ++ padded 2 (ofDay / 1000 % 60) ++
    fraction ++ "Z"

end FacetSql.Instant
