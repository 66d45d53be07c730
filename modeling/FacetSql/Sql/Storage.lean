import FacetSql.Sql.Column
/-!
# Storage — how and where rows are kept

The clauses behind the columns of a table tell how a row is written, which form its files have and where they are.
They may stand in any order and be said again.  Settings are names with constants, and what they mean is left open.
-/
namespace FacetSql.Sql

open Reader

/-- A setting: a name and a constant. -/
def setting : Reader String := do
  let n ← nameText
  sign "="
  return n ++ " = " ++ (← constant).render

/-- The texts of settings in parentheses behind a keyword, if it is next. -/
def settingList (word : String) : Reader String := do
  if ← keyword? word then return inParentheses (← inParens (commaList setting))
  return ""

/-- Settings in parentheses behind a keyword, which stands before them. -/
def settings (word : String) : Reader String := do
  let entries ← settingList word
  return textIf (entries != "") (word ++ " " ++ entries)

/-- A bare word behind an equals sign. -/
def assignedWord : Reader String := do
  sign "="
  match ← peek with
  | some (.word n) =>
    skip
    return n.text
  | _ => refuse

/-- **How and where the rows of a table are stored**, each part as its text and empty if it is not said. -/
structure Storage where
  /-- How a row is written. -/
  rows : String
  /-- The form of the files, by its name. -/
  form : String
  /-- How files are read and written, instead of a form. -/
  access : String
  place : String

/-- The text of all parts. -/
def Storage.render (s : Storage) : String := inWords [s.rows, s.form, s.access, s.place]

/-- How a row is written, behind the keyword. -/
def rowFormat : Reader String := do
  keyword "FORMAT"
  match ← oneOf? ["SERDE", "DELIMITED"] with
  | some "SERDE" => return "ROW FORMAT SERDE " ++ enclosed apostrophe (← textValue)
  | _ => return "ROW FORMAT DELIMITED"

/-- The parts of a storage in any order, at most a number of clauses; the last of each counts, and a form and an access
count as one. -/
def storageUpTo (r : Rules) : Nat → Storage → Reader Storage
  | 0, _ => refuse
  | n + 1, s => do
    match ← oneOf? ["ROW", "STORED", "LOCATION"] with
    | none => return s
    | some "ROW" =>
      let rows ← rowFormat
      storageUpTo r n ⟨rows, s.form, s.access, s.place⟩
    | some "STORED" =>
      keyword "AS"
      if ← keyword? "INPUTFORMAT" then
        let input ← r.text
        keyword "OUTPUTFORMAT"
        let output ← r.text
        storageUpTo r n ⟨s.rows, "", "STORED AS INPUTFORMAT " ++ input ++ " OUTPUTFORMAT " ++ output, s.place⟩
      else
        let form := "STORED AS " ++ (← oneOf fileForms)
        storageUpTo r n ⟨s.rows, form, "", s.place⟩
    | some _ =>
      let place := "LOCATION " ++ enclosed apostrophe (← textValue)
      storageUpTo r n ⟨s.rows, s.form, s.access, place⟩

/-- **The storage of a table.** -/
def storage (r : Rules) : Reader Storage := do
  storageUpTo r ((← get).length + 1) ⟨"", "", "", ""⟩

/-- The columns whose values part a table. -/
def partitionColumns (r : Rules) : Reader String :=
  textBehind ["PARTITIONED", "BY"] (do return inParentheses (← inParens (commaList (columnDefinition r))))

end FacetSql.Sql
