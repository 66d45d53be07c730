import FacetSql.Sql.Change
/-!
# Rights — what is granted to whom

A right is named by a keyword, and some rights may be limited to columns.  Rights are granted on tables, unless a
keyword names another kind of things.
-/
namespace FacetSql.Sql

open Reader

/-- The rights that hold for a whole thing. -/
def wholeRights : List String :=
  ["CONNECT", "CREATE", "DELETE", "EXECUTE", "TEMPORARY", "TRIGGER", "TRUNCATE", "USAGE"]

/-- The rights that may be limited to columns. -/
def columnRights : List String := ["INSERT", "REFERENCES", "SELECT", "UPDATE"]

/-- One right. -/
def grantedRight : Reader String := do
  let word ← oneOf (wholeRights ++ columnRights)
  if columnRights.contains word then
    match ← optionalNameList with
    | [] => return word
    | columns => return word ++ " (" ++ renderNames columns ++ ")"
  return word

/-- **Rights**, or all of them. -/
def rightsText : Reader String := do
  if ← keyword? "ALL" then return inWords ["ALL", ← optionalWords ["PRIVILEGES"]]
  return inCommas (← commaList grantedRight)

/-- **The things that rights are granted on**, behind ON.  The keyword of a table is left out. -/
def grantedThings : Reader String := do
  match ← phrase? [["ALL", "TABLES", "IN", "SCHEMA"], ["ALL", "SEQUENCES", "IN", "SCHEMA"], ["SEQUENCE"], ["SCHEMA"],
      ["TABLE"]] with
  | none | some "TABLE" => return inCommas (← commaList pathText)
  | some kind => return kind ++ " " ++ inCommas (← commaList pathText)

/-- Who grants or takes back, if it is said.  It has to be a name. -/
def grantorText : Reader String :=
  textBehind ["GRANTED", "BY"] (do
    match ← attempt nameText with
    | some n => return n
    | none => throw .broken)

/-- GRANT. -/
def grantStatement : Reader String := do
  let rights ← rightsText
  keyword "ON"
  let things ← grantedThings
  keyword "TO"
  let receivers ← commaList nameText
  let passedOn ← optionalWords ["WITH", "GRANT", "OPTION"]
  return inWords ["GRANT", rights, "ON", things, "TO", inCommas receivers, passedOn, ← grantorText]

/-- REVOKE.  What depends on the rights is kept unless it is said otherwise. -/
def revokeStatement : Reader String := do
  let rights ← rightsText
  keyword "ON"
  let things ← grantedThings
  keyword "FROM"
  let losers ← commaList nameText
  let grantor ← grantorText
  let cascade ← keyword? "CASCADE"
  let restrict ← keyword? "RESTRICT"
  if cascade ∧ restrict then refuse
  return inWords ["REVOKE", rights, "ON", things, "FROM", inCommas losers, grantor,
    if cascade then "CASCADE" else "RESTRICT"]

end FacetSql.Sql
