import FacetSql.Sql.Query
import FacetSql.Sql.Session
import FacetSql.Sql.Rights
import FacetSql.Sql.Alteration
import FacetSql.Sql.Upkeep
import FacetSql.Sql.Copy
/-!
# Command — the statements that are not queries

None of them is run, so each is its canonical text.  Here each is found by its first keyword.
-/
namespace FacetSql.Sql

open Reader

/-- What MERGE does with rows that match or do not, behind the keyword. -/
def mergeAction (r : Rules) : Reader String := do
  let unmatched ← keyword? "NOT"
  keyword "MATCHED"
  let condition ← textBehind ["AND"] r.text
  keyword "THEN"
  let opening := inWords ["WHEN", textIf unmatched "NOT", "MATCHED", condition, "THEN"]
  match ← oneOf ["UPDATE", "INSERT", "DELETE"] with
  | "INSERT" =>
    if ¬ unmatched then refuse
    let columns ← optionalNameList
    keyword "VALUES"
    return inWords [opening, "INSERT (" ++ renderNames columns ++ ")", ← valuesBody r]
  | word =>
    if unmatched then refuse
    if word = "DELETE" then return opening ++ " DELETE"
    keyword "SET"
    return opening ++ " UPDATE SET " ++ (← assignments r)

/-- The cases of MERGE up to the end of the statement, at most a number of them. -/
def mergeActions (r : Rules) : Nat → Reader (List String)
  | 0 => refuse
  | n + 1 => do
    let next ← peek
    if next.isNone ∨ signOf next = ";" then return []
    keyword "WHEN"
    let action ← mergeAction r
    return action :: (← mergeActions r n)

/-- **MERGE.** -/
def mergeStatement (r : Rules) : Reader String := do
  let word ← optionalWords ["INTO"]
  let table ← source r
  keyword "USING"
  let rows ← source r
  keyword "ON"
  let condition ← r.text
  let actions ← mergeActions r ((← get).length + 1)
  return inWords ["MERGE", word, table.render, "USING", rows.render, "ON", condition] ++ " " ++ " ".intercalate actions

/-- **The statement behind a keyword**, if it is one of these and holds no other statement. -/
def command? (r : Rules) (word : String) : Option (Reader String) :=
  match word with
  | "ALTER" => some (alterStatement r)
  | "ANALYZE" => some (analyzeStatement r)
  | "ASSERT" => some (assertStatement r)
  | "ATTACH" => some (attachStatement r)
  | "BEGIN" => some beginStatement
  | "CACHE" => some (cacheStatement r)
  | "CALL" => some (callStatement r)
  | "CLOSE" => some closeStatement
  | "COMMIT" | "END" => some commitStatement
  | "COPY" => some (copyStatement r)
  | "DEALLOCATE" => some deallocateStatement
  | "DECLARE" => some (declareStatement r)
  | "DELETE" => some (deleteStatement r)
  | "DISCARD" => some discardStatement
  | "DROP" => some (dropStatement r)
  | "EXECUTE" => some (executeStatement r)
  | "FETCH" => some fetchStatement
  | "GRANT" => some grantStatement
  | "INSERT" => some (insertStatement r)
  | "KILL" => some killStatement
  | "MERGE" => some (mergeStatement r)
  | "MSCK" => some msckStatement
  | "PRAGMA" => some pragmaStatement
  | "RELEASE" => some releaseStatement
  | "REVOKE" => some revokeStatement
  | "ROLLBACK" => some rollbackStatement
  | "SAVEPOINT" => some (do return "SAVEPOINT " ++ (← nameText))
  | "SET" => some (setStatement r)
  | "SHOW" => some (showStatement r)
  | "START" => some startStatement
  | "TRUNCATE" => some (truncateStatement r)
  | "UNCACHE" => some uncacheStatement
  | "UPDATE" => some (updateStatement r)
  | "USE" => some (do return "USE " ++ (← nameText))
  | _ => none

end FacetSql.Sql
