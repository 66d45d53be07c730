import FacetSql.Sql.Command
import FacetSql.Failure
/-!
# Parser — SQL trees from tokens

Here the rules are given to one another.  A rule turns to another only behind a token of its own, so the number of
tokens bounds how often.  Besides, statements, queries and whole expressions count as levels over the whole text, and
the one that is a level too deep is refused.
-/
namespace FacetSql.Sql

open Reader

/-- **The rules, each given the others**, nested at most so deep.  Nothing is unfolded before a rule is asked. -/
def rules : Nat → Rules
  | 0 => ⟨refuse, fun _ => refuse, refuse, refuse⟩
  | n + 1 => {
      operand := fun tokens => operand (rules n) tokens
      above := fun bound tokens =>
        (do operators (rules n) precedence bound (← operand (rules n)) : Reader Expr) tokens
      query := fun tokens => query (rules n) tokens
      joined := fun tokens => joined (rules n) tokens }

/-- How a statement is to be explained, behind the keyword. -/
def explainOptions (word : String) : Reader String := do
  let analyze ← optionalWords ["ANALYZE"]
  let verbose ← optionalWords ["VERBOSE"]
  let format ← textBehind ["FORMAT"] (oneOf ["TEXT", "GRAPHVIZ", "JSON"])
  return inWords [word, analyze, verbose, format]

/-- **Statements with semicolons between them**, at most so many and up to the end; empty ones are skipped.  The word
`END` right behind a statement ends them too. -/
def statementsUpTo (entry : Reader Statement) : Nat → Reader (List Statement)
  | 0 => refuse
  | n + 1 => do
    modify (List.dropWhile (fun t => signOf (some t) = ";"))
    if ← atEnd then return []
    let s ← entry
    let next ← peek
    if signOf next = ";" then return s :: (← statementsUpTo entry n)
    if next.isNone ∨ keywordOf next = "END" then return [s] else refuse

/-- **A statement**, nested at most so deep in others.  Behind EXPLAIN stands a statement that is not itself explained,
or the name of a table. -/
def statementUpTo (r : Rules) : Nat → Reader Statement
  | 0 => refuse
  | n + 1 => deeper (do
    if (← peekSign) = "(" then return .query (← r.query)
    match ← peekKeyword with
    | "SELECT" | "WITH" | "VALUES" => return .query (← r.query)
    | "EXPLAIN" | "DESCRIBE" =>
      let word ← oneOf ["EXPLAIN", "DESCRIBE"]
      let opening ← explainOptions word
      match ← attempt (statementUpTo r n) with
      | some (.explain ..) | some (.explainTable _) => refuse
      | some s => return .explain opening s
      | none => return .explainTable (word ++ " " ++ (← pathText))
    | "CREATE" =>
      skip
      createStatement r (do statementsUpTo (statementUpTo r n) ((← get).length + 1))
    | "PREPARE" =>
      skip
      prepareStatement (statementUpTo r n)
    | word =>
      skip
      match command? r word with
      | some command => return .other (← command)
      | none => refuse)

/-- How many levels of statements, queries and whole expressions there are before one is refused. -/
def nestingLimit : Int := 50

/-- **The statements of a text**, or why there are none. -/
def readStatements (sql : String) : Except Stop (List Statement) :=
  match scan (Text.trim sql) with
  | none => .error .mismatch
  | some tokens =>
    let steps := tokens.length + 1
    let (result, _) := statementsUpTo (statementUpTo (rules steps) steps) steps tokens nestingLimit
    result.map (·.1)

/-- **The one statement of a text.** -/
def readStatement (sql : String) : Except Failure Statement :=
  match readStatements sql with
  | .error .mismatch => .error .malformed
  | .error .broken => .error .broken
  | .ok [] => .error (.parse .noStatement)
  | .ok [s] => .ok s
  | .ok ss => .error (.parse (.severalStatements ss.length))

end FacetSql.Sql
