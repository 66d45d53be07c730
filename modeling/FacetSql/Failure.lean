import FacetSql.Numeral.Whole
/-!
# Failure — every reason a statement is not answered

The families are told apart by what the user can do about them: text that is no statement, a statement that binds to
nothing, a request the engine refuses.  Each member names one cause; the wording stands in the `message` functions and
nowhere else.  `malformed` and `settings` say no more than that the text does not parse, and have no wording.
-/
namespace FacetSql

/-- **Statements that parse but say something out of place.** -/
inductive ParseFault where
  | noStatement
  | severalStatements (count : Nat)
  | noSource
  | badNumber (numeral : String)
  | negatedLiteral (literal : String)
  | noField (function : String)
  | tooManyArguments (function : String)
  | growthArguments
  | badArgument (argument : String)
  | notAConstant (expression : String)
  | offsetExpected (expression : String)
  | badLimit (expression : String)

def ParseFault.message : ParseFault → String
  | .noStatement => "Empty query"
  | .severalStatements count => s!"Expected a single statement, got {count}"
  | .noSource => "SELECT requires a FROM clause"
  | .badNumber numeral => s!"Invalid number literal: {numeral}"
  | .negatedLiteral literal => s!"Cannot negate literal {literal}"
  | .noField function => s!"{function} requires a field argument"
  | .tooManyArguments function => s!"Too many arguments for {function}"
  | .growthArguments => "GROWTH takes (y) or (y, knownX, projectedX)"
  | .badArgument argument => s!"Unsupported function argument: {argument}"
  | .notAConstant expression => s!"Unable to parse argument {expression}"
  | .offsetExpected expression => s!"NOW expects an offset string, got: {expression}"
  | .badLimit expression => s!"Invalid LIMIT: {expression}"

/-- **Names and clauses that do not fit together.**  All of them can be told without the engine's answer. -/
inductive CompileFault where
  | duplicateLabel (label : String)
  | groupByFunction (label : String)
  | groupByUndefined (label : String)
  | groupByAggregate (label : String)
  | groupByTwice (label : String)
  | groupByWithoutField (label : String)
  | orderByUndefined (label : String)
  | operationOverSubquery (label : String)
  | plainKeysOnly
  | growthOnEngine (label : String)
  | metricWithoutField (label : String)
  | distinctWithoutColumns
  | noLevels
  | noIndex
  | notSent
  | needsColumn (label : String)
  | columnNotFound (label : String)
  | growthPredictor (label : String)
  | growthTarget (label : String)

def CompileFault.message : CompileFault → String
  | .duplicateLabel label => s!"Duplicate column label '{label}', please use an alias"
  | .groupByFunction label =>
    s!"Can not use function '{label}' as GROUP BY, please use an alias to group by a function"
  | .groupByUndefined label => s!"Group by '{label}' not defined in SELECT"
  | .groupByAggregate label => s!"Can not GROUP BY aggregate '{label}'"
  | .groupByTwice label => s!"Column '{label}' appears more than once in GROUP BY"
  | .groupByWithoutField label => s!"Can not GROUP BY '{label}' without a field"
  | .orderByUndefined label => s!"ORDER BY '{label}' not defined in SELECT"
  | .operationOverSubquery label => s!"Unsupported operation '{label}' in a query over a subquery"
  | .plainKeysOnly => "Only plain columns can group a query over a subquery"
  | .growthOnEngine label => s!"'{label}' can only be computed over a subquery"
  | .metricWithoutField label => s!"'{label}' requires a field"
  | .distinctWithoutColumns => "DISTINCT requires at least one plain column"
  | .noLevels => "empty query plan"
  | .noIndex => "query has no FROM index"
  | .notSent => "a query over a subquery is not sent to the engine"
  | .needsColumn label => s!"'{label}' needs a subquery column"
  | .columnNotFound label => s!"Column '{label}' not found in subquery"
  | .growthPredictor label => s!"GROWTH x argument of '{label}' must be a column"
  | .growthTarget label => s!"GROWTH '{label}' needs a numeric projected x value"

/-- **Texts that are no span of time.** -/
inductive SpanFault where
  | empty
  | negative (literal : String)
  | unknownUnit (literal : String)
  | badMultiplier (literal : String)
  | overflow (literal : String)
  | notPositive (literal : String)

def SpanFault.message : SpanFault → String
  | .empty => "empty interval"
  | .negative literal => s!"interval '{literal}' must not be negative"
  | .unknownUnit literal => s!"unknown interval unit in '{literal}'"
  | .badMultiplier literal => s!"invalid interval multiplier in '{literal}'"
  | .overflow literal => s!"interval '{literal}' overflows"
  | .notPositive literal => s!"interval '{literal}' must be positive"

/-- **Answers of the engine that are no tree of buckets and metrics.** -/
inductive ShapeFault where
  | severalRoots (count : Nat)
  | metricOutsideBucket (name : String)
  | rootOnly (name : String)
  | severalNested (name : String)
  | metricsAbove (name : String)
  | aggregationsNotObject (text : String)
  | untypedKey (key : String)
  | noBuckets (name : String)
  | notObject (name : String)
  | unknownType (name type : String)

def ShapeFault.message : ShapeFault → String
  | .severalRoots count => s!"expected a single root aggregation, got {count}"
  | .metricOutsideBucket name => s!"metric '{name}' outside of a bucket"
  | .rootOnly name => s!"aggregation '{name}' may only appear at the root"
  | .severalNested name => s!"more than one nested bucket aggregation next to '{name}'"
  | .metricsAbove name => s!"metrics attached above the deepest bucket level '{name}'"
  | .aggregationsNotObject text => s!"aggregations is not an object: {text}"
  | .untypedKey key => s!"untyped aggregation key '{key}'"
  | .noBuckets name => s!"aggregation '{name}' has no buckets"
  | .notObject name => s!"aggregation '{name}' is not an object"
  | .unknownType name type => s!"aggregation '{name}' has unsupported type '{type}'"

/-- **SQL beyond the part that is answered here.** -/
inductive Unsupported where
  | notASelect
  | joins
  | source (text : String)
  | selectItem (text : String)
  | groupByAll
  | distinctOn
  | distinctWithAggregates
  | expression (text : String)
  | function (name : String)
  | distinctInside (function : String)
  | whereOverSubquery
  | condition (text : String)
  | conditionOperator (text : String)
  | notAField (text : String)
  | notALiteral (text : String)
  | statement (text : String)
  | explained (text : String)
  | overSubquery (operator : String)

def Unsupported.message : Unsupported → String
  | .notASelect => "Only simple SELECT queries are supported"
  | .joins => "Joins are not supported"
  | .source text => s!"Unsupported FROM source: {text}"
  | .selectItem text => s!"Unsupported select item '{text}', please list the projected fields"
  | .groupByAll => "GROUP BY ALL is not supported"
  | .distinctOn => "DISTINCT ON is not supported"
  | .distinctWithAggregates => "DISTINCT cannot be combined with aggregate functions"
  | .expression text => s!"Unsupported expression: {text}"
  | .function name => s!"Unsupported function: {name}"
  | .distinctInside name => s!"DISTINCT inside {name} is not supported"
  | .whereOverSubquery => "WHERE is not supported on a query over a subquery"
  | .condition text => s!"Unsupported WHERE expression: {text}"
  | .conditionOperator text => s!"Unsupported operator in WHERE: {text}"
  | .notAField text => s!"Expected a field reference, got: {text}"
  | .notALiteral text => s!"Expected a literal value, got: {text}"
  | .statement text => s!"Only SELECT queries are supported, got: {text}"
  | .explained text => s!"EXPLAIN supports SELECT queries only, got: {text}"
  | .overSubquery operator => s!"{operator} is not supported over a subquery"

/-- **Why there is no answer.** -/
inductive Failure where
  /-- The text is not SQL. -/
  | malformed
  /-- The text is SQL, but for a number that does not fit or a name that is missing. -/
  | broken
  /-- The statement has no text that could be shown. -/
  | unwritten
  | parse (fault : ParseFault)
  | compile (fault : CompileFault)
  | span (fault : SpanFault)
  /-- The engine answered with an aggregation that no column asked for. -/
  | unresolvedName (name : String)
  | shape (fault : ShapeFault)
  | unsupported (fault : Unsupported)
  /-- The engine refused the request, or could not be reached. -/
  | engine (reason : String)
  /-- The engine did not answer in time. -/
  | timeout (millis : Nat)
  /-- A setting given as text is no number of its range. -/
  | config (key : String) (fault : Numeral.Fault)
  /-- Settings given as JSON have the wrong types. -/
  | settings
  /-- A row has more or fewer cells than the heading has columns. -/
  | rowWidth
  /-- The clock plus an offset is no 64-bit number of milliseconds. -/
  | clockOverflow

/-- **The text shown to the user**, with the family in front; `none` where there is none. -/
def Failure.message : Failure → Option String
  | .malformed | .broken | .unwritten | .settings | .rowWidth | .clockOverflow => none
  | .parse fault => some ("Parse error: " ++ fault.message)
  | .compile fault => some ("Compile error: " ++ fault.message)
  | .span fault => some ("Malformed interval: " ++ fault.message)
  | .unresolvedName name => some ("Unable to identify column for aggregation named " ++ name)
  | .shape fault => some ("Unsupported aggregation shape: " ++ fault.message)
  | .unsupported fault => some ("Unsupported operation: " ++ fault.message)
  | .engine reason => some ("Engine error: " ++ reason)
  | .timeout millis => some s!"Timeout: query exceeded {millis}ms limit"
  | .config key fault => some s!"Configuration error: invalid {key}: {fault.message}"

end FacetSql
