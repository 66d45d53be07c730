import FacetSql.Sql.Token
/-!
# Statement — SQL as trees

A tree keeps the parts that later steps look into.  What no step looks into is kept as its canonical text: a field or
an argument of type `String` that is called a text, and every constructor called `other`.  Parentheses are nodes of
their own, so a tree is written back with exactly the parentheses it was given.
-/
namespace FacetSql.Sql

/-- **A constant.**  A number keeps its numeral; `long` tells of an `L` behind it. -/
inductive Literal where
  | number (numeral : String) (long : Bool)
  | text (s : String)
  | bool (b : Bool)
  | null
  | other (written : String)

/-- **Operators between two operands.** -/
inductive BinaryOp where
  | and | or
  | eq | notEq | lt | ltEq | gt | gtEq
  | other (written : String)
  deriving DecidableEq

/-- Operators before one operand. -/
inductive UnaryOp where
  | not | minus | plus
  deriving DecidableEq

mutual

/-- **An expression.** -/
inductive Expr where
  | literal (value : Literal)
  | name (n : Name)
  | path (parts : List Name)
  | nested (inner : Expr)
  | unary (op : UnaryOp) (operand : Expr)
  | binary (left : Expr) (op : BinaryOp) (right : Expr)
  | isNull (operand : Expr) (negated : Bool)
  | inList (operand : Expr) (negated : Bool) (items : List Expr)
  | between (operand : Expr) (negated : Bool) (low high : Expr)
  | like (operand : Expr) (negated : Bool) (pattern : Expr) (escape : Option Char)
  | call (function : Call)
  | other (written : String)

/-- **A function call.** -/
structure Call where
  function : List Name
  /-- No more than the name is written. -/
  bare : Bool
  distinct : Bool
  arguments : List CallArgument
  /-- The text behind the arguments. -/
  order : String
  /-- The text behind the parentheses. -/
  window : String

/-- An argument of a call: an expression, the star for all columns, or anything else, as a named argument. -/
inductive CallArgument where
  | expr (e : Expr)
  | all
  | other (written : String)

end

/-- A name for a table, and for its columns. -/
structure TableAlias where
  name : Name
  columns : List Name

/-- A key of ORDER BY. -/
structure SortKey where
  key : Expr
  /-- `some true` for a written `DESC`, `some false` for a written `ASC`. -/
  descending : Option Bool
  nullsFirst : Option Bool

/-- What `DISTINCT` compares. -/
inductive Distinct where
  | rows
  | on (keys : List Expr)

/-- One projected item; `other` are the stars. -/
inductive SelectItem where
  | expr (e : Expr)
  | aliased (e : Expr) (asName : Name)
  | other (written : String)

/-- The keys of GROUP BY; no keys at all where there is no GROUP BY. -/
inductive Grouping where
  | all
  | keys (keys : List Expr)

mutual

/-- **A query**: a body and what is done with its rows. -/
structure Query where
  /-- The text of WITH. -/
  common : String
  body : Body
  order : List SortKey
  limit : Option Expr
  /-- The text of the clauses behind LIMIT. -/
  closing : String

/-- **The body of a query**; `other` are rows of values, whole tables, set operations and changes of tables. -/
inductive Body where
  | select (s : Select)
  | nested (query : Query)
  | other (written : String)

/-- **SELECT.** -/
structure Select where
  distinct : Option Distinct
  /-- The text of TOP. -/
  top : String
  items : List SelectItem
  /-- The text of INTO. -/
  into : String
  sources : List Joined
  /-- The text of LATERAL VIEW. -/
  views : String
  condition : Option Expr
  grouping : Grouping
  /-- The text of the clauses behind GROUP BY. -/
  closing : String

/-- A source and the texts of what is joined to it. -/
structure Joined where
  source : Source
  joins : List String

/-- **A source of rows.**  The alias of other sources stands between two texts. -/
inductive Source where
  | table (path : List Name) (arguments : String) (asName : Option TableAlias) (hints : String)
  | derived (lateral : Bool) (query : Query) (asName : Option TableAlias)
  | nested (joined : String) (asName : Option TableAlias)
  | other (opening : String) (asName : Option TableAlias) (closing : String)

end

/-- **A statement**; `other` are all that neither query nor explain, and `unwritten` are those without a text. -/
inductive Statement where
  | query (q : Query)
  | explain (opening : String) (explained : Statement)
  | explainTable (written : String)
  | other (written : String)
  | unwritten

end FacetSql.Sql
