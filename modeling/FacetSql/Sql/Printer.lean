import FacetSql.Sql.Statement
/-!
# Printer — the canonical text of SQL trees

Keywords are upper-cased but for `true` and `false`, operators stand between single blanks, and there are no
parentheses but those of the tree.  Names and texts get their quotes back, with the quotes inside doubled.
-/
namespace FacetSql.Sql

/-- Doubles the quotes inside a quoted text.  A quote behind a backslash stands for itself, and two quotes in a row
count as doubled already. -/
def doubleQuotes (quote : Char) : Bool → List Char → List Char
  | _, [] => []
  | behind, [c] => if c = quote ∧ ¬ behind then [c, c] else [c]
  | behind, c :: d :: cs =>
    if c = quote then
      if behind then c :: doubleQuotes quote true (d :: cs)
      else if d = quote then c :: c :: doubleQuotes quote false cs
      else c :: c :: doubleQuotes quote false (d :: cs)
    else c :: doubleQuotes quote (c == '\\') (d :: cs)

/-- A text between quotes. -/
def inQuotes (quote : Char) (s : String) : String :=
  String.ofList (quote :: (doubleQuotes quote false s.toList ++ [quote]))

/-- One character of a text with escapes. -/
def escapeChar (c : Char) : List Char :=
  match c with
  | '\\' => ['\\', '\\']
  | '\n' => ['\\', 'n']
  | '\t' => ['\\', 't']
  | '\r' => ['\\', 'r']
  | c => if c = apostrophe then ['\\', c] else [c]

/-- A text with escapes. -/
def inEscapes (s : String) : String :=
  "E" ++ enclosed apostrophe (String.ofList (s.toList.flatMap escapeChar))

/-- Texts with commas between them. -/
def inCommas (entries : List String) : String :=
  ", ".intercalate entries

/-- Texts in parentheses with commas between them. -/
def inParentheses (entries : List String) : String :=
  "(" ++ inCommas entries ++ ")"

/-- Texts with blanks between them; empty ones are left out. -/
def inWords (parts : List String) : String :=
  " ".intercalate (parts.filter (fun part => part != ""))

/-- The text if the condition holds. -/
def textIf (condition : Bool) (text : String) : String :=
  if condition then text else ""

/-- A comma list behind its keyword, left out if the list is empty. -/
def clause (keyword : String) (entries : List String) : String :=
  match entries with
  | [] => ""
  | entries => keyword ++ " " ++ inCommas entries

/-- A name as written. -/
def Name.render (n : Name) : String :=
  match n.quote with
  | none => n.text
  | some quote => inQuotes quote n.text

/-- Names with points between them. -/
def renderPath (path : List Name) : String :=
  ".".intercalate (path.map Name.render)

/-- Names with commas between them. -/
def renderNames (names : List Name) : String :=
  inCommas (names.map Name.render)

def Literal.render : Literal → String
  | .number numeral long => if long then numeral ++ "L" else numeral
  | .text s => inQuotes apostrophe s
  | .bool b => if b then "true" else "false"
  | .null => "NULL"
  | .other written => written

def BinaryOp.render : BinaryOp → String
  | .and => "AND"
  | .or => "OR"
  | .eq => "="
  | .notEq => "<>"
  | .lt => "<"
  | .ltEq => "<="
  | .gt => ">"
  | .gtEq => ">="
  | .other written => written

def UnaryOp.render : UnaryOp → String
  | .not => "NOT "
  | .minus => "-"
  | .plus => "+"

/-- The word of a negated predicate. -/
def renderNot (negated : Bool) : String :=
  if negated then "NOT " else ""

/-- The character behind ESCAPE, if there is one. -/
def renderEscape : Option Char → String
  | none => ""
  | some c => " ESCAPE " ++ String.ofList [apostrophe, c, apostrophe]

mutual

/-- **The text of an expression.** -/
def Expr.render : Expr → String
  | .literal value => value.render
  | .name n => n.render
  | .path parts => renderPath parts
  | .nested inner => "(" ++ inner.render ++ ")"
  | .unary op operand => op.render ++ operand.render
  | .binary left op right => left.render ++ " " ++ op.render ++ " " ++ right.render
  | .isNull operand negated => operand.render ++ " IS " ++ renderNot negated ++ "NULL"
  | .inList operand negated items =>
    operand.render ++ " " ++ renderNot negated ++ "IN " ++ inParentheses (renderExprs items)
  | .between operand negated low high =>
    operand.render ++ " " ++ renderNot negated ++ "BETWEEN " ++ low.render ++ " AND " ++ high.render
  | .like operand negated pattern escape =>
    operand.render ++ " " ++ renderNot negated ++ "LIKE " ++ pattern.render ++ renderEscape escape
  | .call function => function.render
  | .other written => written

/-- The texts of expressions. -/
def renderExprs : List Expr → List String
  | [] => []
  | e :: es => e.render :: renderExprs es

/-- **The text of a call.** -/
def Call.render : Call → String
  | ⟨function, bare, distinct, arguments, order, window⟩ =>
    if bare then renderPath function
    else
      inWords [renderPath function ++ "(" ++ textIf distinct "DISTINCT " ++
        inWords [inCommas (renderArguments arguments), order] ++ ")", window]

/-- The texts of arguments. -/
def renderArguments : List CallArgument → List String
  | [] => []
  | a :: as => a.render :: renderArguments as

/-- The text of an argument. -/
def CallArgument.render : CallArgument → String
  | .expr e => e.render
  | .all => "*"
  | .other written => written

end

/-- The text of an alias. -/
def TableAlias.render (a : TableAlias) : String :=
  a.name.render ++ (match a.columns with
    | [] => ""
    | columns => " (" ++ renderNames columns ++ ")")

/-- An alias behind its table. -/
def renderAlias : Option TableAlias → String
  | none => ""
  | some a => "AS " ++ a.render

/-- An expression behind its keyword, if there is one. -/
def renderOptional (keyword : String) : Option Expr → String
  | none => ""
  | some e => keyword ++ " " ++ e.render

/-- **The text of a sort key.** -/
def SortKey.render (k : SortKey) : String :=
  inWords [k.key.render,
    (match k.descending with
      | none => ""
      | some descending => if descending then "DESC" else "ASC"),
    (match k.nullsFirst with
      | none => ""
      | some nullsFirst => if nullsFirst then "NULLS FIRST" else "NULLS LAST")]

/-- ORDER BY, or nothing without keys. -/
def renderOrder (keys : List SortKey) : String :=
  clause "ORDER BY" (keys.map SortKey.render)

/-- The text of DISTINCT. -/
def renderDistinct : Option Distinct → String
  | none => ""
  | some .rows => "DISTINCT"
  | some (.on keys) => "DISTINCT ON " ++ inParentheses (renderExprs keys)

/-- The text of a projected item. -/
def SelectItem.render : SelectItem → String
  | .expr e => e.render
  | .aliased e asName => e.render ++ " AS " ++ asName.render
  | .other written => written

/-- The text of GROUP BY. -/
def Grouping.render : Grouping → String
  | .all => "GROUP BY ALL"
  | .keys es => clause "GROUP BY" (renderExprs es)

mutual

/-- **The text of a query.** -/
def Query.render : Query → String
  | ⟨common, body, order, limit, closing⟩ =>
    inWords [common, body.render, renderOrder order, renderOptional "LIMIT" limit, closing]

/-- The text of a body. -/
def Body.render : Body → String
  | .select s => s.render
  | .nested query => "(" ++ query.render ++ ")"
  | .other written => written

/-- **The text of SELECT.** -/
def Select.render : Select → String
  | ⟨distinct, top, items, into, sources, views, condition, grouping, closing⟩ =>
    inWords ["SELECT", renderDistinct distinct, top, inCommas (items.map SelectItem.render), into,
      clause "FROM" (renderSources sources), views, renderOptional "WHERE" condition, grouping.render, closing]

/-- The texts of sources. -/
def renderSources : List Joined → List String
  | [] => []
  | j :: js => j.render :: renderSources js

/-- The text of a source and its joins. -/
def Joined.render : Joined → String
  | ⟨source, joins⟩ => inWords (source.render :: joins)

/-- **The text of a source.** -/
def Source.render : Source → String
  | .table path arguments asName hints => inWords [renderPath path ++ arguments, renderAlias asName, hints]
  | .derived lateral query asName =>
    inWords [textIf lateral "LATERAL", "(" ++ query.render ++ ")", renderAlias asName]
  | .nested joined asName => inWords ["(" ++ joined ++ ")", renderAlias asName]
  | .other opening asName closing => inWords [opening, renderAlias asName, closing]

end

/-- **The text of a statement**, if it has one. -/
def Statement.render : Statement → Option String
  | .query q => some q.render
  | .explain opening explained => explained.render.map (opening ++ " " ++ ·)
  | .explainTable written => some written
  | .other written => some written
  | .unwritten => none

/-- The texts of statements, if all of them have one. -/
def renderStatements : List Statement → Option (List String)
  | [] => some []
  | s :: ss => do return (← s.render) :: (← renderStatements ss)

end FacetSql.Sql
