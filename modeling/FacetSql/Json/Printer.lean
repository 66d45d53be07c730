import FacetSql.Json.Basic
import FacetSql.Decimal.Layout
/-!
# Json.Printer — the text of a JSON value

`compact` writes no white space; `pretty` writes each item and each member on a line of its own, two spaces deeper than
the bracket around it.  Empty arrays and objects are written as `[]` and `\x7b\x7d` in both.
-/
namespace FacetSql.Json

/-- **Numbers** are written positionally while the leading digit stands for `10 ^ -5` up to `10 ^ 15`. -/
def numberLayout : Decimal.Layout where
  plainFrom := -5
  plainTo := 15

/-- A hexadecimal digit in lower case. -/
def hexDigit (n : Nat) : Char :=
  Nat.digitChar n

/-- **One character of a text**: the quote, the backslash and the control characters are escaped, all else stands. -/
def escapeChar (c : Char) : List Char :=
  if c = '"' then ['\\', '"']
  else if c = '\\' then ['\\', '\\']
  else if c = '\n' then ['\\', 'n']
  else if c = '\r' then ['\\', 'r']
  else if c = '\t' then ['\\', 't']
  else if c.toNat = 8 then ['\\', 'b']
  else if c.toNat = 12 then ['\\', 'f']
  else if c.toNat < 32 then ['\\', 'u', '0', '0', hexDigit (c.toNat / 16), hexDigit (c.toNat % 16)]
  else [c]

/-- A text in quotes. -/
def quoted (s : String) : String :=
  String.ofList ('"' :: (s.toList.flatMap escapeChar ++ ['"']))

mutual

/-- **The text without white space.** -/
def compact : Json → String
  | .null => "null"
  | .bool b => if b then "true" else "false"
  | .int n => toString n
  | .float x => (numberLayout.float x).getD "null"
  | .text s => quoted s
  | .array items => "[" ++ ",".intercalate (compactItems items) ++ "]"
  | .object ms => "\x7b" ++ ",".intercalate (compactMembers ms) ++ "\x7d"

/-- The texts of the items of an array. -/
def compactItems : List Json → List String
  | [] => []
  | j :: js => j.compact :: compactItems js

/-- The texts of the members of an object. -/
def compactMembers : List (String × Json) → List String
  | [] => []
  | (key, j) :: ms => (quoted key ++ ":" ++ j.compact) :: compactMembers ms

end

/-- A bracketed list, one entry a line; `margin` is the indentation of the brackets. -/
def block (opening closing margin : String) (entries : List String) : String :=
  match entries with
  | [] => opening ++ closing
  | _ => opening ++ "\n" ++ ",\n".intercalate (entries.map (fun e => margin ++ "  " ++ e)) ++ "\n" ++ margin ++ closing

mutual

/-- **The text with one entry a line**, `margin` being the indentation of the line it starts on. -/
def prettyFrom (margin : String) : Json → String
  | .array items => block "[" "]" margin (prettyItems (margin ++ "  ") items)
  | .object ms => block "\x7b" "\x7d" margin (prettyMembers (margin ++ "  ") ms)
  | j => j.compact

/-- The texts of the items of an array. -/
def prettyItems (margin : String) : List Json → List String
  | [] => []
  | j :: js => j.prettyFrom margin :: prettyItems margin js

/-- The texts of the members of an object. -/
def prettyMembers (margin : String) : List (String × Json) → List String
  | [] => []
  | (key, j) :: ms => (quoted key ++ ": " ++ j.prettyFrom margin) :: prettyMembers margin ms

end

/-- The text with one entry a line, starting at the left edge. -/
def pretty (j : Json) : String := j.prettyFrom ""

end FacetSql.Json
