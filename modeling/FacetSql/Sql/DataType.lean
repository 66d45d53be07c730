import FacetSql.Sql.Reader
/-!
# DataType — the names of types

No step asks what a type is, so a type is read into its canonical text.  A type is one of the standard ones, which
are keywords, or has a name of its own.  Types in angle brackets may be nested; two closing brackets in a row are one
sign, so the reader of the inner type may take the bracket of the outer one.
-/
namespace FacetSql.Sql

open Reader

/-- **A type as written.** -/
structure TypeText where
  written : String
  /-- The first part of the name, if the type has a name of its own. -/
  ownName : Option Name
  /-- The closing bracket around the type has been taken too. -/
  closed : Bool

namespace DataType

/-- Types that have no parameters. -/
def plainTypes : List String :=
  ["BOOLEAN", "BOOL", "REAL", "FLOAT4", "FLOAT64", "FLOAT8", "INT64", "UUID", "DATE", "INTERVAL", "JSON", "REGCLASS",
    "TEXT", "BYTEA"]

/-- Types that may have a length or a precision. -/
def sizedTypes : List String :=
  ["FLOAT", "NVARCHAR", "CLOB", "BINARY", "VARBINARY", "BLOB", "BYTES", "DATETIME", "TIMESTAMPTZ", "TIMETZ", "STRING"]

/-- Types of whole numbers, with a width and a sign or without. -/
def wholeTypes : List String :=
  ["TINYINT", "INT2", "SMALLINT", "MEDIUMINT", "INT", "INT4", "INTEGER", "BIGINT", "INT8"]

/-- Types of exact numbers, which may have a precision and a scale. -/
def exactTypes : List String := ["NUMERIC", "DECIMAL", "DEC", "BIGNUMERIC", "BIGDECIMAL"]

/-- Types with parameters of their own. -/
def otherTypes : List String := ["DOUBLE", "VARCHAR", "CHARACTER", "CHAR", "TIME", "TIMESTAMP", "ENUM", "SET"]

/-- The keyword is a standard type, and one without angle brackets. -/
def isStandard (word : String) : Bool :=
  plainTypes.contains word || sizedTypes.contains word || wholeTypes.contains word || exactTypes.contains word ||
    otherTypes.contains word

/-- A length in parentheses, or nothing. -/
def size : Reader String := do
  if (← peekSign) = "(" then return "(" ++ (← inParens wholeNumber) ++ ")"
  return ""

/-- A precision and a scale in parentheses, each optional, with a text between them. -/
def precisionAndScale (comma : String) : Reader String := do
  if ← sign? "(" then
    let precision ← wholeNumber
    let scale ← (do if ← sign? "," then return comma ++ (← wholeNumber) else return "")
    sign ")"
    return "(" ++ precision ++ scale ++ ")"
  return ""

/-- The length of a text in parentheses, or nothing. -/
def textSize : Reader String := do
  if ← sign? "(" then
    let length ← (do
      if ← keyword? "MAX" then return "MAX"
      let length ← wholeNumber
      return inWords [length, ((← oneOf? ["CHARACTERS", "OCTETS"]).getD "")])
    sign ")"
    return "(" ++ length ++ ")"
  return ""

/-- Whether a time knows its zone. -/
def zone : Reader String := do
  match ← oneOf? ["WITH", "WITHOUT"] with
  | some word =>
    keywords ["TIME", "ZONE"]
    return " " ++ word ++ " TIME ZONE"
  | none => return ""

/-- A type of characters, behind its keyword. -/
def characters (word : String) : Reader String := do
  if ← keyword? "VARYING" then return word ++ " VARYING" ++ (← textSize)
  if ← keywords? ["LARGE", "OBJECT"] then return word ++ " LARGE OBJECT" ++ (← size)
  return word ++ (← textSize)

/-- One text in apostrophes. -/
def quotedText : Reader String := do
  match ← peek with
  | some (.text s) =>
    skip
    return inQuotes apostrophe s
  | _ => refuse

/-- **A standard type** by its keyword, but for those with angle brackets. -/
def standard (word : String) : Reader String := do
  if plainTypes.contains word then return word
  if sizedTypes.contains word then return word ++ (← size)
  if wholeTypes.contains word then
    let width ← size
    return inWords [word ++ width, ← optionalWords ["UNSIGNED"]]
  if exactTypes.contains word then return word ++ (← precisionAndScale ",")
  match word with
  | "DOUBLE" => return inWords [word, ← optionalWords ["PRECISION"]]
  | "VARCHAR" => return word ++ (← textSize)
  | "CHARACTER" | "CHAR" => characters word
  | "TIME" | "TIMESTAMP" => do
    let precision ← size
    return word ++ precision ++ (← zone)
  | "ENUM" | "SET" => return word ++ inParentheses (← inParens (commaList quotedText))
  | _ => refuse

/-- The words, numerals and texts in the parentheses behind a name, at most a number of them; commas are skipped. -/
def modifiers : Nat → Reader (List String)
  | 0 => refuse
  | n + 1 => do
    let next ← peek
    skip
    match next with
    | some (.word w) => return (Token.word w).written :: (← modifiers n)
    | some (.number numeral _) => return numeral :: (← modifiers n)
    | some (.text s) => return s :: (← modifiers n)
    | some (.sign ",") => modifiers n
    | some (.sign ")") => return []
    | _ => refuse

/-- A type with a name of its own. -/
def custom : Reader String := do
  let written ← pathText
  if ← sign? "(" then
    match ← modifiers ((← get).length + 1) with
    | [] => return written
    | entries => return written ++ inParentheses entries
  return written

/-- The empty brackets behind a type that make an array of it, at most a number of them. -/
def arrays : Nat → Reader Nat
  | 0 => return 0
  | n + 1 => do
    if ← sign? "[" then
      sign "]"
      return (← arrays n) + 1
    return 0

/-- A closing angle bracket.  It may have been taken already, and it may take the next one with it, which is
returned. -/
def closeAngle (taken : Bool) : Reader Bool := do
  if taken then return false
  if ← sign? ">" then return false
  sign ">>"
  return true

/-- A type without the brackets of arrays behind it; `inner` reads the type in angle brackets. -/
def element (inner : Reader TypeText) : Reader TypeText := do
  match ← peek with
  | some (.word n) =>
    let word := n.keyword
    if word = "ARRAY" then
      skip
      sign "<"
      let t ← inner
      return ⟨"ARRAY<" ++ t.written ++ ">", none, ← closeAngle t.closed⟩
    if isStandard word then
      skip
      return ⟨← standard word, none, false⟩
    return ⟨← custom, some n, false⟩
  | _ => refuse

/-- A type nested at most so deep. -/
def typeUpTo : Nat → Reader TypeText
  | 0 => refuse
  | n + 1 => do
    let t ← element (typeUpTo n)
    match ← arrays (← get).length with
    | 0 => return t
    | depth => return ⟨t.written ++ String.join (List.replicate depth "[]"), none, t.closed⟩

/-- **A type**, perhaps with a bracket too many behind it. -/
def type : Reader TypeText := do typeUpTo ((← get).length + 1)

end DataType

/-- **A type**, as its text. -/
def dataType : Reader String := do
  let t ← DataType.type
  if t.closed then refuse
  return t.written

end FacetSql.Sql
