import FacetSql.Json.Basic
import FacetSql.Numeral.Real
/-!
# Json.Reader — reading JSON text

`Json.read` accepts one value with white space around it.  A numeral without point and exponent that fits 64 bits,
signed or unsigned, is whole, but for `-0`, which is the float `-0.0`; every other numeral is the nearest float, and a
numeral beyond the greatest float is refused.
-/
namespace FacetSql.Json

open Numeral (splitDigits digitsFrom nearestFloat)

/-- White space between the parts of a value. -/
def isSpace (c : Char) : Bool :=
  c == ' ' || c == '\n' || c == '\t' || c == '\r'

/-- The value of a hexadecimal digit. -/
def hexValue? (c : Char) : Option Nat :=
  if c.isDigit then some (c.toNat - '0'.toNat)
  else if 'a' ≤ c ∧ c ≤ 'f' then some (c.toNat - 'a'.toNat + 10)
  else if 'A' ≤ c ∧ c ≤ 'F' then some (c.toNat - 'A'.toNat + 10)
  else none

/-- The number of four hexadecimal digits. -/
def unit? (a b c d : Char) : Option Nat := do
  some (((← hexValue? a) * 16 + (← hexValue? b)) * 256 + (← hexValue? c) * 16 + (← hexValue? d))

/-- The character that a backslash and a letter stand for. -/
def escaped? : Char → Option Char
  | '"' => some '"'
  | '\\' => some '\\'
  | '/' => some '/'
  | 'b' => some (Char.ofNat 8)
  | 'f' => some (Char.ofNat 12)
  | 'n' => some '\n'
  | 'r' => some '\r'
  | 't' => some '\t'
  | _ => none

/-- **The characters of a text up to its closing quote**, and what follows it.  Code points beyond the first plane are
written as two escaped units; half of such a pair is refused. -/
def readText : List Char → Option (List Char × List Char)
  | [] => none
  | '"' :: rest => some ([], rest)
  | '\\' :: 'u' :: a :: b :: c :: d :: '\\' :: 'u' :: e :: f :: g :: h :: rest => do
    let high ← unit? a b c d
    if 0xD800 ≤ high ∧ high < 0xDC00 then
      let low ← unit? e f g h
      if 0xDC00 ≤ low ∧ low < 0xE000 then
        let (cs, rest) ← readText rest
        some (Char.ofNat (0x10000 + (high - 0xD800) * 0x400 + (low - 0xDC00)) :: cs, rest)
      else none
    else if 0xDC00 ≤ high ∧ high < 0xE000 then none
    else
      let (cs, rest) ← readText ('\\' :: 'u' :: e :: f :: g :: h :: rest)
      some (Char.ofNat high :: cs, rest)
  | '\\' :: 'u' :: a :: b :: c :: d :: rest => do
    let n ← unit? a b c d
    if 0xD800 ≤ n ∧ n < 0xE000 then none
    else
      let (cs, rest) ← readText rest
      some (Char.ofNat n :: cs, rest)
  | '\\' :: x :: rest => do
    let c ← escaped? x
    let (cs, rest) ← readText rest
    some (c :: cs, rest)
  | c :: rest =>
    if c.toNat < 32 then none
    else do
      let (cs, rest) ← readText rest
      some (c :: cs, rest)

/-- The digits after a point, if there is a point; a point needs a digit after it. -/
def readFraction : List Char → Option (List Char × List Char)
  | '.' :: rest =>
    match splitDigits rest with
    | ([], _) => none
    | (ds, rest) => some (ds, rest)
  | rest => some ([], rest)

/-- The exponent, if there is one; `none` inside stands for no exponent. -/
def readPower : List Char → Option (Option Int × List Char)
  | c :: cs =>
    if c = 'e' ∨ c = 'E' then
      let (negative, rest) := match cs with
        | '+' :: rest => (false, rest)
        | '-' :: rest => (true, rest)
        | rest => (false, rest)
      match splitDigits rest with
      | ([], _) => none
      | (ds, rest) =>
        let n : Int := digitsFrom 0 ds
        some (some (if negative then -n else n), rest)
    else some (none, c :: cs)
  | [] => some (none, [])

/-- The number of a numeral from its parts. -/
def ofNumeral (negative : Bool) (whole fraction : List Char) (power : Option Int) : Option Json :=
  let n : Int := digitsFrom 0 whole
  let signed := if negative then -n else n
  let fits := Numeral.int64.holds signed || Numeral.word64.holds signed
  if fraction = [] ∧ power = none ∧ fits ∧ ¬ (negative ∧ n = 0) then
    some (.int signed)
  else
    let x := nearestFloat (digitsFrom 0 (whole ++ fraction)) (power.getD 0 - fraction.length)
    if x.isFinite then some (.float (if negative then -x else x)) else none

/-- **Reads a numeral.**  No zero stands before another digit. -/
def readNumber (cs : List Char) : Option (Json × List Char) := do
  let (negative, cs) := match cs with
    | '-' :: cs => (true, cs)
    | cs => (false, cs)
  let (whole, rest) := splitDigits cs
  if whole = [] ∨ (1 < whole.length ∧ whole.head? = some '0') then none
  else
    let (fraction, rest) ← readFraction rest
    let (power, rest) ← readPower rest
    let j ← ofNumeral negative whole fraction power
    some (j, rest)

mutual

/-- **Reads one value** and what follows it. -/
def readValue : Nat → List Char → Option (Json × List Char)
  | 0, _ => none
  | fuel + 1, cs =>
    match cs.dropWhile isSpace with
    | 'n' :: 'u' :: 'l' :: 'l' :: rest => some (.null, rest)
    | 't' :: 'r' :: 'u' :: 'e' :: rest => some (.bool true, rest)
    | 'f' :: 'a' :: 'l' :: 's' :: 'e' :: rest => some (.bool false, rest)
    | '"' :: rest => do
      let (s, rest) ← readText rest
      some (.text (String.ofList s), rest)
    | '[' :: rest =>
      match rest.dropWhile isSpace with
      | ']' :: rest => some (.array [], rest)
      | rest => do
        let (js, rest) ← readItems fuel rest
        some (.array js, rest)
    | '{' :: rest =>
      match rest.dropWhile isSpace with
      | '}' :: rest => some (.object [], rest)
      | rest => do
        let (ms, rest) ← readMembers fuel rest
        some (ofMembers ms, rest)
    | rest => readNumber rest

/-- Reads the items of an array up to its closing bracket. -/
def readItems : Nat → List Char → Option (List Json × List Char)
  | 0, _ => none
  | fuel + 1, cs => do
    let (j, rest) ← readValue fuel cs
    match rest.dropWhile isSpace with
    | ',' :: rest =>
      let (js, rest) ← readItems fuel rest
      some (j :: js, rest)
    | ']' :: rest => some ([j], rest)
    | _ => none

/-- Reads the members of an object up to its closing bracket. -/
def readMembers : Nat → List Char → Option (List (String × Json) × List Char)
  | 0, _ => none
  | fuel + 1, cs =>
    match cs.dropWhile isSpace with
    | '"' :: rest => do
      let (key, rest) ← readText rest
      match rest.dropWhile isSpace with
      | ':' :: rest =>
        let (j, rest) ← readValue fuel rest
        match rest.dropWhile isSpace with
        | ',' :: rest =>
          let (ms, rest) ← readMembers fuel rest
          some ((String.ofList key, j) :: ms, rest)
        | '}' :: rest => some ([(String.ofList key, j)], rest)
        | _ => none
      | _ => none
    | _ => none

end

/-- **Reads a text that is one JSON value.**  Every step of the reader takes a character or closes the step before it,
so twice the length of the text is room enough. -/
def read (s : String) : Option Json :=
  let cs := s.toList
  match readValue (2 * cs.length + 2) cs with
  | some (j, rest) => if rest.all isSpace then some j else none
  | none => none

end FacetSql.Json
