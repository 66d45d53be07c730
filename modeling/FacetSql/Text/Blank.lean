/-!
# Blank — white space and what is trimmed

`isBlank` is the Unicode property White_Space, twenty-five characters.  `trim` takes blanks off both ends of a text
and leaves the inside alone.
-/
namespace FacetSql.Text

/-- **White space of any script.** -/
def isBlank (c : Char) : Bool :=
  (9 ≤ c.toNat && c.toNat ≤ 13) || (0x2000 ≤ c.toNat && c.toNat ≤ 0x200A) ||
    [0x20, 0x85, 0xA0, 0x1680, 0x2028, 0x2029, 0x202F, 0x205F, 0x3000].contains c.toNat

/-- Drops the characters at the end that satisfy `p`. -/
def dropEndWhile (p : Char → Bool) (cs : List Char) : List Char :=
  (cs.reverse.dropWhile p).reverse

/-- **The text without the blanks at its two ends.** -/
def trim (s : String) : String :=
  String.ofList (dropEndWhile isBlank (s.toList.dropWhile isBlank))

/-- The text without the given character at its end, however often it stands there. -/
def trimEnd (c : Char) (s : String) : String :=
  String.ofList (dropEndWhile (· == c) s.toList)

end FacetSql.Text
