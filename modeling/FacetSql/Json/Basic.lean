import FacetSql.Numeral.Whole
/-!
# Json — the values exchanged with the engine

A number is whole or a float, and the two stay apart: `1` is whole, `1.0` is not.  The members of an object are kept in
ascending order of their keys, each key once; `Json.ofMembers` establishes that order, and a key given twice keeps the
value given last.
-/
namespace FacetSql

/-- **A JSON value.** -/
inductive Json where
  | null
  | bool (b : Bool)
  | int (n : Int)
  | float (x : Float)
  | text (s : String)
  | array (items : List Json)
  | object (members : List (String × Json))
  deriving Inhabited

namespace Json

/-- **Puts a member in its place by key**, replacing the member of the same key. -/
def insertMember (key : String) (value : Json) : List (String × Json) → List (String × Json)
  | [] => [(key, value)]
  | m :: ms =>
    if key < m.1 then (key, value) :: m :: ms
    else if key = m.1 then (key, value) :: ms
    else m :: insertMember key value ms

/-- The object with the given members; of two members with one key the later wins. -/
def ofMembers (ms : List (String × Json)) : Json :=
  .object (ms.foldl (fun sorted m => insertMember m.1 m.2 sorted) [])

/-- The value of a key in a list of members. -/
def lookUp (key : String) (ms : List (String × Json)) : Option Json :=
  (ms.find? (fun m => m.1 == key)).map (·.2)

/-- **The member of an object.**  No other value has members. -/
def member? (key : String) : Json → Option Json
  | .object ms => lookUp key ms
  | _ => none

/-- The member of an object, with `null` read as no member. -/
def present? (key : String) (j : Json) : Option Json :=
  match j.member? key with
  | some .null => none
  | found => found

/-- A whole number of 64 signed bits. -/
def int64? : Json → Option Int
  | .int n => if Numeral.int64.holds n then some n else none
  | _ => none

/-- A whole number of 64 unsigned bits. -/
def word64? : Json → Option Nat
  | .int n => if 0 ≤ n then some n.toNat else none
  | _ => none

/-- Any number, as a float. -/
def float? : Json → Option Float
  | .int n => some (Float.ofInt n)
  | .float x => some x
  | _ => none

/-- The characters of a text. -/
def text? : Json → Option String
  | .text s => some s
  | _ => none

/-- The items of an array. -/
def items? : Json → Option (List Json)
  | .array items => some items
  | _ => none

/-- The members of an object. -/
def members? : Json → Option (List (String × Json))
  | .object ms => some ms
  | _ => none

/-- The number of a float; what is no finite number becomes `null`. -/
def ofFloat (x : Float) : Json :=
  if x.isFinite then .float x else .null

end Json
end FacetSql
