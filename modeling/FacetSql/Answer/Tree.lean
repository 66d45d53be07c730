import FacetSql.Cell.Basic
import FacetSql.Failure
import FacetSql.Json.Printer
import FacetSql.Decimal.Exact
/-!
# Tree — the aggregations of an answer

The engine answers a map of aggregations, each under its type, a number sign and its name.  Buckets hold aggregations
in turn, beside members of their own.  `Tree.ofResponse` reads the map; the first aggregation that cannot be read, in
the order of the keys, is reported.
-/
namespace FacetSql.Answer

/-- What the keys of buckets are: values of a field, or beginnings of intervals. -/
inductive KeyKind where
  | terms
  | histogram
  deriving DecidableEq

mutual

/-- **An aggregation of an answer.** -/
inductive Tree where
  | buckets (kind : KeyKind) (name : String) (buckets : List Bucket)
  | filter (name : String) (count : Nat) (children : List Tree)
  | metric (name : String) (value : Option Float)

/-- **A bucket**: its key, the number of its documents, and the aggregations inside. -/
structure Bucket where
  key : Cell
  count : Nat
  children : List Tree

end

/-- The name of an aggregation. -/
def Tree.name : Tree → String
  | .buckets _ name _ | .filter name _ _ | .metric name _ => name

/-- What the type in front of a name says about the value behind it. -/
inductive Form where
  | buckets (kind : KeyKind)
  | filter
  | metric

/-- **The form of a type.** -/
def Form.ofType? : String → Option Form
  | "sterms" | "lterms" | "dterms" | "terms" => some (.buckets .terms)
  | "date_histogram" => some (.buckets .histogram)
  | "filter" => some .filter
  | "avg" | "sum" | "min" | "max" | "value_count" => some .metric
  | _ => none

/-- **The type and the name in a key**, around the first number sign. -/
def splitKey (key : String) : Option (String × String) :=
  match key.toList.dropWhile (· != '#') with
  | [] => none
  | _ :: name => some (String.ofList (key.toList.takeWhile (· != '#')), String.ofList name)

/-- Members of a bucket that are no aggregations. -/
def bucketMembers : List String := ["key", "key_as_string", "doc_count"]

/-- Members of a filter that are no aggregations. -/
def filterMembers : List String := ["doc_count", "meta"]

/-- The number of documents; what is no whole number of 64 bits counts as none. -/
def documentCount (ms : List (String × Json)) : Nat :=
  ((Json.lookUp "doc_count" ms).bind Json.word64?).getD 0

/-- The cell of a number of milliseconds, whole or cut off. -/
def instantKey (j : Json) : Cell :=
  match j.int64?, j.float? with
  | some millis, _ => .ofMillis millis
  | none, some x => .ofMillis (Decimal.truncate x)
  | none, none => .null

/-- **The key of a bucket.** -/
def bucketKey (kind : KeyKind) (ms : List (String × Json)) : Cell :=
  match Json.lookUp "key" ms, kind with
  | none, _ => .null
  | some j, .terms => .ofJson j
  | some j, .histogram => instantKey j

namespace Tree

mutual

/-- **The aggregation behind a key.** -/
def ofMember (key : String) (j : Json) : Except Failure Tree :=
  match splitKey key with
  | none => .error (.shape (.untypedKey key))
  | some (type, name) =>
    match Form.ofType? type with
    | none => .error (.shape (.unknownType name type))
    | some .metric => .ok (.metric name ((j.member? "value").bind Json.float?))
    | some (.buckets kind) =>
      match j with
      | .object ms => do return .buckets kind name (← bucketsAmong kind name ms)
      | _ => .error (.shape (.noBuckets name))
    | some .filter =>
      match j with
      | .object ms => do return .filter name (documentCount ms) (← ofMembers filterMembers ms)
      | _ => .error (.shape (.notObject name))

/-- The aggregations among members, without the `own` members of what they belong to. -/
def ofMembers (own : List String) : List (String × Json) → Except Failure (List Tree)
  | [] => .ok []
  | (key, j) :: ms =>
    if own.contains key then ofMembers own ms
    else do
      let t ← ofMember key j
      return t :: (← ofMembers own ms)

/-- The buckets in the member that holds them. -/
def bucketsAmong (kind : KeyKind) (name : String) : List (String × Json) → Except Failure (List Bucket)
  | [] => .error (.shape (.noBuckets name))
  | (key, j) :: ms => if key = "buckets" then bucketArray kind name j else bucketsAmong kind name ms

/-- The buckets of an array. -/
def bucketArray (kind : KeyKind) (name : String) : Json → Except Failure (List Bucket)
  | .array items => bucketItems kind name items
  | _ => .error (.shape (.noBuckets name))

/-- The buckets of the items of an array. -/
def bucketItems (kind : KeyKind) (name : String) : List Json → Except Failure (List Bucket)
  | [] => .ok []
  | j :: js => do
    let b ← bucketItem kind name j
    return b :: (← bucketItems kind name js)

/-- A bucket. -/
def bucketItem (kind : KeyKind) (name : String) : Json → Except Failure Bucket
  | .object ms => do return ⟨bucketKey kind ms, documentCount ms, ← ofMembers bucketMembers ms⟩
  | _ => .error (.shape (.notObject name))

end

end Tree

/-- The reason in an error, or all of the error as text. -/
def errorReason (j : Json) : String :=
  ((j.member? "reason").bind Json.text?).getD j.compact

/-- **Refuses an answer that says it is an error.** -/
def checkError (response : Json) : Except Failure Unit :=
  match response.present? "error" with
  | none => .ok ()
  | some j => .error (.engine (errorReason j))

/-- **The aggregations of an answer**, none if it says nothing of them. -/
def Tree.ofResponse (response : Json) : Except Failure (List Tree) := do
  checkError response
  match response.present? "aggregations" with
  | none => return []
  | some (.object ms) => ofMembers [] ms
  | some j => throw (.shape (.aggregationsNotObject j.compact))

end FacetSql.Answer
