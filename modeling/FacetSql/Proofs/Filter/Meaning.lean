import FacetSql.Query.Filter
/-!
# Meaning — what conditions and queries say of a document

A document gives values to some of its fields.  A condition is true of it or not (`Holds`): a comparison with a missing
field is false, and whatever is negated is true exactly if it is not true without the negation.  The engine accepts it
for a query or not (`Accepts`).  How values compare is left open: both sides take it from one `Reading`.
-/
namespace FacetSql

/-- **How values are read**: which value a constant stands for, how two values compare, and which a wildcard fits. -/
structure Reading (V : Type) where
  constant : Json → V
  below : V → V → Prop
  atMost : V → V → Prop
  fits : String → V → Prop

/-- **A document**: the values of its fields, as far as it has them. -/
abbrev Document (V : Type) := String → Option V

variable {V : Type} (r : Reading V) (d : Document V)

/-! ## Queries of the engine -/

/-- A value lies within a bound, which is a constant under the word for its side. -/
def Reading.Within (v : V) : String × Json → Prop
  | ("gt", bound) => r.below (r.constant bound) v
  | ("gte", bound) => r.atMost (r.constant bound) v
  | ("lt", bound) => r.below v (r.constant bound)
  | ("lte", bound) => r.atMost v (r.constant bound)
  | _ => False

mutual

/-- **The engine accepts a document** for a query. -/
def Accepts : Json → Prop
  | .object [("match_all", _)] => True
  | .object [("bool", .object [("must", .array queries)])] => AcceptsAll queries
  | .object [("bool", .object [("minimum_should_match", .int 1), ("should", .array queries)])] => AcceptsAny queries
  | .object [("bool", .object [("must_not", .array queries)])] => ¬ AcceptsAny queries
  | .object [("exists", .object [("field", .text field)])] => (d field).isSome
  | .object [("term", .object [(field, value)])] => d field = some (r.constant value)
  | .object [("terms", .object [(field, .array values)])] => ∃ value ∈ values, d field = some (r.constant value)
  | .object [("range", .object [(field, .object bounds)])] => ∃ v, d field = some v ∧ ∀ b ∈ bounds, r.Within v b
  | .object [("wildcard", .object [(field, .object [("value", .text wildcard)])])] =>
    ∃ v, d field = some v ∧ r.fits wildcard v
  | _ => False

/-- It accepts it for every query of a list. -/
def AcceptsAll : List Json → Prop
  | [] => True
  | query :: queries => Accepts query ∧ AcceptsAll queries

/-- It accepts it for some query of a list. -/
def AcceptsAny : List Json → Prop
  | [] => False
  | query :: queries => Accepts query ∨ AcceptsAny queries

end

/-! ## Conditions -/

namespace Query

open Sql

/-- **The value of an operand**: of the field that it names, or else of the constant that it is. -/
def valueOf : Expr → Option V
  | .name n => d n.text
  | .path parts => d (".".intercalate (parts.map Name.text))
  | .nested inner => valueOf inner
  | e => (constant e).toOption.map r.constant

/-- Two values compare as an operator says. -/
def Related : BinaryOp → V → V → Prop
  | .eq, a, b => a = b
  | .lt, a, b => r.below a b
  | .ltEq, a, b => r.atMost a b
  | .gt, a, b => r.below b a
  | .gtEq, a, b => r.atMost b a
  | _, _, _ => False

/-- Both operands have values, and they compare as the operator says. -/
def Compares (left : Expr) (op : BinaryOp) (right : Expr) : Prop :=
  ∃ a b, valueOf r d left = some a ∧ valueOf r d right = some b ∧ Related r op a b

/-- The statement, or that it is not so. -/
def NotIf (negated : Bool) (p : Prop) : Prop := if negated then ¬ p else p

/-- **A condition is true of a document.** -/
def Holds : Expr → Prop
  | .nested inner => Holds inner
  | .binary left .and right => Holds left ∧ Holds right
  | .binary left .or right => Holds left ∨ Holds right
  | .binary left .notEq right => ¬ Compares r d left .eq right
  | .binary left op right => Compares r d left op right
  | .unary .not operand => ¬ Holds operand
  | .isNull operand negated => NotIf negated (valueOf r d operand = none)
  | .inList operand negated items =>
    NotIf negated (∃ v, valueOf r d operand = some v ∧ ∃ item ∈ items, valueOf r d item = some v)
  | .between operand negated low high =>
    NotIf negated (∃ v, valueOf r d operand = some v ∧ (∃ a, valueOf r d low = some a ∧ r.atMost a v) ∧
      ∃ b, valueOf r d high = some b ∧ r.atMost v b)
  | .like operand negated pattern _ =>
    NotIf negated (∃ v, valueOf r d operand = some v ∧ ∃ j, constant pattern = .ok j ∧ r.fits (wildcard j) v)
  | _ => False

mutual

/-- **A condition without its parentheses**, around conditions, fields and constants alike. -/
def bare : Expr → Expr
  | .nested inner => bare inner
  | .unary op operand => .unary op (bare operand)
  | .binary left op right => .binary (bare left) op (bare right)
  | .isNull operand negated => .isNull (bare operand) negated
  | .inList operand negated items => .inList (bare operand) negated (bareAll items)
  | .between operand negated low high => .between (bare operand) negated (bare low) (bare high)
  | .like operand negated pattern escape => .like (bare operand) negated (bare pattern) escape
  | e => e

/-- Operands without their parentheses. -/
def bareAll : List Expr → List Expr
  | [] => []
  | e :: es => bare e :: bareAll es

end

end Query
end FacetSql
