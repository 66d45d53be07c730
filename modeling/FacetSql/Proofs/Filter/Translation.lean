import FacetSql.Json.Lemmas
import FacetSql.Proofs.Checked
import FacetSql.Proofs.Filter.Meaning
/-!
# Translation — the filter of a condition means what the condition means

The engine reads each form of filter as its name says (`accepts_both` and its neighbours), and operands have the value
of the field or constant they are bound as (`valueOf_of_fieldName`, `valueOf_of_constant`).  From these the translation
keeps the meaning (`accepts_filterOf_iff`), and neither parentheses nor the side of the constant matter to it.
-/
namespace FacetSql

open Query Sql

variable {V : Type} (r : Reading V) (d : Document V)

/-! ## What the engine makes of a filter -/

section Filters

open FacetSql.Filter

-- a filter's query is written out, and then read member by member
attribute [local simp] Filter.toJson single Accepts AcceptsAll AcceptsAny Reading.Within

theorem accepts_both (f g : Filter) :
    Accepts r d (both f g).toJson ↔ Accepts r d f.toJson ∧ Accepts r d g.toJson := by
  simp

theorem accepts_either (f g : Filter) :
    Accepts r d (either f g).toJson ↔ Accepts r d f.toJson ∨ Accepts r d g.toJson := by
  have hsorted : ∀ queries : Json, Json.ofMembers [("should", queries), ("minimum_should_match", .int 1)] =
      .object [("minimum_should_match", .int 1), ("should", queries)] :=
    fun queries => Json.ofMembers_swap (by decide) queries _
  simp [hsorted]

theorem accepts_negated (f : Filter) : Accepts r d (negated f).toJson ↔ ¬ Accepts r d f.toJson := by
  simp

theorem accepts_negatedIf (negate : Bool) (f : Filter) :
    Accepts r d (negatedIf negate f).toJson ↔ NotIf negate (Accepts r d f.toJson) := by
  cases negate
  · exact Iff.rfl
  · exact accepts_negated r d f

theorem accepts_present (field : String) : Accepts r d (present field).toJson ↔ (d field).isSome := by
  simp

theorem accepts_equals (field : String) (value : Json) :
    Accepts r d (equals field value).toJson ↔ d field = some (r.constant value) := by
  simp

theorem accepts_oneOf (field : String) (values : List Json) :
    Accepts r d (oneOf field values).toJson ↔ ∃ value ∈ values, d field = some (r.constant value) := by
  simp

theorem accepts_bounded (field : String) (side : Side) (value : Json) :
    Accepts r d (bounded field side value).toJson ↔ ∃ v, d field = some v ∧ r.Within v (side.code, value) := by
  simp

theorem accepts_between (field : String) (low high : Json) :
    Accepts r d (between field low high).toJson ↔
      ∃ v, d field = some v ∧ r.atMost (r.constant low) v ∧ r.atMost v (r.constant high) := by
  have hsorted : Json.ofMembers [("gte", low), ("lte", high)] = .object [("gte", low), ("lte", high)] :=
    Json.ofMembers_pair (by decide) low high
  simp [hsorted]

theorem accepts_matching (field wildcard : String) :
    Accepts r d (matching field wildcard).toJson ↔ ∃ v, d field = some v ∧ r.fits wildcard v := by
  simp

end Filters

/-! ## Operands -/

namespace Query

theorem valueOf_of_fieldName {e : Expr} {field : String} (h : fieldName e = .ok field) :
    valueOf r d e = d field := by
  fun_induction fieldName e with
  | case1 n =>
    cases h
    rfl
  | case2 parts =>
    cases h
    rfl
  | case3 inner ih =>
    rw [valueOf, ih h]
  | case4 => cases h

theorem fieldName_of_constant {e : Expr} {j : Json} (h : constant e = .ok j) : ∃ fault, fieldName e = .error fault := by
  fun_induction fieldName e with
  | case1 n => cases h
  | case2 parts => cases h
  | case3 inner ih => exact ih h
  | case4 e => exact ⟨_, rfl⟩

theorem valueOf_of_constant {e : Expr} {j : Json} (h : constant e = .ok j) :
    valueOf r d e = some (r.constant j) := by
  fun_induction valueOf r d e with
  | case1 n => cases h
  | case2 parts => cases h
  | case3 inner ih => exact ih h
  | case4 e =>
    rw [h]
    rfl

/-! ## Comparisons -/

/-- **Exchanging the operands and the operator's sense says the same.** -/
theorem compares_flipped (left right : Expr) (op : BinaryOp) :
    Compares r d right (flipped op) left ↔ Compares r d left op right := by
  have hrel : ∀ a b, Related r (flipped op) b a ↔ Related r op a b := by
    intro a b
    cases op <;> simp [flipped, Related, eq_comm]
  constructor
  · rintro ⟨b, a, hb, ha, h⟩
    exact ⟨a, b, ha, hb, (hrel a b).1 h⟩
  · rintro ⟨a, b, ha, hb, h⟩
    exact ⟨b, a, hb, ha, (hrel a b).2 h⟩

/-- The operator is no connective, and so compares its operands. -/
def IsComparison (op : BinaryOp) : Prop := op ≠ .and ∧ op ≠ .or

theorem holds_flipped (left right : Expr) {op : BinaryOp} (hop : IsComparison op) :
    Holds r d (.binary right (flipped op) left) ↔ Holds r d (.binary left op right) := by
  cases op with
  | and => exact absurd rfl hop.1
  | or => exact absurd rfl hop.2
  | notEq => exact not_congr (compares_flipped r d left right .eq)
  | eq => exact compares_flipped r d left right .eq
  | lt => exact compares_flipped r d left right .lt
  | ltEq => exact compares_flipped r d left right .ltEq
  | gt => exact compares_flipped r d left right .gt
  | gtEq => exact compares_flipped r d left right .gtEq
  | other written => exact compares_flipped r d left right (.other written)

/-- **The filter of a field and a constant means their comparison.** -/
theorem accepts_comparisonFilter {field : String} {op : BinaryOp} {j : Json} {f : Filter} {left right : Expr}
    (h : comparisonFilter field op j = .ok f) (hl : valueOf r d left = d field)
    (hr : valueOf r d right = some (r.constant j)) : Accepts r d f.toJson ↔ Holds r d (.binary left op right) := by
  cases op with
  | and | or | other => cases h
  | eq =>
    cases h
    simp [accepts_equals, Holds, Compares, Related, hl, hr]
  | notEq =>
    cases h
    simp [accepts_negated, accepts_equals, Holds, Compares, Related, hl, hr]
  | lt | ltEq | gt | gtEq =>
    cases h
    simp [accepts_bounded, Side.code, Reading.Within, Holds, Compares, Related, hl, hr]

theorem comparison_eq_ok_iff {left right : Expr} {op : BinaryOp} {f : Filter} :
    comparison left op right = .ok f ↔
      ∃ field j, (fieldName left = .ok field ∧ constant right = .ok j ∧ comparisonFilter field op j = .ok f) ∨
        (fieldName right = .ok field ∧ constant left = .ok j ∧ comparisonFilter field (flipped op) j = .ok f) := by
  constructor
  · intro h
    unfold comparison at h
    split at h
    · rename_i field hl
      obtain ⟨j, hr, hf⟩ := bind_eq_ok_iff.1 h
      exact ⟨field, j, .inl ⟨hl, hr, hf⟩⟩
    · rename_i fault field hl hr
      obtain ⟨j, hl', hf⟩ := bind_eq_ok_iff.1 h
      exact ⟨field, j, .inr ⟨hr, hl', hf⟩⟩
    · cases h
  · rintro ⟨field, j, ⟨hl, hr, hf⟩ | ⟨hr, hl, hf⟩⟩
    · rw [comparison, hl]
      exact bind_eq_ok_iff.2 ⟨j, hr, hf⟩
    · obtain ⟨fault, hl'⟩ := fieldName_of_constant hl
      rw [comparison, hl', hr]
      exact bind_eq_ok_iff.2 ⟨j, hl, hf⟩

/-- **The filter of a comparison means the comparison**, whichever side the field is on. -/
theorem accepts_comparison {left right : Expr} {op : BinaryOp} {f : Filter} (hop : IsComparison op)
    (h : comparison left op right = .ok f) : Accepts r d f.toJson ↔ Holds r d (.binary left op right) := by
  obtain ⟨field, j, ⟨hl, hr, hf⟩ | ⟨hr, hl, hf⟩⟩ := comparison_eq_ok_iff.1 h
  · exact accepts_comparisonFilter r d hf (valueOf_of_fieldName r d hl) (valueOf_of_constant r d hr)
  · rw [← holds_flipped r d left right hop]
    exact accepts_comparisonFilter r d hf (valueOf_of_fieldName r d hr) (valueOf_of_constant r d hl)

/-! ## Conditions -/

theorem notIf_congr {p q : Prop} (negated : Bool) (h : p ↔ q) : NotIf negated p ↔ NotIf negated q := by
  rw [propext h]

theorem exists_valueOf_iff {items : List Expr} {values : List Json} (h : items.mapM constant = .ok values) (v : V) :
    (∃ item ∈ items, valueOf r d item = some v) ↔ ∃ value ∈ values, r.constant value = v := by
  have hall := mapM_eq_ok_iff.1 h
  clear h
  induction hall with
  | nil => simp
  | cons hj _ ih => simp only [List.exists_mem_cons_iff, ih, valueOf_of_constant r d hj, Option.some.injEq]

/-- **The engine accepts a document for the filter of a condition exactly if the condition is true of it.** -/
theorem accepts_filterOf {e : Expr} {f : Filter} (h : filterOf e = .ok f) :
    Accepts r d f.toJson ↔ Holds r d e := by
  fun_induction filterOf e generalizing f with
  | case1 inner ih => exact ih h
  | case2 left right ihl ihr =>
    obtain ⟨g, hg, h⟩ := bind_eq_ok_iff.1 h
    obtain ⟨k, hk, h⟩ := bind_eq_ok_iff.1 h
    cases h
    rw [accepts_both, ihl hg, ihr hk, Holds]
  | case3 left right ihl ihr =>
    obtain ⟨g, hg, h⟩ := bind_eq_ok_iff.1 h
    obtain ⟨k, hk, h⟩ := bind_eq_ok_iff.1 h
    cases h
    rw [accepts_either, ihl hg, ihr hk, Holds]
  | case4 left op right hand hor => exact accepts_comparison r d ⟨hand, hor⟩ h
  | case5 operand ih =>
    obtain ⟨g, hg, h⟩ := bind_eq_ok_iff.1 h
    cases h
    rw [accepts_negated, ih hg, Holds]
  | case6 operand isNegated =>
    obtain ⟨field, hf, h⟩ := bind_eq_ok_iff.1 h
    cases h
    rw [accepts_negatedIf, accepts_present, Holds, valueOf_of_fieldName r d hf]
    cases isNegated <;> simp [NotIf, Option.isSome_iff_ne_none]
  | case7 operand isNegated items =>
    obtain ⟨field, hf, h⟩ := bind_eq_ok_iff.1 h
    obtain ⟨values, hv, h⟩ := bind_eq_ok_iff.1 h
    cases h
    rw [accepts_negatedIf, accepts_oneOf, Holds]
    refine notIf_congr isNegated ?_
    simp only [exists_valueOf_iff r d hv, valueOf_of_fieldName r d hf]
    constructor
    · rintro ⟨j, hj, hd⟩
      exact ⟨_, hd, j, hj, rfl⟩
    · rintro ⟨_, hd, j, hj, rfl⟩
      exact ⟨j, hj, hd⟩
  | case8 operand isNegated low high =>
    obtain ⟨field, hf, h⟩ := bind_eq_ok_iff.1 h
    obtain ⟨a, ha, h⟩ := bind_eq_ok_iff.1 h
    obtain ⟨b, hb, h⟩ := bind_eq_ok_iff.1 h
    cases h
    rw [accepts_negatedIf, accepts_between, Holds]
    refine notIf_congr isNegated ?_
    simp only [valueOf_of_fieldName r d hf, valueOf_of_constant r d ha, valueOf_of_constant r d hb,
      Option.some.injEq, exists_eq_left']
  | case9 operand isNegated pattern escape =>
    obtain ⟨field, hf, h⟩ := bind_eq_ok_iff.1 h
    obtain ⟨j, hj, h⟩ := bind_eq_ok_iff.1 h
    cases h
    rw [accepts_negatedIf, accepts_matching, Holds]
    refine notIf_congr isNegated ?_
    simp only [valueOf_of_fieldName r d hf, hj, Except.ok.injEq, exists_eq_left']
  | case10 => cases h

/-! ## Parentheses and sides -/

theorem fieldName_bare_iff (field : String) : ∀ e, fieldName (bare e) = .ok field ↔ fieldName e = .ok field
  | .nested inner => fieldName_bare_iff field inner
  | .literal _ | .name _ | .path _ | .call _ | .other _ => Iff.rfl
  | .unary .. | .binary .. | .isNull .. | .inList .. | .between .. | .like .. => ⟨nofun, nofun⟩

theorem constant_bare_iff : ∀ (e : Expr) (j : Json), constant (bare e) = .ok j ↔ constant e = .ok j
  | .nested inner, j => constant_bare_iff inner j
  | .unary .minus operand, j => by
    rw [bare, constant, constant, bind_eq_ok_iff, bind_eq_ok_iff]
    exact exists_congr fun k => and_congr_left' (constant_bare_iff operand k)
  | .literal _, _ | .name _, _ | .path _, _ | .call _, _ | .other _, _ => Iff.rfl
  | .unary .not _, _ | .unary .plus _, _ => ⟨nofun, nofun⟩
  | .binary .., _ | .isNull .., _ | .inList .., _ | .between .., _ | .like .., _ => ⟨nofun, nofun⟩

theorem mapM_constant_bareAll_iff : ∀ (items : List Expr) (values : List Json),
    (bareAll items).mapM constant = .ok values ↔ items.mapM constant = .ok values
  | [], _ => Iff.rfl
  | item :: items, values => by
    rw [bareAll, mapM_eq_ok_iff, mapM_eq_ok_iff, List.forall₂_cons_left_iff, List.forall₂_cons_left_iff]
    simp only [constant_bare_iff, ← mapM_eq_ok_iff, mapM_constant_bareAll_iff items]

theorem comparison_bare_iff (left right : Expr) (op : BinaryOp) (f : Filter) :
    comparison (bare left) op (bare right) = .ok f ↔ comparison left op right = .ok f := by
  simp only [comparison_eq_ok_iff, fieldName_bare_iff, constant_bare_iff]

theorem filterOf_binary (left right : Expr) {op : BinaryOp} (hop : IsComparison op) :
    filterOf (.binary left op right) = comparison left op right := by
  cases op with
  | and => exact absurd rfl hop.1
  | or => exact absurd rfl hop.2
  | _ => rfl

/-- **Parentheses do not matter to the filter of a condition.** -/
theorem filterOf_bare_iff : ∀ (e : Expr) (f : Filter), filterOf (bare e) = .ok f ↔ filterOf e = .ok f
  | .nested inner, f => filterOf_bare_iff inner f
  | .binary left op right, f => by
    rw [bare]
    by_cases hop : IsComparison op
    · rw [filterOf_binary _ _ hop, filterOf_binary _ _ hop, comparison_bare_iff]
    · rcases Classical.not_and_iff_not_or_not.1 hop with hand | hor
      · rw [Classical.not_not.1 hand, filterOf, filterOf]
        simp only [bind_eq_ok_iff, filterOf_bare_iff left, filterOf_bare_iff right]
      · rw [Classical.not_not.1 hor, filterOf, filterOf]
        simp only [bind_eq_ok_iff, filterOf_bare_iff left, filterOf_bare_iff right]
  | .unary .not operand, f => by
    rw [bare, filterOf, filterOf]
    simp only [bind_eq_ok_iff, filterOf_bare_iff operand]
  | .isNull operand isNegated, f => by
    rw [bare, filterOf, filterOf]
    simp only [bind_eq_ok_iff, fieldName_bare_iff]
  | .inList operand isNegated items, f => by
    rw [bare, filterOf, filterOf]
    simp only [bind_eq_ok_iff, fieldName_bare_iff, mapM_constant_bareAll_iff]
  | .between operand isNegated low high, f => by
    rw [bare, filterOf, filterOf]
    simp only [bind_eq_ok_iff, fieldName_bare_iff, constant_bare_iff]
  | .like operand isNegated pattern escape, f => by
    rw [bare, filterOf, filterOf]
    simp only [bind_eq_ok_iff, fieldName_bare_iff, constant_bare_iff]
  | .unary .minus _, _ | .unary .plus _, _ => ⟨nofun, nofun⟩
  | .literal _, _ | .name _, _ | .path _, _ | .call _, _ | .other _, _ => Iff.rfl

/-- **A comparison may be written with its sides exchanged**: the filter is the same. -/
theorem comparison_flipped {left right : Expr} {op : BinaryOp} {f : Filter} (h : comparison left op right = .ok f) :
    comparison right (flipped op) left = .ok f := by
  have hop : flipped (flipped op) = op := by cases op <;> rfl
  obtain ⟨field, j, ⟨hl, hr, hf⟩ | ⟨hr, hl, hf⟩⟩ := comparison_eq_ok_iff.1 h
  · exact comparison_eq_ok_iff.2 ⟨field, j, .inr ⟨hl, hr, hop.symm ▸ hf⟩⟩
  · exact comparison_eq_ok_iff.2 ⟨field, j, .inl ⟨hr, hl, hf⟩⟩

/-- **The translation of a condition keeps its meaning**: for every reading of values the engine accepts a document
exactly if the condition is true of it.  The same condition with other parentheses has the same filter, and so has a
comparison with its sides exchanged. -/
theorem accepts_filterOf_iff {e : Expr} {f : Filter} (h : filterOf e = .ok f) :
    (∀ (V : Type) (r : Reading V) (d : Document V), Accepts r d f.toJson ↔ Holds r d e) ∧
    (∀ e', bare e' = bare e → filterOf e' = .ok f) ∧
    ∀ left op right, e = .binary left op right → IsComparison op →
      filterOf (.binary right (flipped op) left) = .ok f := by
  refine ⟨fun V r d => accepts_filterOf r d h, fun e' he => ?_, fun left op right he hop => ?_⟩
  · rwa [← filterOf_bare_iff, he, filterOf_bare_iff]
  · have hop' : IsComparison (flipped op) := by
      cases op <;> simp_all [IsComparison, flipped]
    rw [he, filterOf_binary _ _ hop] at h
    rw [filterOf_binary _ _ hop']
    exact comparison_flipped h

/-- `NOT (5 < (qty)) OR city IS NULL` -/
def quantityOrNoCity : Expr :=
  .binary
    (.unary .not (.nested (.binary (.literal (.number "5" false)) .lt (.nested (.name ⟨"qty", none⟩)))))
    .or (.isNull (.name ⟨"city", none⟩) false)

/-- The constant stands on the left, so the field has to lie above it. -/
theorem accepts_quantityOrNoCity :
    let f : Filter := .either (.negated (.bounded "qty" .above (.int 5))) (.negated (.present "city"))
    filterOf quantityOrNoCity = .ok f ∧ ∀ (r : Reading Json) (d : Document Json),
      Accepts r d f.toJson ↔ Holds r d quantityOrNoCity := by
  intro f
  have h : filterOf quantityOrNoCity = .ok f := rfl
  exact ⟨h, (accepts_filterOf_iff h).1 Json⟩

end Query
end FacetSql
