import FacetSql.Proofs.Filter.Translation
import FacetSql.Proofs.Numeral.Decimal
/-!
# Constants — the constants of a condition in its query

The values of a filter are the constants of its condition, and no others (`mem_values_iff`), and the query of a filter
holds `null` only where one of its values is `null` (`hasNull_toJson_iff`).  A constant is `null` if it is the keyword,
or a numeral beyond all floats without a minus sign (`constant_eq_null_iff`): such a numeral is read as infinity, which
JSON has no number for.
-/
namespace FacetSql

open Query Sql Numeral

/-- **There is a** `null` in a JSON value, at any depth. -/
inductive Json.HasNull : Json → Prop where
  | null : HasNull .null
  | item {items : List Json} {j : Json} (mem : j ∈ items) (inside : HasNull j) : HasNull (.array items)
  | member {ms : List (String × Json)} {m : String × Json} (mem : m ∈ ms) (inside : HasNull m.2) :
    HasNull (.object ms)

/-- The values that a filter compares with. -/
def Filter.values : Filter → List Json
  | everything | present _ | matching .. => []
  | both left right | either left right => left.values ++ right.values
  | negated inner => inner.values
  | equals _ value | bounded _ _ value => [value]
  | oneOf _ values => values
  | between _ low high => [low, high]

/-- **The operands that a condition compares**: both sides of a comparison, the items of a list, the two bounds. -/
def Query.valuesOf : Expr → List Expr
  | .nested inner => valuesOf inner
  | .binary left .and right | .binary left .or right => valuesOf left ++ valuesOf right
  | .binary left _ right => [left, right]
  | .unary .not operand => valuesOf operand
  | .inList _ _ items => items
  | .between _ _ low high => [low, high]
  | _ => []

/-! ## Queries -/

namespace Json

theorem hasNull_array_iff {items : List Json} : HasNull (.array items) ↔ ∃ j ∈ items, HasNull j :=
  ⟨fun | .item mem inside => ⟨_, mem, inside⟩, fun ⟨_, mem, inside⟩ => .item mem inside⟩

theorem hasNull_object_iff {ms : List (String × Json)} : HasNull (.object ms) ↔ ∃ m ∈ ms, HasNull m.2 :=
  ⟨fun | .member mem inside => ⟨_, mem, inside⟩, fun ⟨_, mem, inside⟩ => .member mem inside⟩

theorem not_hasNull_int (n : Int) : ¬ HasNull (.int n) := nofun

theorem not_hasNull_text (s : String) : ¬ HasNull (.text s) := nofun

end Json

open FacetSql.Json FacetSql.Filter in
/-- **The query of a filter holds** `null` **exactly if a value of the filter does.** -/
theorem hasNull_toJson_iff (f : Filter) : f.toJson.HasNull ↔ ∃ value ∈ f.values, value.HasNull := by
  have hshould : ∀ queries : Json, Json.ofMembers [("should", queries), ("minimum_should_match", .int 1)] =
      .object [("minimum_should_match", .int 1), ("should", queries)] :=
    fun queries => Json.ofMembers_swap (by decide) queries _
  have hbounds : ∀ low high : Json, Json.ofMembers [("gte", low), ("lte", high)] =
      .object [("gte", low), ("lte", high)] := Json.ofMembers_pair (by decide)
  induction f with
  | everything | present | matching => simp [toJson, single, values, hasNull_object_iff, not_hasNull_text]
  | both left right ihl ihr =>
    simp [toJson, single, values, hasNull_object_iff, hasNull_array_iff, ihl, ihr, or_and_right, exists_or]
  | either left right ihl ihr =>
    simp [toJson, single, values, hasNull_object_iff, hasNull_array_iff, hshould, not_hasNull_int, ihl, ihr,
      or_and_right, exists_or]
  | negated inner ih => simp [toJson, single, values, hasNull_object_iff, hasNull_array_iff, ih]
  | equals | bounded => simp [toJson, single, values, hasNull_object_iff]
  | oneOf => simp [toJson, single, values, hasNull_object_iff, hasNull_array_iff]
  | between => simp [toJson, single, values, hasNull_object_iff, hbounds]

namespace Query

/-! ## Constants -/

theorem negateConstant_eq_ok {j k : Json} (h : negateConstant j = .ok k) : (∃ n, k = .int n) ∨ ∃ x, k = .float x := by
  cases j with
  | int n => exact .inl ⟨-n, (Except.ok.inj h).symm⟩
  | float x => exact .inr ⟨-x, (Except.ok.inj h).symm⟩
  | null | bool | text | array | object => cases h

theorem readNumber_eq_ok_iff {numeral : String} {n : Number} : readNumber numeral = .ok n ↔
    (∃ i, int64.read numeral = .ok i ∧ n = .int i) ∨
      (∃ fault, int64.read numeral = .error fault) ∧ ∃ x, readReal numeral = some x ∧ n = .float x := by
  unfold readNumber
  split
  · rename_i i hi
    simp [hi, eq_comm]
  · rename_i fault hi
    split
    · rename_i x hx
      simp [hi, hx, eq_comm]
    · rename_i hx
      simp [hi, hx]

/-- **The constant of a numeral** is a number, unless the numeral is beyond all floats. -/
theorem constant_number_eq_ok {numeral : String} {long : Bool} {j : Json}
    (h : constant (.literal (.number numeral long)) = .ok j) :
    (j = .null ∧ Beyond numeral) ∨ (j.float?.isSome ∧ ¬ Beyond numeral) := by
  obtain ⟨n, hn, h⟩ := bind_eq_ok_iff.1 h
  rcases readNumber_eq_ok_iff.1 hn with ⟨i, hi, rfl⟩ | ⟨-, x, hx, rfl⟩
  · cases h
    exact .inr ⟨rfl, not_beyond_of_int64 hi⟩
  · cases h
    rw [← readReal_infinite_iff, Json.ofFloat]
    by_cases hfinite : x.isFinite = true
    · rw [if_pos hfinite]
      refine .inr ⟨rfl, ?_⟩
      rintro ⟨y, hy, hinfinite⟩
      cases hx.symm.trans hy
      exact absurd hfinite (by rw [hinfinite]; decide)
    · rw [if_neg hfinite]
      exact .inl ⟨rfl, x, hx, Bool.eq_false_iff.2 hfinite⟩

theorem constant_of_beyond {numeral : String} (h : Beyond numeral) (long : Bool) :
    constant (.literal (.number numeral long)) = .ok .null := by
  obtain ⟨x, hx, hinfinite⟩ := readReal_infinite_iff.2 h
  cases hi : int64.read numeral with
  | ok i => exact absurd h (not_beyond_of_int64 hi)
  | error fault =>
    refine bind_eq_ok_iff.2 ⟨.float x, readNumber_eq_ok_iff.2 (.inr ⟨⟨fault, hi⟩, x, hx, rfl⟩), ?_⟩
    show Except.ok (Json.ofFloat x) = _
    rw [Json.ofFloat, hinfinite]
    rfl

/-- **A constant is** `null` exactly if it is the keyword or a numeral beyond all floats, in any parentheses. -/
theorem constant_eq_null_iff : ∀ e, constant e = .ok .null ↔
    bare e = .literal .null ∨ ∃ numeral long, bare e = .literal (.number numeral long) ∧ Beyond numeral
  | .nested inner => constant_eq_null_iff inner
  | .literal (.number numeral long) => by
    constructor
    · intro h
      rcases constant_number_eq_ok h with ⟨-, hbeyond⟩ | ⟨hnumber, -⟩
      · exact .inr ⟨numeral, long, rfl, hbeyond⟩
      · cases hnumber
    · rintro (h | ⟨numeral', long', h, hbeyond⟩)
      · cases h
      · cases h
        exact constant_of_beyond hbeyond long
  | .literal .null => iff_of_true rfl (.inl rfl)
  | .unary .minus operand => by
    refine iff_of_false (fun h => ?_) (by rintro (h | ⟨_, _, h, -⟩) <;> cases h)
    obtain ⟨j, -, hj⟩ := bind_eq_ok_iff.1 h
    rcases negateConstant_eq_ok hj with ⟨n, hn⟩ | ⟨x, hx⟩
    · cases hn
    · cases hx
  | .literal (.text _) | .literal (.bool _) | .literal (.other _) | .unary .not _ | .unary .plus _ | .name _ | .path _
  | .call _ | .other _ | .binary .. | .isNull .. | .inList .. | .between .. | .like .. =>
    iff_of_false nofun (by rintro (h | ⟨_, _, h, -⟩) <;> cases h)

theorem hasNull_of_constant {e : Expr} {j : Json} (h : constant e = .ok j) : j.HasNull ↔ j = .null := by
  -- no constant has anything inside
  have hplain : j.items? = none ∧ j.members? = none := by
    fun_induction constant e generalizing j with
    | case1 numeral long =>
      rcases @constant_number_eq_ok numeral long _ h with ⟨rfl, -⟩ | ⟨hnumber, -⟩
      · exact ⟨rfl, rfl⟩
      · cases j with
        | array | object => cases hnumber
        | _ => exact ⟨rfl, rfl⟩
    | case2 | case3 | case4 =>
      cases h
      exact ⟨rfl, rfl⟩
    | case5 operand =>
      obtain ⟨_, -, hj⟩ := bind_eq_ok_iff.1 h
      rcases negateConstant_eq_ok hj with ⟨n, rfl⟩ | ⟨x, rfl⟩
      · exact ⟨rfl, rfl⟩
      · exact ⟨rfl, rfl⟩
    | case6 inner ih => exact ih h
    | case7 => cases h
  constructor
  · intro hnull
    cases hnull with
    | null => rfl
    | item => cases hplain.1
    | member => cases hplain.2
  · rintro rfl
    exact .null

/-! ## Conditions -/

theorem values_comparisonFilter {field : String} {op : BinaryOp} {j : Json} {f : Filter}
    (h : comparisonFilter field op j = .ok f) : f.values = [j] := by
  cases op with
  | and | or | other => cases h
  | eq | notEq | lt | ltEq | gt | gtEq =>
    cases h
    rfl

theorem constant_of_fieldName {e : Expr} {field : String} (h : fieldName e = .ok field) (j : Json) :
    constant e ≠ .ok j := by
  intro hj
  obtain ⟨fault, hfault⟩ := fieldName_of_constant hj
  rw [h] at hfault
  cases hfault

/-- **The value of a comparison** is the constant on the side that names no field. -/
theorem mem_values_comparison_iff {left right : Expr} {op : BinaryOp} {f : Filter}
    (h : comparison left op right = .ok f) (j : Json) :
    j ∈ f.values ↔ ∃ v ∈ [left, right], constant v = .ok j := by
  have hpair : (∃ v ∈ [left, right], constant v = .ok j) ↔ constant left = .ok j ∨ constant right = .ok j := by simp
  rw [hpair]
  obtain ⟨field, k, ⟨hfield, hk, hf⟩ | ⟨hfield, hk, hf⟩⟩ := comparison_eq_ok_iff.1 h
  · rw [values_comparisonFilter hf, List.mem_singleton, or_iff_right (constant_of_fieldName hfield j), hk]
    exact ⟨fun hj => hj ▸ rfl, fun hj => (Except.ok.inj hj).symm⟩
  · rw [values_comparisonFilter hf, List.mem_singleton, or_iff_left (constant_of_fieldName hfield j), hk]
    exact ⟨fun hj => hj ▸ rfl, fun hj => (Except.ok.inj hj).symm⟩

theorem values_negatedIf (negate : Bool) (f : Filter) : (f.negatedIf negate).values = f.values := by
  cases negate
  · rfl
  · rfl

/-- **The values of a filter are the constants of its condition.** -/
theorem mem_values_iff {e : Expr} {f : Filter} (h : filterOf e = .ok f) (j : Json) :
    j ∈ f.values ↔ ∃ v ∈ valuesOf e, constant v = .ok j := by
  fun_induction filterOf e generalizing f with
  | case1 inner ih => exact ih h
  | case2 left right ihl ihr =>
    obtain ⟨g, hg, h⟩ := bind_eq_ok_iff.1 h
    obtain ⟨k, hk, h⟩ := bind_eq_ok_iff.1 h
    cases h
    simp only [Filter.values, valuesOf, List.mem_append, ihl hg, ihr hk, or_and_right, exists_or]
  | case3 left right ihl ihr =>
    obtain ⟨g, hg, h⟩ := bind_eq_ok_iff.1 h
    obtain ⟨k, hk, h⟩ := bind_eq_ok_iff.1 h
    cases h
    simp only [Filter.values, valuesOf, List.mem_append, ihl hg, ihr hk, or_and_right, exists_or]
  | case4 left right op hand hor =>
    rw [valuesOf]
    · exact mem_values_comparison_iff h j
    · exact hand
    · exact hor
  | case5 operand ih =>
    obtain ⟨g, hg, h⟩ := bind_eq_ok_iff.1 h
    cases h
    rw [Filter.values, valuesOf, ih hg]
  | case6 operand isNegated =>
    obtain ⟨field, hf, h⟩ := bind_eq_ok_iff.1 h
    cases h
    simp [values_negatedIf, Filter.values, valuesOf]
  | case7 operand isNegated items =>
    obtain ⟨field, hf, h⟩ := bind_eq_ok_iff.1 h
    obtain ⟨values, hv, h⟩ := bind_eq_ok_iff.1 h
    cases h
    rw [values_negatedIf]
    exact mem_mapM_iff hv j
  | case8 operand isNegated low high =>
    obtain ⟨field, hf, h⟩ := bind_eq_ok_iff.1 h
    obtain ⟨a, ha, h⟩ := bind_eq_ok_iff.1 h
    obtain ⟨b, hb, h⟩ := bind_eq_ok_iff.1 h
    cases h
    simp [values_negatedIf, Filter.values, valuesOf, ha, hb, eq_comm]
  | case9 operand isNegated pattern escape =>
    obtain ⟨field, hf, h⟩ := bind_eq_ok_iff.1 h
    obtain ⟨k, hk, h⟩ := bind_eq_ok_iff.1 h
    cases h
    simp [values_negatedIf, Filter.values, valuesOf]
  | case10 => cases h

/-- **A query holds** `null` exactly if its condition compares with the keyword or a numeral beyond all floats. -/
theorem hasNull_filterOf_iff {e : Expr} {f : Filter} (h : filterOf e = .ok f) :
    f.toJson.HasNull ↔ ∃ v ∈ valuesOf e, bare v = .literal .null ∨
      ∃ numeral long, bare v = .literal (.number numeral long) ∧ Beyond numeral := by
  simp only [hasNull_toJson_iff, mem_values_iff h, ← constant_eq_null_iff]
  constructor
  · rintro ⟨j, ⟨v, hv, hj⟩, hnull⟩
    rw [(hasNull_of_constant hj).1 hnull] at hj
    exact ⟨v, hv, hj⟩
  · rintro ⟨v, hv, hj⟩
    exact ⟨.null, ⟨v, hv, hj⟩, .null⟩

/-- **Without the keyword, a query holds no** `null` **exactly if none of its numerals is beyond all floats**; any other
numeral becomes a number or is refused. -/
theorem not_hasNull_filterOf_iff {e : Expr} {f : Filter} (h : filterOf e = .ok f)
    (hkeyword : ∀ v ∈ valuesOf e, bare v ≠ .literal .null) :
    (¬ f.toJson.HasNull ↔
      ∀ v ∈ valuesOf e, ∀ numeral long, bare v = .literal (.number numeral long) → ¬ Beyond numeral) ∧
    ∀ numeral long, (∀ j, constant (.literal (.number numeral long)) = .ok j → j.float?.isSome) ↔
      ¬ Beyond numeral := by
  refine ⟨?_, fun numeral long => ⟨fun hall hbeyond => ?_, fun hfits j hj => ?_⟩⟩
  · rw [hasNull_filterOf_iff h]
    constructor
    · intro hnone v hv numeral long hbare hbeyond
      exact hnone ⟨v, hv, .inr ⟨numeral, long, hbare, hbeyond⟩⟩
    · rintro hall ⟨v, hv, hnull | ⟨numeral, long, hbare, hbeyond⟩⟩
      · exact hkeyword v hv hnull
      · exact hall v hv numeral long hbare hbeyond
  · exact absurd (hall _ (constant_of_beyond hbeyond long)) (by decide)
  · exact (constant_number_eq_ok hj).elim (fun h => absurd h.2 hfits) (·.1)

/-- `price BETWEEN 1 AND top` -/
def priceUpTo (top : String) : Expr :=
  .between (.name ⟨"price", none⟩) false (.literal (.number "1" false)) (.literal (.number top false))

theorem bare_priceUpTo_ne_null (top : String) : ∀ v ∈ valuesOf (priceUpTo top), bare v ≠ .literal .null := by
  simp [valuesOf, priceUpTo, bare]

/-- Both bounds are within the floats. -/
theorem not_hasNull_priceUpTo : let e := priceUpTo "2.5"
    let f : Filter := .between "price" (.int 1) (.float 2.5)
    filterOf e = .ok f ∧ (∀ v ∈ valuesOf e, bare v ≠ .literal .null) ∧
      (¬ f.toJson.HasNull ↔
        ∀ v ∈ valuesOf e, ∀ numeral long, bare v = .literal (.number numeral long) → ¬ Beyond numeral) := by
  intro e f
  have h : filterOf e = .ok f := rfl
  exact ⟨h, bare_priceUpTo_ne_null "2.5", (not_hasNull_filterOf_iff h (bare_priceUpTo_ne_null "2.5")).1⟩

/-- A greatest price beyond all floats is no bound at all. -/
theorem hasNull_priceUpTo : let e := priceUpTo "1e400"
    ∃ f, filterOf e = .ok f ∧ (∀ v ∈ valuesOf e, bare v ≠ .literal .null) ∧ f.toJson.HasNull := by
  intro e
  have h : filterOf e = .ok (.between "price" (.int 1) .null) := rfl
  refine ⟨_, h, bare_priceUpTo_ne_null "1e400", (hasNull_toJson_iff _).2 ⟨.null, ?_, .null⟩⟩
  exact List.mem_cons_of_mem _ List.mem_cons_self

end Query
end FacetSql
