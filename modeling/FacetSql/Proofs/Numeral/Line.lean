import FacetSql.Cell.Order
import Mathlib
/-!
# Line — floats on a line

Every float but NaN has a place on a line: on which side of zero it is, how far by its exponent, and then by its
mantissa.  Floats compare as their places do (`lt_iff_place`, `beq_iff_place`), so they compare as a linear order
(`compareFloats_eq_cmp`).
-/
namespace FacetSql.Numeral

open Float.Model (UnpackedFloat)

/-- **The place of an unpacked float.**  NaN has none of its own. -/
def placeOf : UnpackedFloat → Int ×ₗ Int ×ₗ Int
  | .infinity .negative => toLex (-2, toLex (0, 0))
  | .finite .negative m e _ => toLex (-1, toLex (-e, -m))
  | .zero _ => toLex (0, toLex (0, 0))
  | .finite .positive m e _ => toLex (1, toLex (e, m))
  | .infinity .positive => toLex (2, toLex (0, 0))
  | .notANumber => toLex (0, toLex (0, 0))

theorem compare_eq_lt_iff_placeOf {a b : UnpackedFloat} (ha : a ≠ .notANumber) (hb : b ≠ .notANumber) :
    a.compare b = some .lt ↔ placeOf a < placeOf b := by
  rcases a with (_ | _) | _ | _ | ⟨_ | _, m, e, hm⟩ <;> rcases b with (_ | _) | _ | _ | ⟨_ | _, n, f, hn⟩
  case infinity.negative.infinity.positive => exact iff_of_true rfl (by decide)
  all_goals
    simp [UnpackedFloat.compare, placeOf, Prod.Lex.toLex_lt_toLex, Ordering.then_eq_lt, Ordering.then_eq_gt,
      compare_lt_iff_lt, compare_gt_iff_gt] at ha hb ⊢

theorem compare_eq_eq_iff_placeOf {a b : UnpackedFloat} (ha : a ≠ .notANumber) (hb : b ≠ .notANumber) :
    a.compare b = some .eq ↔ placeOf a = placeOf b := by
  rcases a with (_ | _) | _ | _ | ⟨_ | _, m, e, hm⟩ <;> rcases b with (_ | _) | _ | _ | ⟨_ | _, n, f, hn⟩
  case infinity.negative.infinity.negative => exact iff_of_true rfl rfl
  case infinity.positive.infinity.positive => exact iff_of_true rfl rfl
  all_goals
    simp [UnpackedFloat.compare, placeOf, Ordering.then_eq_eq] at ha hb ⊢

theorem placeOf_neg (a : UnpackedFloat) : placeOf a.neg = -placeOf a := by
  rcases a with (_ | _) | _ | _ | ⟨_ | _, m, e, hm⟩
  case finite.negative =>
    show toLex ((1 : Int), toLex (e, (m : Int))) = toLex (1, toLex (- -e, - -(m : Int)))
    rw [Int.neg_neg, Int.neg_neg]
  all_goals rfl

/-- **The place of a float on the line.** -/
def place (x : Float) : Int ×ₗ Int ×ₗ Int := placeOf x.toModel.unpack

section

variable {x y : Float}

theorem unpack_ne_notANumber (hx : x.isNaN = false) : x.toModel.unpack ≠ .notANumber := by
  intro h
  change x.toModel.unpack.isNaN = false at hx
  rw [h] at hx
  cases hx

theorem lt_iff_place (hx : x.isNaN = false) (hy : y.isNaN = false) : x < y ↔ place x < place y := by
  rw [place, place, ← compare_eq_lt_iff_placeOf (unpack_ne_notANumber hx) (unpack_ne_notANumber hy)]
  show decide (x.toModel < y.toModel) = true ↔ _
  rw [decide_eq_true_iff]
  show (x.toModel.unpack.compare y.toModel.unpack == some .lt) = true ↔ _
  exact beq_iff_eq

theorem beq_iff_place (hx : x.isNaN = false) (hy : y.isNaN = false) : (x == y) = true ↔ place x = place y := by
  rw [place, place, ← compare_eq_eq_iff_placeOf (unpack_ne_notANumber hx) (unpack_ne_notANumber hy)]
  show (x.toModel.unpack.compare y.toModel.unpack == some .eq) = true ↔ _
  exact beq_iff_eq

theorem beq_comm (x y : Float) : (x == y) = (y == x) := by
  -- NaN is equal to no float on either side
  have hnan : ∀ {x y : Float}, x.isNaN = true → (x == y) = false ∧ (y == x) = false := by
    intro x y hx
    change x.toModel.unpack.isNaN = true at hx
    show (x.toModel.unpack.compare y.toModel.unpack == some .eq) = false ∧
      (y.toModel.unpack.compare x.toModel.unpack == some .eq) = false
    cases hunpack : x.toModel.unpack with
    | notANumber => cases y.toModel.unpack <;> exact ⟨rfl, rfl⟩
    | infinity | zero | finite =>
      rw [hunpack] at hx
      cases hx
  cases hx : x.isNaN with
  | true => rw [(hnan hx).1, (hnan hx).2]
  | false =>
    cases hy : y.isNaN with
    | true => rw [(hnan hy).1, (hnan hy).2]
    | false => rw [Bool.eq_iff_iff, beq_iff_place hx hy, beq_iff_place hy hx, eq_comm]

/-- **Floats compare as their places on the line.** -/
theorem compareFloats_eq_cmp (hx : x.isNaN = false) (hy : y.isNaN = false) :
    Cell.compareFloats x y = cmp (place x) (place y) := by
  simp only [Cell.compareFloats, cmp, cmpUsing, lt_iff_place hx hy, lt_iff_place hy hx]

theorem isNaN_of_isFinite (hx : x.isFinite = true) : x.isNaN = false := by
  change x.toModel.unpack.isFinite = true at hx
  show x.toModel.unpack.isNaN = false
  cases h : x.toModel.unpack with
  | notANumber =>
    rw [h] at hx
    cases hx
  | infinity | zero | finite => rfl

end

end FacetSql.Numeral
