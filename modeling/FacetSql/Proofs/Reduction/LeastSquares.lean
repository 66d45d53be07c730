import FacetSql.Reduction.Fit
import Mathlib.Algebra.BigOperators.Group.List.Basic
import Mathlib.Algebra.BigOperators.Ring.List
import Mathlib.Algebra.Order.BigOperators.Group.List
import Mathlib.Algebra.Order.Field.Basic
import Mathlib.Algebra.Order.Field.Rat
import Mathlib.Data.Nat.Cast.Order.Ring
import Mathlib.Tactic.FieldSimp
import Mathlib.Tactic.Linarith
import Mathlib.Tactic.NormNum
import Mathlib.Tactic.Ring
/-!
# LeastSquares — the line of a fit, read without rounding

Over an ordered field the line through points is the least squares line of the textbook.  The sums are taken around the
means, where the abscissas and the ordinates sum to zero (`sum_deviations`); so the products and the squares are those
of the formula (`products_eq`, `squares_eq`), and the residuals of the line sum to zero and are orthogonal to the
abscissas (`balanced_lineOf`, `orthogonal_lineOf`).  That makes its error the least (`least_lineOf`).
-/
namespace FacetSql.Reduction.Fit

/-- The mean of a quantity over the points. -/
def meanOf {K : Type} [Field K] (points : List (K × K)) (quantity : K × K → K) : K :=
  (points.map quantity).sum / points.length

/-- How far a point lies above a line. -/
def residual {K : Type} [Field K] (alpha beta : K) (p : K × K) : K := p.2 - alpha - beta * p.1

/-- The sum of the squares of the residuals. -/
def squaredError {K : Type} [Field K] (points : List (K × K)) (alpha beta : K) : K :=
  (points.map (fun p => residual alpha beta p ^ 2)).sum

/-- **A least squares line**: its residuals solve the normal equations, and no line has a smaller error. -/
structure IsLeastSquares {K : Type} [Field K] [LinearOrder K] (points : List (K × K)) (fit : Fit K) : Prop where
  balanced : (points.map (residual fit.alpha fit.beta)).sum = 0
  orthogonal : (points.map (fun p => p.1 * residual fit.alpha fit.beta p)).sum = 0
  least : ∀ alpha beta, squaredError points fit.alpha fit.beta ≤ squaredError points alpha beta

/-- **The line of the textbook**, from the means of the coordinates, of their product and of the squared abscissa. -/
structure IsTextbook {K : Type} [Field K] (points : List (K × K)) (fit : Fit K) : Prop where
  variance : meanOf points (fun p => p.1 ^ 2) - meanOf points (·.1) ^ 2 ≠ 0
  slope : fit.beta = (meanOf points (fun p => p.1 * p.2) - meanOf points (·.1) * meanOf points (·.2)) /
    (meanOf points (fun p => p.1 ^ 2) - meanOf points (·.1) ^ 2)
  intercept : fit.alpha = meanOf points (·.2) - fit.beta * meanOf points (·.1)

/-! ## Sums around the means -/

section

variable {K : Type} [Field K]

theorem total_eq_sum (xs : List K) : total xs = xs.sum := List.sum_eq_foldl.symm

theorem sum_sub_const (points : List (K × K)) (f : K × K → K) (c : K) :
    (points.map (fun p => f p - c)).sum = (points.map f).sum - points.length * c := by
  induction points with
  | nil => simp
  | cons p points ih =>
    rw [List.map_cons, List.map_cons, List.sum_cons, List.sum_cons, ih, List.length_cons, Nat.cast_succ]
    ring

theorem sum_add_mul (points : List (K × K)) (f g : K × K → K) (c : K) :
    (points.map (fun p => f p + c * g p)).sum = (points.map f).sum + c * (points.map g).sum := by
  rw [List.sum_map_add, List.sum_map_mul_left]

variable [CharZero K] {points : List (K × K)}

theorem length_ne_zero (hne : points ≠ []) : (points.length : K) ≠ 0 :=
  Nat.cast_ne_zero.2 (fun h => hne (List.length_eq_zero_iff.1 h))

theorem length_mul_meanOf (hne : points ≠ []) (f : K × K → K) :
    points.length * meanOf points f = (points.map f).sum :=
  mul_div_cancel₀ _ (length_ne_zero hne)

/-- **Around its mean a quantity sums to zero.** -/
theorem sum_deviations (hne : points ≠ []) (f : K × K → K) :
    (points.map (fun p => f p - meanOf points f)).sum = 0 := by
  rw [sum_sub_const, length_mul_meanOf hne, sub_self]

/-- **A sum of products around both means**, with the means in front. -/
theorem sum_mul_deviations (hne : points ≠ []) (f g : K × K → K) :
    (points.map (fun p => (f p - meanOf points f) * (g p - meanOf points g))).sum =
      points.length * (meanOf points (fun p => f p * g p) - meanOf points f * meanOf points g) := by
  have hexpand : (fun p => (f p - meanOf points f) * (g p - meanOf points g)) =
      fun p => f p * g p + -meanOf points g * f p + -meanOf points f * (g p - meanOf points g) := by
    funext p
    ring
  rw [hexpand, sum_add_mul, sum_deviations hne g, sum_add_mul, ← length_mul_meanOf hne (fun p => f p * g p),
    ← length_mul_meanOf hne f]
  ring

theorem products_eq (hne : points ≠ []) : products (meanOf points (·.1)) (meanOf points (·.2)) points =
    points.length * (meanOf points (fun p => p.1 * p.2) - meanOf points (·.1) * meanOf points (·.2)) := by
  rw [products, total_eq_sum, sum_mul_deviations hne (·.1) (·.2)]

theorem squares_eq (hne : points ≠ []) : squares (meanOf points (·.1)) points =
    points.length * (meanOf points (fun p => p.1 ^ 2) - meanOf points (·.1) ^ 2) := by
  rw [squares, total_eq_sum, sum_mul_deviations hne (·.1) (·.1)]
  simp only [pow_two]

end

/-! ## The line through points -/

section

variable {K : Type} [Field K]

/-- The slope of the line, from the sums around the means. -/
def slopeOf (points : List (K × K)) : K :=
  products (meanOf points (·.1)) (meanOf points (·.2)) points / squares (meanOf points (·.1)) points

/-- **The line around the means.** -/
def lineOf (points : List (K × K)) : Fit K where
  alpha := meanOf points (·.2) - slopeOf points * meanOf points (·.1)
  beta := slopeOf points
  count := points.length

theorem residual_lineOf (points : List (K × K)) (p : K × K) :
    residual (lineOf points).alpha (lineOf points).beta p =
      p.2 - meanOf points (·.2) + -slopeOf points * (p.1 - meanOf points (·.1)) := by
  rw [residual, lineOf]
  ring

variable [CharZero K] {points : List (K × K)}

theorem balanced_lineOf (hne : points ≠ []) :
    (points.map (residual (lineOf points).alpha (lineOf points).beta)).sum = 0 := by
  have hsplit : residual (lineOf points).alpha (lineOf points).beta =
      fun p => p.2 - meanOf points (·.2) + -slopeOf points * (p.1 - meanOf points (·.1)) :=
    funext (residual_lineOf points)
  rw [hsplit, sum_add_mul, sum_deviations hne (·.2), sum_deviations hne (·.1), mul_zero, add_zero]

theorem orthogonal_lineOf (hne : points ≠ []) (hs : squares (meanOf points (·.1)) points ≠ 0) :
    (points.map (fun p => p.1 * residual (lineOf points).alpha (lineOf points).beta p)).sum = 0 := by
  -- an abscissa is its deviation and the mean, and the residuals themselves sum to zero
  have hsplit : (fun p => p.1 * residual (lineOf points).alpha (lineOf points).beta p) =
      fun p => (p.1 - meanOf points (·.1)) * (p.2 - meanOf points (·.2)) +
        -slopeOf points * ((p.1 - meanOf points (·.1)) * (p.1 - meanOf points (·.1))) +
        meanOf points (·.1) * residual (lineOf points).alpha (lineOf points).beta p := by
    funext p
    rw [residual_lineOf]
    ring
  have hproducts : (points.map (fun p => (p.1 - meanOf points (·.1)) * (p.2 - meanOf points (·.2)))).sum =
      slopeOf points * (points.map (fun p => (p.1 - meanOf points (·.1)) * (p.1 - meanOf points (·.1)))).sum := by
    rw [← total_eq_sum, ← total_eq_sum]
    exact (div_mul_cancel₀ _ hs).symm
  rw [hsplit, sum_add_mul, sum_add_mul, balanced_lineOf hne, hproducts]
  ring

theorem isTextbook_lineOf (hne : points ≠ []) (hs : squares (meanOf points (·.1)) points ≠ 0) :
    IsTextbook points (lineOf points) := by
  rw [squares_eq hne] at hs
  refine ⟨right_ne_zero_of_mul hs, ?_, rfl⟩
  rw [lineOf, slopeOf, products_eq hne, squares_eq hne, mul_div_mul_left _ _ (length_ne_zero hne)]

/-- **Points on a line give that line.** -/
theorem lineOf_of_onLine (hne : points ≠ []) (hs : squares (meanOf points (·.1)) points ≠ 0) {a b : K}
    (h : ∀ p ∈ points, p.2 = a + b * p.1) : lineOf points = ⟨a, b, points.length⟩ := by
  have hmean : meanOf points (·.2) = a + b * meanOf points (·.1) := by
    apply mul_left_cancel₀ (length_ne_zero hne)
    have hmap : points.map (·.2) = points.map (fun p => b * p.1 - -a) :=
      List.map_congr_left (fun p hp => by rw [h p hp]; ring)
    rw [length_mul_meanOf hne, hmap, sum_sub_const, List.sum_map_mul_left, ← length_mul_meanOf hne (·.1)]
    ring
  have hslope : slopeOf points = b := by
    have hmap : points.map (fun p => (p.1 - meanOf points (·.1)) * (p.2 - meanOf points (·.2))) =
        points.map (fun p => b * ((p.1 - meanOf points (·.1)) * (p.1 - meanOf points (·.1)))) :=
      List.map_congr_left (fun p hp => by rw [hmean, h p hp]; ring)
    rw [slopeOf, div_eq_iff hs, products, squares, total_eq_sum, total_eq_sum, hmap, List.sum_map_mul_left]
  rw [lineOf, hslope, hmean, add_sub_cancel_right]

end

/-! ## The order of the points -/

section

variable {K : Type} [Field K] {points points' : List (K × K)}

theorem meanOf_perm (h : points'.Perm points) (f : K × K → K) : meanOf points' f = meanOf points f := by
  rw [meanOf, meanOf, (h.map f).sum_eq, h.length_eq]

theorem squares_perm (h : points'.Perm points) (c : K) : squares c points' = squares c points := by
  rw [squares, squares, total_eq_sum, total_eq_sum, (h.map _).sum_eq]

theorem products_perm (h : points'.Perm points) (c d : K) : products c d points' = products c d points := by
  rw [products, products, total_eq_sum, total_eq_sum, (h.map _).sum_eq]

theorem lineOf_perm (h : points'.Perm points) : lineOf points' = lineOf points := by
  rw [lineOf, lineOf, slopeOf, slopeOf, meanOf_perm h, meanOf_perm h, products_perm h, squares_perm h, h.length_eq]

end

/-! ## The fit -/

section

variable {K : Type} [Field K] [LinearOrder K]

/-- **Numbers without rounding**, all of them usable.  Any tolerance may decide which abscissas count as equal. -/
def exactRules (tolerance : K) : FitRules K where
  ofCount := Nat.cast
  tolerance := tolerance
  usable := fun _ => true

/-- The line through points, with a division of its own. -/
def ofPointsDividing (divide : K → K → K) (rules : FitRules K) (points : List (K × K)) : Option (Fit K) :=
  @ofPoints K _ _ _ _ ⟨divide⟩ _ _ _ _ _ rules points

variable {points points' : List (K × K)} {tolerance : K}

theorem squares_ne_zero (hd : isDegenerate (exactRules tolerance) (meanOf points (·.1)) points = false) :
    squares (meanOf points (·.1)) points ≠ 0 := by
  rw [isDegenerate, Bool.or_eq_false_iff, decide_eq_false_iff_not] at hd
  exact fun h => hd.1 h.le

omit [Field K] in
theorem foldl_greater_le_iff {xs : List K} {start bound : K} :
    xs.foldl (fun best x => if best < x then x else best) start ≤ bound ↔ start ≤ bound ∧ ∀ x ∈ xs, x ≤ bound := by
  induction xs generalizing start with
  | nil => simp
  | cons x xs ih =>
    rw [List.foldl_cons, ih, ← max_def_lt, max_le_iff, and_assoc, List.forall_mem_cons]

variable [IsStrictOrderedRing K]

theorem magnitude_eq_abs (x : K) : magnitude x = |x| := by
  unfold magnitude
  split
  · rename_i hneg
    exact (abs_of_neg hneg).symm
  · rename_i hneg
    exact (abs_of_nonneg (not_lt.1 hneg)).symm

theorem spread_le_iff {c bound : K} : spread c points ≤ bound ↔ 0 ≤ bound ∧ ∀ p ∈ points, |p.1 - c| ≤ bound := by
  rw [spread, greatest, foldl_greater_le_iff, List.forall_mem_map]
  simp only [magnitude_eq_abs]

theorem mul_self_le_squares (c : K) {p : K × K} (hp : p ∈ points) : (p.1 - c) * (p.1 - c) ≤ squares c points := by
  rw [squares, total_eq_sum]
  refine List.single_le_sum (fun x hx => ?_) _ (List.mem_map.2 ⟨p, hp, rfl⟩)
  obtain ⟨q, -, rfl⟩ := List.mem_map.1 hx
  exact mul_self_nonneg _

/-- **The abscissas count as equal exactly if all lie within the tolerance of the mean.** -/
theorem isDegenerate_iff (ht : 0 ≤ tolerance) {c : K} :
    isDegenerate (exactRules tolerance) c points = true ↔ ∀ p ∈ points, |p.1 - c| ≤ tolerance * |c| := by
  have hbound : 0 ≤ tolerance * |c| := mul_nonneg ht (abs_nonneg c)
  rw [isDegenerate, Bool.or_eq_true, decide_eq_true_iff, decide_eq_true_iff, magnitude_eq_abs]
  constructor
  · rintro (hs | hspread) p hp
    · have hzero : p.1 - c = 0 :=
        mul_self_eq_zero.1 (le_antisymm ((mul_self_le_squares c hp).trans hs) (mul_self_nonneg _))
      rwa [hzero, abs_zero]
    · exact (spread_le_iff.1 hspread).2 p hp
  · exact fun h => .inr (spread_le_iff.2 ⟨hbound, h⟩)

theorem least_lineOf (hne : points ≠ []) (hs : squares (meanOf points (·.1)) points ≠ 0) (alpha beta : K) :
    squaredError points (lineOf points).alpha (lineOf points).beta ≤ squaredError points alpha beta := by
  -- another line adds the square of the distance between the lines, and twice a product that sums to zero
  have hsplit : (fun p => residual alpha beta p ^ 2) =
      fun p => residual (lineOf points).alpha (lineOf points).beta p ^ 2 +
        1 * (((lineOf points).alpha - alpha + ((lineOf points).beta - beta) * p.1) ^ 2) +
        2 * ((lineOf points).alpha - alpha) * residual (lineOf points).alpha (lineOf points).beta p +
        2 * ((lineOf points).beta - beta) * (p.1 * residual (lineOf points).alpha (lineOf points).beta p) := by
    funext p
    rw [residual, residual]
    ring
  have hnonneg : 0 ≤ (points.map (fun p =>
      ((lineOf points).alpha - alpha + ((lineOf points).beta - beta) * p.1) ^ 2)).sum := by
    refine List.sum_nonneg (fun x hx => ?_)
    obtain ⟨p, -, rfl⟩ := List.mem_map.1 hx
    exact sq_nonneg _
  rw [squaredError, squaredError, hsplit, sum_add_mul, sum_add_mul, sum_add_mul, orthogonal_lineOf hne hs,
    balanced_lineOf hne]
  linarith

theorem isLeastSquares_lineOf (hne : points ≠ []) (hs : squares (meanOf points (·.1)) points ≠ 0) :
    IsLeastSquares points (lineOf points) :=
  ⟨balanced_lineOf hne, orthogonal_lineOf hne hs, least_lineOf hne hs⟩

/-- **The fit is the line around the means**, whatever a division by zero would give: there is none. -/
theorem ofPointsDividing_eq (tolerance : K) {divide : K → K → K} (hdivide : ∀ x y, y ≠ 0 → divide x y = x / y)
    (points : List (K × K)) : ofPointsDividing divide (exactRules tolerance) points =
      if points = [] ∨ isDegenerate (exactRules tolerance) (meanOf points (·.1)) points = true then none
      else some (lineOf points) := by
  have hmean : ∀ quantity : K × K → K, points ≠ [] →
      @mean K _ _ ⟨divide⟩ (exactRules tolerance) (points.map quantity) = meanOf points quantity := by
    intro quantity hne
    show divide (total (points.map quantity)) ((points.map quantity).length : K) = _
    rw [total_eq_sum, List.length_map, hdivide _ _ (length_ne_zero hne), meanOf]
  unfold ofPointsDividing ofPoints
  by_cases hne : points = []
  · rw [if_pos (List.isEmpty_iff.2 hne), if_pos (.inl hne)]
  · rw [if_neg (fun h => hne (List.isEmpty_iff.1 h))]
    simp only [hmean _ hne]
    cases hd : isDegenerate (exactRules tolerance) (meanOf points (·.1)) points with
    | true => rw [if_pos rfl, if_pos (.inr rfl)]
    | false =>
      rw [if_neg Bool.false_ne_true, if_neg (not_or.2 ⟨hne, Bool.false_ne_true⟩)]
      have hbeta : divide (products (meanOf points (·.1)) (meanOf points (·.2)) points)
          (squares (meanOf points (·.1)) points) = slopeOf points := hdivide _ _ (squares_ne_zero hd)
      show some (Fit.mk (_ - divide _ _ * _) (divide _ _) _) = _
      rw [hbeta, lineOf]

theorem ofPoints_eq (tolerance : K) (points : List (K × K)) : ofPoints (exactRules tolerance) points =
    if points = [] ∨ isDegenerate (exactRules tolerance) (meanOf points (·.1)) points = true then none
    else some (lineOf points) :=
  ofPointsDividing_eq tolerance (fun _ _ _ => rfl) points

/-- **There is no line exactly if all abscissas lie within the tolerance of their mean.** -/
theorem ofPoints_eq_none_iff (ht : 0 ≤ tolerance) : ofPoints (exactRules tolerance) points = none ↔
    ∀ p ∈ points, |p.1 - meanOf points (·.1)| ≤ tolerance * |meanOf points (·.1)| := by
  rw [ofPoints_eq, ite_eq_left_iff, ← isDegenerate_iff ht]
  simp only [reduceCtorEq, imp_false, not_not]
  constructor
  · rintro (rfl | hd)
    · exact (isDegenerate_iff ht).2 (fun p hp => absurd hp List.not_mem_nil)
    · exact hd
  · exact .inr

theorem ofPoints_perm (ht : 0 ≤ tolerance) (h : points'.Perm points) :
    ofPoints (exactRules tolerance) points' = ofPoints (exactRules tolerance) points := by
  have hnil : points' = [] ↔ points = [] := by rw [← List.length_eq_zero_iff, h.length_eq, List.length_eq_zero_iff]
  have hd : isDegenerate (exactRules tolerance) (meanOf points' (·.1)) points' = true ↔
      isDegenerate (exactRules tolerance) (meanOf points (·.1)) points = true := by
    simp only [isDegenerate_iff ht, meanOf_perm h, h.mem_iff]
  simp only [ofPoints_eq, hnil, hd, lineOf_perm h]

theorem meanOf_of_equal {c : K} (hne : points ≠ []) (h : ∀ p ∈ points, p.1 = c) : meanOf points (·.1) = c := by
  have hmap : points.map (·.1) = points.map (fun _ => c) := List.map_congr_left h
  apply mul_left_cancel₀ (length_ne_zero hne)
  rw [length_mul_meanOf hne, hmap, List.map_const', List.sum_replicate, nsmul_eq_mul]

/-- **Equal abscissas have no line**, whatever the tolerance. -/
theorem ofPoints_of_equal (ht : 0 ≤ tolerance) (h : ∀ p ∈ points, ∀ q ∈ points, p.1 = q.1) :
    ofPoints (exactRules tolerance) points = none := by
  rw [ofPoints_eq_none_iff ht]
  intro p hp
  rw [meanOf_of_equal (List.ne_nil_of_mem hp) (fun q hq => h q hq p hp), sub_self, abs_zero]
  exact mul_nonneg ht (abs_nonneg _)

/-- **A fit is the line of least squares.**  Its line is that of the textbook, in every order of the points, and that of
points which lie on a line; there is none exactly if all abscissas lie within the tolerance of their mean, so none
through no points and none if all abscissas are equal.  It divides by no zero: a division that gives anything there has
the same fits. -/
theorem leastSquares_ofPoints (ht : 0 ≤ tolerance) (points : List (K × K)) :
    (∀ fit, ofPoints (exactRules tolerance) points = some fit →
      IsLeastSquares points fit ∧ IsTextbook points fit ∧
      ∀ a b, (∀ p ∈ points, p.2 = a + b * p.1) → fit = ⟨a, b, points.length⟩) ∧
    (∀ points', points'.Perm points →
      ofPoints (exactRules tolerance) points' = ofPoints (exactRules tolerance) points) ∧
    (ofPoints (exactRules tolerance) points = none ↔
      ∀ p ∈ points, |p.1 - meanOf points (·.1)| ≤ tolerance * |meanOf points (·.1)|) ∧
    (points = [] ∨ (∀ p ∈ points, ∀ q ∈ points, p.1 = q.1) → ofPoints (exactRules tolerance) points = none) ∧
    ∀ divide : K → K → K, (∀ x y, y ≠ 0 → divide x y = x / y) →
      ofPointsDividing divide (exactRules tolerance) points = ofPoints (exactRules tolerance) points := by
  refine ⟨fun fit hfit => ?_, fun _ h => ofPoints_perm ht h, ofPoints_eq_none_iff ht, ?_, fun divide hdivide => ?_⟩
  · rw [ofPoints_eq] at hfit
    split at hfit
    · cases hfit
    · rename_i hnone
      obtain ⟨hne, hd⟩ := not_or.1 hnone
      have hs := squares_ne_zero (Bool.eq_false_iff.2 hd)
      cases hfit
      exact ⟨isLeastSquares_lineOf hne hs, isTextbook_lineOf hne hs, fun a b => lineOf_of_onLine hne hs⟩
  · rintro (rfl | hequal)
    · rfl
    · exact ofPoints_of_equal ht hequal
  · rw [ofPointsDividing_eq tolerance hdivide, ofPoints_eq]

end

/-- Three points on no line, in no order. -/
def bentPoints : List (ℚ × ℚ) := [(1, 2), (0, 1), (2, 6)]

theorem leastSquares_bentPoints : (0 : ℚ) ≤ 1 / 100 ∧
    ofPoints (exactRules (1 / 100)) bentPoints = some ⟨1 / 2, 5 / 2, 3⟩ ∧
      IsLeastSquares bentPoints ⟨1 / 2, 5 / 2, 3⟩ := by
  have ht : (0 : ℚ) ≤ 1 / 100 := by norm_num
  have hfit : ofPoints (exactRules (1 / 100)) bentPoints = some ⟨1 / 2, 5 / 2, 3⟩ := by
    norm_num [bentPoints, ofPoints, exactRules, isDegenerate, spread, greatest, magnitude, squares, products, mean,
      total]
  exact ⟨ht, hfit, ((leastSquares_ofPoints ht bentPoints).1 _ hfit).1⟩

end FacetSql.Reduction.Fit
