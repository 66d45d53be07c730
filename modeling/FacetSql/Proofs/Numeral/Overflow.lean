import FacetSql.Numeral.Real
import FacetSql.Proofs.Numeral.Nearest
/-!
# Overflow — the decimals beyond all floats

A float is finite as long as its exponent is no greater than 971 (`isFinite_unpack_pack`).  Rounding takes a mantissa
there from half a step beyond the greatest float on, however the bits behind the mantissa fall
(`isFinite_round_iff`), and so do products and quotients, which are rounded once.  So a decimal has a finite float
exactly if it is below that `limit` (`isFinite_nearestFloat_iff`).
-/
namespace FacetSql.Numeral

open Float.Model (UnpackedFloat Format)
open Float.Model.UnpackedFloat

/-- **Half a step beyond the greatest float**, which is `(2 ^ 53 - 1) * 2 ^ 971`. -/
@[irreducible] def limit : Nat := (2 ^ 54 - 1) * 2 ^ 970

/-! ## Packed floats -/

theorem isFinite_unpack_packComponents (s : Sign) (e : BitVec 11) (m : BitVec 52) :
    (unpack Format.binary64 (packComponents Format.binary64 s e m)).isFinite = decide (e ≠ -1#11) := by
  simp only [unpack, unpackMantissa_packComponents, unpackExponent_packComponents]
  by_cases hones : e = -1#11
  · rw [if_pos hones, decide_eq_false (fun h => h hones)]
    split <;> rfl
  · rw [if_neg hones, decide_eq_true hones]
    split
    · split <;> rfl
    · rfl

/-- **A packed float is finite as long as its exponent is no greater than 971.** -/
theorem isFinite_unpack_pack (s : Sign) {m : Nat} {e : Int} (hpos : 0 < m) :
    (unpack Format.binary64 (pack Format.binary64 (.finite s m e hpos))).isFinite = decide (e ≤ 971) := by
  have hbias : (e + Format.binary64.exponentBias + Format.binary64.mantissaBitsWithoutImplicit).toNat =
      (e + 1075).toNat := by
    show (e + (2 ^ (11 - 1) - 1 : Nat) + (52 : Nat)).toNat = (e + 1075).toNat
    omega
  have hones : 2 ^ 11 ≤ (e + 1075).toNat + 1 ↔ ¬ e ≤ 971 := by omega
  rw [pack]
  simp only [hbias]
  by_cases hfits : e ≤ 971
  · have hexponent : BitVec.ofNat 11 (e + 1075).toNat ≠ -1#11 := by
      intro h
      have hnat := congrArg BitVec.toNat h
      rw [BitVec.toNat_ofNat, Nat.mod_eq_of_lt (by omega)] at hnat
      change _ = 2047 at hnat
      omega
    rw [if_neg (fun h => hones.1 h hfits), decide_eq_true hfits]
    split
    · exact (isFinite_unpack_packComponents s _ _).trans (decide_eq_true hexponent)
    · exact (isFinite_unpack_packComponents s _ _).trans rfl
  · rw [if_pos (hones.2 hfits), decide_eq_false hfits]
    cases s <;> rfl

theorem exponent_le_of_unpack {b : BitVec 64} {s : Sign} {m : Nat} {e : Int} {hpos : 0 < m}
    (h : unpack Format.binary64 b = .finite s m e hpos) : e ≤ 971 := by
  have hlt : (@unpackExponent Format.binary64 b).toNat < 2048 := (@unpackExponent Format.binary64 b).isLt
  unfold unpack at h
  simp only at h
  split at h
  · split at h <;> cases h
  · rename_i hones
    have hne : (@unpackExponent Format.binary64 b).toNat ≠ 2047 := fun heq => hones (BitVec.eq_of_toNat_eq heq)
    split at h
    · rename_i hzero
      split at h
      · cases h
      · cases h
        have hnat : (@unpackExponent Format.binary64 b).toNat = 0 := congrArg BitVec.toNat hzero
        show ((@unpackExponent Format.binary64 b).toNat : Int) - 1075 + 1 ≤ 971
        omega
    · cases h
      show ((@unpackExponent Format.binary64 b).toNat : Int) - 1075 ≤ 971
      omega

/-- **Negating a float** neither takes it beyond all floats nor back. -/
theorem isFinite_neg (x : Float) : x.neg.isFinite = x.isFinite := by
  show (unpack Format.binary64 (pack Format.binary64 x.toModel.unpack.neg)).isFinite = x.toModel.unpack.isFinite
  cases h : x.toModel.unpack with
  | notANumber => rfl
  | infinity s => cases s <;> rfl
  | zero s => cases s <;> rfl
  | finite s m e hpos => exact (isFinite_unpack_pack _ hpos).trans (decide_eq_true (exponent_le_of_unpack h))

/-! ## Rounding -/

theorem mantissa_ofMantissaAndAccuracy (m : Nat) (accuracy : Accuracy) :
    (ExtendedMantissa.ofMantissaAndAccuracy m accuracy).mantissa = m := by
  rcases accuracy with _ | (_ | _ | _) <;> rfl

/-- A mantissa with its bits for rounding, shifted right so that 53 bits are left unless the exponent is too small. -/
def firstShift (m : Nat) (e : Int) : Nat := (max ((m.log2 : Int) - 52 + e) (-1074) - e).toNat

theorem shiftToTargetExponent_firstShift (m : Nat) (e : Int) (accuracy : Accuracy) :
    shiftToTargetExponent Format.binary64 m e accuracy =
      (ExtendedMantissa.ofMantissaAndAccuracy m accuracy >>> firstShift m e, e + firstShift m e) := by
  have hshift : (Format.binary64.targetExponent (Float.Model.totalExponent m e) - e).toNat = firstShift m e := by
    show (max ((m.log2 : Int) + 1 + e - 53) (-1074) - e).toNat = firstShift m e
    unfold firstShift
    congr 2
    omega
  rw [shiftToTargetExponent, shiftToExponent, hshift]

/-- The mantissa that rounding first comes to. -/
def firstRounded (m : Nat) (e : Int) (accuracy : Accuracy) : Nat :=
  (ExtendedMantissa.ofMantissaAndAccuracy m accuracy >>> firstShift m e).roundedMantissa

/-- **A rounded float is finite if nothing is left of its mantissa or its last exponent is small enough.** -/
theorem isFinite_round (s : Sign) {m r : Nat} {e e' : Int} {accuracy : Accuracy} (hr : firstRounded m e accuracy = r)
    (he : e + firstShift m e = e') :
    (unpack Format.binary64 (pack Format.binary64 (roundWithAccuracy Format.binary64 s m e accuracy))).isFinite = true ↔
      r / 2 ^ firstShift r e' = 0 ∨ e' + firstShift r e' ≤ 971 := by
  subst hr he
  generalize hr : firstRounded m e accuracy = r
  have hlast : (ExtendedMantissa.ofMantissaAndAccuracy r .exact >>> firstShift r (e + firstShift m e)).mantissa =
      r / 2 ^ firstShift r (e + firstShift m e) := mantissa_shiftRight _ _
  unfold firstRounded at hr
  simp only [roundWithAccuracy, shiftToTargetExponent_firstShift, hr]
  by_cases hzero : r / 2 ^ firstShift r (e + firstShift m e) = 0
  · rw [dif_pos (hlast.trans hzero)]
    refine iff_of_true ?_ (.inl hzero)
    cases s <;> rfl
  · rw [dif_neg (fun h => hzero (hlast.symm.trans h)), isFinite_unpack_pack, decide_eq_true_iff]
    exact ⟨.inr, fun h => h.resolve_left hzero⟩

theorem firstRounded_bounds (m : Nat) (e : Int) (accuracy : Accuracy) :
    m / 2 ^ firstShift m e ≤ firstRounded m e accuracy ∧ firstRounded m e accuracy ≤ m / 2 ^ firstShift m e + 1 := by
  have h := le_roundedMantissa (ExtendedMantissa.ofMantissaAndAccuracy m accuracy >>> firstShift m e)
  rwa [mantissa_shiftRight, mantissa_ofMantissaAndAccuracy] at h

theorem lt_two_pow_log2 (m : Nat) : m < 2 ^ (m.log2 + 1) := Nat.lt_log2_self

theorem div_firstShift_lt (m : Nat) (e : Int) : m / 2 ^ firstShift m e < 2 ^ 53 := by
  rw [Nat.div_lt_iff_lt_mul (Nat.two_pow_pos _), ← Nat.pow_add]
  have hlog : m.log2 ≤ 52 + firstShift m e := by
    unfold firstShift
    omega
  exact Nat.lt_of_lt_of_le (lt_two_pow_log2 m) (Nat.pow_le_pow_right Nat.two_pos (by omega))

theorem log2_firstRounded_le (m : Nat) (e : Int) (accuracy : Accuracy) : (firstRounded m e accuracy).log2 ≤ 53 := by
  have hle := (firstRounded_bounds m e accuracy).2
  have hlt := div_firstShift_lt m e
  by_cases hzero : firstRounded m e accuracy = 0
  · rw [hzero]
    decide
  · exact Nat.le_of_lt_succ ((Nat.log2_lt hzero).2 (by omega))

/-- Below the last power of two for floats nothing gets too great by rounding. -/
theorem isFinite_round_of_log2_le (s : Sign) {m j : Nat} (accuracy : Accuracy) (hlog : m.log2 ≤ 52 + j) :
    (unpack Format.binary64 (pack Format.binary64
      (roundWithAccuracy Format.binary64 s m (970 - (j : Int)) accuracy))).isFinite = true := by
  have hr := log2_firstRounded_le m (970 - (j : Int)) accuracy
  refine (isFinite_round s rfl rfl).2 (.inr ?_)
  generalize firstRounded m (970 - (j : Int)) accuracy = r at hr
  unfold firstShift
  omega

/-- Above it everything is too great. -/
theorem not_isFinite_round_of_lt_log2 (s : Sign) {m j : Nat} (accuracy : Accuracy) (hlog : 54 + j ≤ m.log2) :
    ¬ (unpack Format.binary64 (pack Format.binary64
      (roundWithAccuracy Format.binary64 s m (970 - (j : Int)) accuracy))).isFinite = true := by
  have hm : m ≠ 0 := by
    rintro rfl
    change 54 + j ≤ 0 at hlog
    omega
  have hshift : firstShift m (970 - (j : Int)) = m.log2 - 52 := by
    unfold firstShift
    omega
  have hlow : 2 ^ 52 ≤ firstRounded m (970 - (j : Int)) accuracy := by
    refine Nat.le_trans ?_ (firstRounded_bounds m (970 - (j : Int)) accuracy).1
    rw [hshift, Nat.le_div_iff_mul_le (Nat.two_pow_pos _), ← Nat.pow_add, Nat.add_sub_cancel' (by omega)]
    exact Nat.log2_self_le hm
  rw [isFinite_round s rfl rfl, not_or, hshift]
  have hr := log2_firstRounded_le m (970 - (j : Int)) accuracy
  generalize firstRounded m (970 - (j : Int)) accuracy = r at hr hlow
  refine ⟨?_, by omega⟩
  have hlast : firstShift r (970 - (j : Int) + (m.log2 - 52 : Nat)) ≤ 1 := by
    unfold firstShift
    omega
  have hpow : 2 ^ firstShift r (970 - (j : Int) + (m.log2 - 52 : Nat)) ≤ 2 ^ 1 :=
    Nat.pow_le_pow_right Nat.two_pos hlast
  exact Nat.ne_of_gt (Nat.div_pos (by omega) (Nat.two_pow_pos _))

/-- Of 54 bits the last one is rounded, and all ones get too great. -/
theorem roundedMantissa_shiftRightOne_eq_iff (em : ExtendedMantissa) (hm : em.mantissa < 2 ^ 54) :
    em.shiftRightOne.roundedMantissa = 2 ^ 53 ↔ em.mantissa = 2 ^ 54 - 1 := by
  obtain ⟨m, r, s⟩ := em
  change m < 2 ^ 54 at hm
  show (ExtendedMantissa.shiftRightOne ⟨m, r, s⟩).roundedMantissa = 2 ^ 53 ↔ m = 2 ^ 54 - 1
  rcases Nat.mod_two_eq_zero_or_one m with hbit | hbit <;> cases r <;> cases s <;>
    simp only [ExtendedMantissa.shiftRightOne, ExtendedMantissa.roundedMantissa, hbit, bne_self_eq_false,
      Bool.or_false, Bool.or_true, ExtendedMantissa.accuracy, Accuracy.roundToNearestEven,
      show (1 != 0) = true from rfl] <;> omega

/-- **Rounding is finite up to half a step beyond the greatest float**, whatever the bits behind the mantissa. -/
theorem isFinite_round_iff (s : Sign) (m j : Nat) (accuracy : Accuracy) :
    (unpack Format.binary64 (pack Format.binary64
      (roundWithAccuracy Format.binary64 s m (970 - (j : Int)) accuracy))).isFinite = true ↔
        m < (2 ^ 54 - 1) * 2 ^ j := by
  rcases Nat.lt_trichotomy m.log2 (53 + j) with hlog | hlog | hlog
  · refine iff_of_true (isFinite_round_of_log2_le s accuracy (by omega)) ?_
    calc m < 2 ^ (m.log2 + 1) := lt_two_pow_log2 m
      _ ≤ 2 ^ (53 + j) := Nat.pow_le_pow_right Nat.two_pos (by omega)
      _ = 2 ^ 53 * 2 ^ j := Nat.pow_add 2 53 j
      _ ≤ (2 ^ 54 - 1) * 2 ^ j := Nat.mul_le_mul_right _ (by decide)
  · have hm : m ≠ 0 := by
      rintro rfl
      change 0 = 53 + j at hlog
      omega
    have hshift : firstShift m (970 - (j : Int)) = j + 1 := by
      unfold firstShift
      omega
    have hhigh : m / 2 ^ j < 2 ^ 54 := by
      rw [Nat.div_lt_iff_lt_mul (Nat.two_pow_pos _), ← Nat.pow_add]
      exact Nat.lt_of_lt_of_le (lt_two_pow_log2 m) (Nat.pow_le_pow_right Nat.two_pos (by omega))
    have hlow : 2 ^ 52 ≤ firstRounded m (970 - (j : Int)) accuracy := by
      refine Nat.le_trans ?_ (firstRounded_bounds m (970 - (j : Int)) accuracy).1
      rw [hshift, Nat.le_div_iff_mul_le (Nat.two_pow_pos _), ← Nat.pow_add]
      exact Nat.le_trans (Nat.pow_le_pow_right Nat.two_pos (by omega)) (Nat.log2_self_le hm)
    have hcarry : firstRounded m (970 - (j : Int)) accuracy = 2 ^ 53 ↔ m / 2 ^ j = 2 ^ 54 - 1 := by
      have h := roundedMantissa_shiftRightOne_eq_iff (ExtendedMantissa.ofMantissaAndAccuracy m accuracy >>> j)
      rw [mantissa_shiftRight, mantissa_ofMantissaAndAccuracy] at h
      rw [firstRounded, hshift]
      exact h hhigh
    have hle : firstRounded m (970 - (j : Int)) accuracy ≤ 2 ^ 53 :=
      Nat.le_trans (firstRounded_bounds m _ accuracy).2 (div_firstShift_lt m _)
    have hlt : m < (2 ^ 54 - 1) * 2 ^ j ↔ ¬ m / 2 ^ j = 2 ^ 54 - 1 := by
      rw [← Nat.div_lt_iff_lt_mul (Nat.two_pow_pos _)]
      omega
    have he : 970 - (j : Int) + firstShift m (970 - (j : Int)) = 971 := by omega
    rw [isFinite_round s rfl he, hlt, ← hcarry]
    generalize firstRounded m (970 - (j : Int)) accuracy = r at hlow hle
    by_cases hr : r = 2 ^ 53
    · refine iff_of_false ?_ (fun h => h hr)
      rw [hr]
      decide
    · have hbits : r.log2 = 52 := (Nat.log2_eq_iff (by omega)).2 (by omega)
      refine iff_of_true (.inr ?_) hr
      unfold firstShift
      omega
  · refine iff_of_false (not_isFinite_round_of_lt_log2 s accuracy (by omega)) (Nat.not_lt.2 ?_)
    have hm : m ≠ 0 := by
      rintro rfl
      change 53 + j < 0 at hlog
      omega
    calc (2 ^ 54 - 1) * 2 ^ j ≤ 2 ^ 54 * 2 ^ j := Nat.mul_le_mul_right _ (by decide)
      _ = 2 ^ (54 + j) := (Nat.pow_add 2 54 j).symm
      _ ≤ 2 ^ m.log2 := Nat.pow_le_pow_right Nat.two_pos (by omega)
      _ ≤ m := Nat.log2_self_le hm

/-- **A product is finite up to half a step beyond the greatest float.** -/
theorem isFinite_mul_iff {m n j : Nat} {e f : Int} (hm : 0 < m) (hn : 0 < n) (he : e + f = 970 - (j : Int)) :
    (unpack Format.binary64 (pack Format.binary64
      (UnpackedFloat.mul Format.binary64 (.finite .positive m e hm) (.finite .positive n f hn)))).isFinite = true ↔
        m * n < (2 ^ 54 - 1) * 2 ^ j := by
  rw [← isFinite_round_iff .positive (m * n) j .exact, ← he]
  rfl

/-- **So is a quotient**, which is cut off at a whole mantissa. -/
theorem isFinite_div_iff {m n j : Nat} {e f : Int} (hm : 0 < m) (hn : 0 < n) (he : e - f = 970 - (j : Int)) :
    (unpack Format.binary64 (pack Format.binary64
      (UnpackedFloat.div Format.binary64 (.finite .positive m e hm) (.finite .positive n f hn)))).isFinite = true ↔
        m < (2 ^ 54 - 1) * 2 ^ j * n := by
  have htarget : ∃ k : Nat, min (e - f) (Format.binary64.targetExponent
      (Float.Model.totalExponent m e - Float.Model.totalExponent n f)) = 970 - ((j + k : Nat) : Int) ∧
        (e - f - (970 - ((j + k : Nat) : Int))).toNat = k := by
    generalize Format.binary64.targetExponent _ = t
    exact ⟨(e - f - min (e - f) t).toNat, by omega, by omega⟩
  obtain ⟨k, htarget, hshift⟩ := htarget
  have hround := isFinite_round_iff (.positive / .positive) (m * 2 ^ k / n) (j + k)
    (accuracyOfFraction (m * 2 ^ k % n) n)
  have hdiv : divCore Format.binary64 m e n f =
      (m * 2 ^ k / n, 970 - ((j + k : Nat) : Int), accuracyOfFraction (m * 2 ^ k % n) n) := by
    simp only [divCore, htarget, hshift, Nat.shiftLeft_eq]
  rw [UnpackedFloat.div]
  simp only [hdiv]
  rw [hround, Nat.div_lt_iff_lt_mul hn, Nat.pow_add, ← Nat.mul_assoc, Nat.mul_right_comm _ (2 ^ k) n]
  exact Nat.mul_lt_mul_right (Nat.two_pow_pos k)

/-! ## Decimals -/

theorem limit_le_ten_pow {n : Nat} (hn : 310 ≤ n) : limit ≤ 10 ^ n :=
  Nat.le_trans (by decide +kernel) (Nat.pow_le_pow_right (by decide) hn)

/-- A positive float with a mantissa of 53 bits and a small exponent. -/
def isModerate : UnpackedFloat → Bool
  | .finite .positive m e _ => decide (m < 2 ^ 53 ∧ -52 ≤ e ∧ e ≤ 21)
  | _ => false

theorem eq_finite_of_isModerate {x : UnpackedFloat} (h : isModerate x = true) :
    ∃ m e, ∃ hm : 0 < m, x = .finite .positive m e hm ∧ m < 2 ^ 53 ∧ -52 ≤ e ∧ e ≤ 21 := by
  unfold isModerate at h
  split at h
  · exact ⟨_, _, _, rfl, of_decide_eq_true h⟩
  · cases h

/-- The powers of ten that are floats themselves. -/
theorem isModerate_powersOfTen :
    ∀ n : Fin 23, isModerate Float.exactlyRepresentablePowersOfTen[n].toModel.unpack = true := by
  decide

theorem isModerate_toFloat {m : Nat} (hm : m ≠ 0) (hsmall : m < 2 ^ 53) :
    isModerate m.toUInt64.toFloat.toModel.unpack = true := by
  obtain ⟨hpos, hunpack⟩ := unpack_toFloat hm hsmall
  obtain ⟨-, hlt, hlow, hhigh⟩ := rounded_bounds hm
  have hlog := (Nat.log2_lt hm).2 hsmall
  rw [hunpack]
  exact decide_eq_true ⟨hlt, by omega, by omega⟩

/-- **Moderate floats have finite products and quotients.** -/
theorem isFinite_mul_of_isModerate {x y : Float} (hx : isModerate x.toModel.unpack = true)
    (hy : isModerate y.toModel.unpack = true) : (x * y).isFinite = true := by
  obtain ⟨m, e, hm, hx, hm', he, he'⟩ := eq_finite_of_isModerate hx
  obtain ⟨n, f, hn, hy, hn', hf, hf'⟩ := eq_finite_of_isModerate hy
  show (unpack Format.binary64 (pack Format.binary64
    (UnpackedFloat.mul Format.binary64 x.toModel.unpack y.toModel.unpack))).isFinite = true
  rw [hx, hy]
  refine (isFinite_mul_iff hm hn (j := (970 - (e + f)).toNat) (by omega)).2 ?_
  calc m * n < 2 ^ 53 * 2 ^ 53 := Nat.mul_lt_mul'' hm' hn'
    _ ≤ (2 ^ 54 - 1) * 2 ^ 53 := Nat.mul_le_mul_right _ (by decide)
    _ ≤ (2 ^ 54 - 1) * 2 ^ (970 - (e + f)).toNat :=
      Nat.mul_le_mul_left _ (Nat.pow_le_pow_right Nat.two_pos (by omega))

theorem isFinite_div_of_isModerate {x y : Float} (hx : isModerate x.toModel.unpack = true)
    (hy : isModerate y.toModel.unpack = true) : (x / y).isFinite = true := by
  obtain ⟨m, e, hm, hx, hm', he, he'⟩ := eq_finite_of_isModerate hx
  obtain ⟨n, f, hn, hy, -, hf, hf'⟩ := eq_finite_of_isModerate hy
  show (unpack Format.binary64 (pack Format.binary64
    (UnpackedFloat.div Format.binary64 x.toModel.unpack y.toModel.unpack))).isFinite = true
  rw [hx, hy]
  refine (isFinite_div_iff hm hn (j := (970 - (e - f)).toNat) (by omega)).2 ?_
  calc m < 2 ^ 53 := hm'
    _ ≤ (2 ^ 54 - 1) * 1 * 1 := by decide
    _ ≤ (2 ^ 54 - 1) * 2 ^ (970 - (e - f)).toNat * n :=
      Nat.mul_le_mul (Nat.mul_le_mul_left _ (Nat.two_pow_pos _)) hn

/-- **A decimal of a whole number has a finite float exactly if it is below the limit.** -/
theorem isFinite_ofScientific_iff {m : Nat} (hm : m ≠ 0) (n : Nat) :
    (Float.ofScientific m false n).isFinite = true ↔ m * 10 ^ n < limit := by
  rw [Float.ofScientific]
  split
  · rename_i hsmall
    refine iff_of_true (isFinite_mul_of_isModerate (isModerate_toFloat hm hsmall.1)
      (isModerate_powersOfTen ⟨n, Nat.lt_succ_of_le hsmall.2⟩)) ?_
    calc m * 10 ^ n ≤ 2 ^ 53 * 10 ^ 22 :=
          Nat.mul_le_mul (Nat.le_of_lt hsmall.1) (Nat.pow_le_pow_right (by decide) hsmall.2)
      _ < limit := by decide +kernel
  · show (unpack Format.binary64 (pack Format.binary64
      (UnpackedFloat.ofScientific Format.binary64 m n))).isFinite = true ↔ _
    rw [UnpackedFloat.ofScientific, dif_neg hm]
    split
    · rename_i hfar
      change (n : Int) > 2 ^ 11 at hfar
      refine iff_of_false (by decide) (Nat.not_lt.2 ?_)
      exact Nat.le_trans (limit_le_ten_pow (by omega)) (Nat.le_mul_of_pos_left _ (Nat.pos_of_ne_zero hm))
    · have hshifted : 0 < m <<< 53 := by
        rw [Nat.shiftLeft_eq]
        exact Nat.mul_pos (Nat.pos_of_ne_zero hm) (Nat.two_pow_pos 53)
      have hclose : ¬ (n : Int) < -(2 ^ 11 + m.log2) := by omega
      have hlimit : (2 ^ 54 - 1) * 2 ^ 1023 = limit * 2 ^ 53 := by decide +kernel
      rw [if_neg hclose, if_pos (Int.natCast_nonneg n)]
      refine (isFinite_mul_iff hshifted (Nat.pow_pos (by decide)) (j := 1023) (by decide)).trans ?_
      rw [hlimit, Nat.shiftLeft_eq, Nat.mul_right_comm]
      generalize limit = far
      exact Nat.mul_lt_mul_right (Nat.two_pow_pos 53)

/-- **So has a decimal with digits behind the point.** -/
theorem isFinite_ofScientific_true_iff {m n : Nat} (hm : m ≠ 0) (hn : 0 < n) :
    (Float.ofScientific m true n).isFinite = true ↔ m < limit * 10 ^ n := by
  have hpos : 0 < 10 ^ n := Nat.pow_pos (by decide)
  rw [Float.ofScientific]
  split
  · rename_i hsmall
    refine iff_of_true (isFinite_div_of_isModerate (isModerate_toFloat hm hsmall.1)
      (isModerate_powersOfTen ⟨n, Nat.lt_succ_of_le hsmall.2⟩)) ?_
    calc m < 2 ^ 53 := hsmall.1
      _ ≤ limit := by decide +kernel
      _ ≤ limit * 10 ^ n := Nat.le_mul_of_pos_right _ hpos
  · show (unpack Format.binary64 (pack Format.binary64
      (UnpackedFloat.ofScientific Format.binary64 m (Int.negOfNat n)))).isFinite = true ↔ _
    rw [Int.negOfNat_eq, Int.ofNat_eq_natCast, UnpackedFloat.ofScientific, dif_neg hm]
    have hclose : ¬ -(n : Int) > 2 ^ Format.binary64.exponentBits := by
      change ¬ -(n : Int) > 2 ^ 11
      omega
    rw [if_neg hclose]
    split
    · rename_i hfar
      change -(n : Int) < -(2 ^ 11 + m.log2) at hfar
      refine iff_of_true rfl ?_
      calc m < 2 ^ (m.log2 + 1) := lt_two_pow_log2 m
        _ ≤ 10 ^ (m.log2 + 1) := Nat.pow_le_pow_left (by decide) _
        _ ≤ 10 ^ n := Nat.pow_le_pow_right (by decide) (by omega)
        _ ≤ limit * 10 ^ n := Nat.le_mul_of_pos_left _ (by decide +kernel)
    · have hbehind : ¬ 0 ≤ -(n : Int) := by omega
      have hlimit : (2 ^ 54 - 1) * 2 ^ 970 = limit := by decide +kernel
      rw [if_neg hbehind]
      refine (isFinite_div_iff (Nat.pos_of_ne_zero hm) (Nat.pow_pos (by decide)) (j := 970) (by decide)).trans ?_
      rw [hlimit, Int.neg_neg, Int.toNat_natCast]

/-- The digits of a number are one more than the power of ten that it reaches. -/
theorem ten_pow_length_toDigits {m : Nat} (hm : m ≠ 0) :
    10 ^ ((Nat.toDigits 10 m).length - 1) ≤ m ∧ m < 10 ^ (Nat.toDigits 10 m).length := by
  have hpos : 0 < (Nat.toDigits 10 m).length := Nat.length_toDigits_pos
  refine ⟨Nat.not_lt.1 (fun hlt => ?_), (Nat.length_toDigits_le_iff (by decide) hpos).1 (Nat.le_refl _)⟩
  by_cases hone : (Nat.toDigits 10 m).length = 1
  · rw [hone] at hlt
    omega
  · have hle := (Nat.length_toDigits_le_iff (by decide) (by omega)).2 hlt
    omega

/-- **A decimal has a finite float exactly if it is below the limit.** -/
theorem isFinite_nearestFloat_iff (m : Nat) (scale : Int) :
    (nearestFloat m scale).isFinite = true ↔ (m : ℚ) * 10 ^ scale < limit := by
  have hlimit : (1 : ℚ) ≤ limit := Nat.one_le_cast.2 (by decide +kernel)
  unfold nearestFloat
  dsimp only
  by_cases hm : m = 0
  · rw [if_pos hm, hm, Nat.cast_zero, zero_mul]
    exact iff_of_true (by decide) (by linarith)
  rw [if_neg hm]
  obtain ⟨hlow, hhigh⟩ := ten_pow_length_toDigits hm
  have hpos : 0 < (Nat.toDigits 10 m).length := Nat.length_toDigits_pos
  generalize (Nat.toDigits 10 m).length = size at hlow hhigh hpos
  split
  · rename_i hfar
    obtain ⟨k, hk⟩ := Int.eq_ofNat_of_zero_le (show 0 ≤ ((size - 1 : Nat) : Int) + scale by omega)
    refine iff_of_false (by decide) (not_lt.2 ?_)
    calc (limit : ℚ) ≤ ((10 ^ k : Nat) : ℚ) := Nat.cast_le.2 (limit_le_ten_pow (by omega))
      _ = 10 ^ (((size - 1 : Nat) : Int) + scale) := by rw [hk, zpow_natCast, Nat.cast_pow, Nat.cast_ofNat]
      _ = ((10 ^ (size - 1) : Nat) : ℚ) * 10 ^ scale := by
        rw [zpow_add₀ (by norm_num), zpow_natCast, Nat.cast_pow, Nat.cast_ofNat]
      _ ≤ m * 10 ^ scale := mul_le_mul_of_nonneg_right (Nat.cast_le.2 hlow) (by positivity)
  · split
    · rename_i hclose
      refine iff_of_true (by decide) ?_
      calc (m : ℚ) * 10 ^ scale ≤ ((10 ^ size : Nat) : ℚ) * 10 ^ scale :=
            mul_le_mul_of_nonneg_right (Nat.cast_le.2 (Nat.le_of_lt hhigh)) (by positivity)
        _ = 10 ^ (size + scale) := by
          rw [zpow_add₀ (by norm_num), zpow_natCast, Nat.cast_pow, Nat.cast_ofNat]
        _ < 10 ^ (0 : Int) := zpow_lt_zpow_right₀ (by norm_num) (by omega)
        _ ≤ limit := by rwa [zpow_zero]
    · cases scale with
      | ofNat n =>
        have hsign : decide (Int.ofNat n < 0) = false := decide_eq_false (Int.not_lt.2 (Int.natCast_nonneg n))
        rw [hsign, Int.natAbs_ofNat', isFinite_ofScientific_iff hm, Int.ofNat_eq_natCast, zpow_natCast]
        generalize limit = far
        norm_cast
      | negSucc n =>
        have hsign : decide (Int.negSucc n < 0) = true := decide_eq_true (Int.negSucc_lt_zero n)
        rw [hsign, Int.natAbs_negSucc, isFinite_ofScientific_true_iff hm (Nat.succ_pos n), zpow_negSucc,
          ← div_eq_mul_inv, div_lt_iff₀ (by positivity)]
        generalize limit = far
        norm_cast

end FacetSql.Numeral
