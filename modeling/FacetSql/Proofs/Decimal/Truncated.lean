import FacetSql.Proofs.Numeral.Nearest
import FacetSql.Decimal.Exact
/-!
# Truncated — the whole numbers of floats

A float is cut off toward zero: to the greatest whole number that its magnitude reaches, with its sign (`CutsOff`).

The exact value of a float is what its bits unpack to (`ofFloat_eq`), with a mantissa of 53 bits unless the exponent is
the least one.  So a float of at least one has a whole part of at least one, however small its exponent, and infinity
the greatest number (`one_le_truncate`); NaN is not at least one.
-/
namespace FacetSql.Decimal

/-- **A float cut off toward zero** to a whole number of 64 signed bits. -/
inductive CutsOff (x : Float) : Int → Prop where
  | nan (hx : Exact.ofFloat x = .nan) : CutsOff x 0
  | infinity {negative : Bool} (hx : Exact.ofFloat x = .infinity negative) :
      CutsOff x (if negative then Numeral.int64.least else Numeral.int64.greatest)
  | finite {negative : Bool} {m : Nat} {e : Int} (hx : Exact.ofFloat x = .finite negative m e) :
      CutsOff x (max Numeral.int64.least (min Numeral.int64.greatest
        (if negative then -⌊(m : ℚ) * 2 ^ e⌋ else ⌊(m : ℚ) * 2 ^ e⌋)))

theorem wholePart_eq_floor (m : Nat) (e : Int) : (wholePart m e : Int) = ⌊(m : ℚ) * 2 ^ e⌋ := by
  unfold wholePart
  split
  · rename_i he
    have hpow : (2 : ℚ) ^ e = ((2 ^ e.toNat : Nat) : ℚ) := by
      rw [← Int.toNat_of_nonneg he, zpow_natCast, Int.toNat_natCast]
      norm_cast
    rw [hpow, ← Nat.cast_mul, Int.floor_natCast]
    rfl
  · rename_i he
    have hpow : (m : ℚ) * 2 ^ e = (m : ℚ) / ((2 ^ (-e).toNat : Nat) : ℚ) := by
      have hneg : e = -((-e).toNat : Int) := by omega
      rw [div_eq_mul_inv]
      conv_lhs => rw [hneg, zpow_neg, zpow_natCast]
      norm_cast
    rw [hpow, Rat.floor_natCast_div_natCast]
    rfl

/-- **Every float is cut off to one whole number.** -/
theorem cutsOff_iff {x : Float} {n : Int} : CutsOff x n ↔ n = truncate x := by
  constructor
  · intro h
    cases h with
    | nan hx => rw [truncate, hx]
    | infinity hx =>
      rw [truncate, hx]
      rfl
    | finite hx =>
      rw [truncate, hx, ← wholePart_eq_floor]
      rfl
  · rintro rfl
    unfold truncate
    split
    · rename_i hx
      exact .nan hx
    · rename_i negative hx
      exact .infinity hx
    · rename_i negative m e hx
      rw [wholePart_eq_floor]
      exact .finite hx

open Float.Model (UnpackedFloat Format)
open Float.Model.UnpackedFloat

/-- The sign is a minus. -/
def isNegative : Sign → Bool
  | .negative => true
  | .positive => false

/-- **The exact value of an unpacked float.** -/
def Exact.ofUnpacked : UnpackedFloat → Exact
  | .notANumber => .nan
  | .infinity s => .infinity (isNegative s)
  | .zero s => .finite (isNegative s) 0 (-1074)
  | .finite s m e _ => .finite (isNegative s) m e

section

variable (b : BitVec 64)

theorem toNat_unpackMantissa : (@unpackMantissa Format.binary64 b).toNat = b.toNat % fractionEnd := by
  simp [unpackMantissa, fractionEnd]

theorem toNat_unpackExponent : (@unpackExponent Format.binary64 b).toNat = b.toNat / fractionEnd % 2048 := by
  simp [unpackExponent, fractionEnd, Nat.shiftRight_eq_div_pow]

theorem isNegative_unpackSign :
    isNegative (Sign.ofBitVec (@unpackSign Format.binary64 b)) = decide (signBit ≤ b.toNat) := by
  have hbit : (@unpackSign Format.binary64 b).toNat = b.toNat / signBit % 2 := by
    simp [unpackSign, signBit, Nat.shiftRight_eq_div_pow]
  have hlt : b.toNat < 2 * signBit := b.isLt
  have hzero : @unpackSign Format.binary64 b = 0#1 ↔ b.toNat < signBit := by
    rw [← BitVec.toNat_inj, hbit]
    show b.toNat / signBit % 2 = 0 ↔ _
    simp only [signBit] at hlt ⊢
    omega
  unfold Sign.ofBitVec
  by_cases hs : b.toNat < signBit
  · rw [if_pos (hzero.2 hs), decide_eq_false (Nat.not_le.2 hs)]
    rfl
  · rw [if_neg (fun h => hs (hzero.1 h)), decide_eq_true (Nat.not_lt.1 hs)]
    rfl

end

/-- **The exact value of a float is that of its bits unpacked.** -/
theorem ofFloat_eq (x : Float) : Exact.ofFloat x = Exact.ofUnpacked x.toModel.unpack := by
  have hexponent := toNat_unpackExponent x.toModel.toBits.toBitVec
  have hmantissa := toNat_unpackMantissa x.toModel.toBits.toBitVec
  have hsign := isNegative_unpackSign x.toModel.toBits.toBitVec
  have hones : @unpackExponent Format.binary64 x.toModel.toBits.toBitVec = -1#_ ↔
      x.toBits.toNat / fractionEnd % 2048 = 2047 := by
    rw [← BitVec.toNat_inj, hexponent]
    rfl
  have hzeros : @unpackExponent Format.binary64 x.toModel.toBits.toBitVec = 0#_ ↔
      x.toBits.toNat / fractionEnd % 2048 = 0 := by
    rw [← BitVec.toNat_inj, hexponent]
    rfl
  have hempty : @unpackMantissa Format.binary64 x.toModel.toBits.toBitVec = 0#_ ↔
      x.toBits.toNat % fractionEnd = 0 := by
    rw [← BitVec.toNat_inj, hmantissa]
    rfl
  unfold Exact.ofFloat Float.Model.unpack unpack
  dsimp only
  by_cases h1 : x.toBits.toNat / fractionEnd % 2048 = 2047
  · rw [if_pos h1, if_pos (hones.2 h1)]
    by_cases h2 : x.toBits.toNat % fractionEnd = 0
    · rw [if_pos h2, if_pos (hempty.2 h2), Exact.ofUnpacked, hsign]
      rfl
    · rw [if_neg h2, if_neg (fun h => h2 (hempty.1 h)), Exact.ofUnpacked]
  · rw [if_neg h1, if_neg (fun h => h1 (hones.1 h))]
    by_cases h2 : x.toBits.toNat / fractionEnd % 2048 = 0
    · rw [if_pos h2, if_pos (hzeros.2 h2)]
      by_cases h3 : x.toBits.toNat % fractionEnd = 0
      · rw [dif_pos (hempty.2 h3), Exact.ofUnpacked, hsign, h3]
        rfl
      · rw [dif_neg (fun h => h3 (hempty.1 h)), Exact.ofUnpacked, hsign, hmantissa, hexponent]
        have hleast : (-1074 : Int) = ((x.toBits.toNat / fractionEnd % 2048 : Nat) : Int) - (1023 + 52) + 1 := by
          rw [h2]
          rfl
        exact congrArg (Exact.finite _ _) hleast
    · rw [if_neg h2, if_neg (fun h => h2 (hzeros.1 h)), Exact.ofUnpacked, hsign, Numeral.toNat_one_append, hmantissa,
        hexponent]
      rfl

/-- A mantissa has 53 bits unless the exponent is the least. -/
theorem normal_of_unpack {x : Float} {s : Sign} {m : Nat} {e : Int} {hm : 0 < m}
    (h : x.toModel.unpack = .finite s m e hm) : 2 ^ 52 ≤ m ∨ e = -1074 := by
  have hexponent := toNat_unpackExponent x.toModel.toBits.toBitVec
  unfold Float.Model.unpack unpack at h
  dsimp only at h
  split at h
  · split at h <;> cases h
  · split at h
    · rename_i hzeros
      split at h
      · cases h
      · cases h
        rw [hzeros]
        exact .inr rfl
    · cases h
      rw [Numeral.toNat_one_append]
      exact .inl (Nat.le_add_right _ _)

theorem one_le_clampInt64 {n : Int} (h : 1 ≤ n) : 1 ≤ clampInt64 n := by
  unfold clampInt64
  omega

/-- **A number of at least one has a whole part of at least one.** -/
theorem one_le_wholePart {m : Nat} {e : Int} (hm : 0 < m) (hnormal : 2 ^ 52 ≤ m ∨ e = -1074)
    (he : -52 < e ∨ -52 = e ∧ 2 ^ 52 ≤ m) : 1 ≤ wholePart m e := by
  unfold wholePart
  split
  · exact Nat.mul_pos hm (Nat.pow_pos (by decide))
  · have hpow : Nat.pow 2 (-e).toNat ≤ 2 ^ 52 := Nat.pow_le_pow_right (by decide) (by omega)
    have hbits : 2 ^ 52 ≤ m := by omega
    exact (Nat.one_le_div_iff (Nat.pow_pos (by decide))).2 (Nat.le_trans hpow hbits)

theorem le_iff_compare {x y : Float} :
    x ≤ y ↔ (x.toModel.unpack.compare y.toModel.unpack).any (·.isLE) = true := by
  show decide (x.toModel ≤ y.toModel) = true ↔ _
  rw [decide_eq_true_iff]
  exact Iff.rfl

/-- **A float of at least one gives a whole number of at least one**, infinity included. -/
theorem one_le_truncate {x : Float} (h : 1.0 ≤ x) : 1 ≤ truncate x := by
  have hone : (1.0 : Float).toModel.unpack = .finite .positive (2 ^ 52) (-52) (Nat.two_pow_pos 52) := rfl
  rw [le_iff_compare, hone] at h
  unfold truncate
  rw [ofFloat_eq]
  cases hx : x.toModel.unpack with
  | notANumber =>
    rw [hx] at h
    cases h
  | zero s =>
    rw [hx] at h
    cases h
  | infinity s =>
    cases s with
    | negative =>
      rw [hx] at h
      cases h
    | positive => decide
  | finite s m e hm =>
    cases s with
    | negative =>
      rw [hx] at h
      cases h
    | positive =>
      rw [hx] at h
      have hle : -52 < e ∨ -52 = e ∧ 2 ^ 52 ≤ m := by
        change ((compare (-52 : Int) e).then (compare (2 ^ 52) m)).isLE = true at h
        rwa [Ordering.isLE_then_iff_or, compare_lt_iff_lt, compare_eq_iff_eq, Nat.isLE_compare] at h
      exact one_le_clampInt64 (Int.ofNat_le.2 (one_le_wholePart hm (normal_of_unpack hx) hle))

end FacetSql.Decimal
