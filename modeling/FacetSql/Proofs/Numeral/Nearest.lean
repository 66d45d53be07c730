import FacetSql.Proofs.Numeral.Line
import Mathlib.Algebra.Order.Group.Unbundled.Basic
/-!
# Nearest — the float of a whole number

A whole number keeps the first 53 of its bits as a float, and the others round them, ties to even (`unpack_ofNat`); the
float is off by half of the last bit it keeps at most (`rounded_near`).  So a greater number never has the smaller float
(`place_ofInt_mono`), two numbers may have one float, and up to 2⁵³ they have two (`place_ofInt_strictMono`).
-/
namespace FacetSql.Numeral

open Float.Model (UnpackedFloat Format)
open Float.Model.UnpackedFloat

/-- A mantissa shifted right, with the bits that fall off for rounding. -/
def shifted (m k : Nat) : ExtendedMantissa := (⟨m, false, false⟩ : ExtendedMantissa) >>> k

/-- **A mantissa shifted right and rounded**, ties to even. -/
def halved (m k : Nat) : Nat := (shifted m k).roundedMantissa

theorem shifted_succ (m k : Nat) : shifted m (k + 1) = (shifted m k).shiftRightOne := rfl

theorem mantissa_shiftRight (em : ExtendedMantissa) (k : Nat) : (em >>> k).mantissa = em.mantissa / 2 ^ k := by
  induction k with
  | zero => exact (Nat.div_one _).symm
  | succ k ih =>
    show (em >>> k).mantissa / 2 = _
    rw [ih, Nat.div_div_eq_div_mul, Nat.pow_succ]

theorem mantissa_shifted (m k : Nat) : (shifted m k).mantissa = m / 2 ^ k := mantissa_shiftRight _ k

/-- Shifting what was shifted left loses nothing. -/
theorem shifted_mul_two_pow (m k : Nat) : shifted (m * 2 ^ k) k = ⟨m, false, false⟩ := by
  induction k generalizing m with
  | zero => rw [Nat.pow_zero, Nat.mul_one]; rfl
  | succ k ih =>
    have hm : m * 2 ^ (k + 1) = m * 2 * 2 ^ k := by rw [Nat.pow_succ, Nat.mul_comm (2 ^ k), Nat.mul_assoc]
    rw [hm, shifted_succ, ih, ExtendedMantissa.shiftRightOne, Nat.mul_mod_left, Nat.mul_div_cancel m Nat.two_pos]
    rfl

theorem halved_mul_two_pow (m k : Nat) : halved (m * 2 ^ k) k = m := by
  rw [halved, shifted_mul_two_pow]
  rfl

/-- What a mantissa with its bits for rounding is worth, in quarters. -/
def quarters (em : ExtendedMantissa) : Nat := 4 * em.mantissa + 2 * em.roundBit.toNat + em.stickyBit.toNat

theorem quarters_shiftRightOne_le {a b : ExtendedMantissa} (h : quarters a ≤ quarters b) :
    quarters a.shiftRightOne ≤ quarters b.shiftRightOne := by
  obtain ⟨m, r, s⟩ := a
  obtain ⟨n, r', s'⟩ := b
  have hm : (m % 2 != 0).toNat = m % 2 := by rcases Nat.mod_two_eq_zero_or_one m with h | h <;> rw [h] <;> rfl
  have hn : (n % 2 != 0).toNat = n % 2 := by rcases Nat.mod_two_eq_zero_or_one n with h | h <;> rw [h] <;> rfl
  cases r <;> cases s <;> cases r' <;> cases s' <;>
    simp only [quarters, ExtendedMantissa.shiftRightOne, hm, hn, Bool.or_false, Bool.or_true, Bool.toNat_false,
      Bool.toNat_true] at h ⊢ <;> omega

theorem roundedMantissa_le {a b : ExtendedMantissa} (h : quarters a ≤ quarters b) :
    a.roundedMantissa ≤ b.roundedMantissa := by
  obtain ⟨m, r, s⟩ := a
  obtain ⟨n, r', s'⟩ := b
  cases r <;> cases s <;> cases r' <;> cases s' <;>
    simp only [quarters, ExtendedMantissa.roundedMantissa, ExtendedMantissa.accuracy, Accuracy.roundToNearestEven,
      Bool.toNat_false, Bool.toNat_true] at h ⊢ <;> omega

theorem halved_mono {m n : Nat} (h : m ≤ n) (k : Nat) : halved m k ≤ halved n k := by
  apply roundedMantissa_le
  induction k with
  | zero => exact Nat.add_le_add_right (Nat.add_le_add_right (Nat.mul_le_mul_left 4 h) _) _
  | succ k ih => exact quarters_shiftRightOne_le ih

theorem le_roundedMantissa (em : ExtendedMantissa) :
    em.mantissa ≤ em.roundedMantissa ∧ em.roundedMantissa ≤ em.mantissa + 1 := by
  obtain ⟨m, r, s⟩ := em
  cases r <;> cases s <;>
    simp only [ExtendedMantissa.roundedMantissa, ExtendedMantissa.accuracy, Accuracy.roundToNearestEven] <;> omega

/-- **What is shifted stays between two halves**: the bit for rounding is the lower one, and the other follows if
anything lies beyond it. -/
theorem shifted_between (m k : Nat) :
    (2 * (shifted m k).mantissa + (shifted m k).roundBit.toNat) * 2 ^ k ≤ 2 * m ∧
      2 * m ≤ (2 * (shifted m k).mantissa + (shifted m k).roundBit.toNat + (shifted m k).stickyBit.toNat) * 2 ^ k := by
  induction k with
  | zero =>
    rw [Nat.pow_zero, Nat.mul_one, Nat.mul_one]
    exact ⟨Nat.le_refl _, Nat.le_refl _⟩
  | succ k ih =>
    rw [shifted_succ, Nat.pow_succ', ← Nat.mul_assoc, ← Nat.mul_assoc]
    generalize shifted m k = em at ih ⊢
    obtain ⟨n, r, s⟩ := em
    have hn : (n % 2 != 0).toNat = n % 2 := by rcases Nat.mod_two_eq_zero_or_one n with h | h <;> rw [h] <;> rfl
    have hor : r.toNat + s.toNat ≤ 2 * (r || s).toNat := by cases r <;> cases s <;> decide
    simp only [ExtendedMantissa.shiftRightOne, hn] at ih ⊢
    refine ⟨le_trans (Nat.mul_le_mul_right _ ?_) ih.1, le_trans ih.2 (Nat.mul_le_mul_right _ ?_)⟩ <;> omega

/-- **Rounding is off by half a unit at most.** -/
theorem halved_near (m k : Nat) :
    2 * (halved m k * 2 ^ k) ≤ 2 * m + 2 ^ k ∧ 2 * m ≤ 2 * (halved m k * 2 ^ k) + 2 ^ k := by
  obtain ⟨hlow, hhigh⟩ := shifted_between m k
  have hround : ∀ em : ExtendedMantissa, 2 * em.roundedMantissa ≤ 2 * em.mantissa + em.roundBit.toNat + 1 ∧
      2 * em.mantissa + em.roundBit.toNat + em.stickyBit.toNat ≤ 2 * em.roundedMantissa + 1 := by
    rintro ⟨n, r, s⟩
    cases r <;> cases s <;>
      simp only [ExtendedMantissa.roundedMantissa, ExtendedMantissa.accuracy, Accuracy.roundToNearestEven,
        Bool.toNat_false, Bool.toNat_true] <;> omega
  obtain ⟨hle, hge⟩ := hround (shifted m k)
  rw [halved, ← Nat.mul_assoc]
  constructor
  · calc 2 * (shifted m k).roundedMantissa * 2 ^ k
        ≤ (2 * (shifted m k).mantissa + (shifted m k).roundBit.toNat + 1) * 2 ^ k := Nat.mul_le_mul_right _ hle
      _ = (2 * (shifted m k).mantissa + (shifted m k).roundBit.toNat) * 2 ^ k + 2 ^ k := Nat.succ_mul _ _
      _ ≤ 2 * m + 2 ^ k := Nat.add_le_add_right hlow _
  · calc 2 * m
        ≤ (2 * (shifted m k).mantissa + (shifted m k).roundBit.toNat + (shifted m k).stickyBit.toNat) * 2 ^ k := hhigh
      _ ≤ (2 * (shifted m k).roundedMantissa + 1) * 2 ^ k := Nat.mul_le_mul_right _ hge
      _ = 2 * (shifted m k).roundedMantissa * 2 ^ k + 2 ^ k := Nat.succ_mul _ _

/-- A mantissa of 53 bits or more becomes one of 53 bits, or the least one of 54. -/
theorem halved_bounds {m k : Nat} (hm : m ≠ 0) (hk : m.log2 = 52 + k) :
    2 ^ 52 ≤ halved m k ∧ halved m k ≤ 2 ^ 53 := by
  obtain ⟨hle, hge⟩ := le_roundedMantissa (shifted m k)
  rw [mantissa_shifted] at hle hge
  have hlow : 2 ^ 52 ≤ m / 2 ^ k := by
    rw [Nat.le_div_iff_mul_le (Nat.two_pow_pos k), ← Nat.pow_add, ← hk]
    exact Nat.log2_self_le hm
  have hhigh : m / 2 ^ k < 2 ^ 53 := by
    rw [Nat.div_lt_iff_lt_mul (Nat.two_pow_pos k), ← Nat.pow_add]
    have := (Nat.log2_lt hm (k := 53 + k)).1 (by omega)
    exact this
  exact ⟨hlow.trans hle, hge.trans hhigh⟩

theorem shiftToTargetExponent_eq {m k : Nat} {e : Int} (hk : m.log2 = 52 + k) (he : -1074 ≤ e + k) :
    shiftToTargetExponent Format.binary64 m e .exact = (shifted m k, e + k) := by
  have htarget : (Format.binary64.targetExponent (Float.Model.totalExponent m e) - e).toNat = k := by
    show (max ((m.log2 : Int) + 1 + e - 53) (-1074) - e).toNat = k
    omega
  rw [shiftToTargetExponent, shiftToExponent, htarget]
  rfl

/-- A mantissa of 53 bits is the result, and a mantissa of 54 bits goes over into the exponent. -/
def carried (m : Nat) (e : Int) : Nat × Int := if m = 2 ^ 53 then (2 ^ 52, e + 1) else (m, e)

/-- What was rounded is shifted once more, which only takes a carry over into the exponent. -/
theorem shiftToTargetExponent_halved {m : Nat} {e : Int} (hlow : 2 ^ 52 ≤ m) (hhigh : m ≤ 2 ^ 53) (he : -1074 ≤ e) :
    ∃ em, shiftToTargetExponent Format.binary64 m e .exact = (em, (carried m e).2) ∧
      em.mantissa = (carried m e).1 := by
  by_cases hcarry : m = 2 ^ 53
  · have hlog : m.log2 = 52 + 1 := by rw [hcarry, Nat.log2_two_pow]
    refine ⟨shifted m 1, ?_, ?_⟩
    · rw [shiftToTargetExponent_eq hlog (by omega), carried, if_pos hcarry]
      rfl
    · have hhalf : m / 2 ^ 1 = 2 ^ 52 := by omega
      rw [carried, if_pos hcarry]
      exact (mantissa_shifted m 1).trans hhalf
  · have hlog : m.log2 = 52 + 0 := (Nat.log2_eq_iff (by omega)).2 (by omega)
    refine ⟨shifted m 0, ?_, ?_⟩
    · rw [shiftToTargetExponent_eq hlog (by omega), carried, if_neg hcarry, Int.natCast_zero, Int.add_zero]
    · rw [carried, if_neg hcarry]
      rfl

/-- **Rounding a mantissa of at least 53 bits.** -/
theorem roundWithAccuracy_eq (s : Sign) {m k : Nat} {e : Int} (hm : m ≠ 0) (hk : m.log2 = 52 + k)
    (he : -1074 ≤ e + k) : ∃ hpos, roundWithAccuracy Format.binary64 s m e .exact =
      .finite s (carried (halved m k) (e + k)).1 (carried (halved m k) (e + k)).2 hpos := by
  obtain ⟨hlow, hhigh⟩ := halved_bounds hm hk
  obtain ⟨em, hshift, hmantissa⟩ := shiftToTargetExponent_halved hlow hhigh he
  have hpos : 0 < em.mantissa := by
    rw [hmantissa, carried]
    split <;> dsimp only <;> omega
  have hrounded : (shifted m k).roundedMantissa = halved m k := rfl
  refine ⟨hmantissa ▸ hpos, ?_⟩
  simp only [roundWithAccuracy, shiftToTargetExponent_eq hk he, hrounded, hshift, hmantissa]
  rw [dif_neg (hmantissa ▸ Nat.ne_of_gt hpos)]

/-- The sign in front of a packed float. -/
theorem ofBitVec_unpackSign (s : Sign) (e : BitVec 11) (m : BitVec 52) :
    Sign.ofBitVec (unpackSign (packComponents Format.binary64 s e m)) = s := by
  have hsign : unpackSign (packComponents Format.binary64 s e m) = s.toBitVec := by
    simp only [unpackSign, packComponents, BitVec.extractLsb]
    rw [BitVec.extractLsb'_append_eq_of_le (by omega), BitVec.extractLsb'_append_eq_of_le (by omega)]
    cases s <;> rfl
  rw [hsign]
  cases s <;> rfl

theorem toNat_one_append (m : BitVec 52) : (1#1 ++ m).toNat = 2 ^ 52 + m.toNat := by
  rw [BitVec.toNat_append, ← Nat.shiftLeft_add_eq_or_of_lt m.isLt]
  rfl

/-- **A normal float is what it was when it is packed and unpacked**, or infinite if its exponent is too great. -/
theorem unpack_pack (s : Sign) {m : Nat} {e : Int} (hpos : 0 < m) (hlow : 2 ^ 52 ≤ m) (hhigh : m < 2 ^ 53)
    (he : -1074 ≤ e) :
    unpack Format.binary64 (pack Format.binary64 (.finite s m e hpos)) =
      if e ≤ 971 then .finite s m e hpos else .infinity s := by
  have hlog : m.log2 = 52 := (Nat.log2_eq_iff (by omega)).2 (by omega)
  have hbias : (e + Format.binary64.exponentBias + Format.binary64.mantissaBitsWithoutImplicit).toNat =
      (e + 1075).toNat := by
    show (e + (2 ^ (11 - 1) - 1 : Nat) + (52 : Nat)).toNat = (e + 1075).toNat
    omega
  have hfirst : pack Format.binary64 (.finite s m e hpos) = if 2 ^ 11 ≤ (e + 1075).toNat + 1 then
      packedInfinity Format.binary64 s else
      packComponents Format.binary64 s (BitVec.ofNat 11 (e + 1075).toNat) (BitVec.ofNat 52 m) := by
    rw [pack]
    simp only [hlog, hbias]
    rfl
  rw [hfirst]
  by_cases hfits : e ≤ 971
  · have hexponent : (BitVec.ofNat 11 (e + 1075).toNat).toNat = (e + 1075).toNat := by
      rw [BitVec.toNat_ofNat, Nat.mod_eq_of_lt (by omega)]
    have hmantissa : (1#1 ++ BitVec.ofNat 52 m).toNat = m := by
      rw [toNat_one_append, BitVec.toNat_ofNat]
      omega
    have hnotAll : BitVec.ofNat 11 (e + 1075).toNat ≠ -1#11 := by
      intro h
      have hnat := congrArg BitVec.toNat h
      rw [hexponent] at hnat
      change _ = 2047 at hnat
      omega
    have hnotZero : BitVec.ofNat 11 (e + 1075).toNat ≠ 0#11 := by
      intro h
      have hnat := congrArg BitVec.toNat h
      rw [hexponent] at hnat
      change _ = 0 at hnat
      omega
    rw [if_neg (by omega), if_pos hfits, unpack]
    simp only [unpackMantissa_packComponents, unpackExponent_packComponents, ofBitVec_unpackSign, if_neg hnotAll,
      if_neg hnotZero, hmantissa, hexponent]
    congr 1
    show ((e + 1075).toNat : Int) - (1023 + 52) = e
    omega
  · rw [if_pos (by omega), if_neg hfits]
    cases s <;> rfl

/-- **A whole number as a mantissa of 53 bits and an exponent.** -/
def rounded (n : Nat) : Nat × Int := carried (halved (n * 2 ^ 53) (n.log2 + 1)) (n.log2 - 52)

theorem log2_mul_two_pow {n : Nat} (hn : n ≠ 0) (k : Nat) : (n * 2 ^ k).log2 = n.log2 + k := by
  rw [Nat.log2_eq_iff (Nat.mul_ne_zero hn (Nat.two_pow_pos k).ne'), Nat.pow_add, Nat.add_right_comm, Nat.pow_add]
  exact ⟨Nat.mul_le_mul_right _ (Nat.log2_self_le hn),
    Nat.mul_lt_mul_of_pos_right Nat.lt_log2_self (Nat.two_pow_pos k)⟩

theorem rounded_bounds {n : Nat} (hn : n ≠ 0) :
    2 ^ 52 ≤ (rounded n).1 ∧ (rounded n).1 < 2 ^ 53 ∧
      (n.log2 : Int) - 52 ≤ (rounded n).2 ∧ (rounded n).2 ≤ (n.log2 : Int) - 51 := by
  have hlog : (n * 2 ^ 53).log2 = 52 + (n.log2 + 1) := by
    rw [log2_mul_two_pow hn]
    omega
  obtain ⟨hlow, hhigh⟩ := halved_bounds (Nat.mul_ne_zero hn (Nat.two_pow_pos 53).ne') hlog
  rw [rounded, carried]
  split <;> dsimp only <;> omega

/-- A carry changes no value. -/
theorem value_carried (m j : Nat) : 0 ≤ (carried m j).2 ∧ (carried m j).1 * 2 ^ (carried m j).2.toNat = m * 2 ^ j := by
  unfold carried
  by_cases hcarry : m = 2 ^ 53
  · rw [if_pos hcarry, hcarry]
    dsimp only
    have hexponent : ((j : Int) + 1).toNat = j + 1 := by omega
    rw [hexponent, Nat.pow_succ' (n := j), ← Nat.mul_assoc]
    exact ⟨by omega, rfl⟩
  · rw [if_neg hcarry]
    exact ⟨Int.natCast_nonneg j, rfl⟩

/-- **The float of a number from 2⁵² on is a whole number**, which is off by half the last bit at most. -/
theorem rounded_near {n j : Nat} (hj : n.log2 = 52 + j) :
    0 ≤ (rounded n).2 ∧ 2 * ((rounded n).1 * 2 ^ (rounded n).2.toNat) ≤ 2 * n + 2 ^ j ∧
      2 * n ≤ 2 * ((rounded n).1 * 2 ^ (rounded n).2.toNat) + 2 ^ j := by
  have hshift : n.log2 + 1 = j + 53 := by omega
  have hexponent : (n.log2 : Int) - 52 = j := by omega
  obtain ⟨hnonneg, hvalue⟩ := value_carried (halved (n * 2 ^ 53) (j + 53)) j
  obtain ⟨hle, hge⟩ := halved_near (n * 2 ^ 53) (j + 53)
  rw [Nat.pow_add, ← Nat.mul_assoc (halved _ _)] at hle hge
  rw [rounded, hshift, hexponent, hvalue]
  exact ⟨hnonneg, by omega, by omega⟩

/-- Below 53 bits nothing is rounded. -/
theorem rounded_of_lt {n : Nat} (hn : n ≠ 0) (hsmall : n < 2 ^ 53) :
    rounded n = (n * 2 ^ (52 - n.log2), (n.log2 : Int) - 52) := by
  have hlog : n.log2 < 53 := (Nat.log2_lt hn).2 hsmall
  have hexact : halved (n * 2 ^ 53) (n.log2 + 1) = n * 2 ^ (52 - n.log2) := by
    have hsplit : n * 2 ^ 53 = n * 2 ^ (52 - n.log2) * 2 ^ (n.log2 + 1) := by
      rw [Nat.mul_assoc, ← Nat.pow_add]
      congr 2
      omega
    rw [hsplit, halved_mul_two_pow]
  have hbits : (n * 2 ^ (52 - n.log2)).log2 = 52 := by
    rw [log2_mul_two_pow hn]
    omega
  have hcarry : n * 2 ^ (52 - n.log2) ≠ 2 ^ 53 := by
    intro h
    rw [h, Nat.log2_two_pow] at hbits
    omega
  rw [rounded, hexact, carried, if_neg hcarry]

/-- A float packed from a rounded number. -/
theorem unpack_pack_rounded (s : Sign) {n : Nat} (hn : n ≠ 0) (hpos : 0 < (rounded n).1) :
    unpack Format.binary64 (pack Format.binary64 (.finite s (rounded n).1 (rounded n).2 hpos)) =
      if (rounded n).2 ≤ 971 then .finite s (rounded n).1 (rounded n).2 hpos else .infinity s := by
  obtain ⟨hlow, hhigh, he, -⟩ := rounded_bounds hn
  exact unpack_pack s hpos hlow hhigh (by omega)

theorem toModel_ofNat_of_le {n : Nat} (hn : 2 ^ 53 ≤ n) :
    ∃ hpos, (Float.ofNat n).toModel = Float.Model.pack (.finite .positive (rounded n).1 (rounded n).2 hpos) := by
  have hne : n ≠ 0 := by omega
  have hscientific : (Float.ofNat n).toModel = Float.Model.ofScientific n 0 := by
    show (Float.ofScientific n false 0).toModel = _
    rw [Float.ofScientific, dif_neg (by omega)]
    rfl
  have hlog : (n * 2 ^ 53).log2 = 52 + (n.log2 + 1) := by
    rw [log2_mul_two_pow hne]
    omega
  have hexponent : -53 + ((n.log2 + 1 : Nat) : Int) = n.log2 - 52 := by omega
  have hbits : n * 2 ^ 53 ≠ 0 := Nat.mul_ne_zero hne (Nat.two_pow_pos 53).ne'
  have hround := roundWithAccuracy_eq .positive hbits hlog (e := -53) (by omega)
  rw [hexponent, ← rounded] at hround
  obtain ⟨hpos, hround⟩ := hround
  refine ⟨hpos, ?_⟩
  have hfew : ¬ (0 : Int) < -(2 ^ 11 + n.log2) := by omega
  rw [hscientific, Float.Model.ofScientific, UnpackedFloat.ofScientific, dif_neg hne, if_neg (by decide), if_neg hfew,
    if_pos (Int.le_refl 0), ← hround]
  show Float.Model.pack (roundWithAccuracy Format.binary64 .positive (n <<< 53 * 1) (-53) .exact) = _
  rw [Nat.shiftLeft_eq, Nat.mul_one]

/-- **Rounding what was rounded changes nothing**, with any number of zero bits behind it. -/
theorem roundWithAccuracy_rounded (s : Sign) {n : Nat} (hn : n ≠ 0) (k : Nat) {e : Int} (he : e + k = (rounded n).2) :
    ∃ hpos, roundWithAccuracy Format.binary64 s ((rounded n).1 * 2 ^ k) e .exact =
      .finite s (rounded n).1 (rounded n).2 hpos := by
  obtain ⟨hlow, hhigh, hexp, -⟩ := rounded_bounds hn
  have hlog : ((rounded n).1 * 2 ^ k).log2 = 52 + k := by
    rw [log2_mul_two_pow (by omega), (Nat.log2_eq_iff (by omega)).2 ⟨hlow, hhigh⟩]
  have hround := roundWithAccuracy_eq s (Nat.mul_ne_zero (by omega) (Nat.two_pow_pos k).ne') hlog (e := e) (by omega)
  rwa [halved_mul_two_pow, carried, if_neg (by omega), he] at hround

theorem unpack_toFloat {n : Nat} (hn : n ≠ 0) (hsmall : n < 2 ^ 53) :
    ∃ hpos, n.toUInt64.toFloat.toModel.unpack = .finite .positive (rounded n).1 (rounded n).2 hpos := by
  have hlog : n.log2 < 53 := (Nat.log2_lt hn).2 hsmall
  have hrounded := rounded_of_lt hn hsmall
  obtain ⟨hpos, hround⟩ := roundWithAccuracy_rounded .positive hn 0 (Int.add_zero _)
  have htoNat : n.toUInt64.toNat = n := by
    show n % 2 ^ 64 = n
    exact Nat.mod_eq_of_lt (by omega)
  have hmodel : n.toUInt64.toFloat.toModel =
      Float.Model.pack (roundWithAccuracy Format.binary64 .positive ((rounded n).1 * 2 ^ 0) (rounded n).2 .exact) := by
    have hsign : compare (n : Int) 0 = .gt := compare_gt_iff_gt.2 (by omega)
    have hdown : decreaseExponent n 0 (Format.binary64.targetExponent (Float.Model.totalExponent n 0)) =
        ((rounded n).1 * 2 ^ 0, (rounded n).2) := by
      have hshift : (0 - Format.binary64.targetExponent (Float.Model.totalExponent n 0)).toNat = 52 - n.log2 := by
        show (0 - max ((n.log2 : Int) + 1 + 0 - 53) (-1074)).toNat = _
        omega
      rw [decreaseExponent, hshift, Nat.shiftLeft_eq, hrounded, Nat.pow_zero, Nat.mul_one]
      exact congrArg (Prod.mk _) (by omega)
    show Float.Model.pack (UnpackedFloat.normalize Format.binary64 (n.toUInt64.toNat : Int) 0 .positive) = _
    rw [htoNat, UnpackedFloat.normalize, hsign]
    show Float.Model.pack (UnpackedFloat.round Format.binary64 .positive n 0) = _
    rw [UnpackedFloat.round, hdown]
  refine ⟨hpos, ?_⟩
  rw [hmodel, hround]
  refine (unpack_pack_rounded .positive hn hpos).trans (if_pos ?_)
  rw [hrounded]
  dsimp only
  omega

theorem unpack_one : (Float.ofBits 4607182418800017408).toModel.unpack =
    .finite .positive (2 ^ 52) (-52) (Nat.two_pow_pos 52) := rfl

/-- **The float of a whole number**, its mantissa rounded to 53 bits. -/
theorem unpack_ofNat {n : Nat} (hn : n ≠ 0) : ∃ hpos, (Float.ofNat n).toModel.unpack =
    if (rounded n).2 ≤ 971 then .finite .positive (rounded n).1 (rounded n).2 hpos else .infinity .positive := by
  by_cases hsmall : n < 2 ^ 53
  · obtain ⟨hpos, hunpack⟩ := unpack_toFloat hn hsmall
    obtain ⟨_, hround⟩ := roundWithAccuracy_rounded .positive hn 52 (e := (rounded n).2 + -52) (by omega)
    have hmodel : (Float.ofNat n).toModel =
        Float.Model.pack (.finite .positive (rounded n).1 (rounded n).2 hpos) := by
      have hproduct : Float.ofNat n = n.toUInt64.toFloat * Float.ofBits 4607182418800017408 := by
        show Float.ofScientific n false 0 = _
        rw [Float.ofScientific, dif_pos ⟨hsmall, by decide⟩]
        rfl
      rw [hproduct]
      show Float.Model.pack (UnpackedFloat.mul Format.binary64 n.toUInt64.toFloat.toModel.unpack
        (Float.ofBits 4607182418800017408).toModel.unpack) = _
      rw [hunpack, unpack_one]
      exact congrArg Float.Model.pack hround
    exact ⟨hpos, by rw [hmodel]; exact unpack_pack_rounded .positive hn hpos⟩
  · obtain ⟨hpos, hmodel⟩ := toModel_ofNat_of_le (Nat.le_of_not_lt hsmall)
    exact ⟨hpos, by rw [hmodel]; exact unpack_pack_rounded .positive hn hpos⟩

/-- **The places of floats of positive whole numbers.** -/
theorem place_ofNat {n : Nat} (hn : n ≠ 0) : place (Float.ofNat n) =
    if (rounded n).2 ≤ 971 then toLex (1, toLex ((rounded n).2, ((rounded n).1 : Int)))
    else toLex (2, toLex (0, 0)) := by
  obtain ⟨_, hunpack⟩ := unpack_ofNat hn
  rw [place, hunpack]
  split <;> rfl

theorem place_ofNat_zero : place (Float.ofNat 0) = 0 := rfl

theorem log2_le_log2 {m n : Nat} (hm : m ≠ 0) (h : m ≤ n) : m.log2 ≤ n.log2 :=
  (Nat.le_log2 (by omega)).2 ((Nat.log2_self_le hm).trans h)

/-- **A greater number has no smaller exponent, and with the same exponent no smaller mantissa.** -/
theorem rounded_mono {m n : Nat} (hm : m ≠ 0) (h : m ≤ n) :
    (rounded m).2 < (rounded n).2 ∨ (rounded m).2 = (rounded n).2 ∧ (rounded m).1 ≤ (rounded n).1 := by
  obtain ⟨hlow, hhigh, hexp, -⟩ := rounded_bounds (n := n) (by omega)
  rcases Nat.lt_or_eq_of_le (log2_le_log2 hm h) with hlog | hlog
  · -- a carry at most reaches the exponent of the greater number, with the least mantissa
    have hcarried : (rounded m).2 = m.log2 - 52 ∨ (rounded m).2 = m.log2 - 52 + 1 ∧ (rounded m).1 = 2 ^ 52 := by
      rw [rounded, carried]
      split
      · exact .inr ⟨rfl, rfl⟩
      · exact .inl rfl
    omega
  · have hhalved : halved (m * 2 ^ 53) (m.log2 + 1) ≤ halved (n * 2 ^ 53) (n.log2 + 1) := by
      rw [hlog]
      exact halved_mono (Nat.mul_le_mul_right _ h) _
    have hbits : (n * 2 ^ 53).log2 = 52 + (n.log2 + 1) := by
      rw [log2_mul_two_pow (by omega)]
      omega
    have hcarry := (halved_bounds (Nat.mul_ne_zero (by omega) (Nat.two_pow_pos 53).ne') hbits).2
    rw [rounded, rounded, carried, carried]
    split <;> split <;> dsimp only <;> omega

theorem place_ofNat_mono {m n : Nat} (h : m ≤ n) : place (Float.ofNat m) ≤ place (Float.ofNat n) := by
  by_cases hm : m = 0
  · subst hm
    by_cases hn : n = 0
    · rw [hn]
    · rw [place_ofNat_zero, place_ofNat hn]
      split
      · exact Prod.Lex.toLex_le_toLex.2 (.inl Int.one_pos)
      · exact Prod.Lex.toLex_le_toLex.2 (.inl (by decide))
  · rw [place_ofNat hm, place_ofNat (by omega)]
    have hmono := rounded_mono hm h
    split <;> split
    · refine Prod.Lex.toLex_le_toLex.2 (.inr ⟨rfl, Prod.Lex.toLex_le_toLex.2 ?_⟩)
      exact hmono.imp_right (fun he => ⟨he.1, Int.ofNat_le.2 he.2⟩)
    · exact Prod.Lex.toLex_le_toLex.2 (.inl (show (1 : Int) < 2 by decide))
    · omega
    · exact le_rfl

/-- Up to 2⁵³ different numbers have different floats. -/
theorem place_ofNat_strictMono {m n : Nat} (h : m < n) (hn : n ≤ 2 ^ 53) :
    place (Float.ofNat m) < place (Float.ofNat n) := by
  have hne : n ≠ 0 := by omega
  have hlog : n.log2 ≤ 53 := by
    have := log2_le_log2 hne hn
    rwa [Nat.log2_two_pow] at this
  obtain ⟨-, -, hexp, hfits⟩ := rounded_bounds hne
  rw [place_ofNat hne, if_pos (by omega)]
  by_cases hm : m = 0
  · rw [hm, place_ofNat_zero]
    exact Prod.Lex.toLex_lt_toLex.2 (.inl Int.one_pos)
  · have hexact := rounded_of_lt hm (by omega)
    have hbits : m.log2 < 53 := (Nat.log2_lt hm).2 (by omega)
    have hfits' : (rounded m).2 ≤ 971 := by
      rw [hexact]
      dsimp only
      omega
    rw [place_ofNat hm, if_pos hfits', Prod.Lex.toLex_lt_toLex]
    refine .inr ⟨rfl, Prod.Lex.toLex_lt_toLex.2 ?_⟩
    rw [hexact]
    by_cases hsmall : n < 2 ^ 53
    · rw [rounded_of_lt hne hsmall]
      rcases Nat.lt_or_eq_of_le (log2_le_log2 hm (Nat.le_of_lt h)) with hlt | heq
      · exact .inl (by dsimp only; omega)
      · refine .inr ⟨by rw [heq], Int.ofNat_lt.2 ?_⟩
        rw [heq]
        exact Nat.mul_lt_mul_of_pos_right h (Nat.two_pow_pos _)
    · have hmost : n = 2 ^ 53 := by omega
      rw [hmost, Nat.log2_two_pow] at hexp
      exact .inl (by rw [hmost]; dsimp only; omega)

/-- **Negating the float of a whole number** only turns its sign. -/
theorem unpack_neg_ofNat (n : Nat) : (Float.ofNat n).neg.toModel.unpack = (Float.ofNat n).toModel.unpack.neg := by
  have hneg : (Float.ofNat n).neg.toModel.unpack =
      unpack Format.binary64 (pack Format.binary64 (Float.ofNat n).toModel.unpack.neg) := rfl
  by_cases hn : n = 0
  · rw [hn]
    rfl
  · obtain ⟨hpos, hunpack⟩ := unpack_ofNat hn
    rw [hneg, hunpack]
    split
    · rename_i hfits
      exact (unpack_pack_rounded .negative hn hpos).trans (if_pos hfits)
    · rfl

theorem place_neg_ofNat (n : Nat) : place (Float.ofNat n).neg = -place (Float.ofNat n) := by
  rw [place, unpack_neg_ofNat, placeOf_neg, place]

theorem place_ofNat_nonneg (n : Nat) : 0 ≤ place (Float.ofNat n) := place_ofNat_mono (Nat.zero_le n)

/-- **A greater whole number never has the smaller float.** -/
theorem place_ofInt_mono {m n : Int} (h : m ≤ n) : place (Float.ofInt m) ≤ place (Float.ofInt n) := by
  cases m with
  | ofNat m =>
    cases n with
    | ofNat n => exact place_ofNat_mono (Int.ofNat_le.1 h)
    | negSucc n => exact absurd (Int.lt_of_le_of_lt h (Int.negSucc_lt_zero n)) (Int.not_lt.2 (Int.natCast_nonneg m))
  | negSucc m =>
    show place (Float.ofNat (m + 1)).neg ≤ _
    rw [place_neg_ofNat]
    cases n with
    | ofNat n =>
      have hneg : -place (Float.ofNat (m + 1)) ≤ 0 := neg_nonpos.2 (place_ofNat_nonneg (m + 1))
      exact hneg.trans (place_ofNat_nonneg n)
    | negSucc n =>
      show _ ≤ place (Float.ofNat (n + 1)).neg
      rw [place_neg_ofNat]
      exact neg_le_neg_iff.2 (place_ofNat_mono (by omega))

/-- **Up to 2⁵³ a greater whole number has the greater float.** -/
theorem place_ofInt_strictMono {m n : Int} (h : m < n) (hm : m.natAbs ≤ 2 ^ 53) (hn : n.natAbs ≤ 2 ^ 53) :
    place (Float.ofInt m) < place (Float.ofInt n) := by
  cases m with
  | ofNat m =>
    cases n with
    | ofNat n => exact place_ofNat_strictMono (Int.ofNat_lt.1 h) hn
    | negSucc n => exact absurd (Int.lt_trans h (Int.negSucc_lt_zero n)) (Int.not_lt.2 (Int.natCast_nonneg m))
  | negSucc m =>
    show place (Float.ofNat (m + 1)).neg < _
    rw [place_neg_ofNat]
    cases n with
    | ofNat n =>
      have hpos : 0 < place (Float.ofNat (m + 1)) := place_ofNat_strictMono (Nat.succ_pos m) hm
      have hneg : -place (Float.ofNat (m + 1)) < 0 := neg_lt_zero.2 hpos
      exact hneg.trans_le (place_ofNat_nonneg n)
    | negSucc n =>
      show _ < place (Float.ofNat (n + 1)).neg
      rw [place_neg_ofNat]
      exact neg_lt_neg_iff.2 (place_ofNat_strictMono (by omega) hm)

/-- Up to 2⁵³ whole numbers with one float are one. -/
theorem place_ofInt_inj {m n : Int} (hm : m.natAbs ≤ 2 ^ 53) (hn : n.natAbs ≤ 2 ^ 53)
    (h : place (Float.ofInt m) = place (Float.ofInt n)) : m = n := by
  rcases lt_trichotomy m n with hlt | heq | hgt
  · exact absurd h (place_ofInt_strictMono hlt hm hn).ne
  · exact heq
  · exact absurd h.symm (place_ofInt_strictMono hgt hn hm).ne

theorem isNaN_ofNat (n : Nat) : (Float.ofNat n).toModel.unpack.isNaN = false := by
  by_cases hn : n = 0
  · rw [hn]
    rfl
  · obtain ⟨_, hunpack⟩ := unpack_ofNat hn
    rw [hunpack]
    split <;> rfl

/-- **The float of a whole number is a number**, if an infinite one. -/
theorem isNaN_ofInt (n : Int) : (Float.ofInt n).isNaN = false := by
  cases n with
  | ofNat n => exact isNaN_ofNat n
  | negSucc n =>
    have hnan := isNaN_ofNat (n + 1)
    show (Float.ofNat (n + 1)).neg.toModel.unpack.isNaN = false
    rw [unpack_neg_ofNat]
    cases hunpack : (Float.ofNat (n + 1)).toModel.unpack with
    | notANumber =>
      rw [hunpack] at hnan
      exact hnan
    | infinity | zero | finite => rfl

end FacetSql.Numeral
