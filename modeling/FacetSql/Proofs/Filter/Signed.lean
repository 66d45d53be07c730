import FacetSql.Proofs.Filter.Constants
/-!
# Signed — minus signs before whole numbers

A numeral has no sign of its own, so what it is read as is no less than zero and has an opposite within 64 signed bits.
So have all the numbers that minus signs make of it (`int_of_signed_iff`), and none of the signs goes out of range
(`constant_signed`).  The least number of 64 bits, which has no opposite, would need a numeral beyond the greatest one,
and such a numeral is read as a float before any sign is seen.
-/
namespace FacetSql.Query

open Sql Numeral

/-- **Minus signs and parentheses around a numeral**, in any mix, with the number of the signs. -/
inductive Signed (numeral : String) : Nat → Expr → Prop
  | token (long : Bool) : Signed numeral 0 (.literal (.number numeral long))
  | minus {signs : Nat} {e : Expr} : Signed numeral signs e → Signed numeral (signs + 1) (.unary .minus e)
  | nested {signs : Nat} {e : Expr} : Signed numeral signs e → Signed numeral signs (.nested e)

/-- **A constant inside another**: the value of the second is computed from that of the first. -/
inductive Inside : Expr → Expr → Prop
  | here (e : Expr) : Inside e e
  | minus {inner e : Expr} : Inside inner e → Inside inner (.unary .minus e)
  | nested {inner e : Expr} : Inside inner e → Inside inner (.nested e)

/-- The number that digits stand for. -/
def digitsValue (numeral : String) : Int := Nat.ofDigitChars 10 numeral.toList 0

variable {numeral : String} {signs : Nat} {e inner : Expr} {n : Int}

theorem digitsValue_nonneg (numeral : String) : 0 ≤ digitsValue numeral := Int.natCast_nonneg _

theorem int64_read_digits_iff (digits : AreDigits numeral.toList) :
    int64.read numeral = .ok n ↔ int64.holds (digitsValue numeral) = true ∧ n = digitsValue numeral := by
  rw [int64_read_eq_ok_iff]
  constructor
  · rintro ⟨hnumeral, hfits⟩
    have hn : n = digitsValue numeral := hnumeral.unique (.unsigned digits)
    exact ⟨hn ▸ hfits, hn⟩
  · rintro ⟨hfits, rfl⟩
    exact ⟨.unsigned digits, hfits⟩

theorem int_of_token_iff (long : Bool) :
    constant (.literal (.number numeral long)) = .ok (.int n) ↔ int64.read numeral = .ok n := by
  constructor
  · intro h
    obtain ⟨number, hnumber, hj⟩ := bind_eq_ok_iff.1 h
    rcases readNumber_eq_ok_iff.1 hnumber with ⟨i, hi, rfl⟩ | ⟨-, x, -, rfl⟩
    · cases hj
      exact hi
    · -- a float stays one, or is none
      simp only [pure, Except.pure, Except.ok.injEq, Json.ofFloat] at hj
      by_cases hfinite : x.isFinite = true <;> simp [hfinite] at hj
  · intro hread
    exact bind_eq_ok_iff.2 ⟨.int n, readNumber_eq_ok_iff.2 (.inl ⟨n, hread, rfl⟩), rfl⟩

theorem int_of_negated_iff : constant (.unary .minus e) = .ok (.int n) ↔ constant e = .ok (.int (-n)) := by
  constructor
  · intro h
    obtain ⟨j, hj, hneg⟩ := bind_eq_ok_iff.1 h
    cases j with
    | int m =>
      have hm : -m = n := by simpa [negateConstant] using hneg
      rw [hj, ← hm, Int.neg_neg]
    | null | bool | float | text | array | object => cases hneg
  · intro h
    refine bind_eq_ok_iff.2 ⟨_, h, ?_⟩
    rw [negateConstant, Int.neg_neg]

/-- **Signs before a numeral that fits make a whole number of it**, and only then. -/
theorem int_of_signed_iff (digits : AreDigits numeral.toList) (h : Signed numeral signs e) :
    ∀ n, constant e = .ok (.int n) ↔ int64.holds (digitsValue numeral) = true ∧ n = (-1) ^ signs * digitsValue numeral := by
  induction h with
  | token long =>
    intro n
    rw [int_of_token_iff, int64_read_digits_iff digits, pow_zero, one_mul]
  | minus _ ih =>
    intro n
    rw [int_of_negated_iff, ih, pow_succ]
    constructor <;> rintro ⟨hfits, hn⟩ <;> exact ⟨hfits, by linarith⟩
  | nested _ ih => exact ih

theorem Inside.signed (hinside : Inside inner e) :
    ∀ {signs : Nat}, Signed numeral signs e → ∃ fewer, Signed numeral fewer inner := by
  induction hinside with
  | here => exact fun h => ⟨_, h⟩
  | minus _ ih =>
    intro signs h
    cases h with
    | minus h => exact ih h
  | nested _ ih =>
    intro signs h
    cases h with
    | nested h => exact ih h

/-- Signs leave a number as far from zero as it was. -/
theorem signed_within (hfits : int64.holds (digitsValue numeral) = true) (signs : Nat) :
    int64.least < (-1) ^ signs * digitsValue numeral ∧ (-1) ^ signs * digitsValue numeral ≤ int64.greatest := by
  have hnonneg := digitsValue_nonneg numeral
  obtain ⟨-, hgreatest⟩ := int64_holds_iff.1 hfits
  simp only [int64]
  rcases neg_one_pow_eq_or Int signs with hsign | hsign <;> rw [hsign] <;> omega

/-- **Minus signs before a numeral are exact**: a numeral that fits into 64 signed bits becomes its value with the sign
turned around as often as there are signs.  None of the signs takes a number out of range, and no number on the way is
the least one, whether or not the numeral fits. -/
theorem constant_signed (digits : AreDigits numeral.toList) (h : Signed numeral signs e) :
    (int64.holds (digitsValue numeral) = true → constant e = .ok (.int ((-1) ^ signs * digitsValue numeral))) ∧
      (∀ operand n, Inside (.unary .minus operand) e → constant operand = .ok (.int n) →
        int64.holds n = true ∧ int64.holds (-n) = true) ∧
      ∀ inner n, Inside inner e → constant inner = .ok (.int n) → n ≠ int64.least := by
  have hwithin : ∀ inner n, Inside inner e → constant inner = .ok (.int n) →
      int64.least < n ∧ n ≤ int64.greatest := by
    intro inner n hinside hn
    obtain ⟨fewer, hsigned⟩ := hinside.signed h
    obtain ⟨hfits, rfl⟩ := (int_of_signed_iff digits hsigned n).1 hn
    exact signed_within hfits fewer
  refine ⟨fun hfits => (int_of_signed_iff digits h _).2 ⟨hfits, rfl⟩, fun operand n hinside hn => ?_,
    fun inner n hinside hn => (hwithin inner n hinside hn).1.ne'⟩
  have hnegated : constant (.unary .minus operand) = .ok (.int (-n)) := int_of_negated_iff.2 (by rwa [Int.neg_neg])
  obtain ⟨hlow, hhigh⟩ := hwithin _ _ hinside hnegated
  rw [int64_holds_iff, int64_holds_iff]
  simp only [int64] at hlow hhigh
  omega

/-- `-(-9223372036854775807)` -/
def greatestTwiceNegated : Expr :=
  .unary .minus (.nested (.unary .minus (.literal (.number "9223372036854775807" false))))

theorem constant_greatestTwiceNegated :
    AreDigits "9223372036854775807".toList ∧ Signed "9223372036854775807" 2 greatestTwiceNegated ∧
      int64.holds (digitsValue "9223372036854775807") = true ∧
      constant greatestTwiceNegated = .ok (.int 9223372036854775807) := by
  have digits : AreDigits "9223372036854775807".toList := areDigits_toString 9223372036854775807
  have hsigned : Signed "9223372036854775807" 2 greatestTwiceNegated := .minus (.nested (.minus (.token false)))
  have hvalue : digitsValue "9223372036854775807" = 9223372036854775807 := by decide +kernel
  have hfits : int64.holds (digitsValue "9223372036854775807") = true := by
    rw [hvalue, int64_holds_iff]
    omega
  have hconstant := (constant_signed digits hsigned).1 hfits
  rw [hvalue] at hconstant
  exact ⟨digits, hsigned, hfits, hconstant⟩

end FacetSql.Query
