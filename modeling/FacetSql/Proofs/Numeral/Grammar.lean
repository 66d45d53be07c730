import FacetSql.Proofs.Checked
/-!
# Grammar — the texts of whole numbers

A numeral is ASCII digits, at least one, behind an optional sign, and stands for one number (`IsNumeral.unique`); every
number is written as one (`isNumeral_toString`).  A range with negative numbers reads exactly the numerals of its
numbers (`Range.read_eq_ok_iff`), however many zeros they begin with: the digits are given up as soon as they leave the
range, and no digit takes them back into it.
-/
namespace FacetSql.Numeral

/-- **Digits**, at least one. -/
def AreDigits (cs : List Char) : Prop := cs ≠ [] ∧ ∀ c ∈ cs, c.isDigit = true

/-- **A decimal numeral** and the number it stands for. -/
inductive IsNumeral : List Char → Int → Prop where
  | unsigned {ds : List Char} (digits : AreDigits ds) : IsNumeral ds (Nat.ofDigitChars 10 ds 0)
  | plus {ds : List Char} (digits : AreDigits ds) : IsNumeral ('+' :: ds) (Nat.ofDigitChars 10 ds 0)
  | minus {ds : List Char} (digits : AreDigits ds) : IsNumeral ('-' :: ds) (-(Nat.ofDigitChars 10 ds 0 : Int))

section

variable {ds cs : List Char} {c : Char} {n m : Int}

theorem AreDigits.head (h : AreDigits (c :: cs)) : c.isDigit = true := h.2 c List.mem_cons_self

theorem isNumeral_plus_iff : IsNumeral ('+' :: ds) n ↔ AreDigits ds ∧ n = Nat.ofDigitChars 10 ds 0 := by
  constructor
  · intro h
    cases h with
    | unsigned digits => exact absurd digits.head (by decide)
    | plus digits => exact ⟨digits, rfl⟩
  · rintro ⟨digits, rfl⟩
    exact .plus digits

theorem isNumeral_minus_iff : IsNumeral ('-' :: ds) n ↔ AreDigits ds ∧ n = -(Nat.ofDigitChars 10 ds 0 : Int) := by
  constructor
  · intro h
    cases h with
    | unsigned digits => exact absurd digits.head (by decide)
    | minus digits => exact ⟨digits, rfl⟩
  · rintro ⟨digits, rfl⟩
    exact .minus digits

theorem isNumeral_unsigned_iff (hplus : ∀ ds, cs ≠ '+' :: ds) (hminus : ∀ ds, cs ≠ '-' :: ds) :
    IsNumeral cs n ↔ AreDigits cs ∧ n = Nat.ofDigitChars 10 cs 0 := by
  constructor
  · intro h
    cases h with
    | unsigned digits => exact ⟨digits, rfl⟩
    | plus => exact absurd rfl (hplus _)
    | minus => exact absurd rfl (hminus _)
  · rintro ⟨digits, rfl⟩
    exact .unsigned digits

/-- **A numeral stands for one number.** -/
theorem IsNumeral.unique (hn : IsNumeral cs n) (hm : IsNumeral cs m) : n = m := by
  cases hn with
  | unsigned digits =>
    cases hm with
    | unsigned => rfl
    | plus => exact absurd digits.head (by decide)
    | minus => exact absurd digits.head (by decide)
  | plus => exact (isNumeral_plus_iff.1 hm).2.symm
  | minus => exact (isNumeral_minus_iff.1 hm).2.symm

/-- **A numeral ends with a digit.** -/
theorem IsNumeral.isDigit_last (h : IsNumeral (cs ++ [c]) n) : c.isDigit = true := by
  generalize htext : cs ++ [c] = text at h
  -- a sign in front leaves the last character among the digits
  have hlast : ∀ s ds, AreDigits ds → cs ++ [c] = s :: ds → c.isDigit = true := by
    intro s ds digits heq
    cases cs with
    | nil => exact absurd (List.cons.inj heq).2.symm digits.1
    | cons d cs =>
      exact digits.2 c ((List.cons.inj heq).2 ▸ List.mem_append_right cs List.mem_cons_self)
  cases h with
  | unsigned digits => exact digits.2 c (htext ▸ List.mem_append_right cs List.mem_cons_self)
  | plus digits => exact hlast _ _ digits htext
  | minus digits => exact hlast _ _ digits htext

end

theorem areDigits_toString (n : Nat) : AreDigits (toString n).toList := by
  rw [Nat.toString_eq_ofList_toDigits, String.toList_ofList]
  refine ⟨List.ne_nil_of_length_pos Nat.length_toDigits_pos, fun c hc => ?_⟩
  exact Nat.isDigit_of_mem_toDigits (by decide) (by decide) hc

/-- **A number is written as a numeral of it.** -/
theorem isNumeral_toString (n : Int) : IsNumeral (toString n).toList n := by
  have hvalue : ∀ m : Nat, Nat.ofDigitChars 10 (toString m).toList 0 = m := fun m => by
    rw [Nat.toString_eq_ofList_toDigits, String.toList_ofList, Nat.ofDigitChars_toDigits (by decide) (by decide)]
  cases n with
  | ofNat m =>
    have h := IsNumeral.unsigned (areDigits_toString m)
    rwa [hvalue] at h
  | negSucc m =>
    have h := IsNumeral.minus (areDigits_toString (m + 1))
    rw [hvalue] at h
    have htext : (toString (Int.negSucc m)).toList = '-' :: (toString (m + 1)).toList := by
      show ("-" ++ toString (m + 1)).toList = _
      rw [String.toList_append]
      rfl
    rwa [htext]

theorem toString_injective : Function.Injective (toString : Int → String) := by
  intro m n h
  exact (isNumeral_toString m).unique (h ▸ isNumeral_toString n)

/-! ## Reading -/

section

variable {limit n m : Nat} {window : Fault} {cs : List Char}

theorem le_ofDigitChars (cs : List Char) (n : Nat) : n ≤ Nat.ofDigitChars 10 cs n := by
  rw [Nat.ofDigitChars_eq_ofDigitChars_zero]
  exact Nat.le_add_right_of_le (Nat.le_mul_of_pos_left n (Nat.pow_pos (by decide)))

/-- **Digits are read exactly if their number is within the limit.** -/
theorem readDigits_eq_ok_iff (hn : n ≤ limit) : readDigits limit window n cs = .ok m ↔
    (∀ c ∈ cs, c.isDigit = true) ∧ m = Nat.ofDigitChars 10 cs n ∧ m ≤ limit := by
  induction cs generalizing n with
  | nil =>
    rw [readDigits, Nat.ofDigitChars_nil]
    constructor
    · intro h
      cases h
      exact ⟨fun _ hc => absurd hc List.not_mem_nil, rfl, hn⟩
    · rintro ⟨-, rfl, -⟩
      rfl
  | cons c cs ih =>
    rw [readDigits, Nat.ofDigitChars_cons, List.forall_mem_cons]
    by_cases hc : c.isDigit = true
    · rw [if_pos hc]
      by_cases hl : limit < 10 * n + digitValue c
      · rw [if_pos hl]
        refine iff_of_false nofun ?_
        rintro ⟨-, rfl, hm⟩
        exact Nat.not_le.2 hl (Nat.le_trans (le_ofDigitChars cs _) hm)
      · rw [if_neg hl, ih (Nat.not_lt.1 hl)]
        exact and_congr_left' (and_iff_right hc).symm
    · rw [if_neg hc]
      exact iff_of_false nofun (fun h => hc h.1.1)

theorem readMagnitude_eq_ok_iff : readMagnitude limit window cs = .ok m ↔
    AreDigits cs ∧ m = Nat.ofDigitChars 10 cs 0 ∧ m ≤ limit := by
  cases cs with
  | nil => exact iff_of_false nofun (fun h => h.1.1 rfl)
  | cons c cs =>
    rw [readMagnitude, readDigits_eq_ok_iff (Nat.zero_le _), AreDigits]
    exact and_congr_left' (and_iff_right (List.cons_ne_nil c cs)).symm

end

theorem Range.holds_iff {r : Range} {n : Int} : r.holds n = true ↔ r.least ≤ n ∧ n ≤ r.greatest := by
  rw [Range.holds, Bool.and_eq_true, decide_eq_true_iff, decide_eq_true_iff]

theorem int64_holds_iff {n : Int} :
    int64.holds n = true ↔ -9223372036854775808 ≤ n ∧ n ≤ 9223372036854775807 := Range.holds_iff

/-- **A range with negative numbers reads the numerals of its numbers**, and no other text. -/
theorem Range.read_eq_ok_iff {r : Range} (hleast : r.least < 0) (hgreatest : 0 ≤ r.greatest) {s : String} {n : Int} :
    r.read s = .ok n ↔ IsNumeral s.toList n ∧ r.holds n = true := by
  rw [Range.holds_iff]
  unfold Range.read
  split
  · rename_i hs
    rw [hs]
    refine iff_of_false nofun ?_
    rintro ⟨h, -⟩
    cases h with
    | unsigned digits => exact digits.1 rfl
  · rename_i cs hs
    rw [hs, isNumeral_plus_iff, map_eq_ok_iff]
    simp only [readMagnitude_eq_ok_iff, Int.ofNat_eq_natCast]
    constructor
    · rintro ⟨m, ⟨digits, rfl, hm⟩, rfl⟩
      exact ⟨⟨digits, rfl⟩, by omega, by omega⟩
    · rintro ⟨⟨digits, rfl⟩, -, hm⟩
      exact ⟨_, ⟨digits, rfl, by omega⟩, rfl⟩
  · rename_i cs hs
    rw [hs, if_pos hleast, isNumeral_minus_iff, map_eq_ok_iff]
    simp only [readMagnitude_eq_ok_iff, Int.ofNat_eq_natCast]
    constructor
    · rintro ⟨m, ⟨digits, rfl, hm⟩, rfl⟩
      exact ⟨⟨digits, rfl⟩, by omega, by omega⟩
    · rintro ⟨⟨digits, rfl⟩, hm, -⟩
      exact ⟨_, ⟨digits, rfl, by omega⟩, rfl⟩
  · rename_i hne hplus hminus
    rw [isNumeral_unsigned_iff hplus hminus, map_eq_ok_iff]
    simp only [readDigits_eq_ok_iff (Nat.zero_le _), Int.ofNat_eq_natCast]
    constructor
    · rintro ⟨m, ⟨digits, rfl, hm⟩, rfl⟩
      exact ⟨⟨⟨hne, digits⟩, rfl⟩, by omega, by omega⟩
    · rintro ⟨⟨digits, rfl⟩, -, hm⟩
      exact ⟨_, ⟨digits.2, rfl, by omega⟩, rfl⟩

theorem int64_read_eq_ok_iff {s : String} {n : Int} :
    int64.read s = .ok n ↔ IsNumeral s.toList n ∧ int64.holds n = true :=
  Range.read_eq_ok_iff (by decide) (by decide)

end FacetSql.Numeral
