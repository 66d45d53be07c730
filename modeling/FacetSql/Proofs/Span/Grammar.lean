import FacetSql.Span
import FacetSql.Proofs.Numeral.Grammar
/-!
# Grammar — the texts of spans of time

A span is a numeral that is not negative, or such a numeral directly followed by a unit (`IsSpan`).  `read` takes
exactly the spans of 64 signed bits, between blanks (`read_eq_ok_iff`): a numeral ends with a digit and no unit is one,
so the two readings of a text do not meet.
-/
namespace FacetSql.Span

open Numeral

/-- **The texts of spans**, and their milliseconds. -/
inductive IsSpan : List Char → Int → Prop where
  | millis {cs : List Char} {n : Int} (numeral : IsNumeral cs n) (nonneg : 0 ≤ n) : IsSpan cs n
  | units {cs : List Char} {c : Char} {k millis : Int} (numeral : IsNumeral cs k) (nonneg : 0 ≤ k)
      (unit : unitMillis? c = some millis) : IsSpan (cs ++ [c]) (k * millis)

section

variable {s literal : String} {cs : List Char} {c : Char} {ms n k millis : Int}

theorem millis_pos (h : unitMillis? c = some millis) : 1 ≤ millis := by
  unfold unitMillis? at h
  split at h <;> cases h <;> decide

theorem isDigit_of_unit (h : unitMillis? c = some millis) : c.isDigit = false := by
  unfold unitMillis? at h
  split at h <;> cases h <;> rfl

theorem not_isNumeral_of_unit (h : unitMillis? c = some millis) : ¬ IsNumeral (cs ++ [c]) n := by
  intro hn
  have hdigit := hn.isDigit_last
  rw [isDigit_of_unit h] at hdigit
  cases hdigit

theorem number?_eq_some_iff : number? s = some n ↔ IsNumeral s.toList n ∧ int64.holds n = true := by
  rw [← int64_read_eq_ok_iff, number?]
  cases int64.read s <;> simp [Except.toOption]

theorem scaled_eq_ok_iff : scaled literal k millis = .ok ms ↔ 0 ≤ k ∧ k * millis = ms ∧ int64.holds ms = true := by
  unfold scaled
  by_cases hk : k < 0
  · rw [if_pos hk]
    exact iff_of_false nofun (fun h => by omega)
  · by_cases hfits : int64.holds (k * millis) = true
    · rw [if_neg hk, if_pos hfits]
      constructor
      · intro h
        cases h
        exact ⟨Int.not_lt.1 hk, rfl, hfits⟩
      · rintro ⟨-, rfl, -⟩
        rfl
    · rw [if_neg hk, if_neg hfits]
      refine iff_of_false nofun ?_
      rintro ⟨-, rfl, h⟩
      exact hfits h

/-- **A multiplier and its unit**, with a product of 64 signed bits. -/
theorem readUnit_eq_ok_iff : readUnit literal = .ok ms ↔ int64.holds ms = true ∧ ∃ cs c k millis,
    literal.toList = cs ++ [c] ∧ IsNumeral cs k ∧ 0 ≤ k ∧ unitMillis? c = some millis ∧ k * millis = ms := by
  unfold readUnit
  cases hlast : literal.toList.getLast? with
  | none =>
    refine iff_of_false nofun ?_
    rintro ⟨-, cs, c, k, millis, htext, -⟩
    rw [htext, List.getLast?_concat] at hlast
    cases hlast
  | some c =>
    obtain ⟨cs, htext⟩ := List.getLast?_eq_some_iff.1 hlast
    have hfront : literal.toList.dropLast = cs := by rw [htext, List.dropLast_concat]
    have hunique : ∀ {cs' c'}, literal.toList = cs' ++ [c'] → cs' = cs ∧ c' = c := by
      intro cs' c' h
      obtain ⟨hcs, hc⟩ := List.append_inj' (h.symm.trans htext) rfl
      exact ⟨hcs, (List.cons.inj hc).1⟩
    dsimp only
    cases hunit : unitMillis? c with
    | none =>
      refine iff_of_false nofun ?_
      rintro ⟨-, cs', c', k, millis, h, -, -, hmillis, -⟩
      rw [(hunique h).2, hunit] at hmillis
      cases hmillis
    | some millis =>
      dsimp only
      rw [hfront]
      cases hnumber : number? (String.ofList cs) with
      | none =>
        refine iff_of_false nofun ?_
        rintro ⟨hfits, cs', c', k, millis', h, hk, hnonneg, hmillis, rfl⟩
        obtain ⟨rfl, rfl⟩ := hunique h
        -- a multiplier is no greater than the product, so it is within the range as well
        have hpos := millis_pos hmillis
        have hle : k * 1 ≤ k * millis' := Int.mul_le_mul_of_nonneg_left hpos hnonneg
        have hsmall : int64.holds k = true := by
          rw [int64_holds_iff] at hfits ⊢
          omega
        rw [number?_eq_some_iff.2 ⟨by rwa [String.toList_ofList], hsmall⟩] at hnumber
        cases hnumber
      | some k =>
        obtain ⟨hk, -⟩ := number?_eq_some_iff.1 hnumber
        rw [String.toList_ofList] at hk
        rw [scaled_eq_ok_iff]
        constructor
        · rintro ⟨hnonneg, hproduct, hfits⟩
          exact ⟨hfits, cs, c, k, millis, htext, hk, hnonneg, hunit, hproduct⟩
        · rintro ⟨hfits, cs', c', k', millis', h, hk', hnonneg, hmillis, hproduct⟩
          obtain ⟨rfl, rfl⟩ := hunique h
          rw [hunit] at hmillis
          cases hmillis
          rw [hk.unique hk']
          exact ⟨hnonneg, hproduct, hfits⟩

theorem isSpan_iff : IsSpan cs ms ↔ IsNumeral cs ms ∧ 0 ≤ ms ∨
    ∃ front c k millis, cs = front ++ [c] ∧ IsNumeral front k ∧ 0 ≤ k ∧ unitMillis? c = some millis ∧
      k * millis = ms := by
  constructor
  · intro h
    cases h with
    | millis numeral nonneg => exact .inl ⟨numeral, nonneg⟩
    | units numeral nonneg unit => exact .inr ⟨_, _, _, _, rfl, numeral, nonneg, unit, rfl⟩
  · rintro (⟨numeral, nonneg⟩ | ⟨front, c, k, millis, rfl, numeral, nonneg, unit, rfl⟩)
    · exact .millis numeral nonneg
    · exact .units numeral nonneg unit

theorem IsSpan.nonneg (h : IsSpan cs ms) : 0 ≤ ms := by
  cases h with
  | millis _ nonneg => exact nonneg
  | units _ nonneg unit => exact Int.mul_nonneg nonneg (Int.le_trans (by decide) (millis_pos unit))

/-- **Exactly the spans of 64 signed bits are read**, between blanks. -/
theorem read_eq_ok_iff : read s = .ok ms ↔ IsSpan (Text.trim s).toList ms ∧ int64.holds ms = true := by
  unfold read
  dsimp only
  rw [isSpan_iff]
  cases hnumber : number? (Text.trim s) with
  | none =>
    dsimp only
    rw [readUnit_eq_ok_iff, and_comm]
    refine and_congr_left (fun hfits => (or_iff_right ?_).symm)
    rintro ⟨hn, -⟩
    rw [number?_eq_some_iff.2 ⟨hn, hfits⟩] at hnumber
    cases hnumber
  | some n =>
    obtain ⟨hn, hfits⟩ := number?_eq_some_iff.1 hnumber
    have hnot : ¬ ∃ front c k millis, (Text.trim s).toList = front ++ [c] ∧ IsNumeral front k ∧ 0 ≤ k ∧
        unitMillis? c = some millis ∧ k * millis = ms := by
      rintro ⟨front, c, k, millis, htext, -, -, hunit, -⟩
      rw [htext] at hn
      exact not_isNumeral_of_unit hunit hn
    dsimp only
    rw [or_iff_left hnot]
    by_cases hneg : n < 0
    · rw [if_pos hneg]
      refine iff_of_false nofun ?_
      rintro ⟨⟨hms, hnonneg⟩, -⟩
      rw [hn.unique hms] at hneg
      omega
    · rw [if_neg hneg]
      constructor
      · intro h
        cases h
        exact ⟨⟨hn, Int.not_lt.1 hneg⟩, hfits⟩
      · rintro ⟨⟨hms, -⟩, -⟩
        rw [hn.unique hms]

/-- **An interval is a span that is not zero.** -/
theorem interval_eq_ok_iff : interval s = .ok ms ↔
    IsSpan (Text.trim s).toList ms ∧ 1 ≤ ms ∧ int64.holds ms = true := by
  unfold interval
  rw [bind_eq_ok_iff]
  constructor
  · rintro ⟨n, hn, h⟩
    obtain ⟨hspan, hfits⟩ := read_eq_ok_iff.1 hn
    have hnonneg := hspan.nonneg
    split at h
    · cases h
    · cases h
      exact ⟨hspan, by omega, hfits⟩
  · rintro ⟨hspan, hpos, hfits⟩
    refine ⟨ms, read_eq_ok_iff.2 ⟨hspan, hfits⟩, ?_⟩
    rw [if_neg (by omega)]
    rfl

end

end FacetSql.Span
