import FacetSql.Heading.Lemmas
import Mathlib.Data.List.Nodup
import Mathlib.Data.Nat.Find
/-!
# FreeName — the search for a name that is not taken

The search tries the base, then the base with one counter after the other.  No two candidates are the same, so among
one more of them than there are names taken one is free (`exists_endsAt`), and the first free one is what the search
finds (`freeName_eq_candidate`).
-/
namespace FacetSql

/-- The characters of a text may all stand in the name of an aggregation. -/
def IsAggName (s : String) : Prop := ∀ c ∈ s.toList, isAggNameChar c = true

theorem isAggName_aggNameOf (label : String) : IsAggName (aggNameOf label) := by
  intro c hc
  rw [aggNameOf, String.toList_map, List.mem_map] at hc
  obtain ⟨d, -, rfl⟩ := hc
  split
  · assumption
  · decide

theorem IsAggName.append {s t : String} (hs : IsAggName s) (ht : IsAggName t) : IsAggName (s ++ t) := by
  intro c hc
  rw [String.toList_append, List.mem_append] at hc
  exact hc.elim (hs c) (ht c)

theorem isAggName_toString (n : Nat) : IsAggName (toString n) := by
  intro c hc
  rw [Nat.toString_eq_ofList_toDigits, String.toList_ofList] at hc
  have hd := Nat.isDigit_of_mem_toDigits (by decide) (by decide) hc
  simp [isAggNameChar, Char.isAlphanum, hd]

theorem isAggName_underscore : IsAggName "_" := by
  intro c hc
  rw [show "_".toList = ['_'] from rfl, List.mem_singleton] at hc
  subst hc
  rfl

theorem IsAggName.numbered {s : String} (hs : IsAggName s) (n : Nat) : IsAggName (s ++ "_" ++ toString n) :=
  (hs.append isAggName_underscore).append (isAggName_toString n)

namespace Heading

theorem isAggName_candidate {base : String} (hb : IsAggName base) : ∀ n, IsAggName (candidate base n)
  | 0 => hb
  | n + 1 => hb.numbered (n + 1)

theorem leftInverse_counter : Function.LeftInverse (fun s : String => Nat.ofDigitChars 10 s.toList 0) toString := by
  intro n
  simp

theorem length_lt_candidate (base : String) (n : Nat) : base.length < (candidate base (n + 1)).length := by
  have hlen : "_".length = 1 := rfl
  rw [candidate, String.length_append, String.length_append]
  omega

/-- **No two candidates are the same.** -/
theorem candidate_injective (base : String) : Function.Injective (candidate base)
  | 0, 0, _ => rfl
  | 0, n + 1, h => absurd (congrArg String.length h) (Nat.ne_of_lt (length_lt_candidate base n))
  | m + 1, 0, h => absurd (congrArg String.length h) (Nat.ne_of_gt (length_lt_candidate base m))
  | _ + 1, _ + 1, h => leftInverse_counter.injective ((String.append_right_inj (base ++ "_")).1 h)

/-- **The search ends at a step**: what was tried before is taken, and what is tried there is free. -/
def EndsAt (taken : List String) (base : String) (n : Nat) : Prop :=
  candidate base n ∉ taken ∧ ∀ m < n, candidate base m ∈ taken

theorem exists_free (taken : List String) (base : String) : ∃ n ≤ taken.length, candidate base n ∉ taken := by
  by_contra hall
  push Not at hall
  have hsub : (List.range (taken.length + 1)).map (candidate base) ⊆ taken := by
    intro s hs
    obtain ⟨n, hn, rfl⟩ := List.mem_map.1 hs
    exact hall n (Nat.lt_succ_iff.1 (List.mem_range.1 hn))
  have hnd : ((List.range (taken.length + 1)).map (candidate base)).Nodup :=
    List.nodup_range.map (candidate_injective base)
  have hlen := hnd.length_le_of_subset hsub
  rw [List.length_map, List.length_range] at hlen
  omega

/-- **The search ends**, after no more steps than there are names taken. -/
theorem exists_endsAt (taken : List String) (base : String) : ∃ n ≤ taken.length, EndsAt taken base n := by
  obtain ⟨n, hn, hfree⟩ := exists_free taken base
  have hex : ∃ n, candidate base n ∉ taken := ⟨n, hfree⟩
  refine ⟨Nat.find hex, Nat.le_trans (Nat.find_min' hex hfree) hn, Nat.find_spec hex, fun m hm => ?_⟩
  exact Classical.not_not.1 (Nat.find_min hex hm)

theorem freeName_eq_candidate {taken : List String} {base : String} {n : Nat} (hn : n ≤ taken.length)
    (h : EndsAt taken base n) : freeName taken base = candidate base n := by
  have hfind : (List.range (taken.length + 1)).find? (fun n => !taken.contains (candidate base n)) = some n := by
    rw [List.find?_range_eq_some]
    refine ⟨by simpa using h.1, by simpa using Nat.lt_succ_iff.2 hn, fun m hm => by simpa using h.2 m hm⟩
  rw [freeName, hfind]

theorem freeName_not_mem (taken : List String) (base : String) : freeName taken base ∉ taken := by
  obtain ⟨n, hn, h⟩ := exists_endsAt taken base
  rw [freeName_eq_candidate hn h]
  exact h.1

theorem isAggName_freeName (taken : List String) {base : String} (hb : IsAggName base) :
    IsAggName (freeName taken base) := by
  obtain ⟨n, hn, h⟩ := exists_endsAt taken base
  rw [freeName_eq_candidate hn h]
  exact isAggName_candidate hb n

end Heading
end FacetSql
