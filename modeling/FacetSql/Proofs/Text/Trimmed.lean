import FacetSql.Text.Blank
import Mathlib.Data.List.DropRight
/-!
# Trimmed — texts without blanks at their ends

Both ends are trimmed in either order (`dropWhile_dropEndWhile`).  So a trimmed text is trimmed (`trim_trim`), and
behind a character that is no blank only the end of a text is.
-/
namespace FacetSql.Text

theorem dropEndWhile_of_all {p : Char → Bool} {cs : List Char} (h : ∀ c ∈ cs, p c = true) : dropEndWhile p cs = [] :=
  List.rdropWhile_eq_nil_iff.2 h

theorem dropEndWhile_cons {p : Char → Bool} {c : Char} {cs : List Char} (h : ¬ ∀ d ∈ c :: cs, p d = true) :
    dropEndWhile p (c :: cs) = c :: dropEndWhile p cs := by
  unfold dropEndWhile
  rw [List.reverse_cons, List.dropWhile_append]
  split
  · rename_i hnil
    rw [List.isEmpty_iff, List.dropWhile_eq_nil_iff] at hnil
    have hc : ¬ p c = true := fun hc => h (List.forall_mem_cons.2 ⟨hc, fun d hd => hnil d (List.mem_reverse.2 hd)⟩)
    rw [List.dropWhile_eq_nil_iff.2 hnil, List.dropWhile_cons_of_neg hc]
    rfl
  · rw [List.reverse_append]
    rfl

theorem dropWhile_dropEndWhile (p : Char → Bool) (cs : List Char) :
    (dropEndWhile p cs).dropWhile p = dropEndWhile p (cs.dropWhile p) := by
  induction cs with
  | nil => rfl
  | cons c cs ih =>
    by_cases hall : ∀ d ∈ c :: cs, p d = true
    · rw [dropEndWhile_of_all hall, List.dropWhile_eq_nil_iff.2 hall]
      rfl
    · rw [dropEndWhile_cons hall]
      by_cases hc : p c = true
      · rw [List.dropWhile_cons_of_pos hc, List.dropWhile_cons_of_pos hc, ih]
      · rw [List.dropWhile_cons_of_neg hc, List.dropWhile_cons_of_neg hc, dropEndWhile_cons hall]

theorem dropEndWhile_dropEndWhile (p : Char → Bool) (cs : List Char) :
    dropEndWhile p (dropEndWhile p cs) = dropEndWhile p cs := List.rdropWhile_idempotent p cs

theorem toList_trim (s : String) : (trim s).toList = dropEndWhile isBlank (s.toList.dropWhile isBlank) := by
  rw [trim, String.toList_ofList]

/-- **A trimmed text is trimmed.** -/
theorem trim_trim (s : String) : trim (trim s) = trim s := by
  rw [trim, toList_trim, dropWhile_dropEndWhile, List.dropWhile_idempotent, dropEndWhile_dropEndWhile, trim]

end FacetSql.Text
