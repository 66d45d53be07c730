import FacetSql.Answer.Rows
/-!
# Answer.Lemmas — the row in hand

Writing and clearing cells keep the length of a row.  Clearing what was written gives back a row whose cells at those
places were missing before (`cleared_written`): this is how a bucket leaves nothing for its neighbour.
-/
namespace FacetSql.Answer

theorem written_cons (row : Row) (w : Write) (ws : List Write) :
    written row (w :: ws) = written (row.set w.1 w.2) ws := rfl

theorem cleared_cons (row : Row) (p : Nat) (ps : List Nat) :
    cleared row (p :: ps) = cleared (row.set p .null) ps := rfl

theorem length_written (row : Row) (writes : List Write) : (written row writes).length = row.length := by
  induction writes generalizing row with
  | nil => rfl
  | cons w ws ih => rw [written_cons, ih, List.length_set]

theorem length_cleared (row : Row) (places : List Nat) : (cleared row places).length = row.length := by
  induction places generalizing row with
  | nil => rfl
  | cons p ps ih => rw [cleared_cons, ih, List.length_set]

/-- Writing leaves all other places as they are. -/
theorem getElem?_written_of_not_mem {writes : List Write} {i : Nat} (hi : i ∉ writes.map (·.1)) (row : Row) :
    (written row writes)[i]? = row[i]? := by
  induction writes generalizing row with
  | nil => rfl
  | cons w ws ih =>
    rw [List.map_cons, List.mem_cons, not_or] at hi
    rw [written_cons, ih hi.2, List.getElem?_set_ne (Ne.symm hi.1)]

/-- **Clearing leaves missing cells at its places** and all other places as they are. -/
theorem getElem?_cleared (row : Row) (places : List Nat) (i : Nat) :
    (cleared row places)[i]? = if i ∈ places then row[i]?.map (fun _ => Cell.null) else row[i]? := by
  induction places generalizing row with
  | nil => rfl
  | cons p ps ih =>
    rw [cleared_cons, ih]
    by_cases hp : i = p
    · subst hp
      rw [if_pos List.mem_cons_self, List.getElem?_set_self']
      cases row[i]? <;> simp
    · rw [List.getElem?_set_ne (Ne.symm hp)]
      by_cases hi : i ∈ ps
      · rw [if_pos hi, if_pos (List.mem_cons_of_mem _ hi)]
      · rw [if_neg hi, if_neg (fun h => (List.mem_cons.1 h).elim hp hi)]

/-- **Clearing what was written gives back the row**, if nothing stood at those places before. -/
theorem cleared_written {row : Row} {writes : List Write} (h : ∀ i ∈ writes.map (·.1), row.cell i = .null) :
    cleared (written row writes) (writes.map (·.1)) = row := by
  apply List.ext_getElem?
  intro i
  rw [getElem?_cleared]
  split
  · next hi =>
    have hlen := length_written row writes
    cases hr : row[i]? with
    | none => rw [List.getElem?_eq_none (hlen ▸ List.getElem?_eq_none_iff.1 hr)]; rfl
    | some c =>
      obtain ⟨hlt, -⟩ := List.getElem?_eq_some_iff.1 hr
      have hc : c = .null := by simpa [Row.cell, hr] using h i hi
      rw [List.getElem?_eq_getElem (hlen ▸ hlt), hc]
      rfl
  · next hi => exact getElem?_written_of_not_mem hi row

end FacetSql.Answer
