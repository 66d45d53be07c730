import FacetSql.Table.Cursor
/-!
# Table.Lemmas — rows through the operations

A row is known by its cells (`Row.ext_cell`), and writing one leaves the others as they are (`Row.cell_set`).  Sorting
permutes the rows (`sortRows_perm`), truncation keeps a front part of them, and both keep the heading.  An open cursor
gives the row at its position (`next_of_open`), the first of those that are left (`next_fst`), so a loop that stops
nowhere folds them (`scan_yield`); and rewinding gives back all of them unless it is closed (`rest_rewind`), wherever a
loop has left it (`rewind_scan`).
-/
namespace FacetSql

namespace Row

theorem length_blank (width : Nat) : (blank width).length = width := List.length_replicate

theorem cell_eq (row : Row) (i : Nat) : row.cell i = row[i]?.getD .null := List.getD_eq_getElem?_getD

theorem cell_of_length_le {row : Row} {i : Nat} (h : row.length ≤ i) : row.cell i = .null := by
  rw [cell_eq, List.getElem?_eq_none h]
  rfl

theorem cell_blank (width i : Nat) : (blank width).cell i = .null := by
  rw [cell_eq, blank, List.getElem?_replicate]
  split <;> rfl

/-- Rows of one length with the same cells are the same. -/
theorem ext_cell {row row' : Row} (hlen : row.length = row'.length) (h : ∀ i, row.cell i = row'.cell i) :
    row = row' := by
  apply List.ext_getElem hlen
  intro i hi hi'
  have hcell := h i
  rwa [cell_eq, cell_eq, List.getElem?_eq_getElem hi, List.getElem?_eq_getElem hi'] at hcell

theorem cell_set_self {row : Row} {i : Nat} (hi : i < row.length) (c : Cell) : cell (row.set i c) i = c := by
  simp [cell, List.getElem?_set_self hi]

theorem cell_set_ne {row : Row} {i j : Nat} (h : i ≠ j) (c : Cell) : cell (row.set i c) j = row.cell j := by
  simp [cell, List.getElem?_set_ne h]

theorem cell_set (row : Row) (i j : Nat) (c : Cell) :
    cell (row.set i c) j = if i = j ∧ i < row.length then c else row.cell j := by
  by_cases he : i = j
  · subst he
    by_cases hlt : i < row.length
    · rw [if_pos ⟨rfl, hlt⟩, cell_set_self hlt]
    · rw [if_neg (fun h => hlt h.2), List.set_eq_of_length_le (Nat.le_of_not_lt hlt)]
  · rw [if_neg (fun h => he h.1), cell_set_ne he]

theorem cell_set_null (row : Row) (i j : Nat) : cell (row.set i .null) j = if i = j then .null else row.cell j := by
  rw [cell_set]
  by_cases he : i = j
  · subst he
    by_cases hlt : i < row.length
    · rw [if_pos ⟨rfl, hlt⟩, if_pos rfl]
    · rw [if_neg (fun h => hlt h.2), if_pos rfl, cell_of_length_le (Nat.le_of_not_lt hlt)]
  · rw [if_neg (fun h => he h.1), if_neg he]

/-- **A cell that was missing is given back by making it missing again.** -/
theorem set_set_null {row : Row} {i : Nat} (h : row.cell i = .null) (c : Cell) : (row.set i c).set i .null = row := by
  rw [List.set_set]
  refine ext_cell List.length_set (fun j => ?_)
  rw [cell_set_null]
  split
  · rename_i hj
    rw [← hj, h]
  · rfl

end Row

namespace Table

theorem push_eq (t : Table) (row : Row) :
    t.push row = if row.length = t.heading.width then .ok ⟨t.heading, t.rows ++ [row]⟩ else .error .rowWidth := rfl

/-- **Rows are appended in their order**, if each of them fits the heading. -/
theorem foldlM_push_eq_ok_iff {rows : List Row} {t t' : Table} :
    rows.foldlM push t = .ok t' ↔
      (∀ row ∈ rows, row.length = t.heading.width) ∧ t' = ⟨t.heading, t.rows ++ rows⟩ := by
  induction rows generalizing t with
  | nil => simp [pure, Except.pure, eq_comm]
  | cons row rows ih =>
    rw [List.foldlM_cons, push_eq]
    by_cases hrow : row.length = t.heading.width
    · rw [if_pos hrow]
      show rows.foldlM push ⟨t.heading, t.rows ++ [row]⟩ = .ok t' ↔ _
      rw [ih, List.forall_mem_cons, and_iff_right hrow, List.append_assoc]
      rfl
    · rw [if_neg hrow]
      exact iff_of_false nofun (fun h => hrow (h.1 row List.mem_cons_self))

/-- **Every row of a table made from rows fits the heading.** -/
theorem length_of_ofRows {h : Heading} {rows : List Row} {t : Table} (ht : ofRows h rows = .ok t) :
    t = ⟨h, rows⟩ ∧ ∀ row ∈ rows, row.length = h.width := by
  obtain ⟨hrows, rfl⟩ := foldlM_push_eq_ok_iff.1 ht
  exact ⟨rfl, hrows⟩

theorem ofRows_of_length {h : Heading} {rows : List Row} (hl : ∀ row ∈ rows, row.length = h.width) :
    ofRows h rows = .ok ⟨h, rows⟩ :=
  foldlM_push_eq_ok_iff.2 ⟨hl, rfl⟩

theorem placeRow_perm (order : Row → Row → Ordering) (row : Row) : ∀ rows : List Row,
    (placeRow order row rows).Perm (row :: rows)
  | [] => List.Perm.refl _
  | last :: before => by
    rw [placeRow]
    split
    · exact ((placeRow_perm order row before).cons last).trans (List.Perm.swap row last before)
    · exact List.Perm.refl _

theorem foldl_placeRow_perm (order : Row → Row → Ordering) : ∀ (rows sorted : List Row),
    (rows.foldl (fun sorted row => placeRow order row sorted) sorted).Perm (rows ++ sorted)
  | [], _ => List.Perm.refl _
  | row :: rows, sorted =>
    ((foldl_placeRow_perm order rows _).trans ((placeRow_perm order row sorted).append_left rows)).trans
      List.perm_middle

/-- **Sorting permutes the rows.** -/
theorem sortRows_perm (order : Row → Row → Ordering) (rows : List Row) : (sortRows order rows).Perm rows :=
  (List.reverse_perm _).trans (by simpa using foldl_placeRow_perm order rows [])

theorem sortBy_of_unknown {t : Table} {label : String} (h : t.heading.byLabel? label = none) (descending : Bool) :
    t.sortBy label descending = t := by
  rw [sortBy, sortBy?, h]
  rfl

theorem sortBy_of_label {t : Table} {label : String} {c : Column} (h : t.heading.byLabel? label = some c)
    (descending : Bool) :
    t.sortBy label descending = ⟨t.heading, sortRows (rowOrder c.index descending) t.rows⟩ := by
  rw [sortBy, sortBy?, h]
  rfl

theorem heading_sortBy (t : Table) (label : String) (descending : Bool) :
    (t.sortBy label descending).heading = t.heading := by
  unfold sortBy sortBy?
  cases t.heading.byLabel? label <;> rfl

/-- Sorting a table permutes its rows, whether or not the label is known. -/
theorem rows_sortBy_perm (t : Table) (label : String) (descending : Bool) :
    (t.sortBy label descending).rows.Perm t.rows := by
  unfold sortBy sortBy?
  cases t.heading.byLabel? label with
  | none => exact List.Perm.refl _
  | some c => exact sortRows_perm _ _

theorem length_rows_sortBy (t : Table) (label : String) (descending : Bool) :
    (t.sortBy label descending).rows.length = t.rows.length :=
  (t.rows_sortBy_perm label descending).length_eq

theorem length_rows_truncate (t : Table) (limit : Nat) : (t.truncate limit).rows.length = min limit t.rows.length :=
  List.length_take

end Table

namespace Cursor

theorem next_of_closed {c : Cursor} (h : c.closed = true) : c.next = (none, c) := if_pos h

/-- **An open cursor gives the row at its position** and steps over it. -/
theorem next_of_open {c : Cursor} (h : c.closed = false) : c.next =
    (c.table.rows[c.position]?, { c with position := c.position + c.table.rows[c.position]?.toList.length }) := by
  rw [next, if_neg (Bool.eq_false_iff.1 h)]
  cases c.table.rows[c.position]? <;> rfl

/-- **The next row is the first of those that are left.** -/
theorem next_fst (c : Cursor) : c.next.1 = c.rest.head? := by
  unfold next rest
  split
  · rfl
  · rw [List.head?_drop]
    split
    · next h => exact h.symm
    · next h => exact h.symm

theorem rest_of_next_eq_none {c behind : Cursor} (h : c.next = (none, behind)) : c.rest = [] := by
  rw [← List.head?_eq_none_iff, ← next_fst, h]

/-- **Rewinding an open cursor gives back all rows.** -/
theorem rest_rewind (c : Cursor) : c.rewind.rest = if c.closed then [] else c.table.rows := by
  simp [rest, rewind]

theorem heading_eq_of_rewind_eq {c d : Cursor} (h : c.rewind = d.rewind) : c.heading = d.heading := by
  have hheading : c.rewind.heading = d.rewind.heading := by rw [h]
  exact hheading

theorem rewind_next (c : Cursor) : c.next.2.rewind = c.rewind := by
  unfold next
  split
  · rfl
  · split <;> rfl

section

variable {σ : Type}

/-- **A loop leaves its cursor over the same rows.** -/
theorem rewind_scan (step : σ → Row → ForInStep σ) (s : σ) (c : Cursor) : (c.scan step s).2.rewind = c.rewind := by
  fun_induction scan step s c with
  | case1 s c behind hnext => rw [← rewind_next c, hnext]
  | case2 s c row behind hnext s' hstep => rw [← rewind_next c, hnext]
  | case3 s c row behind hnext s' hstep ih => rw [ih, ← rewind_next c, hnext]

/-- **A loop that stops nowhere folds the rows that are left.** -/
theorem scan_yield (step : σ → Row → σ) (s : σ) (c : Cursor) :
    (c.scan (fun s row => .yield (step s row)) s).1 = c.rest.foldl step s := by
  fun_induction scan (fun s row => .yield (step s row)) s c with
  | case1 s c behind hnext => rw [rest_of_next_eq_none hnext, List.foldl_nil]
  | case2 s c row behind hnext s' hstep => cases hstep
  | case3 s c row behind hnext s' hstep ih =>
    cases hstep
    rw [ih, rest_of_next hnext, List.foldl_cons]

end

end Cursor
end FacetSql
