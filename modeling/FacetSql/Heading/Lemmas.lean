import FacetSql.Heading.Basic
/-!
# Heading.Lemmas — what adding a column does

A column is refused exactly if its label is taken (`add_eq_error_iff`).  Otherwise it stands at the end with its place
as its index, under its own label and a name of its own (`add_eq_ok_iff`).
-/
namespace FacetSql.Heading

/-- The name that a column gets. -/
def nameFor (h : Heading) (c : Column) : String :=
  if h.aggNames.contains c.aggName then freeName h.aggNames (c.aggName ++ "_" ++ toString h.columns.length)
  else c.aggName

/-- The column as it stands in the heading. -/
def placed (h : Heading) (c : Column) : Column :=
  { c with index := h.columns.length, aggName := h.nameFor c }

theorem byLabel?_isSome_iff (h : Heading) (label : String) :
    (h.byLabel? label).isSome = true ↔ label ∈ h.columns.map (·.label) := by
  simp [byLabel?, List.find?_isSome]

theorem add_eq (h : Heading) (c : Column) :
    h.add c = if (h.byLabel? c.label).isSome then .error (.compile (.duplicateLabel c.label))
      else .ok ⟨h.columns ++ [h.placed c]⟩ := rfl

/-- **A column is added at the end if its label is new.** -/
theorem add_eq_ok_iff {h h' : Heading} {c : Column} :
    h.add c = .ok h' ↔ c.label ∉ h.columns.map (·.label) ∧ h' = ⟨h.columns ++ [h.placed c]⟩ := by
  rw [add_eq, ← byLabel?_isSome_iff]
  split
  · next hs => simp [hs]
  · next hs => simp [hs, eq_comm]

/-- **A column is refused if its label is taken.** -/
theorem add_eq_error_iff {h : Heading} {c : Column} :
    (∃ e, h.add c = .error e) ↔ c.label ∈ h.columns.map (·.label) := by
  rw [add_eq, ← byLabel?_isSome_iff]
  split
  · next hs => simp [hs]
  · next hs => simp [hs]

end FacetSql.Heading
