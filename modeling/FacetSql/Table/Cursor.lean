import FacetSql.Table.Basic
/-!
# Cursor — reading a table row by row

A cursor stands between two rows.  `next` gives the row behind it and steps over it, `rewind` goes back before the first
row, and `close` lets the rows go for good.  `scan` is a loop over the rows that `next` gives.
-/
namespace FacetSql

/-- **A reader of a table.** -/
structure Cursor where
  table : Table
  position : Nat
  closed : Bool

namespace Cursor

/-- A cursor before the first row. -/
def ofTable (t : Table) : Cursor := ⟨t, 0, false⟩

/-- The columns of the rows. -/
def heading (c : Cursor) : Heading := c.table.heading

/-- **The next row**, and the cursor behind it. -/
def next (c : Cursor) : Option Row × Cursor :=
  if c.closed then (none, c)
  else
    match c.table.rows[c.position]? with
    | none => (none, c)
    | some row => (some row, { c with position := c.position + 1 })

/-- The cursor before the first row. -/
def rewind (c : Cursor) : Cursor := { c with position := 0 }

/-- The cursor without its rows. -/
def close (c : Cursor) : Cursor := ⟨⟨c.heading, []⟩, 0, true⟩

/-- The rows that `next` has yet to give. -/
def rest (c : Cursor) : List Row :=
  if c.closed then [] else c.table.rows.drop c.position

/-- The row that `next` gives is the first of those that are left. -/
theorem rest_of_next {c behind : Cursor} {row : Row} (h : c.next = (some row, behind)) :
    c.rest = row :: behind.rest := by
  unfold next at h
  split at h
  · cases h
  · rename_i hopen
    split at h
    · cases h
    · rename_i hrow
      cases h
      obtain ⟨hlt, hget⟩ := List.getElem?_eq_some_iff.1 hrow
      simp only [rest, hopen, Bool.false_eq_true, if_false]
      rw [List.drop_eq_getElem_cons hlt, hget]

/-- **Reads row after row** until there are none or a step is done with reading: what the steps came to, and the cursor
behind the last row that was read. -/
def scan {σ : Type} (step : σ → Row → ForInStep σ) (s : σ) (c : Cursor) : σ × Cursor :=
  match _ : c.next with
  | (none, behind) => (s, behind)
  | (some row, behind) =>
    match step s row with
    | .done s => (s, behind)
    | .yield s => behind.scan step s
termination_by c.rest.length
decreasing_by simp [rest_of_next ‹_›]

end Cursor
end FacetSql
