import FacetSql.Cell.Order
import FacetSql.Heading.Basic
/-!
# Table — rows under a heading

A row has exactly one cell for each column; `push` refuses any other.  Sorting is stable and truncation keeps the first
rows.
-/
namespace FacetSql

namespace Row

/-- A row of missing cells. -/
def blank (width : Nat) : Row := List.replicate width .null

/-- The cell at a position; beyond the row there are only missing cells. -/
def cell (row : Row) (index : Nat) : Cell := row.getD index .null

end Row

/-- **The rows of a result and the heading that describes them.** -/
structure Table where
  heading : Heading
  rows : List Row

namespace Table

/-- A table without rows. -/
def empty (heading : Heading) : Table := ⟨heading, []⟩

/-- **Appends a row** with one cell for each column. -/
def push (t : Table) (row : Row) : Except Failure Table :=
  if row.length = t.heading.width then .ok ⟨t.heading, t.rows ++ [row]⟩ else .error .rowWidth

/-- **A table of the given rows**, appended one after the other. -/
def ofRows (heading : Heading) (rows : List Row) : Except Failure Table :=
  rows.foldlM push (empty heading)

/-- The first rows. -/
def truncate (t : Table) (limit : Nat) : Table := ⟨t.heading, t.rows.take limit⟩

/-- Puts a row into a list in descending order, behind the rows it is not below. -/
def placeRow (order : Row → Row → Ordering) (row : Row) : List Row → List Row
  | [] => [row]
  | last :: before =>
    match order row last with
    | .lt => last :: placeRow order row before
    | _ => row :: last :: before

/-- **The rows in ascending order.**  Each row in turn moves forward over the rows that come after it; rows that
compare equal keep their order. -/
def sortRows (order : Row → Row → Ordering) (rows : List Row) : List Row :=
  (rows.foldl (fun sorted row => placeRow order row sorted) []).reverse

/-- The order of rows by the cell at a position. -/
def rowOrder (index : Nat) (descending : Bool) (a b : Row) : Ordering :=
  Cell.compareIn descending (a.cell index) (b.cell index)

/-- **The table sorted by the column of a label**; `none` if there is no such column. -/
def sortBy? (t : Table) (label : String) (descending : Bool) : Option Table :=
  (t.heading.byLabel? label).map (fun c => ⟨t.heading, sortRows (rowOrder c.index descending) t.rows⟩)

/-- The table sorted by the column of a label, or as it is if there is no such column. -/
def sortBy (t : Table) (label : String) (descending : Bool) : Table :=
  (t.sortBy? label descending).getD t

/-- **The report of a table**: names and operators of the columns, the rows, and their number. -/
def report (t : Table) : Json :=
  .ofMembers [
    ("columns", .array (t.heading.columns.map (fun c =>
      .ofMembers [("name", .text c.label), ("operator", .text c.operator.code)]))),
    ("rows", .array (t.rows.map (fun row => .array (row.map Cell.toJson)))),
    ("rowCount", .int t.rows.length)]

end Table
end FacetSql
