import FacetSql.Heading.Column
import FacetSql.Failure
/-!
# Heading — the columns of a result in order

Columns are added one after the other.  A label may be used once; an aggregation name that is taken gets the column's
index behind it, and a counter behind that for as long as the name is still taken.

Columns are searched for in the list.  Maps from labels and names to places, kept beside it, would find the same
(`Indices.lookUps_of_built`).
-/
namespace FacetSql

/-- **The columns of a result.** -/
structure Heading where
  columns : List Column

namespace Heading

/-- No columns. -/
def empty : Heading := ⟨[]⟩

/-- The column of a label, letter by letter. -/
def byLabel? (h : Heading) (label : String) : Option Column :=
  h.columns.find? (fun c => c.label == label)

/-- The column of an aggregation name. -/
def byAggName? (h : Heading) (name : String) : Option Column :=
  h.columns.find? (fun c => c.aggName == name)

/-- The aggregation names in use. -/
def aggNames (h : Heading) : List String := h.columns.map (·.aggName)

/-- The name tried at step `n`: the base, then the base with a counter. -/
def candidate (base : String) : Nat → String
  | 0 => base
  | n + 1 => base ++ "_" ++ toString (n + 1)

/-- **A name that is not taken**: the first candidate that is free.  One more candidate than there are names is always
enough. -/
def freeName (taken : List String) (base : String) : String :=
  match (List.range (taken.length + 1)).find? (fun n => !taken.contains (candidate base n)) with
  | some n => candidate base n
  | none => base

/-- **Appends a column**, giving it its index and an aggregation name of its own. -/
def add (h : Heading) (c : Column) : Except Failure Heading :=
  if (h.byLabel? c.label).isSome then .error (.compile (.duplicateLabel c.label))
  else
    let index := h.columns.length
    let name :=
      if h.aggNames.contains c.aggName then freeName h.aggNames (c.aggName ++ "_" ++ toString index) else c.aggName
    .ok ⟨h.columns ++ [{ c with index := index, aggName := name }]⟩

/-- The number of columns. -/
def width (h : Heading) : Nat := h.columns.length

/-- The columns computed by metrics of the engine. -/
def metricColumns (h : Heading) : List Column := h.columns.filter (·.isMetric)

/-- The columns filled from document counts. -/
def countColumns (h : Heading) : List Column := h.columns.filter (·.isDocCount)

/-- Some column is more than a field. -/
def hasAggregates (h : Heading) : Bool := h.columns.any (fun c => c.operator != .plain)

end Heading
end FacetSql
