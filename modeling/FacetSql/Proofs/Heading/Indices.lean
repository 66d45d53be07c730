import Std.Data.HashMap
import FacetSql.Proofs.Heading.WellFormed
/-!
# Indices — columns looked up by maps

A heading may be kept together with two maps, from labels and from aggregation names to places, into which every added
column is entered.  The maps stay in step with the list of columns (`InStep.add`), so what they say of a label or a name
is what a search of the list says (`lookUps_of_built`), and the list alone is enough.
-/
namespace FacetSql.Heading

/-- **The places of columns** by label and by aggregation name. -/
structure Indices where
  labels : Std.HashMap String Nat
  names : Std.HashMap String Nat

namespace Indices

/-- No places. -/
def empty : Indices := ⟨∅, ∅⟩

/-- The places with a column entered under its label and its name. -/
def enter (m : Indices) (c : Column) : Indices :=
  ⟨m.labels.insert c.label c.index, m.names.insert c.aggName c.index⟩

/-- The places of the columns of a heading, entered in its order. -/
def ofHeading (h : Heading) : Indices := h.columns.foldl enter empty

/-- **Maps in step with a heading**: they say the place of the column that a search of the list finds. -/
structure InStep (m : Indices) (h : Heading) : Prop where
  labels : ∀ label, m.labels[label]? = (h.byLabel? label).map (·.index)
  names : ∀ name, m.names[name]? = (h.byAggName? name).map (·.index)

theorem inStep_empty : InStep empty Heading.empty :=
  ⟨fun _ => by simp [empty, Heading.empty, byLabel?], fun _ => by simp [empty, Heading.empty, byAggName?]⟩

/-- A column behind others is found by its own key, if none of them has it. -/
theorem index_find?_concat (key : Column → String) {cs : List Column} {c : Column} (hnew : key c ∉ cs.map key)
    (k : String) : ((cs ++ [c]).find? (fun d => key d == k)).map (·.index) =
      if key c == k then some c.index else (cs.find? (fun d => key d == k)).map (·.index) := by
  rw [List.find?_append, List.find?_singleton]
  by_cases hk : key c = k
  · have hnone : cs.find? (fun d => key d == k) = none := by
      refine List.find?_eq_none.2 (fun d hd he => hnew ?_)
      exact List.mem_map.2 ⟨d, hd, (beq_iff_eq.1 he).trans hk.symm⟩
    rw [hnone, if_pos (beq_iff_eq.2 hk), if_pos (beq_iff_eq.2 hk)]
    rfl
  · rw [if_neg (by simpa using hk), if_neg (by simpa using hk), Option.or_none]

/-- **Entering each column as it is added keeps the maps in step.** -/
theorem InStep.add {m : Indices} {h h' : Heading} {c : Column} (hm : m.InStep h) (ha : h.add c = .ok h') :
    (m.enter (h.placed c)).InStep h' := by
  obtain ⟨hlabel, rfl⟩ := add_eq_ok_iff.1 ha
  refine ⟨fun label => ?_, fun name => ?_⟩
  · rw [enter, Std.HashMap.getElem?_insert, hm.labels]
    exact (index_find?_concat Column.label (c := h.placed c) hlabel label).symm
  · rw [enter, Std.HashMap.getElem?_insert, hm.names]
    exact (index_find?_concat Column.aggName (c := h.placed c) (h.nameFor_not_mem c) name).symm

theorem inStep_reach (cs : List Column) : (ofHeading (Heading.empty.reach cs)).InStep (Heading.empty.reach cs) := by
  refine reach_induction (motive := fun h => (ofHeading h).InStep h) inStep_empty (fun h c h' _ hm ha => ?_)
  have hentered : ofHeading h' = (ofHeading h).enter (h.placed c) := by
    obtain ⟨-, rfl⟩ := add_eq_ok_iff.1 ha
    rw [ofHeading, List.foldl_append]
    rfl
  rw [hentered]
  exact hm.add ha

/-- The column at a place that a search has found. -/
theorem bind_index_eq {h : Heading} (hi : h.Indexed) {found : Option Column} (hf : ∀ c, found = some c → c ∈ h.columns) :
    (found.map (·.index)).bind (h.columns[·]?) = found := by
  cases found with
  | none => rfl
  | some c => exact hi.getElem?_index (hf c rfl)

/-- **Maps and list give the same columns**, and know the same labels and names, in every heading that attempts to add
columns lead to. -/
theorem lookUps_of_built {h : Heading} (hb : h.Built) :
    (∀ label, (ofHeading h).labels[label]?.bind (h.columns[·]?) = h.byLabel? label ∧
      (ofHeading h).labels.contains label = (h.byLabel? label).isSome) ∧
    ∀ name, (ofHeading h).names[name]?.bind (h.columns[·]?) = h.byAggName? name ∧
      (ofHeading h).names.contains name = h.aggNames.contains name := by
  obtain ⟨cs, rfl⟩ := id hb
  have hm := inStep_reach cs
  refine ⟨fun label => ⟨?_, ?_⟩, fun name => ⟨?_, ?_⟩⟩
  · rw [hm.labels]
    exact bind_index_eq hb.indexed (fun c hc => List.mem_of_find?_eq_some hc)
  · rw [Std.HashMap.contains_eq_isSome_getElem?, hm.labels, Option.isSome_map]
  · rw [hm.names]
    exact bind_index_eq hb.indexed (fun c hc => List.mem_of_find?_eq_some hc)
  · rw [Std.HashMap.contains_eq_isSome_getElem?, hm.names, Option.isSome_map, Bool.eq_iff_iff, byAggName?,
      List.find?_isSome, aggNames, List.contains_iff_mem, List.mem_map]
    simp only [beq_iff_eq]

end Indices
end FacetSql.Heading
