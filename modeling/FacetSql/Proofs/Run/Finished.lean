import FacetSql.Run
import FacetSql.Proofs.Table.Sound
/-!
# Finished — what sorting and cutting off keep

Sorting and cutting off keep the heading and drop rows at most, so what holds of all rows holds behind them.
-/
namespace FacetSql.Run

/-- The table sorted by an order, if there is one. -/
def sortedAs : Option SortOrder → Table → Table
  | none, t => t
  | some order, t => t.sortBy order.label order.descending

/-- The table cut off at a limit, if there is one. -/
def cutAs : Option Nat → Table → Table
  | none, t => t
  | some limit, t => t.truncate limit

/-- **Finishing a table is sorting it and then cutting it off.** -/
theorem finish_eq (level : Level) (t : Table) : finish level t = cutAs level.limit (sortedAs level.order t) := by
  unfold finish
  cases level.order <;> cases level.limit <;> rfl

theorem heading_sortedAs (order : Option SortOrder) (t : Table) : (sortedAs order t).heading = t.heading := by
  cases order with
  | none => rfl
  | some order => exact t.heading_sortBy order.label order.descending

theorem length_rows_sortedAs (order : Option SortOrder) (t : Table) :
    (sortedAs order t).rows.length = t.rows.length := by
  cases order with
  | none => rfl
  | some order => exact t.length_rows_sortBy order.label order.descending

theorem heading_finish (level : Level) (t : Table) : (finish level t).heading = t.heading := by
  unfold finish
  cases level.order <;> cases level.limit <;> simp [Table.truncate, Table.heading_sortBy]

theorem rows_finish_ne_nil_iff (level : Level) (t : Table) :
    (finish level t).rows ≠ [] ↔ t.rows ≠ [] ∧ level.limit ≠ some 0 := by
  have hsort : ∀ label descending, (t.sortBy label descending).rows = [] ↔ t.rows = [] := by
    intro label descending
    have hperm := t.rows_sortBy_perm label descending
    exact ⟨fun h => (h ▸ hperm).nil_eq.symm, fun h => (h ▸ hperm).eq_nil⟩
  unfold finish
  cases level.order <;> cases level.limit <;> simp [Table.truncate, hsort, and_comm]

theorem sound_finish (level : Level) {t : Table} (ht : t.Sound) : (finish level t).Sound := by
  have hsorted : (sortedAs level.order t).Sound := by
    unfold sortedAs
    split
    · exact ht
    · exact ht.sortBy _ _
  rw [finish_eq]
  unfold cutAs
  split
  · exact hsorted
  · exact hsorted.truncate _

end FacetSql.Run
