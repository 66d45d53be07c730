import FacetSql.Table.Lemmas
import FacetSql.Proofs.Checked
/-!
# Sound — rows that fit their heading, without NaN and infinities

A row is sound for a number of columns if it has one cell for each and none of them is a float that is no number.  Every
way to make a float cell gives a finite one or none (`Cell.finite_ofJson`), so writing cells, sorting rows and cutting
them off keep a table sound.
-/
namespace FacetSql

/-- **A float in the cell is finite.** -/
def Cell.Finite : Cell → Prop
  | .float x => x.isFinite = true
  | _ => True

/-- **A row is sound**: one cell for each column, and no float in it is a NaN or an infinity. -/
structure Row.Sound (width : Nat) (row : Row) : Prop where
  length : row.length = width
  finite : ∀ c ∈ row, c.Finite

/-- **A table is sound** if its rows are. -/
def Table.Sound (t : Table) : Prop := ∀ row ∈ t.rows, Row.Sound t.heading.width row

namespace Cell

theorem finite_ofFloat (x : Float) : (ofFloat x).Finite := by
  unfold ofFloat
  split
  · assumption
  · trivial

theorem finite_ofMillis (millis : Int) : (ofMillis millis).Finite := by
  unfold ofMillis
  split <;> trivial

theorem finite_ofJson (j : Json) : (ofJson j).Finite := by
  unfold ofJson
  split
  · trivial
  · trivial
  · split
    · trivial
    · exact finite_ofFloat _
  · exact finite_ofFloat _
  · trivial
  · trivial

end Cell

namespace Row

theorem sound_blank (width : Nat) : Sound width (blank width) := by
  refine ⟨length_blank width, fun c hc => ?_⟩
  rw [List.eq_of_mem_replicate hc]
  trivial

theorem Sound.set {width : Nat} {row : Row} (hr : Sound width row) (i : Nat) {c : Cell} (hc : c.Finite) :
    Sound width (row.set i c) := by
  refine ⟨by rw [List.length_set, hr.length], fun d hd => ?_⟩
  rcases List.mem_or_eq_of_mem_set hd with hd | rfl
  · exact hr.finite d hd
  · exact hc

/-- **Whatever is read from a row is finite**, at a place beyond the row too. -/
theorem finite_cell {row : Row} (hf : ∀ c ∈ row, c.Finite) (i : Nat) : (row.cell i).Finite := by
  unfold cell
  rw [List.getD_eq_getElem?_getD]
  cases hi : row[i]? with
  | none => trivial
  | some c => exact hf c (List.mem_of_getElem? hi)

end Row

namespace Table

theorem Sound.ofRows {h : Heading} {rows : List Row} (hs : ∀ row ∈ rows, Row.Sound h.width row) :
    Table.ofRows h rows = .ok ⟨h, rows⟩ ∧ Sound ⟨h, rows⟩ :=
  ⟨ofRows_of_length (fun row hrow => (hs row hrow).length), hs⟩

theorem Sound.sortBy {t : Table} (ht : t.Sound) (label : String) (descending : Bool) :
    (t.sortBy label descending).Sound := by
  intro row hrow
  rw [heading_sortBy]
  exact ht row ((t.rows_sortBy_perm label descending).mem_iff.1 hrow)

theorem Sound.truncate {t : Table} (ht : t.Sound) (limit : Nat) : (t.truncate limit).Sound :=
  fun row hrow => ht row (List.mem_of_mem_take hrow)

end Table
end FacetSql
