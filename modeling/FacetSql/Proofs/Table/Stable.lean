import FacetSql.Proofs.Table.Sorted
/-!
# Stable — what ORDER BY leaves

Missing cells come last in both directions, the others in the direction, and rows with equal cells stay as they are
(`stable_sortBy`), wherever the cells of the column are in order; then sorting once more changes nothing.
-/
namespace FacetSql

namespace Cell

variable {descending : Bool} {a b : Cell} {cells : List Cell}

theorem eq_null_of_isNull (h : a.isNull = true) : a = .null := by
  cases a with
  | null => rfl
  | bool | int | float | text | instant => cases h

theorem compareIn_of_isNull_eq (h : a.isNull = b.isNull) :
    compareIn descending a b = if descending then b.compare a else a.compare b := by
  cases ha : a.isNull <;> rw [ha] at h <;> simp only [compareIn, ha, ← h]

/-- **What it is to come after another cell**: to be missing where the other is not, or to come after it in the
direction. -/
theorem compareIn_ne_gt_iff : compareIn descending a b ≠ .gt ↔ (a.isNull = true → b.isNull = true) ∧
    (a.isNull = false → b.isNull = false → (if descending then b.compare a else a.compare b) ≠ .gt) := by
  cases ha : a.isNull <;> cases hb : b.isNull
  case false.false =>
    rw [compareIn_of_isNull_eq (ha.trans hb.symm)]
    simp
  case true.true =>
    rw [eq_null_of_isNull ha, eq_null_of_isNull hb]
    cases descending <;> decide
  case false.true | true.false => simp [compareIn, ha, hb]

/-- A missing cell is equal to no other. -/
theorem compare_ne_eq_of_isNull_ne (h : a.isNull ≠ b.isNull) : a.compare b ≠ .eq := by
  cases a with
  | null =>
    cases b with
    | null => exact absurd rfl h
    | bool | int | float | text | instant => exact nofun
  | bool | int | float | text | instant =>
    cases b with
    | null => exact nofun
    | bool | int | float | text | instant => exact absurd rfl h

/-- **Equal cells are equal in both directions.** -/
theorem compareIn_eq_eq_iff (hswap : b.compare a = (a.compare b).swap) :
    compareIn descending a b = .eq ↔ a.compare b = .eq := by
  by_cases hnull : a.isNull = b.isNull
  · rw [compareIn_of_isNull_eq hnull]
    cases descending
    · exact Iff.rfl
    · exact (iff_of_eq (congrArg (· = Ordering.eq) hswap)).trans Ordering.swap_eq_eq
  · refine iff_of_false ?_ (compare_ne_eq_of_isNull_ne hnull)
    cases ha : a.isNull <;> cases hb : b.isNull
    case false.false | true.true => exact absurd (ha.trans hb.symm) hnull
    all_goals simp [compareIn, ha, hb]

/-- **Missing cells last, and any direction**, make an order of an order. -/
theorem preorderOn_compareIn (h : PreorderOn Cell.compare cells) (descending : Bool) :
    PreorderOn (Cell.compareIn descending) cells := by
  constructor
  · intro a ha b hb
    cases hna : a.isNull <;> cases hnb : b.isNull
    case false.true | true.false => simp [compareIn, hna, hnb]
    all_goals
      rw [compareIn_of_isNull_eq (hna.trans hnb.symm), compareIn_of_isNull_eq (hnb.trans hna.symm)]
      cases descending
      · exact h.swap a ha b hb
      · exact h.swap b hb a ha
  · intro a ha b hb c hc hab hbc
    rw [compareIn_ne_gt_iff] at hab hbc ⊢
    refine ⟨fun hna => hbc.1 (hab.1 hna), fun hna hnc => ?_⟩
    have hnb : b.isNull = false := by
      cases hnb : b.isNull with
      | false => rfl
      | true =>
        rw [hbc.1 hnb] at hnc
        cases hnc
    have hab := hab.2 hna hnb
    have hbc := hbc.2 hnb hnc
    cases descending
    · exact h.trans a ha b hb c hc hab hbc
    · exact h.trans c hc b hb a ha hbc hab

end Cell

namespace Table

/-- **Rows are in order by a cell** where these cells are in order. -/
theorem preorderOn_rowOrder {index : Nat} {rows : List Row}
    (h : PreorderOn Cell.compare (rows.map (fun row => row.cell index))) (descending : Bool) :
    PreorderOn (rowOrder index descending) rows :=
  (Cell.preorderOn_compareIn h descending).of_map

/-- **A table sorted by the cells at a place**: the same rows, with the missing cells last, the others in the
direction, and those with equal cells as they were. -/
structure SortedFrom (t : Table) (index : Nat) (descending : Bool) (t' : Table) : Prop where
  heading : t'.heading = t.heading
  perm : t'.rows.Perm t.rows
  nullsLast : t'.rows.Pairwise (fun a b => (a.cell index).isNull = true → (b.cell index).isNull = true)
  ordered : t'.rows.Pairwise (fun a b => (a.cell index).isNull = false → (b.cell index).isNull = false →
    (if descending then (b.cell index).compare (a.cell index) else (a.cell index).compare (b.cell index)) ≠ .gt)
  stable : ∀ row ∈ t.rows, t'.rows.filter (fun other => (row.cell index).compare (other.cell index) == .eq) =
    t.rows.filter (fun other => (row.cell index).compare (other.cell index) == .eq)

section

variable {t : Table} {index : Nat}

/-- **Sorting the rows sorts the table.** -/
theorem sortedFrom_sortRows (h : PreorderOn Cell.compare (t.rows.map (fun row => row.cell index))) (descending : Bool) :
    SortedFrom t index descending ⟨t.heading, sortRows (rowOrder index descending) t.rows⟩ := by
  have horder : PreorderOn (rowOrder index descending) t.rows := preorderOn_rowOrder h descending
  have hperm := sortRows_perm (rowOrder index descending) t.rows
  have hsorted := (pairwise_sortRows horder).imp Cell.compareIn_ne_gt_iff.1
  refine ⟨rfl, hperm, hsorted.imp (fun hab => hab.1), hsorted.imp (fun hab => hab.2), fun row hrow => ?_⟩
  -- the rows that compare equal are those that are equal in the direction
  have hequal : ∀ other ∈ t.rows, ((row.cell index).compare (other.cell index) == .eq) =
      (rowOrder index descending row other == .eq) := by
    intro other hother
    rw [Bool.eq_iff_iff, beq_iff_eq, beq_iff_eq]
    exact (Cell.compareIn_eq_eq_iff (h.of_map.swap row hrow other hother)).symm
  rw [List.filter_congr hequal, List.filter_congr (fun other hother => hequal other (hperm.mem_iff.1 hother))]
  exact filter_sortRows horder hrow

end

/-- **ORDER BY is the stable sort, missing cells last in both directions**, wherever the cells of the column are in
order, and sorting again changes nothing.  By an unknown label nothing is sorted. -/
theorem stable_sortBy (t : Table) (label : String) (descending : Bool) :
    (t.heading.byLabel? label = none → t.sortBy? label descending = none ∧ t.sortBy label descending = t) ∧
      ∀ c, t.heading.byLabel? label = some c → PreorderOn Cell.compare (t.rows.map (fun row => row.cell c.index)) →
        ∃ t', t.sortBy? label descending = some t' ∧ SortedFrom t c.index descending t' ∧
          t'.sortBy? label descending = some t' := by
  constructor
  · intro hlabel
    exact ⟨by rw [sortBy?, hlabel]; rfl, sortBy_of_unknown hlabel descending⟩
  · intro c hlabel hcells
    refine ⟨⟨t.heading, sortRows (rowOrder c.index descending) t.rows⟩, by rw [sortBy?, hlabel]; rfl,
      sortedFrom_sortRows hcells descending, ?_⟩
    rw [sortBy?, hlabel, Option.map_some, sortRows_sortRows (preorderOn_rowOrder hcells descending)]

/-- Rows with two missing and two equal cells. -/
def ties : Table :=
  ⟨⟨[.plain "a", { Column.plain "b" with index := 1 }]⟩,
    [[.null, .int 0], [.int 1, .int 1], [.int 2, .int 2], [.int 1, .int 3], [.null, .int 4]]⟩

theorem stable_sortBy_ties : PreorderOn Cell.compare (ties.rows.map (fun row => row.cell 0)) ∧
    ∃ t', ties.sortBy? "a" true = some t' ∧ SortedFrom ties 0 true t' ∧
      t'.rows = [[.int 2, .int 2], [.int 1, .int 1], [.int 1, .int 3], [.null, .int 0], [.null, .int 4]] := by
  have hcells : PreorderOn Cell.compare (ties.rows.map (fun row => row.cell 0)) := by
    constructor <;> decide
  obtain ⟨t', hsort, hsorted, -⟩ := (stable_sortBy ties "a" true).2 (.plain "a") rfl hcells
  refine ⟨hcells, t', hsort, hsorted, ?_⟩
  cases hsort
  rfl

end Table
end FacetSql
