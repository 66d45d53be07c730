import FacetSql.Answer.Lemmas
import FacetSql.Table.Lemmas
import FacetSql.Proofs.Answer.Shaped
/-!
# RowInHand — what a bucket writes into the row and takes back

Before a bucket is entered, the cells that its leaves will write are missing (`Ready`).  Entering it keeps this for the
columns further inside (`Ready.enter`), its figures are written over missing cells (`ShowsRaw.of_figures`), and a row that
shows a leaf inside shows it around the bucket too, with one key more (`ShowsRaw.under`).
-/
namespace FacetSql.Answer

open Request

theorem cell_written_of_not_mem {writes : List Write} {i : Nat} (hi : i ∉ writes.map (·.1)) (row : Row) :
    (written row writes).cell i = row.cell i := by
  rw [Row.cell, Row.cell, List.getD_eq_getElem?_getD, List.getD_eq_getElem?_getD, getElem?_written_of_not_mem hi]

/-- **A place holds the cell that is written to it**, if no other cell is. -/
theorem cell_written {writes : List Write} {i : Nat} {c : Cell} {row : Row} (hlt : i < row.length)
    (hmem : (i, c) ∈ writes) (hsame : ∀ w ∈ writes, w.1 = i → w.2 = c) : (written row writes).cell i = c := by
  induction writes generalizing row with
  | nil => cases hmem
  | cons w ws ih =>
    rw [written_cons]
    have hlt' : i < (row.set w.1 w.2).length := by rwa [List.length_set]
    have hsame' : ∀ w ∈ ws, w.1 = i → w.2 = c := fun w hw => hsame w (List.mem_cons_of_mem _ hw)
    by_cases hlater : i ∈ ws.map (·.1)
    · obtain ⟨w', hw', rfl⟩ := List.mem_map.1 hlater
      exact ih hlt' (hsame' w' hw' rfl ▸ hw') hsame'
    · have hw : w = (i, c) := by
        rcases List.mem_cons.1 hmem with hw | hw
        · exact hw.symm
        · exact absurd (List.mem_map.2 ⟨_, hw, rfl⟩) hlater
      rw [cell_written_of_not_mem hlater, hw]
      exact Row.cell_set_self hlt c

/-- **The row in hand is ready for a path**: the columns of the path, the counts and the metrics are missing. -/
structure Ready (h : Heading) (path : List Column) (row : Row) : Prop where
  length : row.length = h.width
  missing : ∀ c ∈ h.columns, c.index ∈ path.map (·.index) ∨ c.isDocCount = true ∨ c.isMetric = true →
    row.cell c.index = .null

theorem ready_blank (h : Heading) (path : List Column) : Ready h path (Row.blank h.width) :=
  ⟨Row.length_blank _, fun _ _ _ => Row.cell_blank _ _⟩

theorem isGrouping_of_isKeyOf {h : Heading} {key : Column} (hk : IsKeyOf h key) :
    ∃ c ∈ h.columns, c.index = key.index ∧ c.aggName = key.aggName ∧ c.isDocCount = false ∧ c.isMetric = false := by
  obtain ⟨c, hc, hg, hk⟩ := hk
  refine ⟨c, hc, ?_, ?_, ?_, ?_⟩
  · rcases hk with rfl | ⟨arguments, rfl⟩ <;> rfl
  · rcases hk with rfl | ⟨arguments, rfl⟩ <;> rfl
  · cases ho : c.operator <;> simp_all [Column.isDocCount, Operator.isGrouping]
  · cases ho : c.operator <;> simp_all [Column.isMetric, Operator.isGrouping, Operator.isMetric]

theorem AreKeys.tail {h : Heading} {key : Column} {path : List Column} (hs : AreKeys h (key :: path)) :
    IsKeyOf h key ∧ key.index ∉ path.map (·.index) ∧ AreKeys h path := by
  obtain ⟨hnot, hnodup⟩ := List.nodup_cons.1 hs.apart
  exact ⟨hs.mem key List.mem_cons_self, hnot, fun k hk => hs.mem k (List.mem_cons_of_mem _ hk), hnodup⟩

theorem Ready.enter {h : Heading} {key : Column} {path : List Column} {row : Row} (hw : h.WellFormed)
    (hs : AreKeys h (key :: path)) (hr : Ready h (key :: path) row) (cell : Cell) :
    Ready h path (row.set key.index cell) := by
  obtain ⟨hk, hnot, -⟩ := AreKeys.tail hs
  obtain ⟨d, hd, hdi, -, hcount, hmetric⟩ := isGrouping_of_isKeyOf hk
  refine ⟨by rw [List.length_set, hr.length], fun c hc hm => ?_⟩
  have hne : key.index ≠ c.index := by
    intro he
    have hcd : d = c := hw.eq_of_index_eq hd hc (hdi.trans he)
    subst hcd
    rcases hm with hm | hm | hm
    · exact hnot (he ▸ hm)
    · exact absurd (hcount ▸ hm) Bool.false_ne_true
    · exact absurd (hmetric ▸ hm) Bool.false_ne_true
  rw [Row.cell_set_ne hne]
  refine hr.missing c hc (hm.imp_left (fun hm => ?_))
  exact List.mem_cons_of_mem _ hm

/-- **A row that shows a leaf inside a bucket shows it around the bucket**, under the bucket's key. -/
theorem ShowsRaw.under {h : Heading} {key : Column} {path : List Column} {before row : Row} {leaf : RawLeaf}
    {kind : KeyKind} {sent : Json} {cell : Cell} (hs : AreKeys h (key :: path)) (hr : Ready h (key :: path) before)
    (hw : h.WellFormed) (hcell : IsKeyCell kind sent cell)
    (hshow : ShowsRaw h path (before.set key.index cell) leaf row) :
    ShowsRaw h (key :: path) before (leaf.under kind sent) row := by
  obtain ⟨hk, hnot, -⟩ := AreKeys.tail hs
  obtain ⟨d, hd, hdi, -, hcount, hmetric⟩ := isGrouping_of_isKeyOf hk
  have hlt : key.index < before.length := by
    rw [hr.length, ← hdi]
    exact hw.index_lt hd
  refine ⟨hshow.length.trans List.length_set, .cons ?_ hshow.keys, hshow.counts, hshow.metrics, ?_⟩
  · rw [← hdi] at hnot ⊢
    rw [hshow.others d hd hnot hcount (fun hm => absurd (hmetric ▸ hm) Bool.false_ne_true), hdi]
    rwa [Row.cell_set_self hlt]
  · intro c hc hpath hno hnone
    rw [List.map_cons, List.mem_cons, not_or] at hpath
    rw [hshow.others c hc hpath.2 hno hnone]
    exact Row.cell_set_ne (Ne.symm hpath.1) _

/-- **What a leaf writes**: counts into the columns for counts, and values into the columns of their names. -/
structure Figures (h : Heading) (count : Int) (values : List (String × Json)) (writes : List Write) : Prop where
  sound : ∀ w ∈ writes, ∃ c ∈ h.columns, w.1 = c.index ∧ ((c.isDocCount = true ∧ w.2 = .int count) ∨
    (c.isMetric = true ∧ ∃ value, (c.aggName, value) ∈ values ∧ w.2 = metricCell c.operator value.float?))
  counts : ∀ c ∈ h.columns, c.isDocCount = true → (c.index, .int count) ∈ writes
  metrics : ∀ c ∈ h.columns, c.isMetric = true → ∀ value, (c.aggName, value) ∈ values →
    (c.index, metricCell c.operator value.float?) ∈ writes

theorem isMetric_of_isDocCount {c : Column} (hc : c.isDocCount = true) : c.isMetric = false := by
  simp [Column.isMetric, hc]

theorem value_unique {values : List (String × Json)} (hn : (values.map (·.1)).Nodup) {name : String} {a b : Json}
    (ha : (name, a) ∈ values) (hb : (name, b) ∈ values) : a = b := by
  have h := List.inj_on_of_nodup_map hn ha hb rfl
  exact (Prod.mk.inj h).2

theorem Figures.at_column {h : Heading} {count : Int} {values : List (String × Json)} {writes : List Write}
    (hw : h.WellFormed) (hf : Figures h count values writes) {c : Column} (hc : c ∈ h.columns) {w : Write}
    (hmem : w ∈ writes) (hi : w.1 = c.index) : (c.isDocCount = true ∧ w.2 = .int count) ∨
      (c.isMetric = true ∧ ∃ value, (c.aggName, value) ∈ values ∧ w.2 = metricCell c.operator value.float?) := by
  obtain ⟨d, hd, hwi, hcase⟩ := hf.sound w hmem
  have hdc : d = c := hw.eq_of_index_eq hd hc (hwi.symm.trans hi)
  exact hdc ▸ hcase

/-- **A row with the figures written shows the leaf.** -/
theorem ShowsRaw.of_figures {h : Heading} {row : Row} {leaf : RawLeaf} {writes : List Write} (hw : h.WellFormed)
    (hlen : row.length = h.width) (hkeys : leaf.keys = []) (hn : (leaf.values.map (·.1)).Nodup)
    (hf : Figures h (signedCount leaf.documents) leaf.values writes) :
    ShowsRaw h [] row leaf (written row writes) := by
  have hlt : ∀ c ∈ h.columns, c.index < row.length := fun c hc => hlen ▸ hw.index_lt hc
  refine ⟨length_written row writes, by rw [hkeys]; exact .nil, fun c hc hcount => ?_, fun c hc hmetric value hv => ?_,
    ?_⟩
  · refine cell_written (hlt c hc) (hf.counts c hc hcount) (fun w hmem hi => ?_)
    rcases hf.at_column hw hc hmem hi with ⟨-, hcell⟩ | ⟨hm, -⟩
    · exact hcell
    · exact absurd ((isMetric_of_isDocCount hcount) ▸ hm) Bool.false_ne_true
  · refine isMetricCell_iff.2 (cell_written (hlt c hc) (hf.metrics c hc hmetric value hv) (fun w hmem hi => ?_))
    rcases hf.at_column hw hc hmem hi with ⟨hcount, -⟩ | ⟨-, value', hv', hcell⟩
    · exact absurd ((isMetric_of_isDocCount hcount) ▸ hmetric) Bool.false_ne_true
    · rw [hcell, value_unique hn hv' hv]
  · intro c hc _ hno hnone
    refine cell_written_of_not_mem (fun hmem => ?_) row
    obtain ⟨w, hwm, hi⟩ := List.mem_map.1 hmem
    rcases hf.at_column hw hc hwm hi with ⟨hcount, -⟩ | ⟨hm, value, hv, -⟩
    · exact absurd (hno ▸ hcount) Bool.false_ne_true
    · exact hnone hm (List.mem_map.2 ⟨_, hv, rfl⟩)

theorem cleared_figures {h : Heading} {path : List Column} {row : Row} {count : Int} {values : List (String × Json)}
    {writes : List Write} (hr : Ready h path row) (hf : Figures h count values writes) :
    cleared (written row writes) (writes.map (·.1)) = row := by
  refine cleared_written (fun i hi => ?_)
  obtain ⟨w, hw, rfl⟩ := List.mem_map.1 hi
  obtain ⟨c, hc, hwi, hcase⟩ := hf.sound w hw
  rw [hwi]
  rcases hcase with ⟨hcount, -⟩ | ⟨hmetric, -⟩
  · exact hr.missing c hc (.inr (.inl hcount))
  · exact hr.missing c hc (.inr (.inr hmetric))

end FacetSql.Answer
