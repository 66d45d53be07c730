import FacetSql.Proofs.Answer.RowInHand
import FacetSql.Proofs.Answer.Walk
/-!
# Behind — what buckets leave behind

Leaving a bucket makes every cell missing that was written in it, also where a key of a bucket around stood before
(`Walk.leaves`).  Cells that every bucket writes itself do not matter to the rows of the buckets that follow
(`Walk.of_alikeBut`).
-/
namespace FacetSql

namespace Row

/-- **Rows of one length that differ at most at certain places.** -/
structure AlikeBut (but : Nat → Prop) (row row' : Row) : Prop where
  length : row'.length = row.length
  cells : ∀ i, ¬ but i → row'.cell i = row.cell i

namespace AlikeBut

variable {but : Nat → Prop} {row row' : Row}

theorem refl (but : Nat → Prop) (row : Row) : AlikeBut but row row := ⟨rfl, fun _ _ => rfl⟩

theorem mono {but' : Nat → Prop} (ha : AlikeBut but row row') (hbut : ∀ i, but i → but' i) : AlikeBut but' row row' :=
  ⟨ha.length, fun i hi => ha.cells i (fun h => hi (hbut i h))⟩

/-- Writing the same cell into both rows removes the difference at its place. -/
theorem set (ha : AlikeBut but row row') (place : Nat) (c : Cell) :
    AlikeBut (fun i => but i ∧ i ≠ place) (row.set place c) (row'.set place c) := by
  refine ⟨by rw [List.length_set, List.length_set, ha.length], fun i hi => ?_⟩
  rw [cell_set, cell_set, ha.length]
  by_cases hp : place = i
  · subst hp
    by_cases hlt : place < row.length
    · rw [if_pos ⟨rfl, hlt⟩, if_pos ⟨rfl, hlt⟩]
    · have hle : row.length ≤ place := Nat.le_of_not_lt hlt
      rw [if_neg (fun h => hlt h.2), if_neg (fun h => hlt h.2), cell_of_length_le hle,
        cell_of_length_le (ha.length ▸ hle)]
  · rw [if_neg (fun h => hp h.1), if_neg (fun h => hp h.1)]
    exact ha.cells i (fun h => hi ⟨h, Ne.symm hp⟩)

end AlikeBut

end Row

namespace Answer

variable {h : Heading}

/-- The column of a name stands at a place. -/
def standsAt (h : Heading) (place : Nat) (name : String) : Bool := (h.byAggName? name).any (fun c => c.index == place)

/-- The places of document counts. -/
def countPlaces (h : Heading) : List Nat := h.countColumns.map (·.index)

mutual

/-- **A place is written inside buckets**, by a key or a metric of an aggregation in one of them. -/
def writtenIn (h : Heading) (place : Nat) : List Bucket → Bool
  | [] => false
  | ⟨_, _, children⟩ :: bs => writtenBy h place children || writtenIn h place bs

/-- A place is written by aggregations; without a bucket no key is written. -/
def writtenBy (h : Heading) (place : Nat) : List Tree → Bool
  | [] => false
  | .buckets _ name bs :: ts =>
    (!bs.isEmpty && standsAt h place name) || writtenIn h place bs || writtenBy h place ts
  | .metric name _ :: ts => standsAt h place name || writtenBy h place ts
  | .filter _ _ children :: ts => writtenBy h place children || writtenBy h place ts

end

theorem columnOf_eq_ok_iff {name : String} {c : Column} : columnOf h name = .ok c ↔ h.byAggName? name = some c := by
  unfold columnOf
  split
  · rename_i hfound
    rw [hfound, Except.ok.injEq, Option.some.injEq]
  · rename_i hnone
    rw [hnone]
    exact ⟨nofun, nofun⟩

theorem standsAt_of_columnOf {name : String} {c : Column} (hc : columnOf h name = .ok c) (place : Nat) :
    standsAt h place name = decide (c.index = place) := by
  rw [standsAt, columnOf_eq_ok_iff.1 hc, Option.any_some]
  exact beq_eq_decide _ _

theorem writtenBy_metrics (place : Nat) {metrics : List (String × Option Float)} {values : List Write}
    (hvalues : metrics.mapM (fun m => metricWrite h m.1 m.2) = .ok values) :
    writtenBy h place (metrics.map (fun m => .metric m.1 m.2)) = decide (place ∈ values.map (·.1)) := by
  have hall := mapM_eq_ok_iff.1 hvalues
  clear hvalues
  induction hall with
  | nil => rw [List.map_nil, writtenBy, List.map_nil, decide_eq_false List.not_mem_nil]
  | @cons m w metrics values hw _ ih =>
    obtain ⟨c, hc, hw⟩ := bind_eq_ok_iff.1 hw
    have hplace : w.1 = c.index := by cases hw; rfl
    rw [List.map_cons, writtenBy, ih, standsAt_of_columnOf hc, List.map_cons, hplace]
    simp only [List.mem_cons, Bool.decide_or, eq_comm]

/-- **A row with cells written is the same over rows that differ at those places only.** -/
theorem written_eq_of_alikeBut {writes : List Write} {row row' : Row}
    (ha : Row.AlikeBut (· ∈ writes.map (·.1)) row row') : written row' writes = written row writes := by
  induction writes generalizing row row' with
  | nil => exact Row.ext_cell ha.length (fun i => ha.cells i List.not_mem_nil)
  | cons w ws ih =>
    rw [written_cons, written_cons]
    refine ih ((ha.set w.1 w.2).mono (fun i hi => ?_))
    rcases List.mem_cons.1 hi.1 with he | hlater
    · exact absurd he hi.2
    · exact hlater

theorem cell_cleared (row : Row) (places : List Nat) (i : Nat) :
    (cleared row places).cell i = if i ∈ places then .null else row.cell i := by
  rw [Row.cell, Row.cell, List.getD_eq_getElem?_getD, List.getD_eq_getElem?_getD, getElem?_cleared]
  split
  · cases row[i]? <;> rfl
  · rfl

/-- The row in hand behind a bucket without buckets inside. -/
theorem cell_behind_leaf (row : Row) (writes : List Write) (i : Nat) :
    (emit row writes).2.cell i = if i ∈ writes.map (·.1) then .null else row.cell i := by
  show (cleared (written row writes) (writes.map (·.1))).cell i = _
  rw [cell_cleared]
  split
  · rfl
  · rename_i hi
    exact cell_written_of_not_mem hi row

theorem length_behind_leaf (row : Row) (writes : List Write) : (emit row writes).2.length = row.length :=
  (length_cleared _ _).trans (length_written _ _)

theorem map_fst_countWrites (count : Nat) : (countWrites h count).map (·.1) = countPlaces h := by
  rw [countWrites, List.map_map]
  rfl

/-- **What buckets leave behind in the row in hand**: their own place and the places written inside are missing, those
of counts may be, and all else is as it was. -/
structure Leaves (h : Heading) (place : Nat) (bs : List Bucket) (row after : Row) : Prop where
  length : after.length = row.length
  either : ∀ i, after.cell i = .null ∨ after.cell i = row.cell i
  own : bs ≠ [] → after.cell place = .null
  missing : ∀ i, writtenIn h i bs = true → after.cell i = .null
  kept : ∀ i, writtenIn h i bs = false → (bs ≠ [] → i ≠ place ∧ i ∉ countPlaces h) → after.cell i = row.cell i

theorem writtenIn_cons (place : Nat) (b : Bucket) (bs : List Bucket) :
    writtenIn h place (b :: bs) = (writtenBy h place b.children || writtenIn h place bs) := by
  cases b
  rw [writtenIn]

theorem writtenIn_singleton (place : Nat) (b : Bucket) : writtenIn h place [b] = writtenBy h place b.children := by
  rw [writtenIn_cons, writtenIn, Bool.or_false]

theorem Leaves.nil (place : Nat) (row : Row) : Leaves h place [] row row := by
  refine ⟨rfl, fun _ => .inr rfl, fun hne => absurd rfl hne, fun i hi => ?_, fun _ _ _ => rfl⟩
  rw [writtenIn] at hi
  cases hi

theorem Leaves.cons {place : Nat} {b : Bucket} {bs : List Bucket} {row between after : Row}
    (hfirst : Leaves h place [b] row between) (hrest : Leaves h place bs between after) :
    Leaves h place (b :: bs) row after := by
  have hmissing : ∀ i, between.cell i = .null → after.cell i = .null := by
    intro i hi
    rcases hrest.either i with he | he
    · exact he
    · rw [he, hi]
  refine ⟨hrest.length.trans hfirst.length, fun i => ?_, fun _ => ?_, fun i hi => ?_, fun i hi happart => ?_⟩
  · rcases hrest.either i with he | he
    · exact .inl he
    · rw [he]
      exact hfirst.either i
  · exact hmissing place (hfirst.own (List.cons_ne_nil _ _))
  · rw [writtenIn_cons, Bool.or_eq_true] at hi
    rcases hi with hi | hi
    · exact hmissing i (hfirst.missing i (by rwa [writtenIn_singleton]))
    · exact hrest.missing i hi
  · rw [writtenIn_cons, Bool.or_eq_false_iff] at hi
    have hnot := happart (List.cons_ne_nil _ _)
    rw [hrest.kept i hi.2 (fun _ => hnot)]
    exact hfirst.kept i (by rw [writtenIn_singleton]; exact hi.1) (fun _ => hnot)

theorem leaves_leaf {place count : Nat} {row : Row} {key : Cell} {metrics : List (String × Option Float)}
    {values : List Write} (hvalues : metrics.mapM (fun m => metricWrite h m.1 m.2) = .ok values) :
    Leaves h place [⟨key, count, metrics.map (fun m => .metric m.1 m.2)⟩] row
      ((emit (row.set place key) (countWrites h count ++ values)).2.set place .null) := by
  have hbehind : ∀ i, Row.cell ((emit (row.set place key) (countWrites h count ++ values)).2.set place .null) i =
      if place = i ∨ i ∈ countPlaces h ∨ i ∈ values.map (·.1) then .null else row.cell i := by
    intro i
    rw [Row.cell_set_null, cell_behind_leaf]
    by_cases hp : place = i
    · rw [if_pos hp, if_pos (.inl hp)]
    · simp only [List.map_append, map_fst_countWrites, List.mem_append, hp, if_false, false_or, Row.cell_set_ne hp]
  refine ⟨?_, fun i => ?_, fun _ => ?_, fun i hi => ?_, fun i hi happart => ?_⟩
  · rw [List.length_set, length_behind_leaf, List.length_set]
  · rw [hbehind]
    split
    · exact .inl rfl
    · exact .inr rfl
  · rw [hbehind, if_pos (.inl rfl)]
  · rw [writtenIn_singleton, writtenBy_metrics i hvalues, decide_eq_true_iff] at hi
    rw [hbehind, if_pos (.inr (.inr hi))]
  · rw [writtenIn_singleton, writtenBy_metrics i hvalues, decide_eq_false_iff_not] at hi
    obtain ⟨hp, hc⟩ := happart (List.cons_ne_nil _ _)
    rw [hbehind, if_neg]
    rintro (he | he | he)
    · exact hp he.symm
    · exact hc he
    · exact hi he

theorem leaves_nested {place count : Nat} {row behind : Row} {key : Cell} {kind : KeyKind} {name : String} {c : Column}
    {below : List Bucket} (hc : columnOf h name = .ok c) (hinner : Leaves h c.index below (row.set place key) behind) :
    Leaves h place [⟨key, count, [.buckets kind name below]⟩] row (behind.set place .null) := by
  have hwritten : ∀ i, writtenIn h i [⟨key, count, [.buckets kind name below]⟩] =
      ((!below.isEmpty && decide (c.index = i)) || writtenIn h i below) := by
    intro i
    rw [writtenIn_singleton, writtenBy, writtenBy, standsAt_of_columnOf hc, Bool.or_false]
  have hentered : ∀ i, i ≠ place → Row.cell (row.set place key) i = row.cell i :=
    fun i hi => Row.cell_set_ne hi.symm key
  refine ⟨?_, fun i => ?_, fun _ => ?_, fun i hi => ?_, fun i hi happart => ?_⟩
  · rw [List.length_set, hinner.length, List.length_set]
  · by_cases hp : place = i
    · exact .inl (by rw [Row.cell_set_null, if_pos hp])
    · rw [Row.cell_set_null, if_neg hp, ← hentered i (Ne.symm hp)]
      exact hinner.either i
  · rw [Row.cell_set_null, if_pos rfl]
  · rw [Row.cell_set_null]
    split
    · rfl
    · rw [hwritten, Bool.or_eq_true, Bool.and_eq_true, decide_eq_true_iff] at hi
      rcases hi with ⟨hne, rfl⟩ | hi
      · exact hinner.own (by simpa using hne)
      · exact hinner.missing i hi
  · rw [hwritten, Bool.or_eq_false_iff, Bool.and_eq_false_iff, decide_eq_false_iff_not] at hi
    obtain ⟨hp, hcount⟩ := happart (List.cons_ne_nil _ _)
    obtain ⟨hown, hbelow⟩ := hi
    -- what the key wrote is not at `i`, and neither is the place of the keys below, if there are any
    rw [Row.cell_set_null, if_neg (Ne.symm hp), ← hentered i hp]
    refine hinner.kept i hbelow (fun hne => ⟨?_, hcount⟩)
    rcases hown with hempty | hown
    · exact absurd (by simpa using hempty) hne
    · exact Ne.symm hown

theorem Walk.leaves {place : Nat} {row after : Row} {bs : List Bucket} {rows : List Row}
    (hw : Walk h place row bs rows after) : Leaves h place bs row after := by
  induction hw with
  | nil => exact .nil _ _
  | leaf hvalues _ ih => exact (leaves_leaf hvalues).cons ih
  | nested hc _ _ ihinner ih => exact (leaves_nested hc ihinner).cons ih

/-- **Cells that every leaf writes itself do not matter to the rows of buckets.** -/
theorem Walk.of_alikeBut {place : Nat} {row after : Row} {bs : List Bucket} {rows : List Row}
    (hw : Walk h place row bs rows after) {but : Nat → Prop} (hbut : ∀ i, but i → i = place ∨ i ∈ countPlaces h)
    {row' : Row} (ha : Row.AlikeBut but row row') :
    ∃ after', Walk h place row' bs rows after' ∧ Row.AlikeBut but after after' := by
  induction hw generalizing but row' with
  | nil => exact ⟨row', .nil _ _, ha⟩
  | @leaf place count row _ key _ values _ _ hvalues rest _ =>
    -- a leaf writes its key and its counts itself, so its row is the same, and so is what it leaves
    have hsame : written (row'.set place key) (countWrites h count ++ values) =
        written (row.set place key) (countWrites h count ++ values) := by
      refine written_eq_of_alikeBut ((ha.set place key).mono (fun i hi => ?_))
      rw [List.map_append, map_fst_countWrites, List.mem_append]
      exact .inl ((hbut i hi.1).resolve_left hi.2)
    refine ⟨_, hsame ▸ .leaf hvalues ?_, .refl but _⟩
    rw [emit, hsame]
    exact rest
  | @nested place _ _ _ _ key _ _ _ _ _ _ _ hc _ _ ihinner ih =>
    -- below, the two rows in hand have the same key, so at most counts differ
    have hentered : ∀ i, but i ∧ i ≠ place → i ∈ countPlaces h := fun i hi => (hbut i hi.1).resolve_left hi.2
    obtain ⟨behind', hinner, hbehind⟩ := ihinner (fun i hi => .inr (hentered i hi)) (ha.set place key)
    obtain ⟨after', hrest, hafter⟩ := ih hbut ((hbehind.set place .null).mono (fun _ hi => hi.1.1))
    exact ⟨after', .nested hc hinner hrest, hafter⟩

end Answer
end FacetSql
