import FacetSql.Reduction.Lemmas
import FacetSql.Proofs.Heading.WellFormed
import FacetSql.Proofs.Table.Sound
/-!
# Reduced — what the rows of a subquery are reduced to

From sound rows a level over a subquery makes sound rows, or raises a failure of its own: a column picks a finite cell
or computes one that is coerced (`reduceColumn_ends`), and a group has rows of the subquery only
(`mem_of_mem_groupsOf`).  Every place that is read is that of an inner column (`readPlace_lt`, `axisOf_lt`).
-/
namespace FacetSql

/-- **A failure of a level over a subquery.** -/
def Failure.OfLevel : Failure → Prop
  | .compile _ | .unsupported _ => True
  | _ => False

namespace Reduction

theorem finite_firstCell {cells : List Cell} (hf : ∀ c ∈ cells, c.Finite) : (firstCell cells).Finite := by
  cases cells with
  | nil => trivial
  | cons c cells => exact hf c List.mem_cons_self

theorem better_eq_some {isBetter : Float → Float → Bool} {best : Option (Float × Cell)} {c d : Cell} {x : Float}
    (h : better isBetter best c = some (x, d)) : d = c ∨ best = some (x, d) := by
  unfold better at h
  split at h
  · exact .inr h
  · cases h
    exact .inl rfl
  · split at h
    · cases h
      exact .inl rfl
    · exact .inr h

theorem finite_extreme (isBetter : Float → Float → Bool) {cells : List Cell} (hf : ∀ c ∈ cells, c.Finite) :
    (extreme isBetter cells).Finite := by
  -- the best cell so far is one of the cells passed
  have hbest : ∀ (cells : List Cell) (best : Option (Float × Cell)), (∀ c ∈ cells, c.Finite) →
      (∀ x d, best = some (x, d) → d.Finite) →
      ∀ x d, cells.foldl (better isBetter) best = some (x, d) → d.Finite := by
    intro cells
    induction cells with
    | nil => exact fun best _ hb => hb
    | cons c cells ih =>
      intro best hf hb
      obtain ⟨hc, hcells⟩ := List.forall_mem_cons.1 hf
      refine ih _ hcells (fun x d hd => ?_)
      rcases better_eq_some hd with rfl | hold
      · exact hc
      · exact hb x d hold
  unfold extreme
  split
  · rename_i heq
    exact hbest cells none hf nofun _ _ heq
  · trivial

theorem finite_average (cells : List Cell) : (average cells).Finite := by
  unfold average
  split
  · trivial
  · exact Cell.finite_ofFloat _

theorem finite_projection (axis : Axis) (place : Nat) (rows : List Row) : (projection axis place rows).Finite := by
  unfold projection
  split
  · exact Cell.finite_ofFloat _
  · trivial

section

variable {inner : Heading} {c : Column} {place : Nat}

theorem placeOf_lt (hw : inner.WellFormed) {label : String} (hp : placeOf inner label = .ok place) :
    place < inner.width := by
  unfold placeOf at hp
  split at hp
  · rename_i d hd
    cases hp
    exact hw.index_lt (hw.byLabel?_eq_some_iff.1 hd).1
  · cases hp

/-- **The column that a column reads is an inner column.** -/
theorem readPlace_lt (hw : inner.WellFormed) (hp : readPlace inner c = .ok place) : place < inner.width := by
  unfold readPlace at hp
  split at hp
  · exact placeOf_lt hw hp
  · cases hp

/-- **The axis of a growth column is an inner column**, if it is a column at all. -/
theorem axisOf_lt (hw : inner.WellFormed) {target : Float} (ha : axisOf inner c = .ok (.column place target)) :
    place < inner.width := by
  unfold axisOf at ha
  split at ha
  · cases ha
  · split at ha
    · cases ha
    · obtain ⟨found, hp, ha⟩ := bind_eq_ok_iff.1 ha
      split at ha
      · cases ha
        exact placeOf_lt hw hp
      · cases ha

end

section

variable {inner : Heading} {rows : List Row}

theorem placeOf_ends (label : String) : Ends Failure.OfLevel (fun _ => True) (placeOf inner label) := by
  unfold placeOf
  split <;> trivial

theorem readPlace_ends (c : Column) : Ends Failure.OfLevel (fun _ => True) (readPlace inner c) := by
  unfold readPlace
  split
  · exact placeOf_ends _
  · trivial

theorem axisOf_ends (c : Column) : Ends Failure.OfLevel (fun _ => True) (axisOf inner c) := by
  unfold axisOf
  split
  · trivial
  · split
    · trivial
    · refine (placeOf_ends _).bind (fun place _ => ?_)
      split <;> trivial

/-- **A column has a finite cell** from rows of finite cells. -/
theorem reduceColumn_ends (hrows : ∀ row ∈ rows, ∀ c ∈ row, c.Finite) (c : Column) :
    Ends Failure.OfLevel Cell.Finite (reduceColumn inner rows c) := by
  refine (readPlace_ends c).bind (fun place _ => ?_)
  have hcells : ∀ d ∈ rows.map (fun row => row.cell place), d.Finite := by
    intro d hd
    obtain ⟨row, hrow, rfl⟩ := List.mem_map.1 hd
    exact Row.finite_cell (hrows row hrow) place
  dsimp only
  split
  · exact finite_firstCell hcells
  · exact finite_extreme _ hcells
  · exact finite_extreme _ hcells
  · exact finite_average _
  · exact (axisOf_ends c).bind (fun axis _ => finite_projection axis place rows)
  · trivial

theorem reduce_ends (hrows : ∀ row ∈ rows, ∀ c ∈ row, c.Finite) (outer : Heading) :
    Ends Failure.OfLevel (Row.Sound outer.width) (reduce (.ofTable ⟨inner, rows⟩) outer) := by
  rw [reduce_eq]
  exact (Ends.mapM (fun c _ => reduceColumn_ends hrows c)).mono (fun _ => id) (fun _ hrow => ⟨hrow.1, hrow.2⟩)

theorem mem_addToGroups {key : List Cell} {row r : Row} {groups : List Group} {g : Group}
    (hg : g ∈ addToGroups key row groups) (hr : r ∈ g.rows) : r = row ∨ ∃ g' ∈ groups, r ∈ g'.rows := by
  induction groups with
  | nil =>
    cases List.mem_singleton.1 hg
    exact .inl (List.mem_singleton.1 hr)
  | cons first groups ih =>
    rw [addToGroups] at hg
    split at hg
    · rcases List.mem_cons.1 hg with rfl | hg
      · rcases List.mem_append.1 hr with hr | hr
        · exact .inr ⟨first, List.mem_cons_self, hr⟩
        · exact .inl (List.mem_singleton.1 hr)
      · exact .inr ⟨g, List.mem_cons_of_mem _ hg, hr⟩
    · rcases List.mem_cons.1 hg with rfl | hg
      · exact .inr ⟨g, List.mem_cons_self, hr⟩
      · exact (ih hg).imp_right (fun ⟨g', hg', hr'⟩ => ⟨g', List.mem_cons_of_mem _ hg', hr'⟩)

/-- **A group has rows of the subquery only.** -/
theorem mem_of_mem_groupsOf {places : List Nat} {g : Group} {r : Row} (hg : g ∈ groupsOf places rows)
    (hr : r ∈ g.rows) : r ∈ rows := by
  suffices hfold : ∀ (rows : List Row) (groups : List Group),
      g ∈ rows.foldl (fun groups row => addToGroups (keyOf places row) row groups) groups →
        r ∈ rows ∨ ∃ g' ∈ groups, r ∈ g'.rows by
    rcases hfold rows [] hg with hr | ⟨g', hg', -⟩
    · exact hr
    · cases hg'
  intro rows
  induction rows with
  | nil => exact fun groups hg => .inr ⟨g, hg, hr⟩
  | cons row rows ih =>
    intro groups hg
    rcases ih _ hg with hr | ⟨g', hg', hr'⟩
    · exact .inl (List.mem_cons_of_mem _ hr)
    · rcases mem_addToGroups hg' hr' with rfl | hgroup
      · exact .inl List.mem_cons_self
      · exact .inr hgroup

theorem sound_group {t : Table} (ht : t.Sound) {places : List Nat} {g : Group} (hg : g ∈ groupsOf places t.rows) :
    Table.Sound ⟨t.heading, g.rows⟩ :=
  fun r hr => ht r (mem_of_mem_groupsOf hg hr)

end

/-- **A level over a subquery has a sound table**, or there is none for the level's own sake. -/
theorem apply_ends {inner : Table} (hs : inner.Sound) (level : Level) :
    Ends Failure.OfLevel (fun t => t.heading = level.heading ∧ t.Sound) (apply inner level) := by
  have hrows : Ends Failure.OfLevel (fun rows => ∀ row ∈ rows, Row.Sound level.heading.width row)
      (levelRows inner level) := by
    unfold levelRows
    split
    · refine (reduce_ends (fun row hrow => (hs row hrow).finite) level.heading).bind (fun row hrow => ?_)
      exact fun r hr => List.mem_singleton.1 hr ▸ hrow
    · rw [reduceGrouped_eq]
      refine (Ends.mapM (fun key _ => readPlace_ends key)).bind (fun places _ => ?_)
      refine (Ends.mapM (fun g hg => ?_)).mono (fun _ => id) (fun rows hrows => hrows.2)
      exact reduce_ends (fun row hrow => (sound_group hs hg row hrow).finite) level.heading
  refine hrows.bind (fun rows hrows => ?_)
  obtain ⟨ht, hsound⟩ := Table.Sound.ofRows hrows
  rw [ht]
  exact ⟨rfl, hsound⟩

end Reduction
end FacetSql
