import FacetSql.Reduction.Lemmas
import FacetSql.Heading.Lemmas
import FacetSql.Proofs.Query.Bound
/-!
# Readable — columns that find what they read in a subquery

A column over a subquery reads an inner column by its label, and a growth column may read a second one and needs a
number to project to.  Where this is so, the column has a cell whatever the rows are; where it is not, it raises a
compile failure whatever they are (`reduceColumn_eq_ok`, `reduceColumn_misfits`).
-/
namespace FacetSql.Reduction

/-- The heading has a column of the label. -/
def HasLabel (inner : Heading) (label : String) : Prop := label ∈ inner.columns.map (·.label)

/-- **The column that a column reads is there.** -/
def ReadsField (inner : Heading) (c : Column) : Prop := ∃ label, c.field = some label ∧ HasLabel inner label

/-- **A growth column has its axis**: the numbers of the rows, or an inner column and a number to project to. -/
def ReadsAxis (inner : Heading) (c : Column) : Prop :=
  c.arguments = [] ∨ ∃ label rest target, c.arguments = .text label :: rest ∧ HasLabel inner label ∧
    rest.head?.bind Argument.float? = some target

/-- **A column finds all that it reads.** -/
def Readable (inner : Heading) (c : Column) : Prop :=
  ReadsField inner c ∧ (c.operator = .growth → ReadsAxis inner c)

theorem placeOf_eq_ok {inner : Heading} {label : String} (h : HasLabel inner label) :
    ∃ place, placeOf inner label = .ok place := by
  obtain ⟨c, hc⟩ := Option.isSome_iff_exists.1 ((inner.byLabel?_isSome_iff label).2 h)
  exact ⟨c.index, by rw [placeOf, hc]⟩

theorem placeOf_misfits {inner : Heading} {label : String} (h : ¬ HasLabel inner label) :
    Misfits (placeOf inner label) := by
  have hnone : inner.byLabel? label = none := by
    rw [← Option.not_isSome_iff_eq_none, inner.byLabel?_isSome_iff]
    exact h
  exact ⟨.columnNotFound label, by rw [placeOf, hnone]⟩

theorem readPlace_eq_ok {inner : Heading} {c : Column} (h : ReadsField inner c) :
    ∃ place, readPlace inner c = .ok place := by
  obtain ⟨label, hf, hl⟩ := h
  obtain ⟨place, hp⟩ := placeOf_eq_ok hl
  exact ⟨place, by rw [readPlace, hf]; exact hp⟩

theorem readPlace_misfits {inner : Heading} {c : Column} (h : ¬ ReadsField inner c) : Misfits (readPlace inner c) := by
  unfold readPlace
  split
  · rename_i label hf
    exact placeOf_misfits (fun hl => h ⟨label, hf, hl⟩)
  · exact ⟨_, rfl⟩

theorem axisOf_eq_ok {inner : Heading} {c : Column} (h : ReadsAxis inner c) : ∃ axis, axisOf inner c = .ok axis := by
  rcases h with hnil | ⟨label, rest, target, hargs, hl, ht⟩
  · exact ⟨.ordinals, by rw [axisOf, hnil]⟩
  · obtain ⟨place, hp⟩ := placeOf_eq_ok hl
    refine ⟨.column place target, ?_⟩
    unfold axisOf
    rw [hargs]
    dsimp only [Argument.text?]
    rw [hp, ht]
    rfl

theorem axisOf_misfits {inner : Heading} {c : Column} (h : ¬ ReadsAxis inner c) : Misfits (axisOf inner c) := by
  unfold axisOf
  split
  · rename_i hnil
    exact absurd (.inl hnil) h
  · rename_i abscissa rest hargs
    split
    · exact ⟨_, rfl⟩
    · rename_i label htext
      have habscissa : abscissa = .text label := by
        cases abscissa <;> cases htext
        rfl
      by_cases hl : HasLabel inner label
      · obtain ⟨place, hp⟩ := placeOf_eq_ok hl
        rw [hp]
        cases ht : rest.head?.bind Argument.float? with
        | some target => exact absurd (.inr ⟨label, rest, target, habscissa ▸ hargs, hl, ht⟩) h
        | none => exact ⟨_, rfl⟩
      · exact (placeOf_misfits hl).bind _

/-- **A readable column of a level over a subquery has a cell**, whatever the rows are. -/
theorem reduceColumn_eq_ok {inner : Heading} {groupBy : List Column} {c : Column} (h : Readable inner c)
    (hr : Query.isReducible groupBy c = true) (rows : List Row) : ∃ cell, reduceColumn inner rows c = .ok cell := by
  obtain ⟨place, hp⟩ := readPlace_eq_ok h.1
  unfold Query.isReducible at hr
  unfold reduceColumn
  rw [hp]
  cases ho : c.operator with
  | plain | min | max | avg => exact ⟨_, rfl⟩
  | growth =>
    obtain ⟨axis, ha⟩ := axisOf_eq_ok (h.2 ho)
    exact ⟨_, by rw [ha]; rfl⟩
  | count | sum | dateHistogram =>
    rw [ho] at hr
    cases hr

/-- **A column that is not readable raises a compile failure**, whatever the rows are. -/
theorem reduceColumn_misfits {inner : Heading} {c : Column} (h : ¬ Readable inner c) (rows : List Row) :
    Misfits (reduceColumn inner rows c) := by
  by_cases hf : ReadsField inner c
  · obtain ⟨place, hp⟩ := readPlace_eq_ok hf
    have hgrowth : c.operator = .growth ∧ ¬ ReadsAxis inner c := by
      by_contra hn
      exact h ⟨hf, fun ho => Classical.byContradiction (fun ha => hn ⟨ho, ha⟩)⟩
    unfold reduceColumn
    rw [hp, hgrowth.1]
    exact (axisOf_misfits hgrowth.2).bind _
  · exact (readPlace_misfits hf).bind _

/-- **A level finds all that it reads**: its keys, and its columns too if a row is made at all. -/
def LevelReadable (inner : Heading) (hasRows : Prop) (level : Level) : Prop :=
  (∀ key ∈ level.groupBy, ReadsField inner key) ∧
    (hasRows ∨ level.groupBy = [] → ∀ c ∈ level.heading.columns, Readable inner c)

theorem mapM_readPlace_eq_ok {inner : Heading} {keys : List Column} (h : ∀ key ∈ keys, ReadsField inner key) :
    ∃ places, keys.mapM (readPlace inner) = .ok places :=
  exists_mapM_eq_ok (fun key hk => readPlace_eq_ok (h key hk))

theorem addToGroups_ne_nil (key : List Cell) (row : Row) (groups : List Group) : addToGroups key row groups ≠ [] := by
  cases groups with
  | nil => exact List.cons_ne_nil _ _
  | cons g gs =>
    rw [addToGroups]
    split <;> exact List.cons_ne_nil _ _

theorem groupsOf_eq_nil_iff (places : List Nat) (rows : List Row) : groupsOf places rows = [] ↔ rows = [] := by
  refine ⟨fun h => ?_, fun h => h ▸ rfl⟩
  rcases List.eq_nil_or_concat rows with hnil | ⟨front, row, rfl⟩
  · exact hnil
  · rw [groupsOf, List.concat_eq_append, List.foldl_append] at h
    exact absurd h (addToGroups_ne_nil _ _ _)

section

variable {inner : Heading} {level : Level}

theorem reduce_eq_ok (hred : level.Reducible)
    (hcols : ∀ c ∈ level.heading.columns, Readable inner c) (rows : List Row) :
    ∃ row, reduce (.ofTable ⟨inner, rows⟩) level.heading = .ok row ∧ row.length = level.heading.width := by
  obtain ⟨row, hrow⟩ := exists_mapM_eq_ok (fun c hc => reduceColumn_eq_ok (hcols c hc) (hred c hc) rows)
  exact ⟨row, (reduce_eq _ _).trans hrow, (mapM_eq_ok_iff.1 hrow).length_eq.symm⟩

theorem reduce_misfits (hred : level.Reducible)
    {c : Column} (hc : c ∈ level.heading.columns) (hn : ¬ Readable inner c) (rows : List Row) :
    Misfits (reduce (.ofTable ⟨inner, rows⟩) level.heading) := by
  rw [reduce_eq]
  refine misfits_mapM (fun d hd => ?_) hc (reduceColumn_misfits hn rows)
  by_cases h : Readable inner d
  · exact .inl (reduceColumn_eq_ok h (hred d hd) rows)
  · exact .inr (reduceColumn_misfits h rows)

/-- **A level that finds all that it reads has a table**, without rows only if it has keys and the subquery has no
rows. -/
theorem apply_eq_ok (hred : level.Reducible) {rows : List Row}
    (hl : LevelReadable inner (rows ≠ []) level) :
    ∃ t, apply ⟨inner, rows⟩ level = .ok t ∧ t.heading = level.heading ∧
      (t.rows ≠ [] ↔ rows ≠ [] ∨ level.groupBy = []) := by
  obtain ⟨hkeys, hcols⟩ := hl
  have hrows : ∃ out, levelRows ⟨inner, rows⟩ level = .ok out ∧ (∀ row ∈ out, row.length = level.heading.width) ∧
      (out ≠ [] ↔ rows ≠ [] ∨ level.groupBy = []) := by
    unfold levelRows
    split
    · rename_i hg
      obtain ⟨row, hrow, hlen⟩ := reduce_eq_ok hred (hcols (.inr hg)) rows
      refine ⟨[row], by rw [hrow]; rfl, fun r hr => ?_, ?_⟩
      · exact List.mem_singleton.1 hr ▸ hlen
      · simp [hg]
    · rename_i hg
      obtain ⟨places, hplaces⟩ := mapM_readPlace_eq_ok hkeys
      have hgroups : ∀ g ∈ groupsOf places rows, ∃ row, reduce (.ofTable ⟨inner, g.rows⟩) level.heading = .ok row ∧
          row.length = level.heading.width := by
        intro g hm
        have hne : rows ≠ [] := fun he => by
          rw [(groupsOf_eq_nil_iff places rows).2 he] at hm
          cases hm
        exact reduce_eq_ok hred (hcols (.inl hne)) g.rows
      obtain ⟨out, hout, hall⟩ := mapM_eq_ok_of_forall hgroups
      refine ⟨out, ?_, fun row hr => ?_, ?_⟩
      · rw [reduceGrouped_eq]
        show (level.groupBy.mapM (readPlace inner) >>= _) = _
        rw [hplaces]
        exact hout
      · obtain ⟨g, -, hlen⟩ := exists_of_mem_right hall hr
        exact hlen
      · have hlen := hall.length_eq
        rw [← List.length_pos_iff, ← hlen, List.length_pos_iff, ne_eq, groupsOf_eq_nil_iff]
        exact ⟨.inl, fun h => h.resolve_right hg⟩
  obtain ⟨out, hout, hlen, hne⟩ := hrows
  refine ⟨⟨level.heading, out⟩, ?_, rfl, hne⟩
  rw [apply, hout]
  exact Table.ofRows_of_length hlen

/-- **A level that does not find all that it reads raises a compile failure.** -/
theorem apply_misfits (hred : level.Reducible) {rows : List Row}
    (hl : ¬ LevelReadable inner (rows ≠ []) level) : Misfits (apply ⟨inner, rows⟩ level) := by
  refine Misfits.bind ?_ _
  unfold levelRows
  split
  · rename_i hg
    have hc : ∃ c ∈ level.heading.columns, ¬ Readable inner c := by
      by_contra hn
      exact hl ⟨by simp [hg], fun _ c hc => Classical.byContradiction (fun h => hn ⟨c, hc, h⟩)⟩
    obtain ⟨c, hc, hn⟩ := hc
    exact (reduce_misfits hred hc hn rows).bind _
  · rename_i hg
    by_cases hkeys : ∀ key ∈ level.groupBy, ReadsField inner key
    · have hc : rows ≠ [] ∧ ∃ c ∈ level.heading.columns, ¬ Readable inner c := by
        by_contra hn
        exact hl ⟨hkeys, fun h c hc =>
          Classical.byContradiction (fun hr => hn ⟨h.resolve_right hg, c, hc, hr⟩)⟩
      obtain ⟨hne, c, hc, hn⟩ := hc
      obtain ⟨places, hplaces⟩ := mapM_readPlace_eq_ok hkeys
      obtain ⟨g, hm⟩ := List.exists_mem_of_ne_nil _ (mt (groupsOf_eq_nil_iff places rows).1 hne)
      rw [reduceGrouped_eq]
      show Misfits (level.groupBy.mapM (readPlace inner) >>= _)
      rw [hplaces]
      exact misfits_mapM (fun g _ => .inr (reduce_misfits hred hc hn g.rows)) hm (reduce_misfits hred hc hn g.rows)
    · obtain ⟨key, hk, hn⟩ : ∃ key ∈ level.groupBy, ¬ ReadsField inner key := by
        by_contra hn
        exact hkeys (fun key hk => Classical.byContradiction (fun h => hn ⟨key, hk, h⟩))
      rw [reduceGrouped_eq]
      refine Misfits.bind (misfits_mapM (fun key _ => ?_) hk (readPlace_misfits hn)) _
      by_cases h : ReadsField inner key
      · exact .inl (readPlace_eq_ok h)
      · exact .inr (readPlace_misfits h)

end

end FacetSql.Reduction
