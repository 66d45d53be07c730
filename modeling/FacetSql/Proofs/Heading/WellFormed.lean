import FacetSql.Proofs.Heading.FreeName
/-!
# WellFormed — what every heading keeps

A column stands at its index, and labels and aggregation names are used once, so a column is found by either of them
and nothing is found by any other text.  Adding a column keeps this (`WellFormed.add`), whatever was added before and
whichever columns were refused (`WellFormed.reach`).  Neither the indices nor the names' being apart needs names that
fit (`Built.indexed`, `Built.names`).
-/
namespace FacetSql

/-- **In a list whose keys differ, an entry is what its key finds.** -/
theorem find?_eq_some_iff_of_nodup {α κ : Type} [DecidableEq κ] (key : α → κ) {l : List α} (hn : (l.map key).Nodup)
    {k : κ} {a : α} : l.find? (fun b => key b == k) = some a ↔ a ∈ l ∧ key a = k := by
  induction l with
  | nil => simp
  | cons b l ih =>
    obtain ⟨hb, hl⟩ := List.nodup_cons.1 hn
    rw [List.find?_cons]
    by_cases hk : key b = k
    · subst hk
      have hne : ∀ a ∈ l, key a ≠ key b := fun a ha he => hb (he ▸ List.mem_map_of_mem ha)
      simp only [beq_self_eq_true, Option.some.injEq, List.mem_cons]
      constructor
      · rintro rfl
        exact ⟨.inl rfl, rfl⟩
      · rintro ⟨rfl | ha, he⟩
        · rfl
        · exact absurd he (hne a ha)
    · have hf : (key b == k) = false := by simpa using hk
      rw [hf, ih hl, List.mem_cons]
      constructor
      · rintro ⟨ha, he⟩
        exact ⟨.inr ha, he⟩
      · rintro ⟨rfl | ha, he⟩
        · exact absurd he hk
        · exact ⟨ha, he⟩

namespace Heading

/-- **Columns stand at their indices.** -/
def Indexed (h : Heading) : Prop := ∀ (i : Nat) (c : Column), h.columns[i]? = some c → c.index = i

namespace Indexed

variable {h : Heading}

theorem add {h' : Heading} {c : Column} (hi : h.Indexed) (ha : h.add c = .ok h') : h'.Indexed := by
  obtain ⟨-, rfl⟩ := add_eq_ok_iff.1 ha
  intro i d hd
  rw [List.getElem?_append] at hd
  split at hd
  · exact hi i d hd
  · rename_i hlt
    obtain ⟨hone, hd⟩ := List.getElem?_eq_some_iff.1 hd
    rw [List.length_singleton] at hone
    rw [← hd, List.getElem_singleton]
    show h.columns.length = i
    omega

theorem getElem?_index (hi : h.Indexed) {c : Column} (hc : c ∈ h.columns) : h.columns[c.index]? = some c := by
  obtain ⟨i, hget⟩ := List.mem_iff_getElem?.1 hc
  rwa [hi i c hget]

theorem eq_of_index_eq (hi : h.Indexed) {c d : Column} (hc : c ∈ h.columns) (hd : d ∈ h.columns)
    (he : c.index = d.index) : c = d := by
  have hcd := hi.getElem?_index hc
  rw [he, hi.getElem?_index hd] at hcd
  exact (Option.some.inj hcd).symm

theorem index_lt (hi : h.Indexed) {c : Column} (hc : c ∈ h.columns) : c.index < h.width :=
  (List.getElem?_eq_some_iff.1 (hi.getElem?_index hc)).1

end Indexed

/-- **A heading as it is built up**: columns at their indices, under labels and names of their own, and names of
characters that the engine takes. -/
structure WellFormed (h : Heading) : Prop where
  index : ∀ (i : Nat) (c : Column), h.columns[i]? = some c → c.index = i
  labels : (h.columns.map (·.label)).Nodup
  names : h.aggNames.Nodup
  legal : ∀ c ∈ h.columns, IsAggName c.aggName

theorem wellFormed_empty : empty.WellFormed :=
  ⟨fun _ _ h => by simp [empty] at h, List.nodup_nil, List.nodup_nil, fun _ h => absurd h List.not_mem_nil⟩

theorem nameFor_not_mem (h : Heading) (c : Column) : h.nameFor c ∉ h.aggNames := by
  unfold nameFor
  split
  · exact freeName_not_mem _ _
  · rename_i hc
    simpa using hc

/-- **Adding a column keeps the names apart.** -/
theorem nodup_aggNames_add {h h' : Heading} {c : Column} (hn : h.aggNames.Nodup) (ha : h.add c = .ok h') :
    h'.aggNames.Nodup := by
  obtain ⟨-, rfl⟩ := add_eq_ok_iff.1 ha
  rw [aggNames, List.map_append, List.nodup_append]
  refine ⟨hn, List.nodup_singleton _, fun n hn n' hn' => ?_⟩
  rw [List.map_singleton, List.mem_singleton] at hn'
  rintro rfl
  subst hn'
  exact h.nameFor_not_mem c hn

theorem isAggName_nameFor (h : Heading) {c : Column} (hc : IsAggName c.aggName) : IsAggName (h.nameFor c) := by
  unfold nameFor
  split
  · exact isAggName_freeName _ (hc.numbered _)
  · exact hc

namespace WellFormed

variable {h : Heading}

/-- **Adding a column keeps a heading well formed.** -/
theorem add {h' : Heading} {c : Column} (hw : h.WellFormed) (hc : IsAggName c.aggName) (ha : h.add c = .ok h') :
    h'.WellFormed := by
  have hindex : h'.Indexed := Indexed.add hw.index ha
  have hnames : h'.aggNames.Nodup := nodup_aggNames_add hw.names ha
  obtain ⟨hlabel, rfl⟩ := add_eq_ok_iff.1 ha
  refine ⟨hindex, ?_, hnames, fun d hd => ?_⟩
  · rw [List.map_append, List.nodup_append]
    refine ⟨hw.labels, List.nodup_singleton _, fun l hl l' hl' => ?_⟩
    rw [List.map_singleton, List.mem_singleton] at hl'
    rintro rfl
    exact hlabel (hl' ▸ hl)
  · rcases List.mem_append.1 hd with hd | hd
    · exact hw.legal d hd
    · rw [List.mem_singleton.1 hd]
      exact h.isAggName_nameFor hc

theorem byLabel?_eq_some_iff (hw : h.WellFormed) {label : String} {c : Column} :
    h.byLabel? label = some c ↔ c ∈ h.columns ∧ c.label = label :=
  find?_eq_some_iff_of_nodup Column.label hw.labels

theorem byAggName?_eq_some_iff (hw : h.WellFormed) {name : String} {c : Column} :
    h.byAggName? name = some c ↔ c ∈ h.columns ∧ c.aggName = name :=
  find?_eq_some_iff_of_nodup Column.aggName hw.names

theorem getElem?_index (hw : h.WellFormed) {c : Column} (hc : c ∈ h.columns) : h.columns[c.index]? = some c :=
  Indexed.getElem?_index hw.index hc

theorem eq_of_index_eq (hw : h.WellFormed) {c d : Column} (hc : c ∈ h.columns) (hd : d ∈ h.columns)
    (hi : c.index = d.index) : c = d :=
  Indexed.eq_of_index_eq hw.index hc hd hi

theorem map_index (hw : h.WellFormed) : h.columns.map (·.index) = List.range h.width := by
  apply List.ext_getElem?
  intro i
  rw [List.getElem?_map]
  cases hc : h.columns[i]? with
  | none => rw [List.getElem?_eq_none (by simpa [width] using List.getElem?_eq_none_iff.1 hc)]; rfl
  | some c =>
    have hlt : i < h.width := (List.getElem?_eq_some_iff.1 hc).1
    rw [List.getElem?_range hlt, Option.map_some, hw.index i c hc]

theorem index_lt (hw : h.WellFormed) {c : Column} (hc : c ∈ h.columns) : c.index < h.width :=
  Indexed.index_lt hw.index hc

end WellFormed

/-- **The heading behind an attempt to add a column**: the one before it if the column is refused. -/
def attempt (h : Heading) (c : Column) : Heading :=
  match h.add c with
  | .ok h' => h'
  | .error _ => h

/-- **The heading that attempts to add columns reach**, one after the other. -/
def reach (h : Heading) (cs : List Column) : Heading := cs.foldl attempt h

theorem attempt_eq_of_mem {h : Heading} {c : Column} (hc : c.label ∈ h.columns.map (·.label)) : h.attempt c = h := by
  obtain ⟨e, he⟩ := add_eq_error_iff.2 hc
  rw [attempt, he]

/-- **What every added column keeps holds behind all attempts.** -/
theorem reach_induction {motive : Heading → Prop} {h : Heading} {cs : List Column} (hh : motive h)
    (step : ∀ h c h', c ∈ cs → motive h → h.add c = .ok h' → motive h') : motive (h.reach cs) := by
  induction cs generalizing h with
  | nil => exact hh
  | cons c cs ih =>
    refine ih ?_ (fun h d h' hd => step h d h' (List.mem_cons_of_mem _ hd))
    unfold attempt
    split
    · rename_i h' ha
      exact step h c h' List.mem_cons_self hh ha
    · exact hh

theorem prefix_reach (h : Heading) (cs : List Column) : h.columns <+: (h.reach cs).columns := by
  refine reach_induction (motive := fun h' => h.columns <+: h'.columns) (List.prefix_refl _) ?_
  intro h' c h'' _ hp ha
  obtain ⟨-, rfl⟩ := add_eq_ok_iff.1 ha
  exact hp.trans (List.prefix_append _ _)

theorem WellFormed.reach {h : Heading} {cs : List Column} (hw : h.WellFormed)
    (hcs : ∀ c ∈ cs, IsAggName c.aggName) : (h.reach cs).WellFormed :=
  reach_induction hw (fun _ c _ hc hw ha => hw.add (hcs c hc) ha)

/-- **A heading that attempts to add columns lead to**, from no columns on. -/
def Built (h : Heading) : Prop := ∃ cs, empty.reach cs = h

theorem Built.indexed {h : Heading} (hb : h.Built) : h.Indexed := by
  obtain ⟨cs, rfl⟩ := hb
  exact reach_induction wellFormed_empty.index (fun _ _ _ _ hi ha => Indexed.add hi ha)

theorem Built.names {h : Heading} (hb : h.Built) : h.aggNames.Nodup := by
  obtain ⟨cs, rfl⟩ := hb
  exact reach_induction wellFormed_empty.names (fun _ _ _ _ hn ha => nodup_aggNames_add hn ha)

/-- **How an added column stands in the heading**: behind all others, at its index, and under the name that the search
for a free one ends with where its own is taken. -/
theorem add_eq_ok_columns {h h' : Heading} {c : Column} (ha : h.add c = .ok h') :
    ∃ name, h'.columns = h.columns ++ [{ c with index := h.width, aggName := name }] ∧
      (c.aggName ∉ h.aggNames → name = c.aggName) ∧
      (c.aggName ∈ h.aggNames → ∃ n ≤ h.width, EndsAt h.aggNames (c.aggName ++ "_" ++ toString h.width) n ∧
        name = candidate (c.aggName ++ "_" ++ toString h.width) n) := by
  obtain ⟨-, rfl⟩ := add_eq_ok_iff.1 ha
  refine ⟨h.nameFor c, rfl, fun hc => ?_, fun hc => ?_⟩
  · rw [nameFor, if_neg (by simpa using hc)]
  · obtain ⟨n, hn, hend⟩ := exists_endsAt h.aggNames (c.aggName ++ "_" ++ toString h.width)
    refine ⟨n, ?_, hend, ?_⟩
    · simpa [aggNames, width] using hn
    · rw [nameFor, if_pos (by simpa using hc)]
      exact freeName_eq_candidate hn hend

/-- **Every heading that attempts to add columns reach is well formed**, whatever their labels and aliases.  Its columns
are found by their labels and names and by nothing else; further attempts leave them as they are; an attempt fails
exactly if the label is taken, and then changes nothing; otherwise the search for a name ends. -/
theorem wellFormed_of_attempts (cs : List Column) (hcs : ∀ c ∈ cs, ∃ label, c.aggName = aggNameOf label) :
    let h := empty.reach cs
    h.WellFormed ∧
    (∀ label c, h.byLabel? label = some c ↔ c ∈ h.columns ∧ c.label = label) ∧
    (∀ name c, h.byAggName? name = some c ↔ c ∈ h.columns ∧ c.aggName = name) ∧
    (∀ more, h.columns <+: (h.reach more).columns) ∧
    ∀ c, ((∃ e, h.add c = .error e) ↔ c.label ∈ h.columns.map (·.label)) ∧
      (∀ e, h.add c = .error e → h.attempt c = h) ∧
      ∀ h', h.add c = .ok h' → h.attempt c = h' ∧
        ∃ name, h'.columns = h.columns ++ [{ c with index := h.width, aggName := name }] ∧
          (c.aggName ∉ h.aggNames → name = c.aggName) ∧
          (c.aggName ∈ h.aggNames → ∃ n ≤ h.width, EndsAt h.aggNames (c.aggName ++ "_" ++ toString h.width) n ∧
            name = candidate (c.aggName ++ "_" ++ toString h.width) n) := by
  intro h
  have hlegal : ∀ c ∈ cs, IsAggName c.aggName := by
    intro c hc
    obtain ⟨label, hl⟩ := hcs c hc
    exact hl ▸ isAggName_aggNameOf label
  have hw : h.WellFormed := wellFormed_empty.reach hlegal
  refine ⟨hw, fun _ _ => hw.byLabel?_eq_some_iff, fun _ _ => hw.byAggName?_eq_some_iff, h.prefix_reach, fun c => ?_⟩
  refine ⟨add_eq_error_iff, fun e he => attempt_eq_of_mem (add_eq_error_iff.1 ⟨e, he⟩), fun h' ha => ⟨?_, ?_⟩⟩
  · rw [attempt, ha]
  · exact add_eq_ok_columns ha

/-- Three aliases of which the last loses its own characters, and its first choice of a name, to the others. -/
theorem wellFormed_of_colliding_attempts :
    let cs := ["p_q_2", "p_q", "p q"].map (fun s => (Column.function .sum (some "v") []).withAlias s)
    (∀ c ∈ cs, ∃ label, c.aggName = aggNameOf label) ∧ (empty.reach cs).WellFormed ∧
      (empty.reach cs).aggNames = ["p_q_2", "p_q", "p_q_2_1"] := by
  intro cs
  have hcs : ∀ c ∈ cs, ∃ label, c.aggName = aggNameOf label := by
    intro c hc
    obtain ⟨s, -, rfl⟩ := List.mem_map.1 hc
    exact ⟨s, rfl⟩
  exact ⟨hcs, (wellFormed_of_attempts cs hcs).1, by decide +kernel⟩

end Heading
end FacetSql
