import FacetSql.Table.Lemmas
import Mathlib.Data.List.Perm.Basic
/-!
# Sorted — sorting rows is the stable sort

A stable sort is determined by what it is: a permutation in order, in which equal elements stay as they are
(`eq_of_stable`).  Sorting rows by insertion is one, so it is the merge sort of the library wherever the order is one
(`sortRows_eq_mergeSort`); and rows that are in order stay where they are (`sortRows_of_pairwise`).
-/
namespace FacetSql

/-- **An order of elements**: comparing the other way round turns the outcome round, and not coming after is
transitive. -/
structure PreorderOn {α : Type} (order : α → α → Ordering) (xs : List α) : Prop where
  swap : ∀ a ∈ xs, ∀ b ∈ xs, order b a = (order a b).swap
  trans : ∀ a ∈ xs, ∀ b ∈ xs, ∀ c ∈ xs, order a b ≠ .gt → order b c ≠ .gt → order a c ≠ .gt

namespace PreorderOn

variable {α β : Type} {order : α → α → Ordering} {xs : List α}

theorem of_map {f : β → α} {ys : List β} (h : PreorderOn order (ys.map f)) :
    PreorderOn (fun a b => order (f a) (f b)) ys := by
  constructor
  · intro a ha b hb
    exact h.swap _ (List.mem_map_of_mem ha) _ (List.mem_map_of_mem hb)
  · intro a ha b hb c hc
    exact h.trans _ (List.mem_map_of_mem ha) _ (List.mem_map_of_mem hb) _ (List.mem_map_of_mem hc)

theorem refl (h : PreorderOn order xs) {a : α} (ha : a ∈ xs) : order a a = .eq := by
  have hswap := h.swap a ha a ha
  cases hself : order a a with
  | eq => rfl
  | lt | gt =>
    rw [hself] at hswap
    cases hswap

theorem eq_symm (h : PreorderOn order xs) {a b : α} (ha : a ∈ xs) (hb : b ∈ xs) (heq : order a b = .eq) :
    order b a = .eq := by
  rw [h.swap a ha b hb, heq]
  rfl

theorem not_gt_of_not_lt (h : PreorderOn order xs) {a b : α} (ha : a ∈ xs) (hb : b ∈ xs) (hlt : order a b ≠ .lt) :
    order b a ≠ .gt := by
  rw [h.swap a ha b hb]
  cases hab : order a b with
  | lt => exact absurd hab hlt
  | eq => exact nofun
  | gt => exact nofun

theorem not_lt_of_not_gt (h : PreorderOn order xs) {a b : α} (ha : a ∈ xs) (hb : b ∈ xs) (hgt : order a b ≠ .gt) :
    order b a ≠ .lt := by
  rw [h.swap a ha b hb]
  cases hab : order a b with
  | lt => exact nofun
  | eq => exact nofun
  | gt => exact absurd hab hgt

theorem eq_of_not_gt (h : PreorderOn order xs) {a b : α} (ha : a ∈ xs) (hb : b ∈ xs) (hab : order a b ≠ .gt)
    (hba : order b a ≠ .gt) : order a b = .eq := by
  have hlt := h.not_lt_of_not_gt hb ha hba
  cases hord : order a b with
  | lt => exact absurd hord hlt
  | eq => rfl
  | gt => exact absurd hord hab

/-- Elements equal to one element are equal. -/
theorem eq_trans (h : PreorderOn order xs) {a b c : α} (ha : a ∈ xs) (hb : b ∈ xs) (hc : c ∈ xs)
    (hab : order a b = .eq) (hac : order a c = .eq) : order b c = .eq := by
  have hba := h.eq_symm ha hb hab
  have hca := h.eq_symm ha hc hac
  apply h.eq_of_not_gt hb hc
  · exact h.trans b hb a ha c hc (by rw [hba]; exact nofun) (by rw [hac]; exact nofun)
  · exact h.trans c hc a ha b hb (by rw [hca]; exact nofun) (by rw [hab]; exact nofun)

/-- **A stable sort is determined by what it is.** -/
theorem eq_of_stable (h : PreorderOn order xs) : ∀ {s t : List α}, (∀ a ∈ s, a ∈ xs) → s.Perm t →
    s.Pairwise (fun a b => order a b ≠ .gt) → t.Pairwise (fun a b => order a b ≠ .gt) →
    (∀ x ∈ xs, s.filter (fun a => order x a == .eq) = t.filter (fun a => order x a == .eq)) → s = t
  | [], _, _, hperm, _, _, _ => hperm.nil_eq
  | a :: s, [], _, hperm, _, _, _ => absurd hperm.eq_nil (List.cons_ne_nil _ _)
  | a :: s, b :: t, hmem, hperm, hs, ht, hsame => by
    have ha : a ∈ xs := hmem a List.mem_cons_self
    have hb : b ∈ xs := hmem b (hperm.mem_iff.2 List.mem_cons_self)
    -- both are the least, so they are equal in the order, and the first of those that are
    have hab : order a b ≠ .gt := by
      rcases List.mem_cons.1 (hperm.mem_iff.2 (List.mem_cons_self : b ∈ b :: t)) with rfl | hin
      · rw [h.refl ha]
        exact nofun
      · exact (List.pairwise_cons.1 hs).1 b hin
    have hba : order b a ≠ .gt := by
      rcases List.mem_cons.1 (hperm.mem_iff.1 (List.mem_cons_self : a ∈ a :: s)) with rfl | hin
      · rw [h.refl ha]
        exact nofun
      · exact (List.pairwise_cons.1 ht).1 a hin
    have heq : order a b = .eq := h.eq_of_not_gt ha hb hab hba
    have hfirst := hsame a ha
    rw [List.filter_cons_of_pos (by rw [h.refl ha]; rfl), List.filter_cons_of_pos (by rw [heq]; rfl)] at hfirst
    obtain ⟨rfl, -⟩ := List.cons.inj hfirst
    have hrest : s = t := by
      refine eq_of_stable h (fun c hc => hmem c (List.mem_cons_of_mem _ hc)) ((List.perm_cons a).1 hperm)
        (List.pairwise_cons.1 hs).2 (List.pairwise_cons.1 ht).2 (fun x hx => ?_)
      have hx := hsame x hx
      rw [List.filter_cons, List.filter_cons] at hx
      split at hx
      · exact (List.cons.inj hx).2
      · exact hx
    rw [hrest]

/-- Not coming after, as a test. -/
def le (order : α → α → Ordering) (a b : α) : Bool := order a b != .gt

theorem le_iff {a b : α} : le order a b = true ↔ order a b ≠ .gt := bne_iff_ne

/-- Among its own elements the order needs no conditions. -/
theorem le_trans_attach (h : PreorderOn order xs) (a b c : { x // x ∈ xs }) (hab : le order a.1 b.1 = true)
    (hbc : le order b.1 c.1 = true) : le order a.1 c.1 = true := by
  rw [le_iff] at hab hbc ⊢
  exact h.trans _ a.2 _ b.2 _ c.2 hab hbc

theorem le_total_attach (h : PreorderOn order xs) (a b : { x // x ∈ xs }) :
    (le order a.1 b.1 || le order b.1 a.1) = true := by
  rw [Bool.or_eq_true, le_iff, le_iff]
  by_cases hab : order a.1 b.1 = .gt
  · right
    rw [h.swap _ a.2 _ b.2, hab]
    exact nofun
  · exact .inl hab

theorem mergeSort_attach (order : α → α → Ordering) (xs : List α) :
    xs.mergeSort (le order) = (xs.attach.mergeSort (fun a b => le order a.1 b.1)).map Subtype.val := by
  rw [List.map_mergeSort (s := le order) (fun _ _ _ _ => rfl), List.attach_map_subtype_val]

theorem pairwise_mergeSort (h : PreorderOn order xs) :
    (xs.mergeSort (le order)).Pairwise (fun a b => order a b ≠ .gt) := by
  rw [mergeSort_attach, List.pairwise_map]
  exact (List.pairwise_mergeSort h.le_trans_attach h.le_total_attach xs.attach).imp le_iff.1

/-- **Merge sort keeps equal elements as they are.** -/
theorem filter_mergeSort (h : PreorderOn order xs) {x : α} (hx : x ∈ xs) :
    (xs.mergeSort (le order)).filter (fun a => order x a == .eq) = xs.filter (fun a => order x a == .eq) := by
  let equal : { x // x ∈ xs } → Bool := fun a => order x a.1 == .eq
  have hpair : (xs.attach.filter equal).Pairwise (fun a b => le order a.1 b.1 = true) := by
    apply List.pairwise_of_forall_mem_list
    intro a ha b hb
    have hxa := (List.mem_filter.1 ha).2
    have hxb := (List.mem_filter.1 hb).2
    rw [le_iff, h.eq_trans hx a.2 b.2 (beq_iff_eq.1 hxa) (beq_iff_eq.1 hxb)]
    exact nofun
  have hsub := List.sublist_mergeSort h.le_trans_attach h.le_total_attach hpair List.filter_sublist
  have hattach : (xs.attach.mergeSort (fun a b => le order a.1 b.1)).filter equal = xs.attach.filter equal := by
    have hperm := (List.mergeSort_perm xs.attach (fun a b => le order a.1 b.1)).filter equal
    refine ((hsub.filter equal).eq_of_length ?_).symm.trans ?_
    · rw [List.filter_filter, hperm.length_eq]
      simp
    · rw [List.filter_filter]
      simp
  rw [mergeSort_attach, List.filter_map]
  have hxs : xs.filter (fun a => order x a == .eq) = (xs.attach.filter equal).map Subtype.val := by
    conv_lhs => rw [← List.attach_map_subtype_val xs]
    exact List.filter_map
  rw [hxs, ← hattach]
  rfl

end PreorderOn

namespace Table

variable {order : Row → Row → Ordering} {rows : List Row}

/-- Rows in order stay where they are. -/
theorem sortRows_of_pairwise (h : rows.Pairwise (fun a b => order b a ≠ .lt)) : sortRows order rows = rows := by
  have hfold : ∀ (rows sorted : List Row), (sorted.reverse ++ rows).Pairwise (fun a b => order b a ≠ .lt) →
      rows.foldl (fun sorted row => placeRow order row sorted) sorted = rows.reverse ++ sorted := by
    intro rows
    induction rows with
    | nil => exact fun _ _ => rfl
    | cons row rows ih =>
      intro sorted hpair
      have hplace : placeRow order row sorted = row :: sorted := by
        cases sorted with
        | nil => rfl
        | cons last before =>
          have hlast : order row last ≠ .lt :=
            (List.pairwise_append.1 hpair).2.2 last (List.mem_reverse.2 List.mem_cons_self) row List.mem_cons_self
          rw [placeRow]
          split
          · rename_i hlt
            exact absurd hlt hlast
          · rfl
      rw [List.foldl_cons, hplace, ih, List.reverse_cons, List.append_assoc, List.singleton_append]
      rwa [List.reverse_cons, List.append_assoc, List.singleton_append]
  rw [sortRows, hfold rows [] h, List.append_nil, List.reverse_reverse]

/-- What is placed into rows in descending order leaves them in descending order. -/
theorem pairwise_placeRow {xs : List Row} (h : PreorderOn order xs) {row : Row} (hrow : row ∈ xs) :
    ∀ {sorted : List Row}, (∀ a ∈ sorted, a ∈ xs) → sorted.Pairwise (fun a b => order b a ≠ .gt) →
      (placeRow order row sorted).Pairwise (fun a b => order b a ≠ .gt)
  | [], _, _ => List.pairwise_singleton _ _
  | last :: before, hmem, hsorted => by
    have hlast := hmem last List.mem_cons_self
    have hbefore := fun a ha => hmem a (List.mem_cons_of_mem _ ha)
    obtain ⟨hbelow, hrest⟩ := List.pairwise_cons.1 hsorted
    rw [placeRow]
    split
    · rename_i hlt
      refine List.pairwise_cons.2 ⟨fun a ha => ?_, pairwise_placeRow h hrow hbefore hrest⟩
      rcases List.mem_cons.1 ((placeRow_perm order row before).mem_iff.1 ha) with rfl | ha
      · rw [hlt]
        decide
      · exact hbelow a ha
    · rename_i hlt
      have hup : order last row ≠ .gt := h.not_gt_of_not_lt hrow hlast hlt
      refine List.pairwise_cons.2 ⟨fun a ha => ?_, hsorted⟩
      rcases List.mem_cons.1 ha with rfl | ha
      · exact hup
      · exact h.trans _ (hbefore a ha) _ hlast _ hrow (hbelow a ha) hup

/-- **A row passes no row that is equal to it.** -/
theorem filter_placeRow {xs : List Row} (h : PreorderOn order xs) {row x : Row} (hrow : row ∈ xs) (hx : x ∈ xs) :
    ∀ {sorted : List Row}, (∀ a ∈ sorted, a ∈ xs) →
      (placeRow order row sorted).filter (fun a => order x a == .eq) =
        (row :: sorted).filter (fun a => order x a == .eq)
  | [], _ => rfl
  | last :: before, hmem => by
    have hlast := hmem last List.mem_cons_self
    rw [placeRow]
    split
    · rename_i hlt
      rw [List.filter_cons, filter_placeRow h hrow hx (fun a ha => hmem a (List.mem_cons_of_mem _ ha))]
      by_cases hxrow : order x row = .eq
      · have hxlast : ¬ order x last = .eq := by
          intro hxlast
          rw [h.eq_trans hx hrow hlast hxrow hxlast] at hlt
          cases hlt
        simp [List.filter_cons, hxlast]
      · simp [List.filter_cons, hxrow]
    · rfl

theorem sorted_foldl_placeRow {xs : List Row} (h : PreorderOn order xs) : ∀ (rows sorted : List Row),
    (∀ a ∈ rows, a ∈ xs) → (∀ a ∈ sorted, a ∈ xs) → sorted.Pairwise (fun a b => order b a ≠ .gt) →
      (rows.foldl (fun sorted row => placeRow order row sorted) sorted).Pairwise (fun a b => order b a ≠ .gt) ∧
        ∀ x ∈ xs, (rows.foldl (fun sorted row => placeRow order row sorted) sorted).filter (fun a => order x a == .eq) =
          (rows.reverse ++ sorted).filter (fun a => order x a == .eq)
  | [], _, _, _, hsorted => ⟨hsorted, fun _ _ => rfl⟩
  | row :: rows, sorted, hrows, hmem, hsorted => by
    have hrow := hrows row List.mem_cons_self
    have hplaced : ∀ a ∈ placeRow order row sorted, a ∈ xs := by
      intro a ha
      rcases List.mem_cons.1 ((placeRow_perm order row sorted).mem_iff.1 ha) with rfl | ha
      · exact hrow
      · exact hmem a ha
    obtain ⟨hpair, hfilter⟩ := sorted_foldl_placeRow h rows (placeRow order row sorted)
      (fun a ha => hrows a (List.mem_cons_of_mem _ ha)) hplaced (pairwise_placeRow h hrow hmem hsorted)
    refine ⟨hpair, fun x hx => ?_⟩
    rw [List.foldl_cons, hfilter x hx, List.filter_append, filter_placeRow h hrow hx hmem, ← List.filter_append,
      List.reverse_cons, List.append_assoc, List.singleton_append]

theorem pairwise_sortRows (h : PreorderOn order rows) : (sortRows order rows).Pairwise (fun a b => order a b ≠ .gt) :=
  List.pairwise_reverse.2 (sorted_foldl_placeRow h rows [] (fun _ ha => ha) nofun List.Pairwise.nil).1

theorem filter_sortRows (h : PreorderOn order rows) {x : Row} (hx : x ∈ rows) :
    (sortRows order rows).filter (fun a => order x a == .eq) = rows.filter (fun a => order x a == .eq) := by
  have hfilter := (sorted_foldl_placeRow h rows [] (fun _ ha => ha) nofun List.Pairwise.nil).2 x hx
  rw [sortRows, List.filter_reverse, hfilter, List.append_nil, List.filter_reverse, List.reverse_reverse]

/-- **Sorting rows is the stable sort of the library**, wherever the order is one. -/
theorem sortRows_eq_mergeSort (h : PreorderOn order rows) :
    sortRows order rows = rows.mergeSort (PreorderOn.le order) := by
  refine h.eq_of_stable (fun a ha => (sortRows_perm order rows).mem_iff.1 ha)
    ((sortRows_perm order rows).trans (List.mergeSort_perm rows _).symm) (pairwise_sortRows h) h.pairwise_mergeSort
    (fun x hx => ?_)
  rw [filter_sortRows h hx, h.filter_mergeSort hx]

/-- No sorted row belongs before an earlier one. -/
theorem pairwise_sortRows_ne_lt (h : PreorderOn order rows) :
    (sortRows order rows).Pairwise (fun a b => order b a ≠ .lt) := by
  have hmem : ∀ a ∈ sortRows order rows, a ∈ rows := fun a ha => (sortRows_perm order rows).mem_iff.1 ha
  exact (pairwise_sortRows h).imp_of_mem (fun ha hb hab => h.not_lt_of_not_gt (hmem _ ha) (hmem _ hb) hab)

/-- **Sorted rows stay where they are when they are sorted again.** -/
theorem sortRows_sortRows (h : PreorderOn order rows) : sortRows order (sortRows order rows) = sortRows order rows :=
  sortRows_of_pairwise (pairwise_sortRows_ne_lt h)

/-- The first of the sorted rows are sorted. -/
theorem sortRows_take (h : PreorderOn order rows) (n : Nat) :
    sortRows order ((sortRows order rows).take n) = (sortRows order rows).take n :=
  sortRows_of_pairwise ((pairwise_sortRows_ne_lt h).sublist (List.take_sublist n _))

end Table
end FacetSql
