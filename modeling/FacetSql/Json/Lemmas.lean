import FacetSql.Json.Basic
/-!
# Json.Lemmas — members by key

Putting a member into its place changes what is found under its key and nothing else (`lookUp_insertMember`), and
ascending keys stay ascending (`ascending_insertMember`).  Members with keys of their own are all kept
(`sortedMembers_perm`), and each is found under its key (`lookUp_of_mem`), so an object says everything but their
order (`sortedMembers_eq_iff`).
-/
namespace FacetSql.Json

/-- **The keys ascend**, so no key stands twice. -/
def Ascending (ms : List (String × Json)) : Prop := ms.Pairwise (fun a b => a.1 < b.1)

theorem lookUp_cons (k key : String) (v : Json) (ms : List (String × Json)) :
    lookUp k ((key, v) :: ms) = if key = k then some v else lookUp k ms := by
  by_cases h : key = k <;> simp [lookUp, h]

/-- **A member is found under its own key, and all others as before.** -/
theorem lookUp_insertMember (k key : String) (v : Json) (ms : List (String × Json)) :
    lookUp k (insertMember key v ms) = if key = k then some v else lookUp k ms := by
  induction ms with
  | nil => rw [insertMember, lookUp_cons]
  | cons m ms ih =>
    obtain ⟨key', v'⟩ := m
    rw [insertMember]
    split
    · rw [lookUp_cons]
    · split
      · next h =>
        subst h
        rw [lookUp_cons, lookUp_cons]
        split <;> rfl
      · next h =>
        rw [lookUp_cons, ih, lookUp_cons]
        by_cases hk : key' = k
        · rw [if_pos hk, if_pos hk, if_neg (fun e => h (e.trans hk.symm))]
        · rw [if_neg hk, if_neg hk]

/-- The keys after putting a member into its place. -/
theorem mem_keys_insertMember (k key : String) (v : Json) (ms : List (String × Json)) :
    k ∈ (insertMember key v ms).map (·.1) ↔ k = key ∨ k ∈ ms.map (·.1) := by
  induction ms with
  | nil => simp [insertMember]
  | cons m ms ih =>
    rw [insertMember]
    split
    · simp
    · split
      · next h => simp [h]
      · rw [List.map_cons, List.mem_cons, ih, List.map_cons, List.mem_cons]
        exact or_left_comm

/-- **Ascending keys stay ascending.** -/
theorem ascending_insertMember (key : String) (v : Json) (ms : List (String × Json)) (h : Ascending ms) :
    Ascending (insertMember key v ms) := by
  induction ms with
  | nil => exact List.pairwise_singleton _ _
  | cons m ms ih =>
    obtain ⟨hm, hms⟩ := List.pairwise_cons.1 h
    rw [insertMember]
    split
    · next hlt =>
      refine List.pairwise_cons.2 ⟨fun x hx => ?_, h⟩
      rcases List.mem_cons.1 hx with rfl | hx
      · exact hlt
      · exact String.lt_trans hlt (hm x hx)
    · split
      · next heq => exact List.pairwise_cons.2 ⟨fun x hx => by rw [heq]; exact hm x hx, hms⟩
      · next hlt heq =>
        refine List.pairwise_cons.2 ⟨fun x hx => ?_, ih hms⟩
        have hx' : x.1 ∈ (insertMember key v ms).map (·.1) := List.mem_map.2 ⟨x, hx, rfl⟩
        rcases (mem_keys_insertMember _ _ _ _).1 hx' with e | hx'
        · rw [e]
          exact Decidable.byContradiction (fun hn => heq (String.le_antisymm
            (String.not_lt.1 hn) (String.not_lt.1 hlt)))
        · obtain ⟨y, hy, e⟩ := List.mem_map.1 hx'
          rw [← e]
          exact hm y hy

/-- The members of an object made from a list. -/
def sortedMembers (ms : List (String × Json)) : List (String × Json) :=
  ms.foldl (fun sorted m => insertMember m.1 m.2 sorted) []

theorem ofMembers_eq (ms : List (String × Json)) : ofMembers ms = .object (sortedMembers ms) := rfl

theorem ofMembers_pair {a b : String} (h : a < b) (v w : Json) :
    ofMembers [(a, v), (b, w)] = .object [(a, v), (b, w)] := by
  have hne : b ≠ a := fun he => String.lt_irrefl b (he ▸ h)
  simp [ofMembers, insertMember, String.lt_asymm h, hne]

theorem ofMembers_swap {a b : String} (h : b < a) (v w : Json) :
    ofMembers [(a, v), (b, w)] = .object [(b, w), (a, v)] := by
  simp [ofMembers, insertMember, h]

theorem ascending_foldl_insertMember (ms : List (String × Json)) : ∀ (sorted : List (String × Json)),
    Ascending sorted → Ascending (ms.foldl (fun sorted m => insertMember m.1 m.2 sorted) sorted) := by
  induction ms with
  | nil => exact fun _ h => h
  | cons m ms ih => exact fun sorted h => ih _ (ascending_insertMember m.1 m.2 sorted h)

/-- **Every object made from a list of members has ascending keys.** -/
theorem ascending_sortedMembers (ms : List (String × Json)) : Ascending (sortedMembers ms) :=
  ascending_foldl_insertMember ms [] List.Pairwise.nil

/-- A new key adds a member. -/
theorem insertMember_perm {key : String} (v : Json) {ms : List (String × Json)} (hnew : key ∉ ms.map (·.1)) :
    (insertMember key v ms).Perm ((key, v) :: ms) := by
  induction ms with
  | nil => exact List.Perm.refl _
  | cons m ms ih =>
    rw [List.map_cons, List.mem_cons, not_or] at hnew
    rw [insertMember, if_neg hnew.1]
    split
    · exact List.Perm.refl _
    · exact ((ih hnew.2).cons m).trans (List.Perm.swap _ _ _)

theorem foldl_insertMember_perm (ms : List (String × Json)) : ∀ (sorted : List (String × Json)),
    ((ms ++ sorted).map (·.1)).Nodup →
      (ms.foldl (fun sorted m => insertMember m.1 m.2 sorted) sorted).Perm (ms ++ sorted) := by
  induction ms with
  | nil => exact fun _ _ => List.Perm.refl _
  | cons m ms ih =>
    intro sorted hnodup
    have hnew : m.1 ∉ sorted.map (·.1) := by
      rw [List.cons_append, List.map_cons, List.nodup_cons, List.map_append, List.mem_append, not_or] at hnodup
      exact hnodup.1.2
    have hplaced : (ms ++ insertMember m.1 m.2 sorted).Perm (m :: ms ++ sorted) :=
      ((insertMember_perm m.2 hnew).append_left ms).trans List.perm_middle
    exact (ih _ ((hplaced.map _).nodup_iff.2 hnodup)).trans hplaced

/-- **Members with keys of their own are all kept.** -/
theorem sortedMembers_perm {ms : List (String × Json)} (h : (ms.map (·.1)).Nodup) : (sortedMembers ms).Perm ms := by
  have hperm := foldl_insertMember_perm ms [] (by rwa [List.append_nil])
  rwa [List.append_nil] at hperm

/-- **A member with a key of its own is found.** -/
theorem lookUp_of_mem {key : String} {v : Json} {ms : List (String × Json)} (h : (ms.map (·.1)).Nodup)
    (hm : (key, v) ∈ ms) : lookUp key ms = some v := by
  induction ms with
  | nil => exact absurd hm List.not_mem_nil
  | cons m ms ih =>
    obtain ⟨key', v'⟩ := m
    rw [List.map_cons, List.nodup_cons] at h
    rw [lookUp_cons]
    rcases List.mem_cons.1 hm with heq | hm
    · cases heq
      rw [if_pos rfl]
    · have hne : key' ≠ key := fun he => h.1 (List.mem_map.2 ⟨_, hm, he.symm⟩)
      rw [if_neg hne, ih h.2 hm]

theorem Ascending.nodup {ms : List (String × Json)} (h : Ascending ms) : (ms.map (·.1)).Nodup := by
  refine List.pairwise_map.2 (h.imp (fun {a b} hlt heq => ?_))
  rw [heq] at hlt
  exact String.lt_irrefl b.1 hlt

/-- **In an object made from a list the later of two members with one key is found.** -/
theorem lookUp_sortedMembers (key : String) (ms : List (String × Json)) :
    lookUp key (sortedMembers ms) = lookUp key ms.reverse := by
  have hfold : ∀ (ms sorted rest : List (String × Json)), (∀ k, lookUp k sorted = lookUp k rest) →
      lookUp key (ms.foldl (fun sorted m => insertMember m.1 m.2 sorted) sorted) = lookUp key (ms.reverse ++ rest) := by
    intro ms
    induction ms with
    | nil => exact fun _ _ h => h key
    | cons m ms ih =>
      intro sorted rest h
      rw [List.foldl_cons, List.reverse_cons, List.append_assoc, List.singleton_append]
      refine ih _ _ (fun k => ?_)
      rw [lookUp_insertMember, lookUp_cons, h]
  have hall := hfold ms [] [] (fun _ => rfl)
  rwa [List.append_nil] at hall

theorem member?_ofMembers (key : String) (ms : List (String × Json)) :
    (ofMembers ms).member? key = lookUp key ms.reverse := lookUp_sortedMembers key ms

theorem mem_of_lookUp {key : String} {v : Json} {ms : List (String × Json)} (h : lookUp key ms = some v) :
    (key, v) ∈ ms := by
  induction ms with
  | nil => cases h
  | cons m ms ih =>
    obtain ⟨key', v'⟩ := m
    rw [lookUp_cons] at h
    split at h
    · rename_i hk
      rw [hk, Option.some.inj h]
      exact List.mem_cons_self
    · exact List.mem_cons_of_mem _ (ih h)

/-- **Objects of members with keys of their own are the same if their members are**, in any order. -/
theorem sortedMembers_eq_iff {ms ms' : List (String × Json)} (h : (ms.map (·.1)).Nodup) (h' : (ms'.map (·.1)).Nodup) :
    sortedMembers ms = sortedMembers ms' ↔ ms.Perm ms' := by
  constructor
  · intro heq
    exact (sortedMembers_perm h).symm.trans (heq ▸ sortedMembers_perm h')
  · intro hperm
    have hsorted : (sortedMembers ms).Perm (sortedMembers ms') :=
      (sortedMembers_perm h).trans (hperm.trans (sortedMembers_perm h').symm)
    exact hsorted.eq_of_pairwise (fun a b _ _ hab hba => absurd hba (String.lt_asymm hab))
      (ascending_sortedMembers ms) (ascending_sortedMembers ms')

end FacetSql.Json
