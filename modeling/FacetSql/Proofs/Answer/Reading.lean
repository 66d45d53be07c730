import FacetSql.Json.Lemmas
import FacetSql.Proofs.Answer.Conforming
/-!
# Reading — the trees of an answer that conforms

Each part of an answer that fits what was asked for is read as a tree: a metric by its type and name, a bucket by its
key and count, a member with buckets by its array.
-/
namespace FacetSql.Answer

open Request

/-- **A key is split around the first number sign.** -/
theorem splitKey_typed {type : String} (ht : '#' ∉ type.toList) (name : String) :
    splitKey (type ++ "#" ++ name) = some (type, name) := by
  have hall : ∀ c ∈ type.toList, (c != '#') = true := by
    intro c hc
    rw [bne_iff_ne]
    rintro rfl
    exact ht hc
  have hlist : (type ++ "#" ++ name).toList = type.toList ++ '#' :: name.toList := by
    simp [String.toList_append]
  unfold splitKey
  rw [hlist, List.dropWhile_append_of_pos hall, List.takeWhile_append_of_pos hall]
  simp

theorem ofType?_of_mem_types {kind : KeyKind} {type : String} (ht : type ∈ kind.types) :
    '#' ∉ type.toList ∧ Form.ofType? type = some (.buckets kind) := by
  cases kind <;> simp only [KeyKind.types, List.mem_cons, List.not_mem_nil, or_false] at ht
  · rcases ht with rfl | rfl | rfl | rfl <;> exact ⟨by decide, rfl⟩
  · subst ht
    exact ⟨by decide, rfl⟩

theorem ofType?_code (metric : Metric) :
    '#' ∉ metric.code.toList ∧ Form.ofType? metric.code = some .metric := by
  cases metric <;> exact ⟨by decide, rfl⟩

theorem aggregationsAmong_of_sign {own : List String} (hown : ∀ key ∈ own, '#' ∉ key.toList)
    {ms : List (String × Json)} (hms : ∀ m ∈ ms, '#' ∈ m.1.toList) : aggregationsAmong own ms = ms := by
  rw [aggregationsAmong, List.filter_eq_self]
  intro m hm
  rw [Bool.not_eq_true', ← Bool.not_eq_true, List.contains_iff_mem]
  exact fun hmem => hown _ hmem (hms m hm)

theorem sign_mem_typed (type name : String) : '#' ∈ (type ++ "#" ++ name).toList := by
  simp [String.toList_append]

theorem ofMembers_eq_mapM (own : List String) (ms : List (String × Json)) :
    Tree.ofMembers own ms = (aggregationsAmong own ms).mapM (fun m => Tree.ofMember m.1 m.2) := by
  induction ms with
  | nil => rfl
  | cons m ms ih =>
    obtain ⟨key, j⟩ := m
    rw [Tree.ofMembers, aggregationsAmong, List.filter_cons]
    by_cases hown : own.contains key = true
    · rw [if_pos hown, if_neg (by simpa using hown), ih]
      rfl
    · rw [if_neg hown, if_pos (by simpa using hown), List.mapM_cons, ih]
      rfl

theorem bucketsAmong_of_lookUp {kind : KeyKind} {name : String} {ms : List (String × Json)} {items : List Json}
    (h : Json.lookUp "buckets" ms = some (.array items)) :
    Tree.bucketsAmong kind name ms = Tree.bucketItems kind name items := by
  induction ms with
  | nil => cases h
  | cons m ms ih =>
    obtain ⟨key, j⟩ := m
    rw [Json.lookUp_cons] at h
    rw [Tree.bucketsAmong]
    split at h
    · rename_i hk
      cases h
      rw [if_pos hk, Tree.bucketArray]
    · rename_i hk
      rw [if_neg hk, ih h]

theorem ofMember_of_comesBack {node : Node} {kind : KeyKind} {m : String × Json} {items : List Json}
    {bs : List Bucket} (hm : ComesBack node kind m items) (hb : Tree.bucketItems kind node.name items = .ok bs) :
    Tree.ofMember m.1 m.2 = .ok (.buckets kind node.name bs) := by
  obtain ⟨-, type, ht, body, rfl, harray⟩ := hm
  obtain ⟨hsign, hform⟩ := ofType?_of_mem_types ht
  rw [Tree.ofMember, splitKey_typed hsign]
  simp only [hform]
  rw [bucketsAmong_of_lookUp harray, hb]
  rfl

/-- **Metrics that come back are read one by one.** -/
theorem ofMembers_of_carries {own : List String} {nodes : List Node} {ms values : List (String × Json)}
    (hc : Carries nodes (aggregationsAmong own ms) values) :
    Tree.ofMembers own ms = .ok (values.map (fun v => .metric v.1 v.2.float?)) := by
  rw [ofMembers_eq_mapM, mapM_eq_ok_iff, List.forall₂_map_right_iff]
  refine hc.each.imp (fun m v => ?_)
  rintro ⟨metric, field, -, hkey, hvalue⟩
  obtain ⟨hsign, hform⟩ := ofType?_code metric
  rw [Tree.ofMember, hkey, splitKey_typed hsign]
  simp only [hform, hvalue]
  rfl

theorem documentCount_of_lookUp {ms : List (String × Json)} {count : Nat}
    (h : Json.lookUp "doc_count" ms = some (.int count)) : documentCount ms = count := by
  rw [documentCount, h]
  simp [Json.word64?]

theorem documentCount_of_counts {ms : List (String × Json)} {count : Nat} (hc : Counts ms count) :
    documentCount ms = count := documentCount_of_lookUp hc.1

theorem bucketItem_eq_ok {kind : KeyKind} {name : String} {ms : List (String × Json)} {ts : List Tree}
    (hts : Tree.ofMembers bucketMembers ms = .ok ts) :
    Tree.bucketItem kind name (.object ms) = .ok ⟨bucketKey kind ms, documentCount ms, ts⟩ := by
  rw [Tree.bucketItem, hts]
  rfl

theorem ofResponse_eq_ok {response : Json} {m : String × Json} {t : Tree} (ok : response.present? "error" = none)
    (root : response.member? "aggregations" = some (.object [m])) (ht : Tree.ofMember m.1 m.2 = .ok t) :
    Tree.ofResponse response = .ok [t] := by
  have hp : response.present? "aggregations" = some (.object [m]) := by
    rw [Json.present?, root]
  have hs : Tree.ofMembers [] [m] = .ok [t] := by
    rw [ofMembers_eq_mapM, mapM_eq_ok_iff]
    exact .cons ht .nil
  rw [Tree.ofResponse, checkError, ok, hp]
  exact hs

end FacetSql.Answer
