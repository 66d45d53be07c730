import FacetSql.Proofs.Answer.Reading
/-!
# Sent — answers as an engine sends them, and their way back

An engine sends a tree of aggregations as nested objects, with the type of each in front of its name.  Objects do not
keep the order of their members, so what is read back is the tree with siblings in the order of their keys
(`ofResponse_of_sent`).  A name may hold number signs itself: a type never does.
-/
namespace FacetSql.Answer

/-- **The types of aggregations with buckets.** -/
inductive BucketType where
  | sterms | lterms | dterms | terms | dateHistogram
  deriving DecidableEq

namespace BucketType

def code : BucketType → String
  | sterms => "sterms"
  | lterms => "lterms"
  | dterms => "dterms"
  | terms => "terms"
  | dateHistogram => "date_histogram"

def kind : BucketType → KeyKind
  | dateHistogram => .histogram
  | _ => .terms

theorem code_mem_types (type : BucketType) : type.code ∈ type.kind.types := by
  cases type <;> decide

end BucketType

mutual

/-- **An aggregation that is sent.** -/
inductive Sent where
  | buckets (type : BucketType) (name : String) (buckets : List SentBucket)
  | filter (name : String) (count : Nat) (children : List Sent)
  | metric (type : Request.Metric) (name : String) (value : Option Float)

/-- **A bucket that is sent**; a text of the key may go with it. -/
structure SentBucket where
  key : Cell
  keyText : Option String
  count : Nat
  children : List Sent

end

/-- The key of a bucket as it is sent: an instant is its milliseconds. -/
def keyJson : Cell → Json
  | .instant millis => .int millis
  | c => c.toJson

/-- The own members of a bucket. -/
def keyMembers (key : Cell) (keyText : Option String) (count : Nat) : List (String × Json) :=
  [("key", keyJson key), ("doc_count", .int count)] ++ (keyText.map (fun s => ("key_as_string", Json.text s))).toList

/-- The keys of buckets of a kind. -/
def KeyKind.Admits : KeyKind → Cell → Prop
  | _, .null | .terms, .bool _ | .terms, .text _ => True
  | .terms, .int n => Numeral.int64.holds n = true
  | .terms, .float x => x.isFinite = true
  | .histogram, .instant millis => Instant.isValid millis = true
  | _, _ => False

/-- Values in the order of their keys. -/
def inOrder {α : Type} (xs : List (String × α)) : List (String × α) := xs.mergeSort (fun a b => decide (a.1 ≤ b.1))

namespace Sent

/-- **The key of an aggregation**: its type and its name. -/
def typedKey : Sent → String
  | .buckets type name _ => type.code ++ "#" ++ name
  | .filter name _ _ => "filter" ++ "#" ++ name
  | .metric type name _ => type.code ++ "#" ++ name

mutual

/-- **The value of an aggregation.** -/
def body : Sent → Json
  | .buckets _ _ bs => .ofMembers [("buckets", .array (bucketBodies bs))]
  | .filter _ count children => .ofMembers ([("doc_count", .int count)] ++ members children)
  | .metric _ _ value => .ofMembers [("value", (value.map Json.ofFloat).getD .null)]

/-- The members of aggregations. -/
def members : List Sent → List (String × Json)
  | [] => []
  | s :: ss => (s.typedKey, s.body) :: members ss

def bucketBodies : List SentBucket → List Json
  | [] => []
  | b :: bs => bucketBody b :: bucketBodies bs

def bucketBody : SentBucket → Json
  | ⟨key, keyText, count, children⟩ => .ofMembers (keyMembers key keyText count ++ members children)

end

mutual

/-- **The tree of an aggregation**, with all siblings in the order of their keys. -/
def tree : Sent → Tree
  | .buckets type name bs => .buckets type.kind name (bucketTrees bs)
  | .filter name count children => .filter name count ((inOrder (keyed children)).map (·.2))
  | .metric _ name value => .metric name value

/-- The trees of aggregations under their keys. -/
def keyed : List Sent → List (String × Tree)
  | [] => []
  | s :: ss => (s.typedKey, s.tree) :: keyed ss

def bucketTrees : List SentBucket → List Bucket
  | [] => []
  | b :: bs => bucketTree b :: bucketTrees bs

def bucketTree : SentBucket → Bucket
  | ⟨key, _, count, children⟩ => ⟨key, count, (inOrder (keyed children)).map (·.2)⟩

end

/-- **The trees of siblings**, in the order of their keys. -/
def trees (ss : List Sent) : List Tree := (inOrder (keyed ss)).map (·.2)

/-- Siblings have keys of their own. -/
def Distinct (ss : List Sent) : Prop := (ss.map typedKey).Nodup

mutual

/-- **What can be sent**: keys that fit their kind, finite numbers, and siblings with keys of their own. -/
def Sound : Sent → Prop
  | .buckets type _ bs => BucketsSound type.kind bs
  | .filter _ _ children => Distinct children ∧ AllSound children
  | .metric _ _ value => ∀ x ∈ value, x.isFinite = true

def AllSound : List Sent → Prop
  | [] => True
  | s :: ss => s.Sound ∧ AllSound ss

def BucketsSound (kind : KeyKind) : List SentBucket → Prop
  | [] => True
  | b :: bs => BucketSound kind b ∧ BucketsSound kind bs

def BucketSound (kind : KeyKind) : SentBucket → Prop
  | ⟨key, _, _, children⟩ => kind.Admits key ∧ Distinct children ∧ AllSound children

end

theorem members_eq_map (ss : List Sent) : members ss = ss.map (fun s => (s.typedKey, s.body)) := by
  induction ss with
  | nil => rfl
  | cons s ss ih => rw [members, ih, List.map_cons]

theorem keyed_eq_map (ss : List Sent) : keyed ss = ss.map (fun s => (s.typedKey, s.tree)) := by
  induction ss with
  | nil => rfl
  | cons s ss ih => rw [keyed, ih, List.map_cons]

theorem map_fst_members (ss : List Sent) : (members ss).map (·.1) = ss.map typedKey := by
  rw [members_eq_map, List.map_map]
  rfl

theorem sign_mem_typedKey (s : Sent) : '#' ∈ s.typedKey.toList := by
  cases s <;> exact sign_mem_typed _ _

theorem sign_mem_of_mem_members {ss : List Sent} {m : String × Json} (hm : m ∈ members ss) : '#' ∈ m.1.toList := by
  rw [members_eq_map] at hm
  obtain ⟨s, -, rfl⟩ := List.mem_map.1 hm
  exact s.sign_mem_typedKey

theorem pairwise_inOrder {α : Type} (xs : List (String × α)) : (inOrder xs).Pairwise (fun a b => a.1 ≤ b.1) := by
  have hsorted : (inOrder xs).Pairwise (fun a b => decide (a.1 ≤ b.1) = true) := by
    apply List.pairwise_mergeSort
    · intro a b c hab hbc
      rw [decide_eq_true_iff] at hab hbc ⊢
      exact String.le_trans hab hbc
    · intro a b
      rw [Bool.or_eq_true, decide_eq_true_iff, decide_eq_true_iff]
      exact String.le_total a.1 b.1
  exact hsorted.imp of_decide_eq_true

theorem inOrder_map {α : Type} (f : Sent → α) (ss : List Sent) : inOrder (ss.map (fun s => (s.typedKey, f s))) =
    (ss.mergeSort (fun a b => decide (a.typedKey ≤ b.typedKey))).map (fun s => (s.typedKey, f s)) := by
  symm
  apply List.map_mergeSort
  intro a _ b _
  rfl

/-- No sibling is lost. -/
theorem trees_perm (ss : List Sent) : (trees ss).Perm (ss.map tree) := by
  rw [trees, keyed_eq_map, inOrder_map, List.map_map]
  exact (List.mergeSort_perm ss _).map tree

/-- **Ascending keys are the order of keys.** -/
theorem eq_inOrder {ms ms' : List (String × Json)} (hperm : ms.Perm ms') (hms : Json.Ascending ms) :
    ms = inOrder ms' := by
  have hle : ms.Pairwise (fun a b => a.1 ≤ b.1) := hms.imp (fun h => String.not_lt.1 (String.lt_asymm h))
  have hsort : ms.Perm (inOrder ms') := hperm.trans (List.mergeSort_perm ms' _).symm
  refine List.Perm.eq_of_pairwise (fun a b ha hb hab hba => ?_) hle (pairwise_inOrder ms') hsort
  have hkey : a.1 = b.1 := String.le_antisymm hab hba
  have hvalue : some a.2 = some b.2 := by
    rw [← Json.lookUp_of_mem (Json.Ascending.nodup hms) ha, hkey,
      Json.lookUp_of_mem (Json.Ascending.nodup hms) (hsort.mem_iff.2 hb)]
  exact Prod.ext hkey (Option.some.inj hvalue)

/-- **Members of an object's own**, which aggregations may stand beside. -/
structure Own (own : List String) (fixed : List (String × Json)) : Prop where
  noSign : ∀ key ∈ own, '#' ∉ key.toList
  among : ∀ m ∈ fixed, m.1 ∈ own
  once : (fixed.map (·.1)).Nodup

namespace Own

variable {own : List String} {fixed : List (String × Json)} {ss : List Sent}

theorem nodup (ho : Own own fixed) (hd : Distinct ss) : ((fixed ++ members ss).map (·.1)).Nodup := by
  rw [List.map_append, map_fst_members, List.nodup_append]
  refine ⟨ho.once, hd, fun key hkey key' hkey' => ?_⟩
  obtain ⟨m, hm, rfl⟩ := List.mem_map.1 hkey
  obtain ⟨s, -, rfl⟩ := List.mem_map.1 hkey'
  intro heq
  exact ho.noSign _ (ho.among m hm) (heq ▸ s.sign_mem_typedKey)

theorem lookUp (ho : Own own fixed) (hd : Distinct ss) {key : String} {v : Json} (hm : (key, v) ∈ fixed) :
    Json.lookUp key (Json.sortedMembers (fixed ++ members ss)) = some v := by
  have hperm := Json.sortedMembers_perm (ho.nodup hd)
  exact Json.lookUp_of_mem ((hperm.map _).nodup_iff.2 (ho.nodup hd)) (hperm.mem_iff.2 (List.mem_append_left _ hm))

/-- **The members that are aggregations** are in the order of their keys, whatever else is sent with them. -/
theorem aggregationsAmong (ho : Own own fixed) (hd : Distinct ss) :
    aggregationsAmong own (Json.sortedMembers (fixed ++ members ss)) = inOrder (members ss) := by
  have hkeep : Answer.aggregationsAmong own (fixed ++ members ss) = members ss := by
    have hdrop : Answer.aggregationsAmong own fixed = [] := by
      rw [Answer.aggregationsAmong, List.filter_eq_nil_iff]
      intro m hm
      simpa using ho.among m hm
    have hall := aggregationsAmong_of_sign ho.noSign (fun m (hm : m ∈ members ss) => sign_mem_of_mem_members hm)
    unfold Answer.aggregationsAmong at hdrop hall ⊢
    rw [List.filter_append, hdrop, hall, List.nil_append]
  -- what is kept of the object is a permutation of what was sent, and its keys ascend
  apply eq_inOrder
  · have hperm : (Answer.aggregationsAmong own (Json.sortedMembers (fixed ++ members ss))).Perm
        (Answer.aggregationsAmong own (fixed ++ members ss)) := (Json.sortedMembers_perm (ho.nodup hd)).filter _
    rwa [hkeep] at hperm
  · exact (Json.ascending_sortedMembers _).sublist List.filter_sublist

/-- **Siblings that are read one by one are read together**, in the order of their keys. -/
theorem ofMembers (ho : Own own fixed) (hd : Distinct ss)
    (heach : ∀ s ∈ ss, Tree.ofMember s.typedKey s.body = .ok s.tree) :
    Tree.ofMembers own (Json.sortedMembers (fixed ++ members ss)) = .ok (trees ss) := by
  rw [ofMembers_eq_mapM, ho.aggregationsAmong hd, trees, members_eq_map, keyed_eq_map, inOrder_map, inOrder_map,
    List.map_map, mapM_eq_ok_iff, List.forall₂_map_left_iff, List.forall₂_map_right_iff, List.forall₂_same]
  exact fun s hs => heach s ((List.mergeSort_perm ss _).mem_iff.1 hs)

end Own

theorem own_nil : Own [] [] := ⟨nofun, nofun, List.nodup_nil⟩

theorem own_filter (count : Nat) : Own filterMembers [("doc_count", .int count)] := by
  refine ⟨by decide, fun m hm => ?_, List.nodup_singleton _⟩
  rw [List.mem_singleton.1 hm]
  exact List.mem_cons_self

theorem own_bucket (key : Cell) (keyText : Option String) (count : Nat) :
    Own bucketMembers (keyMembers key keyText count) := by
  cases keyText with
  | none => exact ⟨by decide, by simp [keyMembers, bucketMembers], by simp [keyMembers]⟩
  | some s => exact ⟨by decide, by simp [keyMembers, bucketMembers], by simp [keyMembers]⟩

theorem int64_holds_of_isValid {millis : Int} (h : Instant.isValid millis = true) :
    Numeral.int64.holds millis = true := by
  obtain ⟨hleast, hgreatest⟩ := Instant.isValid_iff.1 h
  simp only [Instant.least, Instant.greatest] at hleast hgreatest
  refine (Bool.and_eq_true _ _).mpr ⟨decide_eq_true ?_, decide_eq_true ?_⟩
  · show -9223372036854775808 ≤ millis
    omega
  · show millis ≤ 9223372036854775807
    omega

/-- **A key of its kind comes back.** -/
theorem bucketKey_of_admits {kind : KeyKind} {key : Cell} (h : kind.Admits key) {ms : List (String × Json)}
    (hkey : Json.lookUp "key" ms = some (keyJson key)) : bucketKey kind ms = key := by
  unfold bucketKey
  rw [hkey]
  cases kind with
  | terms =>
    cases key with
    | null | bool b | text s => rfl
    | int n => exact if_pos h
    | float x =>
      have hx : x.isFinite = true := h
      show Cell.ofJson (Json.ofFloat x) = _
      rw [Json.ofFloat, if_pos hx, Cell.ofJson, Cell.ofFloat, if_pos hx]
    | instant millis => exact absurd h id
  | histogram =>
    cases key with
    | null => rfl
    | instant millis =>
      have hmillis : Instant.isValid millis = true := h
      show instantKey (.int millis) = _
      rw [instantKey, Json.int64?, if_pos (int64_holds_of_isValid hmillis)]
      exact if_pos hmillis
    | bool | int | float | text => exact absurd h id

theorem ofMember_metric (type : Request.Metric) (name : String) {value : Option Float}
    (hvalue : ∀ x ∈ value, x.isFinite = true) :
    Tree.ofMember (typedKey (.metric type name value)) (body (.metric type name value)) = .ok (.metric name value) := by
  obtain ⟨hsign, hform⟩ := ofType?_code type
  rw [Tree.ofMember, typedKey, splitKey_typed hsign]
  simp only [hform]
  have hread : ((body (.metric type name value)).member? "value").bind Json.float? = value := by
    rw [body]
    cases value with
    | none => rfl
    | some x =>
      show (Json.ofFloat x).float? = _
      rw [Json.ofFloat, if_pos (hvalue x rfl)]
      rfl
  rw [hread]

mutual

/-- **An aggregation comes back under its key.** -/
theorem ofMember_sent : ∀ s : Sent, s.Sound → Tree.ofMember s.typedKey s.body = .ok s.tree
  | .buckets type name bs, h => by
    obtain ⟨hsign, hform⟩ := ofType?_of_mem_types type.code_mem_types
    have harray : Json.lookUp "buckets" (Json.sortedMembers [("buckets", .array (bucketBodies bs))]) =
        some (.array (bucketBodies bs)) := rfl
    rw [Tree.ofMember, typedKey, splitKey_typed hsign]
    simp only [hform, body, Json.ofMembers_eq]
    rw [bucketsAmong_of_lookUp harray, bucketItems_sent type.kind name bs h]
    rfl
  | .filter name count children, h => by
    have hown := own_filter count
    have hcount := documentCount_of_lookUp (hown.lookUp h.1 List.mem_cons_self)
    have hchildren := hown.ofMembers h.1 (each_sent children h.2)
    have hform : Form.ofType? "filter" = some .filter := rfl
    rw [Tree.ofMember, typedKey, splitKey_typed (by decide)]
    simp only [hform, body, Json.ofMembers_eq, hcount, hchildren]
    rfl
  | .metric type name value, h => ofMember_metric type name h

theorem each_sent : ∀ ss : List Sent, AllSound ss → ∀ s ∈ ss, Tree.ofMember s.typedKey s.body = .ok s.tree
  | [], _ => nofun
  | s :: ss, h => List.forall_mem_cons.2 ⟨ofMember_sent s h.1, each_sent ss h.2⟩

theorem bucketItems_sent : ∀ (kind : KeyKind) (name : String) (bs : List SentBucket), BucketsSound kind bs →
    Tree.bucketItems kind name (bucketBodies bs) = .ok (bucketTrees bs)
  | _, _, [], _ => rfl
  | kind, name, b :: bs, h => by
    rw [bucketBodies, Tree.bucketItems, bucketItem_sent kind name b h.1, bucketItems_sent kind name bs h.2]
    rfl

theorem bucketItem_sent : ∀ (kind : KeyKind) (name : String) (b : SentBucket), BucketSound kind b →
    Tree.bucketItem kind name (bucketBody b) = .ok (bucketTree b)
  | kind, name, ⟨key, keyText, count, children⟩, h => by
    obtain ⟨hadmits, hdistinct, hchildren⟩ := h
    have hown := own_bucket key keyText count
    have hkey := bucketKey_of_admits hadmits (hown.lookUp hdistinct List.mem_cons_self)
    have hcount := documentCount_of_lookUp (hown.lookUp hdistinct (List.mem_cons_of_mem _ List.mem_cons_self))
    have hinside := hown.ofMembers hdistinct (each_sent children hchildren)
    rw [bucketBody, Json.ofMembers_eq, Tree.bucketItem, hkey, hcount, hinside]
    rfl

end

/-- **Aggregations come back as they are sent**, with all siblings in the order of their keys. -/
theorem ofResponse_of_sent {response : Json} {roots : List Sent} (hok : response.present? "error" = none)
    (hresponse : response.member? "aggregations" = some (.ofMembers (members roots))) (hdistinct : Distinct roots)
    (hsound : AllSound roots) : Tree.ofResponse response = .ok (trees roots) := by
  have hpresent : response.present? "aggregations" = some (.object (Json.sortedMembers ([] ++ members roots))) := by
    rw [Json.present?, hresponse]
    rfl
  rw [Tree.ofResponse, checkError, hok, hpresent]
  exact own_nil.ofMembers hdistinct (each_sent roots hsound)

/-- Two aggregations out of order, one with a number sign in its name. -/
def pageAndTotal : List Sent :=
  [.buckets .sterms "page#2" [⟨.text "x", none, 2, [.metric .max "v" none]⟩], .filter "total" 3 []]

theorem ofResponse_pageAndTotal :
    Tree.ofResponse (.object [("aggregations", .ofMembers (members pageAndTotal))]) =
      .ok [.filter "total" 3 [], .buckets .terms "page#2" [⟨.text "x", 2, [.metric "v" none]⟩]] := by
  have hdistinct : Distinct pageAndTotal := by
    show ["sterms#page#2", "filter#total"].Nodup
    decide
  have hsound : AllSound pageAndTotal :=
    ⟨⟨⟨trivial, List.nodup_singleton _, nofun, trivial⟩, trivial⟩, ⟨List.nodup_nil, trivial⟩, trivial⟩
  have htrees : trees pageAndTotal =
      [.filter "total" 3 [], .buckets .terms "page#2" [⟨.text "x", 2, [.metric "v" none]⟩]] := by
    have hlater : ¬ "sterms#page#2" ≤ "filter#total" := by decide
    simp [trees, inOrder, pageAndTotal, keyed, tree, bucketTrees, bucketTree, typedKey, BucketType.code,
      BucketType.kind, List.mergeSort, hlater]
  rw [← htrees]
  exact ofResponse_of_sent rfl rfl hdistinct hsound

end Sent
end FacetSql.Answer
