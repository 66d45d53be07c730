import FacetSql.Answer.Hits
import FacetSql.Proofs.Answer.Walk
import FacetSql.Proofs.Heading.WellFormed
import FacetSql.Proofs.Table.Sound
/-!
# Decoded — what any answer is read to

Whatever the engine answers, reading it ends in sound rows or fails for what the answer is: its shape, a name in it, or
an error it tells of.  First the answer is read to trees whose keys are finite (`Tree.ofResponse_ends`); then the trees
are walked with one row in hand, which stays sound (`treeRows_ends`), and is written to only at places of columns
(`WritesAt.lt_width`).  Documents give sound rows too (`hitRows_ends`).
-/
namespace FacetSql

/-- **A failure for what an answer is.** -/
def Failure.OfAnswer : Failure → Prop
  | .shape _ | .unresolvedName _ | .engine _ => True
  | _ => False

theorem Failure.OfTree.ofAnswer {e : Failure} (he : e.OfTree) : e.OfAnswer := by
  cases e with
  | shape | unresolvedName => trivial
  | _ => exact he.elim

namespace Answer

mutual

/-- **The keys of a tree are finite.** -/
inductive Tree.Finite : Tree → Prop where
  | buckets {kind : KeyKind} {name : String} {bs : List Bucket} (each : ∀ b ∈ bs, b.Finite) :
      Tree.Finite (.buckets kind name bs)
  | filter {name : String} {count : Nat} {children : List Tree} (each : ∀ t ∈ children, t.Finite) :
      Tree.Finite (.filter name count children)
  | metric (name : String) (value : Option Float) : Tree.Finite (.metric name value)

/-- The key of a bucket is finite, and so are the keys inside. -/
inductive Bucket.Finite : Bucket → Prop where
  | bucket {key : Cell} {count : Nat} {children : List Tree} (hkey : key.Finite) (each : ∀ t ∈ children, t.Finite) :
      Bucket.Finite ⟨key, count, children⟩

end

theorem finite_instantKey (j : Json) : (instantKey j).Finite := by
  unfold instantKey
  split
  · exact Cell.finite_ofMillis _
  · exact Cell.finite_ofMillis _
  · trivial

theorem finite_bucketKey (kind : KeyKind) (ms : List (String × Json)) : (bucketKey kind ms).Finite := by
  unfold bucketKey
  split
  · trivial
  · exact Cell.finite_ofJson _
  · exact finite_instantKey _

theorem checkError_ends (response : Json) : Ends Failure.OfAnswer (fun _ => True) (checkError response) := by
  unfold checkError
  split <;> trivial

namespace Tree

mutual

theorem ofMember_ends (key : String) : ∀ j : Json, Ends Failure.OfAnswer Tree.Finite (ofMember key j)
  | .object ms => by
    unfold ofMember
    split
    · trivial
    · split
      · trivial
      · exact .metric _ _
      · exact (bucketsAmong_ends _ _ ms).bind (fun _ hbs => .buckets hbs)
      · exact (ofMembers_ends _ ms).bind (fun _ hts => .filter hts)
  | .null | .bool _ | .int _ | .float _ | .text _ | .array _ => by
    unfold ofMember
    split
    · trivial
    · split
      · trivial
      · exact .metric _ _
      · trivial
      · trivial

theorem ofMembers_ends (own : List String) :
    ∀ ms : List (String × Json), Ends Failure.OfAnswer (fun ts => ∀ t ∈ ts, t.Finite) (ofMembers own ms)
  | [] => fun _ ht => absurd ht List.not_mem_nil
  | (key, j) :: ms => by
    rw [ofMembers]
    split
    · exact ofMembers_ends own ms
    · refine (ofMember_ends key j).bind (fun t ht => (ofMembers_ends own ms).bind (fun ts hts => ?_))
      exact List.forall_mem_cons.2 ⟨ht, hts⟩

theorem bucketsAmong_ends (kind : KeyKind) (name : String) : ∀ ms : List (String × Json),
    Ends Failure.OfAnswer (fun bs => ∀ b ∈ bs, b.Finite) (bucketsAmong kind name ms)
  | [] => trivial
  | (key, j) :: ms => by
    rw [bucketsAmong]
    split
    · exact bucketArray_ends kind name j
    · exact bucketsAmong_ends kind name ms

theorem bucketArray_ends (kind : KeyKind) (name : String) :
    ∀ j : Json, Ends Failure.OfAnswer (fun bs => ∀ b ∈ bs, b.Finite) (bucketArray kind name j)
  | .array items => by
    rw [bucketArray]
    exact bucketItems_ends kind name items
  | .null | .bool _ | .int _ | .float _ | .text _ | .object _ => trivial

theorem bucketItems_ends (kind : KeyKind) (name : String) :
    ∀ items : List Json, Ends Failure.OfAnswer (fun bs => ∀ b ∈ bs, b.Finite) (bucketItems kind name items)
  | [] => fun _ hb => absurd hb List.not_mem_nil
  | j :: js => by
    rw [bucketItems]
    refine (bucketItem_ends kind name j).bind (fun b hb => (bucketItems_ends kind name js).bind (fun bs hbs => ?_))
    exact List.forall_mem_cons.2 ⟨hb, hbs⟩

theorem bucketItem_ends (kind : KeyKind) (name : String) :
    ∀ j : Json, Ends Failure.OfAnswer Bucket.Finite (bucketItem kind name j)
  | .object ms => by
    rw [bucketItem]
    exact (ofMembers_ends _ ms).bind (fun _ hts => .bucket (finite_bucketKey kind ms) hts)
  | .null | .bool _ | .int _ | .float _ | .text _ | .array _ => trivial

end

/-- **An answer is read to trees with finite keys.** -/
theorem ofResponse_ends (response : Json) :
    Ends Failure.OfAnswer (fun ts => ∀ t ∈ ts, t.Finite) (ofResponse response) := by
  unfold ofResponse
  refine (checkError_ends response).bind (fun _ _ => ?_)
  split
  · exact fun _ ht => absurd ht List.not_mem_nil
  · exact ofMembers_ends [] _
  · trivial

end Tree

variable {h : Heading} {width : Nat} {row : Row}

/-- **A place of the row in hand that a tree is written to**: by a count, by a metric, or by the key of a bucket. -/
inductive WritesAt (h : Heading) : Nat → Prop where
  | count {count : Nat} {w : Write} (hw : w ∈ countWrites h count) : WritesAt h w.1
  | metric {name : String} {value : Option Float} {w : Write} (hw : metricWrite h name value = .ok w) : WritesAt h w.1
  | key {name : String} {c : Column} (hc : columnOf h name = .ok c) : WritesAt h c.index

theorem mem_of_columnOf {name : String} {c : Column} (hc : columnOf h name = .ok c) : c ∈ h.columns := by
  unfold columnOf at hc
  split at hc
  · rename_i hfound
    cases hc
    exact List.mem_of_find?_eq_some hfound
  · cases hc

/-- **Trees are written to places of columns only.** -/
theorem WritesAt.lt_width (hw : h.WellFormed) {place : Nat} (hp : WritesAt h place) : place < h.width := by
  cases hp with
  | count hmem =>
    obtain ⟨c, hc, rfl⟩ := List.mem_map.1 hmem
    exact hw.index_lt (List.mem_filter.1 hc).1
  | metric hwrite =>
    obtain ⟨c, hc, hwrite⟩ := bind_eq_ok_iff.1 hwrite
    cases hwrite
    exact hw.index_lt (mem_of_columnOf hc)
  | key hc => exact hw.index_lt (mem_of_columnOf hc)

/-- **Sound rows that were given, and a sound row in hand behind them.** -/
def SoundWalk (width : Nat) (out : List Row × Row) : Prop :=
  (∀ row ∈ out.1, Row.Sound width row) ∧ Row.Sound width out.2

theorem sound_written {writes : List Write} (hr : row.Sound width) (hw : ∀ w ∈ writes, w.2.Finite) :
    (written row writes).Sound width := by
  induction writes generalizing row with
  | nil => exact hr
  | cons w ws ih =>
    obtain ⟨hcell, hws⟩ := List.forall_mem_cons.1 hw
    rw [written_cons]
    exact ih (hr.set w.1 hcell) hws

theorem sound_cleared {places : List Nat} (hr : row.Sound width) : (cleared row places).Sound width := by
  induction places generalizing row with
  | nil => exact hr
  | cons place places ih =>
    rw [cleared_cons]
    exact ih (hr.set place (c := .null) trivial)

theorem soundWalk_emit {writes : List Write} (hr : row.Sound width) (hw : ∀ w ∈ writes, w.2.Finite) :
    SoundWalk width (emit row writes) := by
  have hout : (written row writes).Sound width := sound_written hr hw
  exact ⟨fun r hmem => List.mem_singleton.1 hmem ▸ hout, sound_cleared hout⟩

theorem finite_metricCell (op : Operator) (value : Option Float) : (metricCell op value).Finite := by
  unfold metricCell
  split
  · trivial
  · split
    · trivial
    · exact Cell.finite_ofFloat _

theorem finite_metricWrite {name : String} {value : Option Float} {w : Write} (hw : metricWrite h name value = .ok w) :
    w.2.Finite := by
  obtain ⟨c, -, hw⟩ := bind_eq_ok_iff.1 hw
  cases hw
  exact finite_metricCell _ _

theorem finite_countWrites (count : Nat) : ∀ w ∈ countWrites h count, w.2.Finite := by
  intro w hw
  obtain ⟨c, -, rfl⟩ := List.mem_map.1 hw
  trivial

theorem finite_filterWrite {t : Tree} {w : Write} (hw : filterWrite h t = .ok w) : w.2.Finite := by
  unfold filterWrite at hw
  split at hw
  · exact finite_metricWrite hw
  · cases hw

theorem finite_writes {α : Type} {f : α → Except Failure Write} (hf : ∀ a w, f a = .ok w → w.2.Finite) {as : List α}
    {values : List Write} (hvalues : as.mapM f = .ok values) (count : Nat) :
    ∀ w ∈ countWrites h count ++ values, w.2.Finite := by
  refine List.forall_mem_append.2 ⟨finite_countWrites count, fun w hw => ?_⟩
  obtain ⟨a, -, ha⟩ := (mem_mapM_iff hvalues _).1 hw
  exact hf a w ha

/-- **A walk with a sound row in hand gives sound rows.** -/
theorem soundWalk_of_walk {place : Nat} {after : Row} {bs : List Bucket} {rows : List Row}
    (hw : Walk h place row bs rows after) (hbs : ∀ b ∈ bs, b.Finite) (hr : row.Sound width) :
    SoundWalk width (rows, after) := by
  induction hw with
  | nil => exact ⟨fun _ hmem => absurd hmem List.not_mem_nil, hr⟩
  | @leaf place count _ _ _ _ _ _ _ hvalues _ ih =>
    obtain ⟨hb, hbs⟩ := List.forall_mem_cons.1 hbs
    cases hb with
    | bucket hkey _ =>
      have hemit := soundWalk_emit (hr.set place hkey)
        (finite_writes (h := h) (fun m _ => finite_metricWrite) hvalues count)
      obtain ⟨hrows, hafter⟩ := ih hbs (hemit.2.set place (c := .null) trivial)
      exact ⟨List.forall_mem_cons.2 ⟨hemit.1 _ List.mem_cons_self, hrows⟩, hafter⟩
  | @nested place _ _ _ _ _ _ _ _ _ _ _ _ hc _ _ ihinner ih =>
    obtain ⟨hb, hbs⟩ := List.forall_mem_cons.1 hbs
    cases hb with
    | bucket hkey each =>
      cases each _ List.mem_cons_self with
      | buckets hbelow =>
        obtain ⟨hrows, hbehind⟩ := ihinner hbelow (hr.set place hkey)
        obtain ⟨hmore, hafter⟩ := ih hbs (hbehind.set place (c := .null) trivial)
        exact ⟨List.forall_mem_append.2 ⟨hrows, hmore⟩, hafter⟩

/-- **Trees give sound rows.** -/
theorem treeRows_ends {ts : List Tree} (hts : ∀ t ∈ ts, t.Finite) :
    Ends Failure.OfAnswer (fun rows => ∀ row ∈ rows, Row.Sound h.width row) (treeRows h ts) := by
  have hblank : (Row.blank h.width).Sound h.width := Row.sound_blank _
  refine ((treeRows_fails ts).mono (fun _ => Failure.OfTree.ofAnswer) (fun _ => id)).of_succeeds (fun rows hok => ?_)
  rcases treeRows_cases hok with ⟨-, rfl⟩ | ⟨kind, name, bs, c, after, rfl, hc, hw⟩ |
    ⟨name, count, children, values, rfl, hvalues, rfl⟩
  · exact fun _ hmem => absurd hmem List.not_mem_nil
  · have hbs : ∀ b ∈ bs, b.Finite := by
      cases hts _ List.mem_cons_self with
      | buckets each => exact each
    exact (soundWalk_of_walk hw hbs hblank).1
  · exact (soundWalk_emit hblank (finite_writes (fun _ _ => finite_filterWrite) hvalues count)).1

theorem finite_hitCell (document : Json) (c : Column) : (hitCell document c).Finite := by
  unfold hitCell
  split
  · exact Cell.finite_ofJson _
  · trivial

/-- **Documents give sound rows.** -/
theorem hitRows_ends (response : Json) :
    Ends Failure.OfAnswer (fun rows => ∀ row ∈ rows, Row.Sound h.width row) (hitRows h response) := by
  refine (checkError_ends response).bind (fun _ _ row hrow => ?_)
  obtain ⟨hit, -, rfl⟩ := List.mem_map.1 hrow
  refine ⟨List.length_map _, fun c hc => ?_⟩
  obtain ⟨column, -, rfl⟩ := List.mem_map.1 hc
  exact finite_hitCell _ column

end Answer
end FacetSql
