import FacetSql.Proofs.Answer.Reading
/-!
# Shaped — answers of the shape asked for, whatever they say

An answer has the shape of a request if its names and levels are those asked for; its keys may be any values, and what
is said of the number of documents may be anything or nothing.  Its leaves hold all this as it stands in the answer
(`Shaped`).  An answer that conforms is one whose counts are numbers of 63 bits (`Conforms.shaped`), and a row that
shows a leaf as it stands shows it as it is read (`ShowsRaw.shows`).
-/
namespace FacetSql.Answer

open Request

/-- **An innermost bucket as it stands in an answer**: the keys on the way to it and what they are, what is said of the
number of its documents, and the values of metrics by name. -/
structure RawLeaf where
  keys : List (KeyKind × Json)
  count : Option Json
  values : List (String × Json)

namespace RawLeaf

/-- The leaf within a bucket. -/
def under (kind : KeyKind) (key : Json) (leaf : RawLeaf) : RawLeaf := { leaf with keys := (kind, key) :: leaf.keys }

/-- The number of documents; what is no whole number of 64 bits counts as none. -/
def documents (leaf : RawLeaf) : Nat := (leaf.count.bind Json.word64?).getD 0

/-- **The leaf as it is read**: its keys as cells, and a number of documents of 63 bits. -/
structure ReadsAs (raw : RawLeaf) (leaf : Leaf) : Prop where
  keys : List.Forall₂ (fun sent cell => IsKeyCell sent.1 sent.2 cell) raw.keys leaf.keys
  count : raw.documents = leaf.count
  small : leaf.count < 9223372036854775808
  values : raw.values = leaf.values

end RawLeaf

/-- **The leaves of buckets as they stand**, from left to right. -/
inductive RawLeavesOf : KeyKind → List Node → List Json → List RawLeaf → Prop where
  | nil (kind : KeyKind) (nodes : List Node) : RawLeavesOf kind nodes [] []
  | metrics {kind : KeyKind} {nodes : List Node} {ms : List (String × Json)} {key : Json}
      {values : List (String × Json)} {items : List Json} {leaves : List RawLeaf}
      (innermost : ∀ node ∈ nodes, node.keyKind? = none) (hkey : Json.lookUp "key" ms = some key)
      (carries : Carries nodes (aggregationsAmong bucketMembers ms) values)
      (rest : RawLeavesOf kind nodes items leaves) :
      RawLeavesOf kind nodes (.object ms :: items) (⟨[(kind, key)], Json.lookUp "doc_count" ms, values⟩ :: leaves)
  | buckets {kind inner : KeyKind} {node : Node} {ms : List (String × Json)} {m : String × Json} {key : Json}
      {items below : List Json} {leaves leavesBelow : List RawLeaf} (hkey : Json.lookUp "key" ms = some key)
      (one : aggregationsAmong bucketMembers ms = [m]) (comes : ComesBack node inner m below)
      (inside : RawLeavesOf inner node.children below leavesBelow) (rest : RawLeavesOf kind [node] items leaves) :
      RawLeavesOf kind [node] (.object ms :: items) (leavesBelow.map (RawLeaf.under kind key) ++ leaves)

/-- **An answer of the shape of a request**, and its leaves. -/
inductive Shaped : Node → Json → List RawLeaf → Prop where
  | buckets {node : Node} {kind : KeyKind} {response : Json} {m : String × Json} {items : List Json}
      {leaves : List RawLeaf} (ok : response.present? "error" = none)
      (root : response.member? "aggregations" = some (.object [m])) (comes : ComesBack node kind m items)
      (inside : RawLeavesOf kind node.children items leaves) : Shaped node response leaves
  | filter {name : String} {query : Json} {nodes : List Node} {response : Json} {ms : List (String × Json)}
      {values : List (String × Json)} (ok : response.present? "error" = none)
      (root : response.member? "aggregations" = some (.object [("filter#" ++ name, .object ms)]))
      (carries : Carries nodes (aggregationsAmong filterMembers ms) values) :
      Shaped (.filter name query nodes) response [⟨[], Json.lookUp "doc_count" ms, values⟩]

/-- **A row shows a leaf as it stands** over another row. -/
structure ShowsRaw (h : Heading) (path : List Column) (before : Row) (leaf : RawLeaf) (row : Row) : Prop where
  length : row.length = before.length
  keys : List.Forall₂ (fun key sent => IsKeyCell sent.1 sent.2 (row.cell key.index)) path leaf.keys
  counts : ∀ c ∈ h.columns, c.isDocCount = true → row.cell c.index = .int (signedCount leaf.documents)
  metrics : ∀ c ∈ h.columns, c.isMetric = true → ∀ value, (c.aggName, value) ∈ leaf.values →
    IsMetricCell c.operator value (row.cell c.index)
  others : ∀ c ∈ h.columns, c.index ∉ path.map (·.index) → c.isDocCount = false →
    (c.isMetric = true → c.aggName ∉ leaf.values.map (·.1)) → row.cell c.index = before.cell c.index

theorem signedCount_of_lt {count : Nat} (h : count < 9223372036854775808) : signedCount count = count := by
  unfold signedCount
  rw [Int.bmod_eq_of_le] <;> omega

theorem documents_of_counts {ms : List (String × Json)} {count : Nat} {keys : List (KeyKind × Json)}
    {values : List (String × Json)} (hc : Counts ms count) :
    RawLeaf.documents ⟨keys, Json.lookUp "doc_count" ms, values⟩ = count := documentCount_of_counts hc

/-- **The leaves that are read are those that stand there**, with counts of 63 bits. -/
theorem LeavesOf.raw {kind : KeyKind} {nodes : List Node} {items : List Json} {leaves : List Leaf}
    (hl : LeavesOf kind nodes items leaves) : ∃ raws, RawLeavesOf kind nodes items raws ∧
      List.Forall₂ RawLeaf.ReadsAs raws leaves := by
  induction hl with
  | nil => exact ⟨[], .nil _ _, .nil⟩
  | metrics innermost hkey hcell hcount carries _ ih =>
    obtain ⟨raws, hraws, hread⟩ := ih
    exact ⟨_, .metrics innermost hkey carries hraws,
      .cons ⟨.cons hcell .nil, documents_of_counts hcount, hcount.2, rfl⟩ hread⟩
  | buckets hkey hcell _ one comes _ _ ihbelow ih =>
    obtain ⟨below, hbelow, hreadbelow⟩ := ihbelow
    obtain ⟨raws, hraws, hread⟩ := ih
    refine ⟨_, .buckets hkey one comes hbelow hraws, List.rel_append ?_ hread⟩
    rw [List.forall₂_map_left_iff, List.forall₂_map_right_iff]
    exact hreadbelow.imp (fun _ _ h => ⟨.cons hcell h.keys, h.count, h.small, h.values⟩)

/-- **An answer that conforms has the shape that is asked for.** -/
theorem Conforms.shaped {root : Node} {response : Json} {leaves : List Leaf} (hc : Conforms root response leaves) :
    ∃ raws, Shaped root response raws ∧ List.Forall₂ RawLeaf.ReadsAs raws leaves := by
  cases hc with
  | buckets ok root comes inside =>
    obtain ⟨raws, hraws, hread⟩ := inside.raw
    exact ⟨raws, .buckets ok root comes hraws, hread⟩
  | filter ok root hcount carries =>
    exact ⟨_, .filter ok root carries, .cons ⟨.nil, documents_of_counts hcount, hcount.2, rfl⟩ .nil⟩

/-- **A row that shows a leaf as it stands** shows it as it is read. -/
theorem ShowsRaw.shows {h : Heading} {path : List Column} {before row : Row} {raw : RawLeaf} {leaf : Leaf}
    (hs : ShowsRaw h path before raw row) (hr : raw.ReadsAs leaf) : Shows h path before leaf row := by
  refine ⟨hs.length, ?_, fun c hc hcount => ?_, hr.values ▸ hs.metrics, hr.values ▸ hs.others⟩
  · exact forall₂_trans (fun key sent cell hrow hcell => hrow.unique hcell) hs.keys hr.keys
  · rw [hs.counts c hc hcount, hr.count, signedCount_of_lt hr.small]

end FacetSql.Answer
