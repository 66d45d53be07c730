import FacetSql.Json.Lemmas
import FacetSql.Proofs.Numeral.Grammar
import FacetSql.Proofs.Request.Chain
import Mathlib.Data.List.Perm.Basic
/-!
# Encoded — what a request says of its tree

The body of a level of buckets says what its buckets are and what is inside them (`body_node_inj`).  So the map of
aggregations says everything about a chain but the order of its measures (`aggregations_chain_eq_iff`), and what is
compiled can be read back from it (`compiled_eq_iff`).
-/
namespace FacetSql.Request

/-- The engine's word for the buckets of a level. -/
def Bucket.word : Bucket → String
  | terms .. => "terms"
  | histogram .. => "date_histogram"
  | filter .. => "filter"

/-- What the engine is told about the buckets under that word. -/
def Bucket.asked : Bucket → Json
  | terms _ field size => .ofMembers [("field", .text field), ("size", .int size)]
  | histogram _ field interval =>
    .ofMembers [("field", .text field), ("fixed_interval", .text (toString interval ++ "ms"))]
  | filter _ query => query

section

variable {b b' : Bucket} {bs bs' : List Bucket} {m m' : Measure} {ms ms' : List Measure} {nodes nodes' : List Node}

/-! ## Bodies -/

theorem word_ne_aggs (b : Bucket) : b.word ≠ "aggs" := by
  cases b
  · exact (by decide : "terms" ≠ "aggs")
  · exact (by decide : "date_histogram" ≠ "aggs")
  · exact (by decide : "filter" ≠ "aggs")

theorem code_ne_word (kind : Metric) (b : Bucket) : kind.code ≠ b.word := by
  have hcode : kind.code ∈ ["avg", "sum", "min", "max", "value_count"] := by cases kind <;> decide
  intro h
  rw [h] at hcode
  cases b
  · exact absurd hcode (by decide : "terms" ∉ _)
  · exact absurd hcode (by decide : "date_histogram" ∉ _)
  · exact absurd hcode (by decide : "filter" ∉ _)

theorem code_injective : Function.Injective Metric.code := by
  intro kind kind' h
  cases kind <;> cases kind' <;> first | rfl | exact absurd h (by decide)

theorem name_node (b : Bucket) (nodes : List Node) : (b.node nodes).name = b.name := by
  cases b <;> rfl

theorem body_node (b : Bucket) (nodes : List Node) :
    (b.node nodes).body = .ofMembers ((b.word, b.asked) :: Node.inside (Node.members nodes)) := by
  cases b <;> rfl

/-- **Buckets are what the engine is told about them**, under their name. -/
theorem Bucket.eq_of_asked (hname : b.name = b'.name) (hword : b.word = b'.word) (hasked : b.asked = b'.asked) :
    b = b' := by
  -- the fields of the object that is asked for, one after the other
  have hfields : ∀ {key : String} {ms ms' : List (String × Json)}, Json.ofMembers ms = Json.ofMembers ms' →
      Json.lookUp key ms.reverse = Json.lookUp key ms'.reverse := by
    intro key ms ms' h
    rw [← Json.member?_ofMembers, h, Json.member?_ofMembers]
  cases b <;> cases b'
  case terms.terms =>
    cases hname
    cases (@hfields "field" _ _ hasked : some (Json.text _) = some (.text _))
    cases (@hfields "size" _ _ hasked : some (Json.int _) = some (.int _))
    rfl
  case histogram.histogram =>
    cases hname
    cases (@hfields "field" _ _ hasked : some (Json.text _) = some (.text _))
    have hinterval := Json.text.inj (Option.some.inj (@hfields "fixed_interval" _ _ hasked))
    cases Numeral.toString_injective ((String.append_left_inj "ms").1 hinterval)
    rfl
  case filter.filter =>
    cases hname
    cases hasked
    rfl
  case terms.histogram | histogram.terms | terms.filter | filter.terms | histogram.filter | filter.histogram =>
    simp [word] at hword

theorem member?_aggs_body (b : Bucket) (nodes : List Node) : (b.node nodes).body.member? "aggs" =
    if nodes = [] then none else some (Node.aggregations nodes) := by
  rw [body_node, Json.member?_ofMembers]
  cases nodes with
  | nil =>
    show Json.lookUp "aggs" [(b.word, b.asked)] = none
    rw [Json.lookUp_cons, if_neg (word_ne_aggs b)]
    rfl
  | cons n ns => rfl

theorem member?_body_of_ne {key : String} (hkey : key ≠ "aggs") (b : Bucket) (nodes : List Node) :
    (b.node nodes).body.member? key = if b.word = key then some b.asked else none := by
  rw [body_node, Json.member?_ofMembers]
  cases nodes with
  | nil => exact Json.lookUp_cons _ _ _ _
  | cons n ns =>
    show Json.lookUp key [("aggs", _), (b.word, b.asked)] = _
    rw [Json.lookUp_cons, if_neg hkey.symm, Json.lookUp_cons]
    rfl

/-- **A body says what its buckets are and what is inside them.** -/
theorem body_node_inj (hname : b.name = b'.name) (h : (b.node nodes).body = (b'.node nodes').body) :
    b = b' ∧ Node.aggregations nodes = Node.aggregations nodes' := by
  have hasked := member?_body_of_ne (word_ne_aggs b') b nodes
  rw [h, member?_body_of_ne (word_ne_aggs b') b' nodes', if_pos rfl] at hasked
  have haggs := member?_aggs_body b nodes
  rw [h, member?_aggs_body] at haggs
  split at hasked
  · rename_i hword
    refine ⟨Bucket.eq_of_asked hname hword (Option.some.inj hasked).symm, ?_⟩
    split at haggs
    · rename_i hnil
      split at haggs
      · rename_i hnil'
        rw [hnil, hnil']
      · cases haggs
    · split at haggs
      · cases haggs
      · exact (Option.some.inj haggs).symm
  · cases hasked

/-- **A measure's body says what it computes.** -/
theorem Measure.eq_of_body (hname : m.name = m'.name) (h : m.node.body = m'.node.body) : m = m' := by
  change Json.object [(m.kind.code, .object [("field", .text m.field)])] =
    .object [(m'.kind.code, .object [("field", .text m'.field)])] at h
  obtain ⟨hcode, hfield⟩ := Prod.mk.inj (List.cons.inj (Json.object.inj h)).1
  have hfield' := (Prod.mk.inj (List.cons.inj (Json.object.inj hfield)).1).2
  cases m
  cases m'
  cases hname
  cases code_injective hcode
  cases hfield'
  rfl

/-- No measure is told of as buckets are. -/
theorem Measure.body_ne (m : Measure) (b : Bucket) (nodes : List Node) : m.node.body ≠ (b.node nodes).body := by
  intro h
  have hword := member?_body_of_ne (word_ne_aggs b) b nodes
  rw [← h, if_pos rfl] at hword
  have hcode : m.node.body.member? b.word = none := by
    show Json.lookUp b.word [(m.kind.code, _)] = none
    rw [Json.lookUp_cons, if_neg (code_ne_word m.kind b)]
    rfl
  rw [hcode] at hword
  cases hword

/-! ## Chains -/

theorem members_eq_map (nodes : List Node) : Node.members nodes = nodes.map (fun n => (n.name, n.body)) := by
  induction nodes with
  | nil => rfl
  | cons n ns ih => rw [Node.members, ih, List.map_cons]

/-- The map of one aggregation. -/
theorem aggregations_singleton_inj {n n' : Node} (h : Node.aggregations [n] = Node.aggregations [n']) :
    n.name = n'.name ∧ n.body = n'.body := by
  change Json.object [(n.name, n.body)] = .object [(n'.name, n'.body)] at h
  exact Prod.mk.inj (List.cons.inj (Json.object.inj h)).1

/-- **A map of measures is not the map of a level of buckets.** -/
theorem aggregations_measures_ne (ms : List Measure) (b : Bucket) (nodes : List Node) :
    Node.aggregations (ms.map Measure.node) ≠ Node.aggregations [b.node nodes] := by
  intro h
  have hfound : (Node.aggregations (ms.map Measure.node)).member? (b.node nodes).name = some (b.node nodes).body := by
    rw [h, Node.aggregations, Json.member?_ofMembers]
    exact (Json.lookUp_cons _ _ _ _).trans (if_pos rfl)
  rw [Node.aggregations, Json.member?_ofMembers, members_eq_map, List.map_map] at hfound
  obtain ⟨m, -, hm⟩ := List.mem_map.1 (List.mem_reverse.1 (Json.mem_of_lookUp hfound))
  exact m.body_ne b nodes (Prod.mk.inj hm).2

/-- **A map of aggregations says what the buckets of a chain are**, and which measures are in the innermost. -/
theorem aggregations_chain_inj (h : Node.aggregations (chain bs ms) = Node.aggregations (chain bs' ms')) :
    bs = bs' ∧ Node.aggregations (ms.map Measure.node) = Node.aggregations (ms'.map Measure.node) := by
  -- level by level from the outside; measures are never mistaken for buckets, so both chains end at once
  induction bs generalizing bs' with
  | nil =>
    cases bs' with
    | nil => exact ⟨rfl, h⟩
    | cons b' bs' => exact absurd h (aggregations_measures_ne ms b' _)
  | cons b bs ih =>
    cases bs' with
    | nil => exact absurd h.symm (aggregations_measures_ne ms' b _)
    | cons b' bs' =>
      obtain ⟨hname, hbody⟩ := aggregations_singleton_inj h
      rw [name_node, name_node] at hname
      obtain ⟨hb, hinside⟩ := body_node_inj hname hbody
      obtain ⟨hbs, hms⟩ := ih hinside
      exact ⟨by rw [hb, hbs], hms⟩

theorem aggregations_eq_nil_iff : Node.aggregations nodes = .object [] ↔ nodes = [] := by
  constructor
  · intro h
    cases nodes with
    | nil => rfl
    | cons n ns =>
      have hnone : Json.lookUp n.name (Node.members (n :: ns)).reverse = none := by
        rw [← Json.member?_ofMembers]
        exact congrArg (Json.member? n.name) h
      have hfind := List.find?_eq_none.1 (Option.map_eq_none_iff.1 hnone) (n.name, n.body)
        (List.mem_reverse.2 List.mem_cons_self)
      simp at hfind
  · rintro rfl
    rfl

theorem aggregations_node_congr (b : Bucket) (h : Node.aggregations nodes = Node.aggregations nodes') :
    Node.aggregations [b.node nodes] = Node.aggregations [b.node nodes'] := by
  -- no member stands for an empty map, so the maps have to be empty together
  have hinside : Node.inside (Node.members nodes) = Node.inside (Node.members nodes') := by
    cases nodes with
    | nil => rw [aggregations_eq_nil_iff.1 h.symm]
    | cons n ns =>
      cases nodes' with
      | nil => cases aggregations_eq_nil_iff.1 h
      | cons n' ns' => exact congrArg (fun j => [("aggs", j)]) h
  show Json.object [((b.node nodes).name, (b.node nodes).body)] = .object [((b.node nodes').name, (b.node nodes').body)]
  rw [name_node, name_node, body_node, body_node, hinside]

theorem aggregations_chain_congr (bs : List Bucket)
    (h : Node.aggregations (ms.map Measure.node) = Node.aggregations (ms'.map Measure.node)) :
    Node.aggregations (chain bs ms) = Node.aggregations (chain bs ms') := by
  induction bs with
  | nil => exact h
  | cons b bs ih => exact aggregations_node_congr b ih

theorem aggregations_measures_eq_iff (hms : (ms.map Measure.name).Nodup) (hms' : (ms'.map Measure.name).Nodup) :
    Node.aggregations (ms.map Measure.node) = Node.aggregations (ms'.map Measure.node) ↔ ms.Perm ms' := by
  have hmembers : ∀ ms : List Measure,
      Node.members (ms.map Measure.node) = ms.map (fun m => (m.name, m.node.body)) := by
    intro ms
    rw [members_eq_map, List.map_map]
    rfl
  have hinj : Function.Injective (fun m : Measure => (m.name, m.node.body)) :=
    fun m m' h => Measure.eq_of_body (Prod.mk.inj h).1 (Prod.mk.inj h).2
  rw [Node.aggregations, Node.aggregations, hmembers, hmembers, Json.ofMembers_eq, Json.ofMembers_eq, Json.object.injEq,
    Json.sortedMembers_eq_iff, List.map_perm_map_iff hinj]
  · rwa [List.map_map]
  · rwa [List.map_map]

/-- **A map of aggregations says everything about a chain but the order of its measures.** -/
theorem aggregations_chain_eq_iff (hms : (ms.map Measure.name).Nodup) (hms' : (ms'.map Measure.name).Nodup) :
    Node.aggregations (chain bs ms) = Node.aggregations (chain bs' ms') ↔ bs = bs' ∧ ms.Perm ms' := by
  rw [← aggregations_measures_eq_iff hms hms']
  constructor
  · exact aggregations_chain_inj
  · rintro ⟨rfl, h⟩
    exact aggregations_chain_congr bs h

end

/-! ## Compiled trees -/

/-- **What is compiled can be read back from the request.**  Each tree is the chain of its task, no two siblings in it
have one name, and two trees have the same map of aggregations exactly if they have the same buckets, level by level,
and the same measures in any order. -/
theorem compiled_eq_iff {session session' : Session} {h h' : Heading} {task task' : Task} {root root' : Node}
    (hb : h.Built) (hr : task.compile session h = .ok root)
    (hb' : h'.Built) (hr' : task'.compile session' h' = .ok root') :
    ∃ bs ms bs' ms', IsChainOf session h task bs ms ∧ [root] = chain bs ms ∧
      IsChainOf session' h' task' bs' ms' ∧ [root'] = chain bs' ms' ∧
      (∀ node, Within root node → (node.children.map Node.name).Nodup) ∧
      (Node.aggregations [root] = Node.aggregations [root'] ↔ bs = bs' ∧ ms.Perm ms') := by
  obtain ⟨bs, ms, hchain, hroot⟩ := exists_isChainOf hr
  obtain ⟨bs', ms', hchain', hroot'⟩ := exists_isChainOf hr'
  have hms := hchain.nodup_names hb.names
  refine ⟨bs, ms, bs', ms', hchain, hroot, hchain', hroot', fun node hw => ?_, ?_⟩
  · exact nodup_children hms (hroot ▸ List.mem_cons_self) hw
  · rw [hroot, hroot']
    exact aggregations_chain_eq_iff hms (hchain'.nodup_names hb'.names)

/-- `city`, `sum(price)` and `max(price)` -/
def priceColumns : Heading :=
  .reach .empty [.plain "city", .function .sum (some "price") [], .function .max (some "price") []]

theorem compiled_priceColumns : let task := Task.groups [.plain "city"] (.object [])
    priceColumns.Built ∧ ∃ root, task.compile .standard priceColumns = .ok root ∧
      (∀ node, Within root node → (node.children.map Node.name).Nodup) ∧
      ∃ bs ms, IsChainOf .standard priceColumns task bs ms ∧ [root] = chain bs ms := by
  intro task
  have hb : priceColumns.Built := ⟨_, rfl⟩
  have hr : ∃ root, task.compile .standard priceColumns = .ok root := ⟨_, rfl⟩
  obtain ⟨root, hr⟩ := hr
  obtain ⟨bs, ms, -, -, hchain, hroot, -, -, hnames, -⟩ := compiled_eq_iff hb hr hb hr
  exact ⟨hb, root, hr, hnames, bs, ms, hchain, hroot⟩
end FacetSql.Request
