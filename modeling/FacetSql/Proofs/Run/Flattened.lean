import FacetSql.Proofs.Run.PushedDown
/-!
# Flattened — documents nested or written out by their paths

An engine may send `{"a": {"b": 1}}` or `{"a.b": 1}` for one document.  No key of a nested document has a point, so a
field is the path to at most one of its leaves, and both forms come back as the same rows (`hitRows_flattened`): a field
that leads to a leaf shows it, and a field that runs into a leaf on the way or leads nowhere shows nothing.  A field that
leads to an object shows that object of the nested form only.
-/
namespace FacetSql

/-- Neither an array nor an object. -/
def Json.IsScalar : Json → Prop
  | .array _ => False
  | .object _ => False
  | _ => True

namespace Run

open Answer

/-- **A value of scalars in objects in objects**, its keys without points and each standing once. -/
inductive IsNested : Json → Prop
  | scalar {j : Json} : j.IsScalar → IsNested j
  | object {ms : List (String × Json)} : (ms.map (·.1)).Nodup → (∀ m ∈ ms, '.' ∉ m.1.toList) →
      (∀ m ∈ ms, IsNested m.2) → IsNested (.object ms)

/-- **A nested document.** -/
def IsDocument (document : Json) : Prop := IsNested document ∧ ∃ ms, document = .object ms

mutual

/-- **The leaves of a value**, each with the keys on the way to it. -/
def leaves : Json → List (List String × Json)
  | .object ms => leavesAmong ms
  | leaf => [([], leaf)]

/-- The leaves of members. -/
def leavesAmong : List (String × Json) → List (List String × Json)
  | [] => []
  | (key, j) :: ms => (leaves j).map (fun leaf => (key :: leaf.1, leaf.2)) ++ leavesAmong ms

end

/-- A path as a field. -/
def dotted (path : List String) : String := ".".intercalate path

/-- **The document in one object**, each leaf under its path. -/
def flattened (document : Json) : Json :=
  Json.ofMembers ((leaves document).map (fun leaf => (dotted leaf.1, leaf.2)))

/-- **Following a path through objects leads to a value.** -/
inductive Leads : List String → Json → Json → Prop
  | here (j : Json) : Leads [] j j
  | under {key : String} {path : List String} {ms : List (String × Json)} {j target : Json} :
      (key, j) ∈ ms → Leads path j target → Leads (key :: path) (.object ms) target

/-- **A field leads to an object** inside a document. -/
def NamesObject (field : String) (document : Json) : Prop :=
  ∃ path ms, path ≠ [] ∧ field = dotted path ∧ Leads path document (.object ms)

/-- **The cell that a column shows of a document**: the leaf that its field is the path to, if there is one. -/
inductive ShowsLeaf (document : Json) (c : Column) : Cell → Prop
  | leaf {path : List String} {j : Json} : c.field = some (dotted path) → (path, j) ∈ leaves document →
      ShowsLeaf document c (.ofJson j)
  | absent : (∀ path j, (path, j) ∈ leaves document → c.field ≠ some (dotted path)) → ShowsLeaf document c .null

/-- **An answer that brings these documents.** -/
def Brings (response : Json) (documents : List Json) : Prop :=
  response.present? "error" = none ∧ documentsOf response = documents

/-! ## Paths -/

/-- The keys that a field names one after another. -/
def pathOf (field : String) : List String := (pathParts field.toList).map String.ofList

theorem pathParts_eq_splitOn (cs : List Char) : pathParts cs = cs.splitOn '.' := by
  induction cs with
  | nil => rfl
  | cons c cs ih =>
    have hne : cs.splitOn '.' ≠ [] := List.splitOnP_ne_nil _ _
    have hcons : (c :: cs).splitOn '.' =
        if (c == '.') = true then [] :: cs.splitOn '.' else (cs.splitOn '.').modifyHead (List.cons c) :=
      List.splitOnP_cons_eq_if_modifyHead c cs
    rw [hcons, pathParts, ih]
    obtain ⟨part, parts, hparts⟩ := List.exists_cons_of_ne_nil hne
    rw [hparts]
    by_cases hc : c = '.' <;> simp [hc]

theorem dotted_pathOf (field : String) : dotted (pathOf field) = field := by
  have htexts : (pathOf field).map String.toList = field.toList.splitOn '.' := by
    simp [pathOf, pathParts_eq_splitOn, Function.comp_def]
  apply String.toList_inj.1
  rw [dotted, String.toList_intercalate, htexts]
  exact List.intercalate_splitOn '.'

theorem pathOf_dotted {path : List String} (hne : path ≠ []) (hplain : ∀ key ∈ path, '.' ∉ key.toList) :
    pathOf (dotted path) = path := by
  have hsplit : (['.'].intercalate (path.map String.toList)).splitOn '.' = path.map String.toList := by
    apply List.splitOn_intercalate
    · simpa using hplain
    · simpa using hne
  have htext : (dotted path).toList = ['.'].intercalate (path.map String.toList) := String.toList_intercalate
  rw [pathOf, pathParts_eq_splitOn, htext, hsplit, List.map_map]
  simp [Function.comp_def]

theorem pathOf_ne_nil (field : String) : pathOf field ≠ [] := by
  simp [pathOf, pathParts_eq_splitOn]

/-- A field without points is the path of one key. -/
theorem pathOf_of_plain {field : String} (hplain : '.' ∉ field.toList) : pathOf field = [field] := by
  have hdotted : dotted [field] = field := by simp [dotted]
  have hpath : pathOf (dotted [field]) = [field] := pathOf_dotted (by simp) (by simpa using hplain)
  rwa [hdotted] at hpath

theorem fieldValue_eq (document : Json) (field : String) :
    fieldValue document field = (document.member? field <|> along (pathOf field) document) := rfl

/-! ## Values at the end of a path -/

theorem leaves_of_isScalar {j : Json} (h : j.IsScalar) : leaves j = [([], j)] := by
  cases j <;> first | exact h.elim | rfl

theorem member?_of_isScalar {j : Json} (h : j.IsScalar) (key : String) : j.member? key = none := by
  cases j <;> first | exact h.elim | rfl

theorem Leads.isNested {path : List String} {j target : Json} (h : Leads path j target) (hj : IsNested j) :
    IsNested target := by
  induction h with
  | here => exact hj
  | under hm _ ih =>
    cases hj with
    | scalar hs => exact hs.elim
    | object _ _ hall => exact ih (hall _ hm)

theorem Leads.plain {path : List String} {j target : Json} (h : Leads path j target) (hj : IsNested j) :
    ∀ key ∈ path, '.' ∉ key.toList := by
  induction h with
  | here => simp
  | under hm _ ih =>
    cases hj with
    | scalar hs => exact hs.elim
    | object _ hplain hall =>
      rw [List.forall_mem_cons]
      exact ⟨hplain _ hm, ih (hall _ hm)⟩

/-- **The walk along a path finds what the path leads to.** -/
theorem along_eq_some_iff {path : List String} : ∀ {j target : Json}, IsNested j →
    (along path j = some target ↔ Leads path j target) := by
  induction path with
  | nil =>
    intro j target _
    rw [along, Option.some.injEq]
    constructor
    · rintro rfl
      exact .here j
    · intro h
      cases h
      rfl
  | cons key path ih =>
    intro j target hj
    rw [along, Option.bind_eq_some_iff]
    constructor
    · rintro ⟨inner, hmember, halong⟩
      cases hj with
      | scalar hs =>
        rw [member?_of_isScalar hs] at hmember
        cases hmember
      | object hnodup hplain hall =>
        have hm := Json.mem_of_lookUp hmember
        exact .under hm ((ih (hall _ hm)).1 halong)
    · intro h
      cases h with
      | under hm hleads =>
        cases hj with
        | scalar hs => exact hs.elim
        | object hnodup hplain hall => exact ⟨_, Json.lookUp_of_mem hnodup hm, (ih (hall _ hm)).2 hleads⟩

theorem mem_leavesAmong_iff {path : List String} {target : Json} {ms : List (String × Json)} :
    (path, target) ∈ leavesAmong ms ↔
      ∃ key j rest, (key, j) ∈ ms ∧ path = key :: rest ∧ (rest, target) ∈ leaves j := by
  induction ms with
  | nil => simp [leavesAmong]
  | cons m ms ih =>
    obtain ⟨key, j⟩ := m
    rw [leavesAmong, List.mem_append, ih, List.mem_map]
    constructor
    · rintro (⟨⟨rest, _⟩, hleaf, heq⟩ | ⟨key', j', rest, hm, hpath, hleaf⟩)
      · cases heq
        exact ⟨key, j, rest, List.mem_cons_self, rfl, hleaf⟩
      · exact ⟨key', j', rest, List.mem_cons_of_mem _ hm, hpath, hleaf⟩
    · rintro ⟨key', j', rest, hm, rfl, hleaf⟩
      rcases List.mem_cons.1 hm with heq | hm
      · cases heq
        exact .inl ⟨(rest, target), hleaf, rfl⟩
      · exact .inr ⟨key', j', rest, hm, rfl, hleaf⟩

/-- **The leaves are the scalars that paths lead to.** -/
theorem mem_leaves_iff {j : Json} (hj : IsNested j) : ∀ {path : List String} {target : Json},
    (path, target) ∈ leaves j ↔ Leads path j target ∧ target.IsScalar := by
  induction hj with
  | @scalar j hs =>
    intro path target
    rw [leaves_of_isScalar hs, List.mem_singleton, Prod.mk.injEq]
    constructor
    · rintro ⟨rfl, rfl⟩
      exact ⟨.here _, hs⟩
    · rintro ⟨hleads, -⟩
      cases hleads with
      | here => exact ⟨rfl, rfl⟩
      | under => exact hs.elim
  | object _ _ _ ih =>
    intro path target
    rw [leaves, mem_leavesAmong_iff]
    constructor
    · rintro ⟨key, j, rest, hm, rfl, hleaf⟩
      obtain ⟨hleads, hs⟩ := (ih _ hm).1 hleaf
      exact ⟨.under hm hleads, hs⟩
    · rintro ⟨hleads, hs⟩
      cases hleads with
      | here => exact hs.elim
      | under hm hleads => exact ⟨_, _, _, hm, rfl, (ih _ hm).2 ⟨hleads, hs⟩⟩

/-! ## The value of a field in both forms -/

section

variable {document : Json}

/-- A leaf of a document is under its own path. -/
theorem pathOf_of_mem_leaves (hd : IsDocument document) {path : List String} {j : Json}
    (hleaf : (path, j) ∈ leaves document) : pathOf (dotted path) = path := by
  obtain ⟨hnested, ms, rfl⟩ := hd
  obtain ⟨hleads, hs⟩ := (mem_leaves_iff hnested).1 hleaf
  have hne : path ≠ [] := by
    rintro rfl
    cases hleads
    exact hs.elim
  exact pathOf_dotted hne (hleads.plain hnested)

theorem eq_of_mem_leaves (hd : IsDocument document) {path : List String} {j j' : Json}
    (h : (path, j) ∈ leaves document) (h' : (path, j') ∈ leaves document) : j = j' := by
  have halong := (along_eq_some_iff hd.1).2 ((mem_leaves_iff hd.1).1 h).1
  have halong' := (along_eq_some_iff hd.1).2 ((mem_leaves_iff hd.1).1 h').1
  exact Option.some.inj (halong.symm.trans halong')

/-- **In a nested document a field is a path**: a key of the document itself is the path of one key. -/
theorem fieldValue_of_isNested (hd : IsNested document) (field : String) :
    fieldValue document field = along (pathOf field) document := by
  rw [fieldValue_eq]
  cases hmember : document.member? field with
  | none => rfl
  | some j =>
    cases hd with
    | scalar hs =>
      rw [member?_of_isScalar hs] at hmember
      cases hmember
    | object _ hplain _ =>
      have hpath : pathOf field = [field] := pathOf_of_plain (hplain _ (Json.mem_of_lookUp hmember))
      rw [hpath, along, hmember]
      rfl

/-- The members of the flattened form. -/
theorem member?_flattened (hd : IsDocument document) {field : String} {j : Json} :
    (flattened document).member? field = some j ↔ (pathOf field, j) ∈ leaves document := by
  generalize hkeyed : (leaves document).map (fun leaf => (dotted leaf.1, leaf.2)) = keyed
  have hmem : ∀ {field : String} {j : Json}, (field, j) ∈ keyed.reverse ↔ (pathOf field, j) ∈ leaves document := by
    intro field j
    rw [List.mem_reverse, ← hkeyed, List.mem_map]
    constructor
    · rintro ⟨⟨path, _⟩, hleaf, heq⟩
      cases heq
      rwa [pathOf_of_mem_leaves hd hleaf]
    · intro hleaf
      exact ⟨_, hleaf, by rw [dotted_pathOf]⟩
  rw [flattened, hkeyed, Json.member?_ofMembers]
  constructor
  · intro h
    exact hmem.1 (Json.mem_of_lookUp h)
  · intro hleaf
    have hsome : (Json.lookUp field keyed.reverse).isSome := by
      rw [Json.lookUp, Option.isSome_map, List.find?_isSome]
      exact ⟨_, hmem.2 hleaf, by simp⟩
    obtain ⟨j', hj'⟩ := Option.isSome_iff_exists.1 hsome
    have hsame : j' = j := eq_of_mem_leaves hd (hmem.1 (Json.mem_of_lookUp hj')) hleaf
    rw [hj', hsame]

/-- **In the flattened form a field is a key**: no path goes on behind a leaf. -/
theorem fieldValue_flattened (hd : IsDocument document) {field : String} {j : Json} :
    fieldValue (flattened document) field = some j ↔ (pathOf field, j) ∈ leaves document := by
  rw [← member?_flattened hd, fieldValue_eq]
  cases hmember : (flattened document).member? field with
  | some j' => simp
  | none =>
    have hnone : along (pathOf field) (flattened document) = none := by
      obtain ⟨key, rest, hpath⟩ := List.exists_cons_of_ne_nil (pathOf_ne_nil field)
      rw [hpath, along]
      cases hinner : (flattened document).member? key with
      | none => rfl
      | some inner =>
        have hs : inner.IsScalar := ((mem_leaves_iff hd.1).1 ((member?_flattened hd).1 hinner)).2
        cases rest with
        | nil =>
          -- a path of one key is the key itself
          have hkey : field = key := by rw [← dotted_pathOf field, hpath]; simp [dotted]
          rw [hkey, hinner] at hmember
          cases hmember
        | cons key' rest =>
          show along (key' :: rest) inner = none
          rw [along, member?_of_isScalar hs]
          rfl
    rw [hnone]
    rfl

theorem fieldValue_nested (hd : IsDocument document) {field : String} (hfield : ¬ NamesObject field document)
    {j : Json} : fieldValue document field = some j ↔ (pathOf field, j) ∈ leaves document := by
  rw [fieldValue_of_isNested hd.1, along_eq_some_iff hd.1, mem_leaves_iff hd.1]
  constructor
  · intro hleads
    have hj : IsNested j := hleads.isNested hd.1
    cases hj with
    | scalar hs => exact ⟨hleads, hs⟩
    | object => exact absurd ⟨_, _, pathOf_ne_nil field, (dotted_pathOf field).symm, hleads⟩ hfield
  · exact And.left

theorem namesObject_iff (hd : IsDocument document) {field : String} :
    NamesObject field document ↔ ∃ ms, fieldValue document field = some (.object ms) := by
  constructor
  · rintro ⟨path, ms, hne, rfl, hleads⟩
    have hpath : pathOf (dotted path) = path := pathOf_dotted hne (hleads.plain hd.1)
    refine ⟨ms, ?_⟩
    rw [fieldValue_of_isNested hd.1, hpath]
    exact (along_eq_some_iff hd.1).2 hleads
  · rintro ⟨ms, hvalue⟩
    rw [fieldValue_of_isNested hd.1] at hvalue
    exact ⟨_, ms, pathOf_ne_nil field, (dotted_pathOf field).symm, (along_eq_some_iff hd.1).1 hvalue⟩

theorem fieldValue_flattened_eq (hd : IsDocument document) {field : String}
    (hfield : ¬ NamesObject field document) : fieldValue (flattened document) field = fieldValue document field := by
  apply Option.ext
  intro j
  rw [fieldValue_flattened hd, fieldValue_nested hd hfield]

/-! ## Rows -/

variable {c : Column}

theorem hitCell_flattened (hd : IsDocument document) (hc : ∀ field, c.field = some field → ¬ NamesObject field document) :
    hitCell (flattened document) c = hitCell document c := by
  cases hf : c.field with
  | none => rw [hitCell, hitCell, hf]; rfl
  | some field => rw [hitCell_of_field hf, hitCell_of_field hf, fieldCell, fieldCell,
      fieldValue_flattened_eq hd (hc field hf)]

theorem showsLeaf_hitCell (hd : IsDocument document)
    (hc : ∀ field, c.field = some field → ¬ NamesObject field document) :
    ShowsLeaf document c (hitCell document c) := by
  cases hf : c.field with
  | none =>
    rw [hitCell, hf]
    exact .absent (fun _ _ _ h => by rw [hf] at h; cases h)
  | some field =>
    have hvalue := @fieldValue_nested document hd field (hc field hf)
    rw [hitCell_of_field hf, fieldCell]
    cases hj : fieldValue document field with
    | some j => exact .leaf (by rw [dotted_pathOf, hf]) (hvalue.1 hj)
    | none =>
      refine .absent (fun path j hleaf h => ?_)
      rw [hf, Option.some.injEq] at h
      rw [← pathOf_of_mem_leaves hd hleaf, ← h, ← hvalue, hj] at hleaf
      cases hleaf

end

theorem hitRows_of_brings {h : Heading} {response : Json} {documents : List Json} (hb : Brings response documents) :
    hitRows h response = .ok (rowsFor h documents) := by
  rw [hitRows, checkError, hb.1, ← hb.2, ← map_hitRow_hits]
  rfl

/-- **Nested and flattened documents come back as the same rows**: one row for each document and one cell for each
column, which is the leaf its field is the path to, or missing. -/
theorem hitRows_flattened (h : Heading) (documents : List Json) (hdocuments : ∀ d ∈ documents, IsDocument d)
    (hleaf : ∀ d ∈ documents, ∀ c ∈ h.columns, ∀ field, c.field = some field → ¬ NamesObject field d)
    {nested flat : Json} (hnested : Brings nested documents) (hflat : Brings flat (documents.map flattened)) :
    hitRows h flat = hitRows h nested ∧ ∃ rows, hitRows h nested = .ok rows ∧
      List.Forall₂ (fun d row => List.Forall₂ (ShowsLeaf d) h.columns row) documents rows := by
  have hrows : rowsFor h (documents.map flattened) = rowsFor h documents := by
    rw [rowsFor, rowsFor, List.map_map]
    apply List.map_congr_left
    intro d hd
    apply List.map_congr_left
    intro c hc
    exact hitCell_flattened (hdocuments d hd) (hleaf d hd c hc)
  refine ⟨?_, rowsFor h documents, hitRows_of_brings hnested, ?_⟩
  · rw [hitRows_of_brings hnested, hitRows_of_brings hflat, hrows]
  · rw [rowsFor, List.forall₂_map_right_iff, List.forall₂_same]
    intro d hd
    show List.Forall₂ (ShowsLeaf d) h.columns (h.columns.map (hitCell d))
    rw [List.forall₂_map_right_iff, List.forall₂_same]
    exact fun c hc => showsLeaf_hitCell (hdocuments d hd) (hleaf d hd c hc)

/-- `SELECT a.b, a.c, d, a.b.e FROM t` -/
def pathsOfA : Heading :=
  ⟨[.plain "a.b", { Column.plain "a.c" with index := 1 }, { Column.plain "d" with index := 2 },
    { Column.plain "a.b.e" with index := 3 }]⟩

/-- Documents with leaves below `a`, with `a` itself for a leaf, and without leaves. -/
def nestedDocuments : List Json :=
  [.object [("a", .object [("b", .int 1), ("c", .null)]), ("d", .text "x")], .object [("a", .int 2)], .object []]

theorem isDocument_nestedDocuments : ∀ d ∈ nestedDocuments, IsDocument d := by
  have hinner : IsNested (.object [("b", .int 1), ("c", .null)]) := by
    refine .object (by decide) (by decide) ?_
    simp only [List.forall_mem_cons, List.not_mem_nil, false_implies, implies_true, and_true]
    exact ⟨.scalar trivial, .scalar trivial⟩
  simp only [nestedDocuments, List.forall_mem_cons, List.not_mem_nil, false_implies, implies_true, and_true]
  refine ⟨⟨.object (by decide) (by decide) ?_, _, rfl⟩, ⟨.object (by decide) (by decide) ?_, _, rfl⟩,
    ⟨.object (by decide) (by decide) nofun, _, rfl⟩⟩
  · simp only [List.forall_mem_cons, List.not_mem_nil, false_implies, implies_true, and_true]
    exact ⟨hinner, .scalar trivial⟩
  · simp only [List.forall_mem_cons, List.not_mem_nil, false_implies, implies_true, and_true]
    exact .scalar trivial

theorem hitRows_pathsOfA :
    hitRows pathsOfA (answerOf (nestedDocuments.map flattened)) =
      .ok [[.int 1, .null, .text "x", .null], [.null, .null, .null, .null], [.null, .null, .null, .null]] := by
  have hnone : ∀ d ∈ nestedDocuments, ∀ c ∈ pathsOfA.columns,
      ((c.field.bind (fieldValue d)).bind Json.members?).isNone = true := by decide +kernel
  have hleaf : ∀ d ∈ nestedDocuments, ∀ c ∈ pathsOfA.columns, ∀ field, c.field = some field →
      ¬ NamesObject field d := by
    intro d hd c hc field hfield hnames
    obtain ⟨ms, hvalue⟩ := (namesObject_iff (isDocument_nestedDocuments d hd)).1 hnames
    have hsome := hnone d hd c hc
    rw [hfield, Option.bind_some, hvalue] at hsome
    cases hsome
  have hnested : Brings (answerOf nestedDocuments) nestedDocuments := ⟨rfl, documentsOf_answerOf _⟩
  have hflat : Brings (answerOf (nestedDocuments.map flattened)) (nestedDocuments.map flattened) :=
    ⟨rfl, documentsOf_answerOf _⟩
  rw [(hitRows_flattened pathsOfA nestedDocuments isDocument_nestedDocuments hleaf hnested hflat).1,
    hitRows_answerOf]
  rfl

end Run
end FacetSql
