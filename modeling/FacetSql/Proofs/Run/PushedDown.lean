import FacetSql.Json.Lemmas
import FacetSql.Proofs.Heading.WellFormed
import FacetSql.Proofs.Run.Finished
import FacetSql.Proofs.Table.Stable
/-!
# PushedDown — sorting and cutting off in the engine

A search sends its limit and the field it sorts by, so the engine cuts off before anything is sorted here.  An engine
that sorts documents as rows are sorted gives the same rows in the end as if it had sent all of them
(`runPlan_eq_of_serves`): its documents are the first of the sorted rows, and these stay where they are.
-/
namespace FacetSql

namespace Run

open Request Answer

/-- The hit of a document. -/
def hitOf (document : Json) : Json := .object [("_source", document)]

/-- **The answer with these documents.** -/
def answerOf (documents : List Json) : Json :=
  .object [("hits", .object [("hits", .array (documents.map hitOf))])]

/-- The documents of an answer. -/
def documentsOf (response : Json) : List Json :=
  (hits response).map (fun hit => (hit.member? "_source").getD .null)

/-- How many documents a body asks for. -/
def askedSize (body : Json) : Nat := ((body.member? "size").bind Json.word64?).getD 10

/-- The field a body sorts by, and whether descending. -/
def askedOrder (body : Json) : Option (String × Bool) :=
  match body.member? "sort" with
  | some (.array [.object [(field, options)]]) =>
    some (field, ((options.member? "order").bind Json.text?) == some "desc")
  | _ => none

/-- The cell of a field in a document. -/
def fieldCell (field : String) (document : Json) : Cell := ((fieldValue document field).map Cell.ofJson).getD .null

/-- Documents in the order asked for, as rows are ordered by a cell. -/
def inAskedOrder : Option (String × Bool) → List Json → List Json
  | none, documents => documents
  | some (field, descending), documents =>
    documents.mergeSort
      (PreorderOn.le (fun a b => Cell.compareIn descending (fieldCell field a) (fieldCell field b)))

/-- **An engine that serves documents** of an index: the first of them, as many as asked for, in the order asked for. -/
def Serves (engine : Engine) (index : String) (documents : List Json) : Prop :=
  ∀ body, ∃ response, engine ⟨index, body⟩ = .answered response ∧ response.present? "error" = none ∧
    documentsOf response = (inAskedOrder (askedOrder body) documents).take (askedSize body)

theorem documentsOf_answerOf (documents : List Json) : documentsOf (answerOf documents) = documents := by
  show (documents.map hitOf).map _ = documents
  rw [List.map_map]
  exact List.map_id _

theorem member?_searchBody (session : Session) (level : Level) (key : String) :
    (searchBody session level).member? key = Json.lookUp key ([
      ("size", .int (hitCount session level)),
      ("query", level.filter.toJson),
      ("_source", .array ((level.heading.columns.filterMap (·.field)).map .text))] ++ sortMember level).reverse :=
  Json.lookUp_sortedMembers key _

theorem askedSize_searchBody (session : Session) (level : Level) :
    askedSize (searchBody session level) = hitCount session level := by
  have hsize : (searchBody session level).member? "size" = some (.int (hitCount session level)) := by
    rw [member?_searchBody, sortMember]
    cases sortField level <;> rfl
  rw [askedSize, hsize]
  simp [Json.word64?]

theorem askedOrder_searchBody (session : Session) (level : Level) :
    askedOrder (searchBody session level) = (sortField level).map (fun s => (s.1, s.2 == "desc")) := by
  rw [askedOrder, member?_searchBody, sortMember]
  cases sortField level with
  | none => rfl
  | some s =>
    show some (s.1, some s.2 == some "desc") = _
    rfl

/-- **The rows of documents.** -/
def rowsFor (h : Heading) (documents : List Json) : List Row := documents.map (fun d => hitRow h (hitOf d))

theorem hitRows_answerOf (h : Heading) (documents : List Json) :
    hitRows h (answerOf documents) = .ok (rowsFor h documents) := by
  show Except.ok ((documents.map hitOf).map (hitRow h)) = _
  rw [List.map_map]
  rfl

theorem map_hitRow_hits (h : Heading) (response : Json) :
    (hits response).map (hitRow h) = rowsFor h (documentsOf response) := by
  rw [rowsFor, documentsOf, List.map_map]
  rfl

theorem hitCell_of_field {c : Column} {field : String} (hf : c.field = some field) (document : Json) :
    hitCell document c = fieldCell field document := by
  rw [hitCell, hf, Option.bind_some, fieldCell]
  cases fieldValue document field <;> rfl

section

variable {session : Session} {level : Level} {documents : List Json}

/-- A column's place in a row holds its cell. -/
theorem cell_hitRow (hi : level.heading.Indexed) {c : Column} (hc : c ∈ level.heading.columns) (document : Json) :
    (hitRow level.heading (hitOf document)).cell c.index = hitCell document c := by
  have hrow : hitRow level.heading (hitOf document) = level.heading.columns.map (hitCell document) := rfl
  rw [hrow, Row.cell, List.getD_eq_getElem?_getD, List.getElem?_map, hi.getElem?_index hc]
  rfl

/-- **The cells of a column are ordered, so the rows are by it.** -/
theorem preorderOn_rowOrder (hi : level.heading.Indexed) {c : Column} (hc : c ∈ level.heading.columns)
    (hcells : PreorderOn Cell.compare (documents.map (fun d => hitCell d c))) (descending : Bool) :
    PreorderOn (Table.rowOrder c.index descending) (rowsFor level.heading documents) := by
  have hmap : (rowsFor level.heading documents).map (fun row => row.cell c.index) =
      documents.map (fun d => hitCell d c) := by
    rw [rowsFor, List.map_map]
    exact List.map_congr_left (fun d _ => cell_hitRow hi hc d)
  rw [← hmap] at hcells
  exact Table.preorderOn_rowOrder hcells descending

/-- The field that is sent is that of the column of the label. -/
theorem sortField_eq {order : SortOrder} (ho : level.order = some order) :
    sortField level = (level.heading.byLabel? order.label).bind (fun c =>
      c.field.map (fun field => (field, if order.descending then "desc" else "asc"))) := by
  rw [sortField, ho]
  show (level.heading.byLabel? order.label >>= fun c => _) = _
  cases level.heading.byLabel? order.label with
  | none => rfl
  | some c => cases hf : c.field <;> simp [hf]

/-- **Documents in the order asked for give the sorted rows.** -/
theorem rowsFor_inAskedOrder (hi : level.heading.Indexed)
    (horder : ∀ order c, level.order = some order → level.heading.byLabel? order.label = some c →
      PreorderOn Cell.compare (documents.map (fun d => hitCell d c))) :
    rowsFor level.heading (inAskedOrder (askedOrder (searchBody session level)) documents) =
      (sortedAs level.order ⟨level.heading, rowsFor level.heading documents⟩).rows := by
  rw [askedOrder_searchBody]
  cases ho : level.order with
  | none =>
    have hfield : sortField level = none := by rw [sortField, ho]; rfl
    rw [hfield]
    rfl
  | some order =>
    rw [sortField_eq ho, sortedAs]
    cases hl : level.heading.byLabel? order.label with
    | none =>
      rw [Table.sortBy_of_unknown hl]
      rfl
    | some c =>
      have hc : c ∈ level.heading.columns := List.mem_of_find?_eq_some hl
      have hrows := preorderOn_rowOrder hi hc (horder order c ho hl) order.descending
      have hcell := cell_hitRow hi hc
      rw [Table.sortBy_of_label hl, Option.bind_some]
      dsimp only
      cases hf : c.field with
      | none =>
        -- without a field every cell is missing, and the rows stay where they are
        have hnull : ∀ d, hitCell d c = .null := fun d => by rw [hitCell, hf]; rfl
        have hstay : (rowsFor level.heading documents).Pairwise
            (fun a b => Table.rowOrder c.index order.descending b a ≠ .lt) := by
          rw [rowsFor, List.pairwise_map]
          apply List.pairwise_of_forall
          intro d e
          rw [Table.rowOrder, hcell, hcell, hnull, hnull]
          cases order.descending <;> exact nofun
        rw [Table.sortRows_of_pairwise hstay]
        rfl
      | some field =>
        have hdirection : ((if order.descending then "desc" else "asc") == "desc") = order.descending := by
          cases order.descending <;> rfl
        rw [Table.sortRows_eq_mergeSort hrows, Option.map_some, Option.map_some, hdirection, inAskedOrder, rowsFor,
          rowsFor]
        apply List.map_mergeSort
        intro d _ e _
        rw [PreorderOn.le, PreorderOn.le, Table.rowOrder, hcell, hcell, hitCell_of_field hf, hitCell_of_field hf]

/-- **The first of the sorted rows stay where they are.** -/
theorem sortedAs_truncate (hi : level.heading.Indexed)
    (horder : ∀ order c, level.order = some order → level.heading.byLabel? order.label = some c →
      PreorderOn Cell.compare (documents.map (fun d => hitCell d c))) (n : Nat) :
    sortedAs level.order ((sortedAs level.order ⟨level.heading, rowsFor level.heading documents⟩).truncate n) =
      (sortedAs level.order ⟨level.heading, rowsFor level.heading documents⟩).truncate n := by
  cases ho : level.order with
  | none => rfl
  | some order =>
    cases hl : level.heading.byLabel? order.label with
    | none =>
      have hsame : sortedAs (some order) ⟨level.heading, rowsFor level.heading documents⟩ =
          ⟨level.heading, rowsFor level.heading documents⟩ := Table.sortBy_of_unknown hl _
      rw [hsame]
      exact Table.sortBy_of_unknown hl _
    | some c =>
      have hc : c ∈ level.heading.columns := List.mem_of_find?_eq_some hl
      have hrows := preorderOn_rowOrder hi hc (horder order c ho hl) order.descending
      have hsort : sortedAs (some order) ⟨level.heading, rowsFor level.heading documents⟩ =
          ⟨level.heading, Table.sortRows (Table.rowOrder c.index order.descending) (rowsFor level.heading documents)⟩ :=
        Table.sortBy_of_label hl _
      rw [hsort]
      refine (Table.sortBy_of_label hl _).trans ?_
      rw [Table.truncate, Table.sortRows_take hrows n]

/-- The table of the documents asked for. -/
theorem tableOf_of_documentsOf (hsearch : level.isAggregation = false) {response : Json}
    (hok : response.present? "error" = none) :
    tableOf level response = .ok ⟨level.heading, rowsFor level.heading (documentsOf response)⟩ := by
  have hrows : rowsOf level response = .ok (rowsFor level.heading (documentsOf response)) := by
    rw [rowsOf, hsearch, if_neg Bool.false_ne_true, hitRows, checkError, hok, ← map_hitRow_hits]
    rfl
  have hwidth : ∀ row ∈ rowsFor level.heading (documentsOf response), row.length = level.heading.width := by
    intro row hrow
    obtain ⟨d, -, rfl⟩ := List.mem_map.1 hrow
    exact List.length_map _
  rw [tableOf, hrows]
  exact Table.ofRows_of_length hwidth

/-- Cutting off as many rows as are asked for changes nothing, if as many as are wanted may be asked for. -/
theorem cutAs_hitCount {t : Table} (hfits : level.limit.getD t.rows.length ≤ session.fetchSize) :
    cutAs level.limit (t.truncate (hitCount session level)) = cutAs level.limit t := by
  rw [hitCount]
  cases hl : level.limit with
  | none =>
    rw [hl] at hfits
    show Table.truncate t session.fetchSize = t
    rw [Table.truncate, List.take_of_length_le hfits]
  | some limit =>
    have hmin : min limit session.fetchSize = limit := by
      rw [hl] at hfits
      exact Nat.min_eq_left hfits
    show Table.truncate (Table.truncate t (min limit session.fetchSize)) limit = Table.truncate t limit
    simp only [Table.truncate, hmin, List.take_take, Nat.min_self]

/-- **Searching an engine that sorts and cuts off gives the rows of all documents, sorted and cut off here**, if as many
documents as are wanted may be asked for. -/
theorem runPlan_eq_of_serves {plan : Plan} {engine : Engine} (hb : plan.engine.heading.Built)
    (hsearch : plan.engine.isAggregation = false) (houter : plan.outer = [])
    (hserves : Serves engine plan.index documents)
    (horder : ∀ order c, plan.engine.order = some order → plan.engine.heading.byLabel? order.label = some c →
      PreorderOn Cell.compare (documents.map (fun d => hitCell d c)))
    (hfits : plan.engine.limit.getD documents.length ≤ session.fetchSize) :
    ∃ rows, hitRows plan.engine.heading (answerOf documents) = .ok rows ∧
      runPlan session engine plan = ⟨[⟨plan.index, searchBody session plan.engine⟩],
        .ok (cutAs plan.engine.limit (sortedAs plan.engine.order ⟨plan.engine.heading, rows⟩))⟩ := by
  refine ⟨_, hitRows_answerOf _ _, ?_⟩
  generalize hall : sortedAs plan.engine.order ⟨plan.engine.heading, rowsFor plan.engine.heading documents⟩ = all
  have hheading : all.heading = plan.engine.heading := by rw [← hall, heading_sortedAs]
  have hlength : all.rows.length = documents.length := by
    rw [← hall, length_rows_sortedAs]
    exact List.length_map _
  obtain ⟨response, hreply, hok, hdocuments⟩ := hserves (searchBody session plan.engine)
  have hrequest : ofPlan session plan = .ok ⟨plan.index, searchBody session plan.engine⟩ := by
    rw [ofPlan, bodyOf, hsearch]
    rfl
  -- what comes back are the first of the sorted rows
  have hfirst : (⟨plan.engine.heading, rowsFor plan.engine.heading (documentsOf response)⟩ : Table) =
      all.truncate (hitCount session plan.engine) := by
    rw [hdocuments, askedSize_searchBody, rowsFor, List.map_take, ← rowsFor,
      rowsFor_inAskedOrder hb.indexed horder, hall, Table.truncate, hheading]
  have htable : resultOf plan response = .ok (cutAs plan.engine.limit all) := by
    rw [resultOf, tableOf_of_documentsOf hsearch hok, houter]
    show Except.ok (finish plan.engine _) = _
    rw [finish_eq, hfirst, ← hall, sortedAs_truncate hb.indexed horder, hall, cutAs_hitCount]
    rwa [hlength]
  rw [runPlan, hrequest]
  dsimp only
  rw [hreply]
  show Outcome.mk _ (resultOf plan response) = _
  rw [htable]

end

/-- **An engine of some documents**, whatever the index. -/
def serving (documents : List Json) : Engine := fun request =>
  .answered (answerOf ((inAskedOrder (askedOrder request.body) documents).take (askedSize request.body)))

theorem serves_serving (index : String) (documents : List Json) : Serves (serving documents) index documents :=
  fun _ => ⟨_, rfl, rfl, documentsOf_answerOf _⟩

/-- `SELECT a FROM t ORDER BY a DESC LIMIT 1` -/
def greatestA : Plan :=
  ⟨"t", ⟨⟨[.plain "a"]⟩, [], .everything, false, some 1, some ⟨"a", true⟩⟩, []⟩

/-- Documents with one, two and no `a`. -/
def oneTwoNone : List Json := [.object [("a", .int 1)], .object [("a", .int 2)], .object []]

theorem runPlan_greatestA :
    (runPlan .standard (serving oneTwoNone) greatestA).result = .ok ⟨greatestA.engine.heading, [[.int 2]]⟩ := by
  have hcells : oneTwoNone.map (fun d => hitCell d (.plain "a")) = [.int 1, .int 2, .null] := rfl
  have hpreorder : PreorderOn Cell.compare [.int 1, .int 2, .null] := by
    constructor <;> decide
  have horder : ∀ order c, greatestA.engine.order = some order →
      greatestA.engine.heading.byLabel? order.label = some c →
        PreorderOn Cell.compare (oneTwoNone.map (fun d => hitCell d c)) := by
    intro order c ho hl
    cases ho
    have hc : greatestA.engine.heading.byLabel? "a" = some (.plain "a") := rfl
    cases hc.symm.trans hl
    rw [hcells]
    exact hpreorder
  have hfits : greatestA.engine.limit.getD oneTwoNone.length ≤ Session.standard.fetchSize := by decide
  obtain ⟨rows, hrows, hrun⟩ := runPlan_eq_of_serves ⟨[.plain "a"], rfl⟩ rfl rfl (serves_serving "t" oneTwoNone) horder
    hfits
  cases hrows
  rw [hrun]
  rfl

end Run
end FacetSql
