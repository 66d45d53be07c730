import FacetSql.Proofs.Query.Selects
/-!
# Resolved — the column behind each key of GROUP BY

A key is written as a field or as a call, and is looked up by the label it would have, and only then by its field
(`referredColumn_eq_some_iff`).  An alias can therefore catch a key that names the field of another column.  Whatever is
written, each key is its column, place and names and all, except that a call of `DATE_HISTOGRAM` brings intervals of its
own; and no two keys are of one column (`groupKeys_resolved`).
-/
namespace FacetSql.Query

open Sql

/-- A call of `DATE_HISTOGRAM`, in any case. -/
def IsHistogram (call : Call) : Prop := Operator.ofFunctionName? (renderPath call.function) = some .dateHistogram

/-- **A call that cuts time into intervals**, in any parentheses, with the value of the interval if there is one. -/
inductive CutsTime (now : Int) : Expr → List Argument → Prop
  | unsaid {call : Call} {field : Expr} : IsHistogram call → call.arguments = [.expr field] → CutsTime now (.call call) []
  | every {call : Call} {field interval : Expr} {value : Argument} : IsHistogram call →
      call.arguments = [.expr field, .expr interval] → argument now interval = .ok value →
      CutsTime now (.call call) [value]
  | nested {inner : Expr} {arguments : List Argument} : CutsTime now inner arguments →
      CutsTime now (.nested inner) arguments

/-- A column that may group, and shows the field of a key. -/
def ShowsFieldOf (key c : Column) : Prop :=
  c.operator.isGrouping = true ∧ ∃ field, c.field = some field ∧ key.field = some field

/-- **The column that a key refers to**: the one of its label; where no column has that label, the first that may group
and shows its field. -/
inductive RefersTo (h : Heading) (key : Column) : Column → Prop
  | label {c : Column} : c ∈ h.columns → c.label = key.label → RefersTo h key c
  | field {before after : List Column} {c : Column} : (∀ d ∈ h.columns, d.label ≠ key.label) →
      h.columns = before ++ c :: after → ShowsFieldOf key c → (∀ d ∈ before, ¬ ShowsFieldOf key d) → RefersTo h key c

/-- **A key for an expression, of a column**: the column itself, but for the function and constants of an expression
that cuts time into intervals. -/
structure KeyFor (now : Int) (h : Heading) (e : Expr) (key c : Column) : Prop where
  refers : ∃ candidate, columnOf now e = .ok candidate ∧ RefersTo h candidate c
  same : key = { c with operator := key.operator, arguments := key.arguments }
  field : key.field.isSome = true
  operator : key.operator = .plain ∨ key.operator = .dateHistogram
  cut : ∀ arguments, CutsTime now e arguments → key.operator = .dateHistogram ∧ key.arguments = arguments
  kept : (∀ arguments, ¬ CutsTime now e arguments) → key = c

/-! ## Calls -/

section

variable {now : Int} {call : Call} {e : Expr} {c : Column}

theorem fieldOfCall_histogram {function : String} {arguments : List CallArgument} {field : Option String}
    (h : fieldOfCall function .dateHistogram arguments = .ok field) : ∃ e rest, arguments = .expr e :: rest := by
  unfold fieldOfCall at h
  split at h
  · cases h
  · rename_i e rest
    exact ⟨e, rest, rfl⟩
  · cases h

theorem callArguments_histogram {function : String} {extra : List Expr} {arguments : List Argument}
    (h : callArguments now function .dateHistogram extra = .ok arguments) :
    extra = [] ∧ arguments = [] ∨
      ∃ interval value, extra = [interval] ∧ argument now interval = .ok value ∧ arguments = [value] := by
  match extra, h with
  | [], h => exact .inl ⟨rfl, (Except.ok.inj h).symm⟩
  | [interval], h =>
    obtain ⟨value, hvalue, h⟩ := bind_eq_ok_iff.1 h
    exact .inr ⟨interval, value, rfl, hvalue, (Except.ok.inj h).symm⟩
  | _ :: _ :: _, h => simp [callArguments] at h

/-- A column cuts time if its expression does. -/
theorem cutsTime_of_columnOf (h : columnOf now e = .ok c) (hop : c.operator = .dateHistogram) :
    CutsTime now e c.arguments := by
  fun_induction columnOf now e with
  | case1 n =>
    cases h
    cases hop
  | case2 parts =>
    obtain ⟨field, -, h⟩ := bind_eq_ok_iff.1 h
    cases h
    cases hop
  | case3 inner ih => exact .nested (ih h)
  | case4 call =>
    obtain ⟨op, field, extra, arguments, hname, hfield, hextra, harguments, rfl⟩ := columnOfCall_cases h
    cases (show op = .dateHistogram from hop)
    obtain ⟨first, rest, hcall⟩ := fieldOfCall_histogram hfield
    rw [hcall, List.drop_one, List.tail_cons, mapM_eq_ok_iff] at hextra
    show CutsTime now (.call call) arguments
    rcases callArguments_histogram harguments with ⟨rfl, rfl⟩ | ⟨interval, value, rfl, hvalue, rfl⟩
    · cases hextra
      exact .unsaid hname hcall
    · obtain ⟨a, _, ha, hnil, rfl⟩ := List.forall₂_cons_right_iff.1 hextra
      cases hnil
      rw [placedExpr_eq_ok ha] at hcall
      exact .every hname hcall hvalue
  | case5 e => cases h

theorem operator_of_isHistogram (hc : IsHistogram call) (h : columnOfCall now call = .ok c) :
    c.operator = .dateHistogram := by
  obtain ⟨op, field, extra, arguments, hname, -, -, -, rfl⟩ := columnOfCall_cases h
  exact Option.some.inj (hname.symm.trans hc)

theorem CutsTime.unique {arguments arguments' : List Argument} (h : CutsTime now e arguments)
    (h' : CutsTime now e arguments') : arguments = arguments' := by
  induction h with
  | unsaid _ hcall =>
    cases h' with
    | unsaid => rfl
    | every _ hcall' => cases hcall.symm.trans hcall'
  | every _ hcall hvalue =>
    cases h' with
    | unsaid _ hcall' => cases hcall.symm.trans hcall'
    | every _ hcall' hvalue' =>
      cases hcall.symm.trans hcall'
      rw [Except.ok.inj (hvalue.symm.trans hvalue')]
  | nested _ ih =>
    cases h' with
    | nested h' => exact ih h'

/-- **A column has the function and constants of an expression that cuts time.** -/
theorem CutsTime.column {arguments : List Argument} (hcut : CutsTime now e arguments) (h : columnOf now e = .ok c) :
    c.operator = .dateHistogram ∧ c.arguments = arguments := by
  have hop : c.operator = .dateHistogram := by
    revert h
    induction hcut with
    | unsaid hc _ => exact operator_of_isHistogram hc
    | every hc _ _ => exact operator_of_isHistogram hc
    | nested _ ih => exact ih
  exact ⟨hop, (cutsTime_of_columnOf h hop).unique hcut⟩

end

/-! ## Columns of the heading -/

section

variable {h : Heading} {key c : Column}

theorem showsFieldOf_iff :
    (c.operator.isGrouping && c.field.isSome && c.field == key.field) = true ↔ ShowsFieldOf key c := by
  rw [ShowsFieldOf, Bool.and_eq_true, Bool.and_eq_true, beq_iff_eq]
  constructor
  · rintro ⟨⟨hg, hsome⟩, hkey⟩
    obtain ⟨field, hfield⟩ := Option.isSome_iff_exists.1 hsome
    exact ⟨hg, field, hfield, hkey ▸ hfield⟩
  · rintro ⟨hg, field, hfield, hkey⟩
    exact ⟨⟨hg, by rw [hfield]; rfl⟩, by rw [hfield, hkey]⟩

/-- **The label goes first**, and the first column that shows the field after it. -/
theorem referredColumn_eq_some_iff (hw : h.WellFormed) : referredColumn h key = some c ↔ RefersTo h key c := by
  have hlabel : ∀ d, h.byLabel? key.label = some d ↔ d ∈ h.columns ∧ d.label = key.label :=
    fun d => hw.byLabel?_eq_some_iff
  unfold referredColumn
  cases hl : h.byLabel? key.label with
  | some d =>
    obtain ⟨hd, hdl⟩ := (hlabel d).1 hl
    show some d = some c ↔ _
    constructor
    · intro heq
      exact Option.some.inj heq ▸ .label hd hdl
    · intro hrefers
      cases hrefers with
      | label hc hcl => rw [← hl, hlabel]; exact ⟨hc, hcl⟩
      | field hnone => exact absurd hdl (hnone d hd)
  | none =>
    have hnone : ∀ d ∈ h.columns, d.label ≠ key.label := by
      intro d hd hdl
      rw [(hlabel d).2 ⟨hd, hdl⟩] at hl
      cases hl
    show h.columns.find? _ = some c ↔ _
    rw [List.find?_eq_some_iff_append, showsFieldOf_iff]
    constructor
    · rintro ⟨hshows, before, after, hcolumns, hbefore⟩
      refine .field hnone hcolumns hshows (fun d hd hshows => ?_)
      have hfalse := hbefore d hd
      rw [showsFieldOf_iff.2 hshows] at hfalse
      cases hfalse
    · intro hrefers
      cases hrefers with
      | label hc hcl => exact absurd hcl (hnone c hc)
      | field _ hcolumns hshows hbefore =>
        refine ⟨hshows, _, _, hcolumns, fun d hd => ?_⟩
        rw [Bool.not_eq_true', ← Bool.not_eq_true, showsFieldOf_iff]
        exact hbefore d hd

theorem field_of_isGrouping (hcounts : CountsOnly h) (hc : c ∈ h.columns) (hg : c.operator.isGrouping = true) :
    c.field.isSome = true := by
  cases hf : c.field with
  | some field => rfl
  | none =>
    rw [hcounts c hc hf] at hg
    cases hg

theorem operator_of_isGrouping (hg : c.operator.isGrouping = true) :
    c.operator = .plain ∨ c.operator = .dateHistogram := by
  revert hg
  cases c.operator <;> simp [Operator.isGrouping]

/-! ## Keys -/

variable {now : Int} {e : Expr} {k : Column} {found : List Column}

/-- **A resolved key is the column it refers to**, cut into the intervals of its expression. -/
theorem keyFor_of_resolveKey (hw : h.WellFormed) (hcounts : CountsOnly h) (he : columnOf now e = .ok key)
    (hk : resolveKey h found key = .ok k) : ∃ c, h.columns[k.index]? = some c ∧ KeyFor now h e k c := by
  obtain ⟨hkey, c, hrefers, hg, -, rfl⟩ := resolveKey_eq_ok_iff.1 hk
  have hc : c ∈ h.columns := referredColumn_mem hrefers
  have hfield : c.field.isSome = true := field_of_isGrouping hcounts hc hg
  refine ⟨c, by rw [asKey_index]; exact hw.getElem?_index hc, ?_⟩
  have hrefers : ∃ candidate, columnOf now e = .ok candidate ∧ RefersTo h candidate c :=
    ⟨key, he, (referredColumn_eq_some_iff hw).1 hrefers⟩
  by_cases hop : key.operator = .dateHistogram
  · have hasKey : asKey key c = { c with operator := .dateHistogram, arguments := key.arguments } := if_pos hop
    have hcut : CutsTime now e key.arguments := cutsTime_of_columnOf he hop
    rw [hasKey]
    exact ⟨hrefers, rfl, hfield, .inr rfl, fun arguments h => ⟨rfl, hcut.unique h⟩, fun hnone => absurd hcut (hnone _)⟩
  · have hasKey : asKey key c = c := if_neg hop
    rw [hasKey]
    exact ⟨hrefers, rfl, hfield, operator_of_isGrouping hg, fun arguments hcut => absurd (hcut.column he).1 hop,
      fun _ => rfl⟩

/-- **Each expression adds its key** behind those found before. -/
theorem foldlM_resolveKey (hw : h.WellFormed) (hcounts : CountsOnly h) :
    ∀ (es : List Expr) {found keys : List Column},
      es.foldlM (fun found e => do return found ++ [← resolveKey h found (← columnOf now e)]) found = .ok keys →
      ∃ new, keys = found ++ new ∧
        List.Forall₂ (fun e k => ∃ c, h.columns[k.index]? = some c ∧ KeyFor now h e k c) es new := by
  intro es
  induction es with
  | nil =>
    intro found keys hk
    exact ⟨[], by rw [List.append_nil]; exact (Except.ok.inj hk).symm, .nil⟩
  | cons e es ih =>
    intro found keys hk
    rw [List.foldlM_cons] at hk
    obtain ⟨found', hstep, hk⟩ := bind_eq_ok_iff.1 hk
    obtain ⟨key, he, hstep⟩ := bind_eq_ok_iff.1 hstep
    obtain ⟨k, hresolved, hstep⟩ := bind_eq_ok_iff.1 hstep
    cases hstep
    obtain ⟨new, rfl, hnew⟩ := ih hk
    exact ⟨k :: new, by rw [List.append_assoc, List.singleton_append],
      .cons (keyFor_of_resolveKey hw hcounts he hresolved) hnew⟩

end

/-- **GROUP BY is resolved expression by expression**: each gets the key of the column it refers to, in the same order,
and no two of them the same column. -/
theorem groupKeys_resolved {now now' : Int} {items : List SelectItem} {es : List Expr} {h : Heading}
    {keys : List Column} (hh : headingOf now items = .ok h) (hk : groupKeys now' h es = .ok keys) :
    List.Forall₂ (fun e key => ∃ c, h.columns[key.index]? = some c ∧ KeyFor now' h e key c) es keys ∧
      (keys.map (·.index)).Nodup := by
  obtain ⟨new, rfl, hnew⟩ := foldlM_resolveKey (headingOf_wellFormed hh) (headingOf_countsOnly hh) es hk
  exact ⟨hnew, (areKeys_groupKeys hk).apart⟩

/-- `DATE_HISTOGRAM(t, 'span')` -/
def histogramOfT (span : String) : Expr :=
  .call ⟨[⟨"DATE_HISTOGRAM", none⟩], false, false,
    [.expr (.name ⟨"t", none⟩), .expr (.literal (.text span))], "", ""⟩

/-- `SELECT a AS b, b AS c, DATE_HISTOGRAM(t, '1d') AS day` -/
def shiftedItems : List SelectItem :=
  [.aliased (.name ⟨"a", none⟩) ⟨"b", none⟩, .aliased (.name ⟨"b", none⟩) ⟨"c", none⟩,
    .aliased (histogramOfT "1d") ⟨"day", none⟩]

/-- The columns of the items. -/
def aAsB : Column := (Column.plain "a").withAlias "b"
def bAsC : Column := { (Column.plain "b").withAlias "c" with index := 1 }
def tByDay : Column := { (Column.function .dateHistogram (some "t") [.text "1d"]).withAlias "day" with index := 2 }

theorem headingOf_shiftedItems : headingOf 0 shiftedItems = .ok ⟨[aAsB, bAsC, tByDay]⟩ := by
  have hb : Heading.add ⟨[aAsB]⟩ bAsC = .ok ⟨[aAsB, bAsC]⟩ := by
    refine Heading.add_eq_ok_iff.2 ⟨by decide, ?_⟩
    rw [Heading.placed, Heading.nameFor, if_neg (by decide +kernel)]
    rfl
  have ht : Heading.add ⟨[aAsB, bAsC]⟩ tByDay = .ok ⟨[aAsB, bAsC, tByDay]⟩ := by
    refine Heading.add_eq_ok_iff.2 ⟨by decide, ?_⟩
    rw [Heading.placed, Heading.nameFor, if_neg (by decide +kernel)]
    rfl
  show (Heading.add ⟨[aAsB]⟩ bAsC >>= fun h => h.add tByDay >>= fun h => pure h) = _
  rw [hb]
  show (Heading.add ⟨[aAsB, bAsC]⟩ tByDay >>= fun h => pure h) = _
  rw [ht]
  rfl

/-- `GROUP BY DATE_HISTOGRAM(t, '1h'), (b)`: the second key is the column of that label, not that of that field. -/
theorem groupKeys_shiftedItems : let keys := [{ tByDay with arguments := [.text "1h"] }, aAsB]
    headingOf 0 shiftedItems = .ok ⟨[aAsB, bAsC, tByDay]⟩ ∧
      groupKeys 0 ⟨[aAsB, bAsC, tByDay]⟩ [histogramOfT "1h", .nested (.name ⟨"b", none⟩)] = .ok keys ∧
      KeyFor 0 ⟨[aAsB, bAsC, tByDay]⟩ (histogramOfT "1h") { tByDay with arguments := [.text "1h"] } tByDay ∧
      KeyFor 0 ⟨[aAsB, bAsC, tByDay]⟩ (.nested (.name ⟨"b", none⟩)) aAsB aAsB := by
  intro keys
  have hk : groupKeys 0 ⟨[aAsB, bAsC, tByDay]⟩ [histogramOfT "1h", .nested (.name ⟨"b", none⟩)] = .ok keys := rfl
  obtain ⟨hall, -⟩ := groupKeys_resolved headingOf_shiftedItems hk
  obtain ⟨⟨day, hday, hfirst⟩, hrest⟩ := List.forall₂_cons.1 hall
  obtain ⟨⟨a, ha, hsecond⟩, -⟩ := List.forall₂_cons.1 hrest
  cases hday
  cases ha
  exact ⟨headingOf_shiftedItems, hk, hfirst, hsecond⟩

end FacetSql.Query
