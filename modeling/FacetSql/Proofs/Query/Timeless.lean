import FacetSql.Proofs.Query.Bound
/-!
# Timeless — queries that say the same at any time

The clock is read for a call of `NOW` among the constants of a function, and for nothing else.  A query without such a
call in its items, in its keys or in the ORDER BY next to a SELECT is bound alike whenever it is bound
(`boundOf_congr`); of any other that is true as long as the clock says the same.
-/
namespace FacetSql.Query

open Sql

/-- The argument is a call of `NOW`. -/
def argumentReadsClock : CallArgument → Bool
  | .expr (.call c) => Text.sameIgnoringAsciiCase (renderPath c.function) "NOW"
  | _ => false

/-- **The expression reads the clock**, as a call with `NOW` among its arguments. -/
def exprReadsClock : Expr → Bool
  | .nested inner => exprReadsClock inner
  | .call c => c.arguments.any argumentReadsClock
  | _ => false

/-- The item reads the clock. -/
def itemReadsClock : SelectItem → Bool
  | .expr e | .aliased e _ => exprReadsClock e
  | .other _ => false

/-- Some key of GROUP BY reads the clock. -/
def keysReadClock : Grouping → Bool
  | .all => false
  | .keys keys => keys.any exprReadsClock

mutual

/-- **The query reads the clock.** -/
def readsClock : Sql.Query → Bool
  | ⟨_, body, order, _, _⟩ => bodyReadsClock order body

/-- The body, or the ORDER BY next to its SELECT, reads the clock. -/
def bodyReadsClock (order : List SortKey) : Body → Bool
  | .select s => selectReadsClock order s
  | .nested q => readsClock q
  | .other _ => false

/-- The SELECT, what it selects from, or its ORDER BY reads the clock. -/
def selectReadsClock (order : List SortKey) : Select → Bool
  | ⟨_, _, items, _, sources, _, _, grouping, _⟩ =>
    sourcesReadClock sources || items.any itemReadsClock || keysReadClock grouping ||
      order.any (fun key => exprReadsClock key.key)

/-- What FROM names reads the clock. -/
def sourcesReadClock : List Joined → Bool
  | [⟨source, []⟩] => sourceReadsClock source
  | _ => false

/-- The source reads the clock. -/
def sourceReadsClock : Source → Bool
  | .derived _ q _ => readsClock q
  | _ => false

end

section

variable {told sent : Int}

theorem argument_congr {e : Expr} (h : argumentReadsClock (.expr e) = false) : argument told e = argument sent e := by
  cases e with
  | call c =>
    have hname : ¬ Text.sameIgnoringAsciiCase (renderPath c.function) "NOW" = true := by
      rw [Bool.not_eq_true]
      exact h
    rw [argument, argument, if_neg hname, if_neg hname]
  | literal value => cases value <;> rfl
  | _ => rfl

theorem callArguments_congr (function : String) (op : Operator) {extra : List Expr}
    (h : ∀ e ∈ extra, argumentReadsClock (.expr e) = false) :
    callArguments told function op extra = callArguments sent function op extra := by
  unfold callArguments
  split
  · rfl
  · rw [argument_congr (h _ List.mem_cons_self)]
  · rw [argument_congr (h _ (List.mem_cons_of_mem _ List.mem_cons_self))]
  · rfl
  · rfl

theorem columnOfCall_congr {c : Call} (h : c.arguments.any argumentReadsClock = false) :
    columnOfCall told c = columnOfCall sent c := by
  unfold columnOfCall
  dsimp only
  split
  · rfl
  · split
    · rfl
    · -- every constant behind the field is an argument of the call, as it is written
      refine bind_congr fun field => bind_congr_of_ok fun extra hextra => ?_
      rw [callArguments_congr _ _ (fun e he => ?_)]
      obtain ⟨a, ha, hplaced⟩ := exists_of_mem_right (mapM_eq_ok_iff.1 hextra) he
      rw [← placedExpr_eq_ok hplaced]
      simpa using List.any_eq_false.1 h a (List.mem_of_mem_drop ha)

theorem columnOf_congr : ∀ (e : Expr), exprReadsClock e = false → columnOf told e = columnOf sent e
  | .nested inner, h => columnOf_congr inner h
  | .call _, h => columnOfCall_congr h
  | .literal _, _ | .name _, _ | .path _, _ | .unary _ _, _ | .binary _ _ _, _ | .isNull _ _, _ | .inList _ _ _, _
  | .between _ _ _ _, _ | .like _ _ _ _, _ | .other _, _ => rfl

theorem columnOfItem_congr {item : SelectItem} (h : itemReadsClock item = false) :
    columnOfItem told item = columnOfItem sent item := by
  cases item with
  | expr e => exact columnOf_congr e h
  | aliased e asName => rw [columnOfItem, columnOfItem, columnOf_congr e h]
  | other written => rfl

theorem headingOf_congr {items : List SelectItem} (h : items.any itemReadsClock = false) :
    headingOf told items = headingOf sent items := by
  refine foldlM_congr (fun heading item hitem => ?_) _
  rw [columnOfItem_congr (by simpa using List.any_eq_false.1 h item hitem)]

theorem groupKeys_congr (heading : Heading) {keys : List Expr} (h : keys.any exprReadsClock = false) :
    groupKeys told heading keys = groupKeys sent heading keys := by
  refine foldlM_congr (fun found e he => ?_) _
  rw [columnOf_congr e (by simpa using List.any_eq_false.1 h e he)]

theorem orderOf_congr (heading : Heading) {order : List SortKey}
    (h : order.any (fun key => exprReadsClock key.key) = false) :
    orderOf told heading order = orderOf sent heading order := by
  cases order with
  | nil => rfl
  | cons key keys =>
    rw [orderOf, orderOf, columnOf_congr key.key (by simpa using List.any_eq_false.1 h key List.mem_cons_self)]

theorem any_of_writtenKeys {grouping : Grouping} {keys : List Expr} (hwritten : writtenKeys grouping = .ok keys)
    (h : keysReadClock grouping = false) : keys.any exprReadsClock = false := by
  cases grouping with
  | all => cases hwritten
  | keys ks =>
    cases hwritten
    exact h

theorem levelOf_congr {s : Select} {order : List SortKey} {limit : Option Expr}
    (hitems : s.items.any itemReadsClock = false) (hkeys : keysReadClock s.grouping = false)
    (horder : order.any (fun key => exprReadsClock key.key) = false) :
    levelOf told s order limit = levelOf sent s order limit := by
  have horders : ∀ heading, orderOf told heading order = orderOf sent heading order :=
    fun heading => orderOf_congr heading horder
  unfold levelOf
  rw [headingOf_congr hitems]
  refine bind_congr fun heading => bind_congr_of_ok fun keys hwritten => ?_
  have hgroup : groupKeys told heading keys = groupKeys sent heading keys :=
    groupKeys_congr heading (any_of_writtenKeys hwritten hkeys)
  rw [hgroup, horders]

theorem boundOfSelect_congr {s : Select} {order : List SortKey} {limit : Option Expr}
    (h : selectReadsClock order s = false) (hfrom : originOf told s.sources = originOf sent s.sources) :
    boundOfSelect told order limit s = boundOfSelect sent order limit s := by
  obtain ⟨distinct, top, items, into, sources, views, condition, grouping, closing⟩ := s
  simp only [selectReadsClock, Bool.or_eq_false_iff] at h
  obtain ⟨⟨⟨-, hitems⟩, hkeys⟩, horder⟩ := h
  rw [boundOfSelect, boundOfSelect, hfrom, levelOf_congr hitems hkeys horder]

mutual

/-- **What does not read the clock is bound alike at any time.** -/
theorem boundOf_of_timeless : ∀ (q : Sql.Query), readsClock q = false → boundOf told q = boundOf sent q
  | ⟨_, body, _, _, _⟩, h => boundOfBody_of_timeless body h

theorem boundOfBody_of_timeless {order : List SortKey} {limit : Option Expr} : ∀ (body : Body),
    bodyReadsClock order body = false → boundOfBody told order limit body = boundOfBody sent order limit body
  | .select s, h => boundOfSelect_congr h (originOfSelect_of_timeless s h)
  | .nested q, h => boundOf_of_timeless q h
  | .other _, _ => rfl

theorem originOfSelect_of_timeless {order : List SortKey} : ∀ (s : Select),
    selectReadsClock order s = false → originOf told s.sources = originOf sent s.sources
  | ⟨_, _, _, _, sources, _, _, _, _⟩, h => by
    simp only [selectReadsClock, Bool.or_eq_false_iff] at h
    exact originOf_of_timeless sources h.1.1.1

theorem originOf_of_timeless : ∀ (sources : List Joined), sourcesReadClock sources = false →
    originOf told sources = originOf sent sources
  | [], _ => rfl
  | [⟨source, []⟩], h => originOfSource_of_timeless source h
  | ⟨_, []⟩ :: _ :: _, _ => rfl
  | ⟨_, _ :: _⟩ :: _, _ => rfl

theorem originOfSource_of_timeless : ∀ (source : Source), sourceReadsClock source = false →
    originOfSource told source = originOfSource sent source
  | .table _ _ _ _, _ => rfl
  | .derived _ q _, h => by
    rw [originOfSource, originOfSource, boundOf_of_timeless q h]
  | .nested _ _, _ => rfl
  | .other _ _ _, _ => rfl

end

/-- **A query is bound alike at two times**, if it does not read the clock or the clock says the same. -/
theorem boundOf_congr {q : Sql.Query} (h : readsClock q = true → told = sent) : boundOf told q = boundOf sent q := by
  cases hclock : readsClock q with
  | false => exact boundOf_of_timeless q hclock
  | true => rw [h hclock]

end

end FacetSql.Query
