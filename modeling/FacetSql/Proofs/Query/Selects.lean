import FacetSql.Proofs.Query.Bound
/-!
# Selects — the SELECTs of a query and the levels they bind to

A query over subqueries is a chain of SELECTs; parentheses add nothing to it.  A plan has one level for each SELECT of
the chain, in the same order (`planOf_binds`), so it has one level around the engine's for each subquery.  A level has
one column for each item of its SELECT, and only `COUNT(*)` is a column without a field (`headingOf_countsOnly`).
-/
namespace FacetSql.Query

mutual

/-- **The SELECTs of a query** from the inside outwards. -/
def selects : Sql.Query → List Sql.Select
  | ⟨_, body, _, _, _⟩ => selectsOfBody body

/-- The SELECTs of a body. -/
def selectsOfBody : Sql.Body → List Sql.Select
  | .select s => selectsOfSelect s
  | .nested q => selects q
  | .other _ => []

/-- The SELECTs inside a SELECT, and itself. -/
def selectsOfSelect : Sql.Select → List Sql.Select
  | s@⟨_, _, _, _, sources, _, _, _, _⟩ => selectsOfSources sources ++ [s]

/-- The SELECTs of what FROM names. -/
def selectsOfSources : List Sql.Joined → List Sql.Select
  | [⟨source, []⟩] => selectsOfSource source
  | _ => []

/-- The SELECTs of a source. -/
def selectsOfSource : Sql.Source → List Sql.Select
  | .derived _ q _ => selects q
  | _ => []

end

/-- **How many subqueries a query is built over**, each inside the next. -/
def depth (q : Sql.Query) : Nat := (selects q).length - 1

/-- **A SELECT binds to a level**, whatever is done with its rows. -/
def Binds (now : Int) (s : Sql.Select) (level : Level) : Prop :=
  ∃ order limit, levelOf now s order limit = .ok level

theorem selectsOfSelect_eq (s : Sql.Select) : selectsOfSelect s = selectsOfSources s.sources ++ [s] := by
  cases s
  rw [selectsOfSelect]

theorem Plans.binds {now : Int} {q : Sql.Query} {plan : Plan} (h : Plans now q plan) :
    List.Forall₂ (Binds now) (selects q) plan.levels := by
  induction h with
  | table hfrom hl _ =>
    rw [selects, selectsOfBody, selectsOfSelect_eq, hfrom]
    exact .cons ⟨_, _, hl⟩ .nil
  | subquery hfrom _ hl _ ih =>
    rw [selects, selectsOfBody, selectsOfSelect_eq, hfrom, selectsOfSources, selectsOfSource]
    exact List.rel_append ih (.cons ⟨_, _, hl⟩ .nil)
  | parenthesized _ ih =>
    rw [selects, selectsOfBody]
    exact ih

/-- **Each SELECT of a query binds to the level at its place**, from the inside outwards. -/
theorem planOf_binds {now : Int} (q : Sql.Query) {plan : Plan} (h : planOf now q = .ok plan) :
    List.Forall₂ (Binds now) (selects q) plan.levels :=
  (planOf_eq_ok_iff.1 h).binds

/-- **A level stands for every SELECT**: one for the engine's, and one around it for each subquery. -/
theorem length_outer_eq_depth {now : Int} {q : Sql.Query} {plan : Plan} (h : planOf now q = .ok plan) :
    plan.outer.length = depth q := by
  have hlen := (planOf_binds q h).length_eq
  rw [Plan.levels, List.length_cons] at hlen
  rw [depth, hlen, Nat.add_sub_cancel]

/-- **Only `COUNT(*)` is without a field.** -/
def CountsOnly (h : Heading) : Prop := ∀ c ∈ h.columns, c.field = none → c.operator = .count

theorem fieldOfCall_eq_none {function : String} {op : Operator} {arguments : List Sql.CallArgument}
    (h : fieldOfCall function op arguments = .ok none) : op = .count := by
  unfold fieldOfCall at h
  split at h
  · split at h
    · assumption
    · cases h
  · rename_i e _
    cases hf : fieldName e <;> rw [hf] at h <;> cases h
  · cases h

theorem columnOfCall_field {now : Int} {call : Sql.Call} {c : Column} (h : columnOfCall now call = .ok c)
    (hf : c.field = none) : c.operator = .count := by
  obtain ⟨op, field, _, _, -, hfield, -, -, rfl⟩ := columnOfCall_cases h
  cases (show field = none from hf)
  exact fieldOfCall_eq_none hfield

theorem columnOf_field {now : Int} {e : Sql.Expr} {c : Column} (h : columnOf now e = .ok c) (hf : c.field = none) :
    c.operator = .count := by
  fun_induction columnOf now e with
  | case1 n =>
    cases h
    cases hf
  | case2 parts =>
    obtain ⟨field, -, h⟩ := bind_eq_ok_iff.1 h
    cases h
    cases hf
  | case3 inner ih => exact ih h
  | case4 call => exact columnOfCall_field h hf
  | case5 e => cases h

theorem columnOfItem_field {now : Int} {item : Sql.SelectItem} {c : Column} (h : columnOfItem now item = .ok c)
    (hf : c.field = none) : c.operator = .count := by
  unfold columnOfItem at h
  split at h
  · exact columnOf_field h hf
  · obtain ⟨d, hd, h⟩ := bind_eq_ok_iff.1 h
    cases h
    show d.operator = .count
    exact columnOf_field hd hf
  · cases h

theorem headingOf_countsOnly {now : Int} {items : List Sql.SelectItem} {h : Heading}
    (hh : headingOf now items = .ok h) : CountsOnly h := by
  refine foldlM_induction (motive := CountsOnly) hh (fun c hc => absurd hc List.not_mem_nil) ?_
  intro h item h' _ hf hs c hc
  obtain ⟨d, hd, ha⟩ := bind_eq_ok_iff.1 hs
  obtain ⟨-, rfl⟩ := Heading.add_eq_ok_iff.1 ha
  rcases List.mem_append.1 hc with hc | hc
  · exact hf c hc
  · rw [List.mem_singleton.1 hc]
    show d.field = none → d.operator = .count
    exact columnOfItem_field hd

theorem length_headingOf {now : Int} {items : List Sql.SelectItem} {h : Heading} (hh : headingOf now items = .ok h) :
    h.width = items.length := by
  suffices hgen : ∀ (items : List Sql.SelectItem) (h₀ : Heading),
      items.foldlM (fun h item => do h.add (← columnOfItem now item)) h₀ = .ok h →
        h.width = h₀.width + items.length by
    simpa [Heading.width, Heading.empty] using hgen items .empty hh
  intro items
  induction items with
  | nil =>
    rintro h₀ ⟨⟩
    rfl
  | cons item items ih =>
    intro h₀ hs
    obtain ⟨h₁, hs₁, hs⟩ := bind_eq_ok_iff.1 hs
    obtain ⟨c, -, ha⟩ := bind_eq_ok_iff.1 hs₁
    obtain ⟨-, rfl⟩ := Heading.add_eq_ok_iff.1 ha
    rw [ih _ hs, Heading.width, Heading.width, List.length_append, List.length_singleton, List.length_cons]
    omega

theorem Binds.heading {now : Int} {s : Sql.Select} {level : Level} (hb : Binds now s level) :
    headingOf now s.items = .ok level.heading := by
  obtain ⟨order, limit, h⟩ := hb
  exact (levelOf_eq_ok_iff.1 h).1

/-- **The engine's level** is that of the innermost SELECT. -/
theorem exists_binds_engine {now : Int} {q : Sql.Query} {plan : Plan} (h : planOf now q = .ok plan) :
    ∃ s rest, selects q = s :: rest ∧ Binds now s plan.engine ∧ List.Forall₂ (Binds now) rest plan.outer := by
  have hb := planOf_binds q h
  rw [Plan.levels, List.forall₂_cons_right_iff] at hb
  obtain ⟨s, rest, hs, hrest, heq⟩ := hb
  exact ⟨s, rest, heq, hs, hrest⟩

end FacetSql.Query
