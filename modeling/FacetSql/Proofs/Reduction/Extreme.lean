import FacetSql.Proofs.Cell.Ordered
import FacetSql.Reduction.Level
/-!
# Extreme — the least and the greatest cell of a column

The scan keeps the first of the cells whose float lies furthest out (`firstOf_foldl`).  Which cell that is hangs on the
order of the rows only where two whole numbers have the furthest float; there the scan may keep the one that ORDER BY
puts behind the other.  Everywhere else its cell is an extreme of the order of cells, whatever the order of the rows
(`orderFree_iff`), as it is up to 2⁵³ (`orderFree_of_natAbs_le`).
-/
namespace FacetSql

/-- **The cell of a column of numbers**: missing, a whole number or a finite float. -/
def Cell.Number : Cell → Prop
  | .null | .int _ => True
  | .float x => x.isFinite = true
  | _ => False

instance : DecidablePred Cell.Number
  | .float x => inferInstanceAs (Decidable (x.isFinite = true))
  | .null | .int _ => isTrue trivial
  | .bool _ | .text _ | .instant _ => isFalse id

/-- **The float of a cell is on the line**, if the cell has one. -/
def Cell.OnLine (c : Cell) : Prop := ∀ x ∈ c.abscissa?, x.isNaN = false

instance : DecidablePred Cell.OnLine := fun c => inferInstanceAs (Decidable (∀ x ∈ c.abscissa?, x.isNaN = false))

namespace Reduction

open Numeral

/-- **The end of a column** that is looked for. -/
inductive Side where
  | least
  | greatest

namespace Side

/-- The function that looks for it. -/
def operator : Side → Operator
  | .least => .min
  | .greatest => .max

/-- How a cell further out compares. -/
def beyond : Side → Ordering
  | .least => .lt
  | .greatest => .gt

/-- The test of the scan. -/
def isBetter : Side → Float → Float → Bool
  | .least => fun x y => decide (x < y)
  | .greatest => fun x y => decide (y < x)

/-- How far from this end a float lies. -/
def distance : Side → Float → Int ×ₗ Int ×ₗ Int
  | .least => place
  | .greatest => fun x => -place x

variable {side : Side} {x y : Float}

theorem isBetter_iff (hx : x.isNaN = false) (hy : y.isNaN = false) :
    side.isBetter x y = true ↔ side.distance x < side.distance y := by
  cases side with
  | least => exact decide_eq_true_iff.trans (lt_iff_place hx hy)
  | greatest => exact decide_eq_true_iff.trans ((lt_iff_place hy hx).trans neg_lt_neg_iff.symm)

theorem compareFloats_eq_beyond_iff (hx : x.isNaN = false) (hy : y.isNaN = false) :
    Cell.compareFloats x y = side.beyond ↔ side.distance x < side.distance y := by
  rw [compareFloats_eq_cmp hx hy]
  cases side with
  | least => exact cmp_eq_lt_iff _ _
  | greatest => exact (cmp_eq_gt_iff _ _).trans neg_lt_neg_iff.symm

theorem distance_inj : side.distance x = side.distance y ↔ place x = place y := by
  cases side with
  | least => exact Iff.rfl
  | greatest => exact neg_inj

theorem compareFloats_eq_eq_iff (hx : x.isNaN = false) (hy : y.isNaN = false) :
    Cell.compareFloats x y = .eq ↔ side.distance x = side.distance y := by
  rw [compareFloats_eq_cmp hx hy, cmp_eq_eq_iff, distance_inj]

end Side

section

variable {a b c : Cell} {x y : Float}

theorem isNaN_of_abscissa (hc : c.Number) (hx : c.abscissa? = some x) : x.isNaN = false := by
  cases c with
  | int n =>
    cases hx
    exact isNaN_ofInt n
  | float y =>
    cases hx
    exact isNaN_of_isFinite hc
  | null => cases hx
  | bool | text | instant => exact hc.elim

theorem onLine_of_number {cells : List Cell} (hn : ∀ d ∈ cells, d.Number) : ∀ d ∈ cells, d.OnLine :=
  fun d hd _ => isNaN_of_abscissa (hn d hd)

theorem abscissa?_eq_none_iff (hc : c.Number) : c.abscissa? = none ↔ c = .null := by
  cases c with
  | null => exact iff_of_true rfl rfl
  | int | float => exact iff_of_false nofun nofun
  | bool | text | instant => exact hc.elim

/-- **Numbers compare as their floats**, and whole numbers further. -/
theorem compare_of_abscissa (ha : a.Number) (hb : b.Number) (hx : a.abscissa? = some x) (hy : b.abscissa? = some y) :
    a.compare b = (Cell.compareFloats x y).then (Cell.wholeOrder a b) := by
  cases a with
  | null => cases hx
  | bool | text | instant => exact ha.elim
  | int m =>
    cases hx
    cases b with
    | null => cases hy
    | bool | text | instant => exact hb.elim
    | int n =>
      cases hy
      rw [compareFloats_eq_cmp (isNaN_ofInt m) (isNaN_ofInt n)]
      exact Cell.compare_int m n
    | float y =>
      cases hy
      exact Ordering.then_eq.symm
  | float x =>
    cases hx
    cases b with
    | null => cases hy
    | bool | text | instant => exact hb.elim
    | int | float =>
      cases hy
      exact Ordering.then_eq.symm

end

/-- **The first of the cells whose float lies furthest out**, with that float. -/
def FirstOf (side : Side) (passed : List Cell) : Option (Float × Cell) → Prop
  | none => ∀ d ∈ passed, d.abscissa? = none
  | some (x, c) => ∃ before after, passed = before ++ c :: after ∧ c.abscissa? = some x ∧
      (∀ d ∈ before, ∀ y, d.abscissa? = some y → side.distance x < side.distance y) ∧
      ∀ d ∈ after, ∀ y, d.abscissa? = some y → side.distance x ≤ side.distance y

/-- No cell has a float further out. -/
def Foremost (side : Side) (cells : List Cell) (x : Float) : Prop :=
  ∀ c ∈ cells, ∀ y, c.abscissa? = some y → Cell.compareFloats y x ≠ side.beyond

section

variable {side : Side} {cells passed : List Cell} {best : Option (Float × Cell)} {c : Cell} {x : Float}

theorem FirstOf.le (h : FirstOf side passed (some (x, c))) :
    ∀ d ∈ passed, ∀ y, d.abscissa? = some y → side.distance x ≤ side.distance y := by
  obtain ⟨before, after, rfl, hc, hbefore, hafter⟩ := h
  intro d hd y hy
  rcases List.mem_append.1 hd with hd | hd
  · exact (hbefore d hd y hy).le
  · rcases List.mem_cons.1 hd with rfl | hd
    · cases hc.symm.trans hy
      exact le_rfl
    · exact hafter d hd y hy

/-- **One step of the scan.** -/
theorem FirstOf.step (hp : ∀ d ∈ passed, d.OnLine) (hc : c.OnLine) (h : FirstOf side passed best) :
    FirstOf side (passed ++ [c]) (better side.isBetter best c) := by
  cases hx : c.abscissa? with
  | none =>
    -- a cell without a number is passed over
    have hlast : ∀ d ∈ [c], d.abscissa? = none := fun d hd => List.mem_singleton.1 hd ▸ hx
    have hpass : better side.isBetter best c = best := by simp only [better, hx]
    rw [hpass]
    cases best with
    | none => exact List.forall_mem_append.2 ⟨h, hlast⟩
    | some best =>
      obtain ⟨before, after, rfl, hb, hbefore, hafter⟩ := h
      refine ⟨before, after ++ [c], by simp, hb, hbefore, List.forall_mem_append.2 ⟨hafter, fun d hd y hy => ?_⟩⟩
      cases (hlast d hd).symm.trans hy
  | some x =>
    cases best with
    | none =>
      have hfound : better side.isBetter none c = some (x, c) := by simp only [better, hx]
      rw [hfound]
      refine ⟨passed, [], rfl, hx, fun d hd y hy => ?_, nofun⟩
      cases (h d hd).symm.trans hy
    | some best =>
      obtain ⟨y, b⟩ := best
      have hle := h.le
      obtain ⟨before, after, rfl, hb, hbefore, hafter⟩ := h
      have hbetter := side.isBetter_iff (hc x hx) (hp b (by simp) y hb)
      simp only [better, hx]
      split
      · rename_i hyes
        exact ⟨before ++ b :: after, [], rfl, hx, fun d hd z hz => (hbetter.1 hyes).trans_le (hle d hd z hz), nofun⟩
      · rename_i hno
        refine ⟨before, after ++ [c], by simp, hb, hbefore, List.forall_mem_append.2 ⟨hafter, fun d hd z hz => ?_⟩⟩
        cases List.mem_singleton.1 hd
        cases hx.symm.trans hz
        exact not_lt.1 (fun hlt => hno (hbetter.2 hlt))

/-- **The scan keeps the first of the cells furthest out.** -/
theorem firstOf_foldl (side : Side) : ∀ (cells passed : List Cell) (best : Option (Float × Cell)),
    (∀ d ∈ passed ++ cells, d.OnLine) → FirstOf side passed best →
      FirstOf side (passed ++ cells) (cells.foldl (better side.isBetter) best)
  | [], passed, best, _, h => by rwa [List.append_nil]
  | c :: cells, passed, best, hn, h => by
    have hsplit : passed ++ c :: cells = passed ++ [c] ++ cells := by simp
    have hstep : FirstOf side (passed ++ [c]) (better side.isBetter best c) :=
      h.step (fun d hd => hn d (List.mem_append_left _ hd)) (hn c (by simp))
    rw [hsplit] at hn ⊢
    exact firstOf_foldl side cells (passed ++ [c]) _ hn hstep

/-- **The cell of a scan**: missing if no cell has a float, and else the first of those furthest out. -/
theorem extreme_cases_of_onLine (side : Side) (hn : ∀ d ∈ cells, d.OnLine) :
    (extreme side.isBetter cells = .null ∧ ∀ d ∈ cells, d.abscissa? = none) ∨
      ∃ x, FirstOf side cells (some (x, extreme side.isBetter cells)) := by
  have hfirst := firstOf_foldl side cells [] none hn nofun
  rw [List.nil_append] at hfirst
  unfold extreme
  split
  · rename_i x c hbest
    rw [hbest] at hfirst
    exact .inr ⟨x, hfirst⟩
  · rename_i hbest
    rw [hbest] at hfirst
    exact .inl ⟨rfl, hfirst⟩

/-- **The cell of a scan of numbers** is missing only if all cells are. -/
theorem extreme_cases (side : Side) (hn : ∀ d ∈ cells, d.Number) :
    (extreme side.isBetter cells = .null ∧ ∀ d ∈ cells, d = .null) ∨
      ∃ x, FirstOf side cells (some (x, extreme side.isBetter cells)) := by
  refine (extreme_cases_of_onLine side (onLine_of_number hn)).imp_left (fun h => ⟨h.1, fun d hd => ?_⟩)
  exact (abscissa?_eq_none_iff (hn d hd)).1 (h.2 d hd)

theorem FirstOf.mem (h : FirstOf side cells (some (x, c))) : c ∈ cells := by
  obtain ⟨before, after, rfl, -⟩ := h
  simp

theorem FirstOf.abscissa? (h : FirstOf side cells (some (x, c))) : c.abscissa? = some x := by
  obtain ⟨before, after, -, hc, -⟩ := h
  exact hc

theorem FirstOf.ne_null (h : FirstOf side cells (some (x, c))) : c ≠ .null := by
  rintro rfl
  cases h.abscissa?

theorem extreme_eq_null_iff (hn : ∀ d ∈ cells, d.Number) :
    extreme side.isBetter cells = .null ↔ ∀ d ∈ cells, d = .null := by
  rcases extreme_cases side hn with ⟨hbest, hnull⟩ | ⟨x, hfirst⟩
  · exact iff_of_true hbest hnull
  · exact iff_of_false hfirst.ne_null (fun hnull => hfirst.ne_null (hnull _ hfirst.mem))

theorem foremost_iff (hn : ∀ d ∈ cells, d.Number) (hx : x.isNaN = false) :
    Foremost side cells x ↔ ∀ d ∈ cells, ∀ y, d.abscissa? = some y → side.distance x ≤ side.distance y := by
  have hbeyond : ∀ d ∈ cells, ∀ y, d.abscissa? = some y →
      (Cell.compareFloats y x ≠ side.beyond ↔ side.distance x ≤ side.distance y) := by
    intro d hd y hy
    rw [Ne, side.compareFloats_eq_beyond_iff (isNaN_of_abscissa (hn d hd) hy) hx, not_lt]
  exact ⟨fun h d hd y hy => (hbeyond d hd y hy).1 (h d hd y hy), fun h d hd y hy => (hbeyond d hd y hy).2 (h d hd y hy)⟩

theorem FirstOf.foremost (hn : ∀ d ∈ cells, d.Number) (h : FirstOf side cells (some (x, c))) :
    Foremost side cells x :=
  (foremost_iff hn (isNaN_of_abscissa (hn c h.mem) h.abscissa?)).2 h.le

/-- A first cell with the furthest float is the one the scan keeps. -/
theorem extreme_cons_of_foremost (hn : ∀ d ∈ c :: cells, d.Number) (hx : c.abscissa? = some x)
    (hfar : Foremost side (c :: cells) x) : extreme side.isBetter (c :: cells) = c := by
  rcases extreme_cases side hn with ⟨-, hnull⟩ | ⟨y, hfirst⟩
  · rw [hnull c List.mem_cons_self] at hx
    cases hx
  · have hy := hfirst.abscissa?
    have hmem := hfirst.mem
    obtain ⟨before, after, hsplit, -, hbefore, -⟩ := hfirst
    cases before with
    | nil => exact (List.cons.inj hsplit).1.symm
    | cons d before =>
      obtain ⟨rfl, -⟩ := List.cons.inj hsplit
      have hle := (foremost_iff hn (isNaN_of_abscissa (hn c List.mem_cons_self) hx)).1 hfar _ hmem y hy
      exact absurd (hbefore c List.mem_cons_self x hx) (not_lt.2 hle)

end

/-- **An extreme of the order of cells**: missing if all cells are, and else one of the cells, with no cell further
out. -/
structure TrueExtreme (side : Side) (cells : List Cell) (best : Cell) : Prop where
  missing : best = .null ↔ ∀ c ∈ cells, c = .null
  among : best ≠ .null → best ∈ cells
  outermost : ∀ c ∈ cells, c ≠ .null → c.compare best ≠ side.beyond

/-- **Two whole numbers with the furthest float are one.** -/
def Settled (side : Side) (cells : List Cell) : Prop :=
  ∀ m n, .int m ∈ cells → .int n ∈ cells →
    Foremost side cells (Float.ofInt m) → Foremost side cells (Float.ofInt n) → m = n

section

variable {side : Side} {cells cells' : List Cell} {a b : Cell} {x y : Float}

theorem Foremost.of_perm (h : Foremost side cells x) (hperm : cells'.Perm cells) : Foremost side cells' x :=
  fun c hc => h c (hperm.mem_iff.1 hc)

/-- **Cells with the furthest float are equal**, where the column is settled. -/
theorem compare_eq_of_foremost (hn : ∀ d ∈ cells, d.Number) (h : Settled side cells) (ha : a ∈ cells) (hb : b ∈ cells)
    (hx : a.abscissa? = some x) (hy : b.abscissa? = some y) (hfx : Foremost side cells x)
    (hfy : Foremost side cells y) : a.compare b = .eq := by
  have hxnan := isNaN_of_abscissa (hn a ha) hx
  have hynan := isNaN_of_abscissa (hn b hb) hy
  have hfloats : Cell.compareFloats x y = .eq := by
    rw [side.compareFloats_eq_eq_iff hxnan hynan]
    exact le_antisymm ((foremost_iff hn hxnan).1 hfx b hb y hy) ((foremost_iff hn hynan).1 hfy a ha x hx)
  have hwhole : Cell.wholeOrder a b = .eq := by
    cases a <;> cases b
    case int.int m n =>
      cases hx
      cases hy
      exact compare_eq_iff_eq.2 (h m n ha hb hfx hfy)
    all_goals rfl
  rw [compare_of_abscissa (hn a ha) (hn b hb) hx hy, hfloats, hwhole]
  rfl

/-- **The cell of a scan is an extreme** of the order of cells, where the column is settled. -/
theorem trueExtreme_extreme (hn : ∀ d ∈ cells, d.Number) (h : Settled side cells) :
    TrueExtreme side cells (extreme side.isBetter cells) := by
  rcases extreme_cases side hn with ⟨hbest, hnull⟩ | ⟨x, hfirst⟩
  · exact ⟨extreme_eq_null_iff hn, fun hne => absurd hbest hne, fun c hc hne => absurd (hnull c hc) hne⟩
  · refine ⟨extreme_eq_null_iff hn, fun _ => hfirst.mem, fun c hc hne => ?_⟩
    have hx := hfirst.abscissa?
    obtain ⟨y, hy⟩ := Option.ne_none_iff_exists'.1 (mt (abscissa?_eq_none_iff (hn c hc)).1 hne)
    have hcnan := isNaN_of_abscissa (hn c hc) hy
    have hbnan := isNaN_of_abscissa (hn _ hfirst.mem) hx
    have hfloats := hfirst.foremost hn c hc y hy
    cases hord : Cell.compareFloats y x with
    | eq =>
      -- a cell with the furthest float is equal to the one kept
      have hfar : Foremost side cells y := by
        rw [foremost_iff hn hcnan, (side.compareFloats_eq_eq_iff hcnan hbnan).1 hord]
        exact hfirst.le
      rw [compare_eq_of_foremost hn h hc hfirst.mem hy hx hfar (hfirst.foremost hn)]
      cases side <;> exact nofun
    | lt | gt =>
      rw [compare_of_abscissa (hn c hc) (hn _ hfirst.mem) hy hx, hord]
      rwa [hord] at hfloats

theorem Settled.of_perm (h : Settled side cells) (hperm : cells'.Perm cells) : Settled side cells' :=
  fun m n hm hn hfm hfn =>
    h m n (hperm.mem_iff.1 hm) (hperm.mem_iff.1 hn) (hfm.of_perm hperm.symm) (hfn.of_perm hperm.symm)

/-- **Up to 2⁵³ a column is settled.** -/
theorem settled_of_natAbs_le (hn : ∀ d ∈ cells, d.Number) (hsmall : ∀ n, .int n ∈ cells → n.natAbs ≤ 2 ^ 53) :
    Settled side cells := by
  intro m n hm hn' hfm hfn
  have hmn := (foremost_iff hn (isNaN_ofInt m)).1 hfm _ hn' _ rfl
  have hnm := (foremost_iff hn (isNaN_ofInt n)).1 hfn _ hm _ rfl
  have hdist : side.distance (Float.ofInt m) = side.distance (Float.ofInt n) := hmn.antisymm hnm
  exact place_ofInt_inj (hsmall m hm) (hsmall n hn') (Side.distance_inj.1 hdist)

theorem TrueExtreme.of_perm (h : TrueExtreme side cells' a) (hperm : cells'.Perm cells) : TrueExtreme side cells a where
  missing := h.missing.trans (forall_congr' (fun _ => imp_congr hperm.mem_iff Iff.rfl))
  among := fun hne => hperm.mem_iff.1 (h.among hne)
  outermost := fun c hc => h.outermost c (hperm.mem_iff.2 hc)

/-- **Scans of the same cells in another order** keep equal cells, where the column is settled. -/
theorem compare_extreme_of_perm (hn : ∀ d ∈ cells, d.Number) (h : Settled side cells) (hperm : cells'.Perm cells) :
    (extreme side.isBetter cells).compare (extreme side.isBetter cells') = .eq := by
  have hn' : ∀ d ∈ cells', d.Number := fun d hd => hn d (hperm.mem_iff.1 hd)
  rcases extreme_cases side hn with ⟨hbest, hnull⟩ | ⟨x, hfirst⟩
  · have hbest' : extreme side.isBetter cells' = .null :=
      (extreme_eq_null_iff hn').2 (fun d hd => hnull d (hperm.mem_iff.1 hd))
    rw [hbest, hbest']
    rfl
  · rcases extreme_cases side hn' with ⟨-, hnull⟩ | ⟨y, hfirst'⟩
    · exact absurd (hnull _ (hperm.mem_iff.2 hfirst.mem)) hfirst.ne_null
    · exact compare_eq_of_foremost hn h hfirst.mem (hperm.mem_iff.1 hfirst'.mem) hfirst.abscissa? hfirst'.abscissa?
        (hfirst.foremost hn) ((hfirst'.foremost hn').of_perm hperm.symm)

end

/-- The cells of rows at a place. -/
abbrev cellsAt (place : Nat) (rows : List Row) : List Cell := rows.map (fun row => row.cell place)

/-- **MIN or MAX hangs on no order of the rows**: in every order it is an extreme of the order of cells, and equal to
that in any other order. -/
def OrderFree (side : Side) (inner : Heading) (c : Column) (place : Nat) (rows : List Row) : Prop :=
  ∀ rows', rows'.Perm rows → ∃ best, reduceColumn inner rows' c = .ok best ∧
    TrueExtreme side (cellsAt place rows) best ∧
    ∀ rows'', rows''.Perm rows → ∃ best', reduceColumn inner rows'' c = .ok best' ∧ best.compare best' = .eq

section

variable {side : Side} {inner : Heading} {c : Column} {place : Nat} {rows : List Row}

theorem reduceColumn_side (hop : c.operator = side.operator) (hread : readPlace inner c = .ok place)
    (rows : List Row) : reduceColumn inner rows c = .ok (extreme side.isBetter (cellsAt place rows)) := by
  rw [reduceColumn, hread]
  cases side <;> rw [hop] <;> rfl

/-- **Every cell with the furthest float** is the outcome in some order of the rows. -/
theorem exists_perm_of_foremost (hop : c.operator = side.operator) (hread : readPlace inner c = .ok place)
    (hn : ∀ d ∈ cellsAt place rows, d.Number) {d : Cell} (hd : d ∈ cellsAt place rows) {x : Float}
    (hx : d.abscissa? = some x) (hfar : Foremost side (cellsAt place rows) x) :
    ∃ rows', rows'.Perm rows ∧ reduceColumn inner rows' c = .ok d := by
  obtain ⟨row, hrow, rfl⟩ := List.mem_map.1 hd
  obtain ⟨before, after, rfl⟩ := List.append_of_mem hrow
  have hperm : (row :: (before ++ after)).Perm (before ++ row :: after) := List.perm_middle.symm
  have hcells : (cellsAt place (row :: (before ++ after))).Perm (cellsAt place (before ++ row :: after)) :=
    hperm.map _
  refine ⟨row :: (before ++ after), hperm, ?_⟩
  rw [reduceColumn_side hop hread]
  exact congrArg Except.ok
    (extreme_cons_of_foremost (fun d hd => hn d (hcells.mem_iff.1 hd)) hx (hfar.of_perm hcells))

/-- A settled column hangs on no order of the rows. -/
theorem orderFree_of_settled (hop : c.operator = side.operator) (hread : readPlace inner c = .ok place)
    (hn : ∀ d ∈ cellsAt place rows, d.Number) (h : Settled side (cellsAt place rows)) :
    OrderFree side inner c place rows := by
  intro rows' hperm
  have hcells : (cellsAt place rows').Perm (cellsAt place rows) := hperm.map _
  have hn' : ∀ d ∈ cellsAt place rows', d.Number := fun d hd => hn d (hcells.mem_iff.1 hd)
  have hsettled := h.of_perm hcells
  refine ⟨_, reduceColumn_side hop hread rows', (trueExtreme_extreme hn' hsettled).of_perm hcells, ?_⟩
  intro rows'' hperm'
  exact ⟨_, reduceColumn_side hop hread rows'',
    compare_extreme_of_perm hn' hsettled ((hperm'.trans hperm.symm).map _)⟩

/-- **Up to 2⁵³ MIN and MAX hang on no order of the rows.** -/
theorem orderFree_of_natAbs_le (hop : c.operator = side.operator) (hread : readPlace inner c = .ok place)
    (hn : ∀ d ∈ cellsAt place rows, d.Number) (hsmall : ∀ n, .int n ∈ cellsAt place rows → n.natAbs ≤ 2 ^ 53) :
    OrderFree side inner c place rows :=
  orderFree_of_settled hop hread hn (settled_of_natAbs_le hn hsmall)

/-- **MIN and MAX keep a cell with the furthest float**, missing if all cells are, **and hang on no order of the rows
exactly where no two whole numbers have that float.** -/
theorem orderFree_iff (hop : c.operator = side.operator) (hread : readPlace inner c = .ok place)
    (hn : ∀ d ∈ cellsAt place rows, d.Number) :
    (∃ best, reduceColumn inner rows c = .ok best ∧ (best = .null ↔ ∀ d ∈ cellsAt place rows, d = .null) ∧
      (best ≠ .null → best ∈ cellsAt place rows ∧
        ∃ x, best.abscissa? = some x ∧ Foremost side (cellsAt place rows) x)) ∧
    (OrderFree side inner c place rows ↔ Settled side (cellsAt place rows)) := by
  refine ⟨⟨_, reduceColumn_side hop hread rows, extreme_eq_null_iff hn, fun hne => ?_⟩,
    fun h m n hm hn' hfm hfn => ?_, orderFree_of_settled hop hread hn⟩
  · rcases extreme_cases side hn with ⟨hbest, -⟩ | ⟨x, hfirst⟩
    · exact absurd hbest hne
    · exact ⟨hfirst.mem, x, hfirst.abscissa?, hfirst.foremost hn⟩
  · obtain ⟨rows', hperm, hrows'⟩ := exists_perm_of_foremost hop hread hn hm rfl hfm
    obtain ⟨rows'', hperm', hrows''⟩ := exists_perm_of_foremost hop hread hn hn' rfl hfn
    obtain ⟨best, hbest, -, hfree⟩ := h rows' hperm
    obtain ⟨best', hbest', heq⟩ := hfree rows'' hperm'
    cases hrows'.symm.trans hbest
    cases hrows''.symm.trans hbest'
    exact compare_eq_iff_eq.1 heq

end

/-- `SELECT MIN(a)` over a subquery -/
def minA : Column := .function .min (some "a") []

/-- Rows with a missing cell, whole numbers and floats, two of them least. -/
theorem orderFree_minA :
    (∀ d ∈ cellsAt 0 [[.int 3], [.null], [.float 2.0], [.float 2.5], [.int 2]], d.Number) ∧
      OrderFree .least ⟨[.plain "a"]⟩ minA 0 [[.int 3], [.null], [.float 2.0], [.float 2.5], [.int 2]] := by
  have hn : ∀ d ∈ cellsAt 0 [[.int 3], [.null], [.float 2.0], [.float 2.5], [.int 2]], d.Number := by decide +kernel
  refine ⟨hn, (orderFree_iff rfl rfl hn).2.2 (settled_of_natAbs_le hn (fun n hmem => ?_))⟩
  have hcases : n = 3 ∨ n = 2 := by simpa [Row.cell] using hmem
  omega

/-- Two whole numbers with one float, the greater first. -/
theorem not_orderFree_minA :
    (∀ d ∈ cellsAt 0 [[.int 9007199254740993], [.int 9007199254740992]], d.Number) ∧
      ¬ OrderFree .least ⟨[.plain "a"]⟩ minA 0 [[.int 9007199254740993], [.int 9007199254740992]] := by
  refine ⟨by decide, fun h => ?_⟩
  obtain ⟨best, hbest, hextreme, -⟩ := h _ (List.Perm.refl _)
  have hgreater : reduceColumn ⟨[.plain "a"]⟩ [[.int 9007199254740993], [.int 9007199254740992]] minA =
      .ok (.int 9007199254740993) := rfl
  cases hgreater.symm.trans hbest
  exact hextreme.outermost (.int 9007199254740992) (List.mem_cons_of_mem _ List.mem_cons_self) nofun (by decide)

end Reduction
end FacetSql
