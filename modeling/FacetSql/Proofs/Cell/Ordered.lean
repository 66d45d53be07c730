import FacetSql.Proofs.Numeral.Nearest
import FacetSql.Proofs.Table.Sorted
import Mathlib.Data.Sum.Order
import Mathlib.Data.String.Basic
/-!
# Ordered — where the order of cells is an order

Cells stand on a line, kind behind kind, and compare as they stand there; only two whole numbers with one float compare
further (`compare_eq_then`).  A float between two such numbers does not see which is the greater.  So cells are in order
exactly where no float stands beside two whole numbers that have it as their float (`preorderOn_compare_iff`), as it is
up to 2⁵³ (`preorderOn_compare_of_natAbs_le`).
-/
namespace FacetSql.Cell

open Numeral

/-- The cell is not the float that is no number. -/
def NotNaN : Cell → Prop
  | .float x => x.isNaN = false
  | _ => True

instance : DecidablePred NotNaN
  | .float x => inferInstanceAs (Decidable (x.isNaN = false))
  | .null | .bool _ | .int _ | .text _ | .instant _ => isTrue trivial

/-- **Where a cell stands**: among the truth values, the numbers, the instants or the texts, or behind them all. -/
def stand : Cell → Bool ⊕ₗ (Int ×ₗ Int ×ₗ Int) ⊕ₗ Int ⊕ₗ String ⊕ₗ Unit
  | .bool b => toLex (.inl b)
  | .int n => toLex (.inr (toLex (.inl (place (Float.ofInt n)))))
  | .float x => toLex (.inr (toLex (.inl (place x))))
  | .instant t => toLex (.inr (toLex (.inr (toLex (.inl t)))))
  | .text s => toLex (.inr (toLex (.inr (toLex (.inr (toLex (.inl s)))))))
  | .null => toLex (.inr (toLex (.inr (toLex (.inr (toLex (.inr ())))))))

/-- The order of whole numbers, also where they have one float. -/
def wholeOrder : Cell → Cell → Ordering
  | .int m, .int n => Ord.compare m n
  | _, _ => .eq

theorem cmp_inl {α β : Type} [LinearOrder α] [LinearOrder β] (a b : α) :
    cmp (toLex (.inl a) : α ⊕ₗ β) (toLex (.inl b)) = cmp a b := by
  simp only [cmp, cmpUsing, Sum.Lex.inl_lt_inl_iff]

theorem cmp_inr {α β : Type} [LinearOrder α] [LinearOrder β] (a b : β) :
    cmp (toLex (.inr a) : α ⊕ₗ β) (toLex (.inr b)) = cmp a b := by
  simp only [cmp, cmpUsing, Sum.Lex.inr_lt_inr_iff]

theorem cmp_inl_inr {α β : Type} [LinearOrder α] [LinearOrder β] (a : α) (b : β) :
    cmp (toLex (.inl a) : α ⊕ₗ β) (toLex (.inr b)) = .lt :=
  (cmp_eq_lt_iff _ _).2 (Sum.Lex.inl_lt_inr a b)

theorem cmp_inr_inl {α β : Type} [LinearOrder α] [LinearOrder β] (a : α) (b : β) :
    cmp (toLex (.inr b) : α ⊕ₗ β) (toLex (.inl a)) = .gt :=
  (cmp_eq_gt_iff _ _).2 (Sum.Lex.inl_lt_inr a b)

/-- **Whole numbers compare as their floats**, and where these are equal as themselves. -/
theorem compare_int (m n : Int) :
    Ord.compare m n = (cmp (place (Float.ofInt m)) (place (Float.ofInt n))).then (Ord.compare m n) := by
  rcases lt_trichotomy m n with hlt | rfl | hgt
  · rcases (place_ofInt_mono hlt.le).lt_or_eq with hplace | hplace
    · rw [hplace.cmp_eq_lt, compare_lt_iff_lt.2 hlt]
      rfl
    · rw [hplace, cmp_self_eq_eq]
      rfl
  · rw [cmp_self_eq_eq]
    rfl
  · rcases (place_ofInt_mono hgt.le).lt_or_eq with hplace | hplace
    · rw [hplace.cmp_eq_gt, compare_gt_iff_gt.2 hgt]
      rfl
    · rw [hplace, cmp_self_eq_eq]
      rfl

section

variable {a b c : Cell}

/-- **Cells compare as they stand**, and whole numbers further. -/
theorem compare_eq_then (ha : a.NotNaN) (hb : b.NotNaN) :
    a.compare b = (cmp a.stand b.stand).then (wholeOrder a b) := by
  cases a <;> cases b <;>
    simp only [compare, stand, wholeOrder, cmp_inl, cmp_inr, cmp_inl_inr, cmp_inr_inl, Ordering.then_eq]
  case bool.bool x y => exact (cmp_eq_compare x y).symm
  case instant.instant x y => exact (cmp_eq_compare x y).symm
  case text.text x y => exact ((cmp_eq_compare x y).trans (LinearOrder.compare_eq_compareOfLessAndEq x y)).symm
  case int.int m n => exact compare_int m n
  case int.float n x => exact compareFloats_eq_cmp (isNaN_ofInt n) hb
  case float.int x n => exact compareFloats_eq_cmp ha (isNaN_ofInt n)
  case float.float x y => exact compareFloats_eq_cmp ha hb
  all_goals rfl

theorem wholeOrder_swap (a b : Cell) : (wholeOrder a b).swap = wholeOrder b a := by
  cases a <;> cases b
  case int.int m n => exact Std.OrientedOrd.eq_swap.symm
  all_goals rfl

theorem compare_swap (ha : a.NotNaN) (hb : b.NotNaN) : b.compare a = (a.compare b).swap := by
  rw [compare_eq_then hb ha, compare_eq_then ha hb, Ordering.swap_then, cmp_swap, wholeOrder_swap]

theorem compare_self (ha : a.NotNaN) : a.compare a = .eq := by
  have hwhole : wholeOrder a a = .eq := by
    cases a with
    | int n => exact compare_eq_iff_eq.2 rfl
    | _ => rfl
  rw [compare_eq_then ha ha, cmp_self_eq_eq, hwhole]
  rfl

theorem stand_le_of_compare (ha : a.NotNaN) (hb : b.NotNaN) (h : a.compare b ≠ .gt) : a.stand ≤ b.stand := by
  rw [compare_eq_then ha hb, Ne, Ordering.then_eq_gt, cmp_eq_gt_iff, not_or, not_lt] at h
  exact h.1

/-- A cell that comes after another stands behind it, or both are whole numbers with one float. -/
theorem compare_eq_gt_iff (ha : a.NotNaN) (hb : b.NotNaN) :
    a.compare b = .gt ↔ b.stand < a.stand ∨ a.stand = b.stand ∧ ∃ m n, a = .int m ∧ b = .int n ∧ n < m := by
  have hwhole : wholeOrder a b = .gt ↔ ∃ m n, a = .int m ∧ b = .int n ∧ n < m := by
    cases a <;> cases b
    case int.int m n => simp [wholeOrder, compare_gt_iff_gt]
    all_goals simp [wholeOrder]
  rw [compare_eq_then ha hb, Ordering.then_eq_gt, cmp_eq_gt_iff, cmp_eq_eq_iff, hwhole]

/-- **Where the order of cells breaks off**: a whole number up to a float up to a smaller whole number. -/
theorem compare_eq_gt_iff_of_between (ha : a.NotNaN) (hb : b.NotNaN) (hc : c.NotNaN) (hab : a.compare b ≠ .gt)
    (hbc : b.compare c ≠ .gt) :
    a.compare c = .gt ↔ ∃ m x n, a = .int m ∧ b = .float x ∧ c = .int n ∧ n < m := by
  constructor
  · intro hac
    have hle : a.stand ≤ b.stand := stand_le_of_compare ha hb hab
    have hge : b.stand ≤ c.stand := stand_le_of_compare hb hc hbc
    rcases (compare_eq_gt_iff ha hc).1 hac with hlt | ⟨hstand, m, n, rfl, rfl, hlt⟩
    · exact absurd hlt (not_lt.2 (hle.trans hge))
    · -- what stands beside whole numbers is a number, and no whole one is between them
      have hbeside : (Cell.int m).stand = b.stand := hle.antisymm (hstand ▸ hge)
      cases b with
      | float x => exact ⟨m, x, n, rfl, rfl, rfl, hlt⟩
      | int k =>
        have hmk : m ≤ k := not_lt.1 (fun h => hab (compare_gt_iff_gt.2 h))
        have hkn : k ≤ n := not_lt.1 (fun h => hbc (compare_gt_iff_gt.2 h))
        exact absurd hlt (not_lt.2 (hmk.trans hkn))
      | null | bool | text | instant => cases hbeside
  · rintro ⟨m, x, n, rfl, rfl, rfl, hlt⟩
    exact compare_gt_iff_gt.2 hlt

end

/-- **No float stands beside two whole numbers** that have it as their float. -/
def TellsApart (cells : List Cell) : Prop :=
  ∀ m n x, .int m ∈ cells → .int n ∈ cells → .float x ∈ cells →
    (Float.ofInt m == x) = true → (Float.ofInt n == x) = true → m = n

section

variable {cells : List Cell}

theorem stand_int_eq_stand_float {n : Int} {x : Float} (hx : x.isNaN = false) :
    (Cell.int n).stand = (Cell.float x).stand ↔ (Float.ofInt n == x) = true := by
  rw [beq_iff_place (isNaN_ofInt n) hx]
  simp [stand]

theorem stand_int_mono {m n : Int} (h : m ≤ n) : (Cell.int m).stand ≤ (Cell.int n).stand :=
  Sum.Lex.inr_le_inr_iff.2 (Sum.Lex.inl_le_inl_iff.2 (place_ofInt_mono h))

/-- **Cells are in order** where no float stands beside two whole numbers. -/
theorem preorderOn_compare (hn : ∀ c ∈ cells, c.NotNaN) (h : TellsApart cells) : PreorderOn Cell.compare cells := by
  refine ⟨fun a ha b hb => compare_swap (hn a ha) (hn b hb), fun a ha b hb c hc hab hbc hac => ?_⟩
  obtain ⟨m, x, n, rfl, rfl, rfl, hlt⟩ :=
    (compare_eq_gt_iff_of_between (hn a ha) (hn b hb) (hn c hc) hab hbc).1 hac
  have hle : (Cell.int m).stand ≤ (Cell.float x).stand := stand_le_of_compare (hn _ ha) (hn _ hb) hab
  have hge : (Cell.float x).stand ≤ (Cell.int n).stand := stand_le_of_compare (hn _ hb) (hn _ hc) hbc
  have hmono : (Cell.int n).stand ≤ (Cell.int m).stand := stand_int_mono hlt.le
  have hm := (stand_int_eq_stand_float (hn _ hb)).1 (hle.antisymm (hge.trans hmono))
  have hn := (stand_int_eq_stand_float (hn _ hb)).1 ((hmono.trans hle).antisymm hge)
  exact hlt.ne' (h m n x ha hc hb hm hn)

/-- **Up to 2⁵³ cells are in order**, whatever their kinds. -/
theorem preorderOn_compare_of_natAbs_le (hn : ∀ c ∈ cells, c.NotNaN)
    (hsmall : ∀ n, .int n ∈ cells → n.natAbs ≤ 2 ^ 53) : PreorderOn Cell.compare cells := by
  refine preorderOn_compare hn (fun m n x hm hn' hx hmx hnx => ?_)
  have hmplace := (beq_iff_place (isNaN_ofInt m) (hn _ hx)).1 hmx
  have hnplace := (beq_iff_place (isNaN_ofInt n) (hn _ hx)).1 hnx
  exact place_ofInt_inj (hsmall m hm) (hsmall n hn') (hmplace.trans hnplace.symm)

/-- **Cells are equal to themselves and turn round, and they are in order exactly where no float stands beside two whole
numbers.** -/
theorem preorderOn_compare_iff (hn : ∀ c ∈ cells, c.NotNaN) :
    (∀ a ∈ cells, a.compare a = .eq) ∧
      (∀ a ∈ cells, ∀ b ∈ cells, b.compare a = (a.compare b).swap) ∧
      (PreorderOn Cell.compare cells ↔ TellsApart cells) := by
  refine ⟨fun a ha => compare_self (hn a ha), fun a ha b hb => compare_swap (hn a ha) (hn b hb), fun h => ?_,
    preorderOn_compare hn⟩
  intro m n x hm hn' hx hmx hnx
  -- two whole numbers beside the float are both up to it and from it on, so neither comes after the other
  have hnot : ∀ {m n : Int}, .int m ∈ cells → .int n ∈ cells → (Float.ofInt m == x) = true →
      (Float.ofInt n == x) = true → ¬ n < m := by
    intro m n hm hn' hmx hnx hlt
    have hmeq := (stand_int_eq_stand_float (hn _ hx)).2 hmx
    have hneq := (stand_int_eq_stand_float (hn _ hx)).2 hnx
    refine h.trans _ hm _ hx _ hn' ?_ ?_ (compare_gt_iff_gt.2 hlt)
    · rw [Ne, compare_eq_gt_iff (hn _ hm) (hn _ hx), hmeq]
      simp
    · rw [Ne, compare_eq_gt_iff (hn _ hx) (hn _ hn'), hneq]
      simp
  exact le_antisymm (not_lt.1 (hnot hm hn' hmx hnx)) (not_lt.1 (hnot hn' hm hnx hmx))

end

/-- Cells of all kinds are in order, also a whole number that is no float and one that is. -/
theorem preorderOn_compare_mixed :
    (∀ c ∈ [.null, .int 9007199254740993, .text "x", .float 2.0, .instant 0, .int 2, .bool true], NotNaN c) ∧
      PreorderOn Cell.compare
        [.null, .int 9007199254740993, .text "x", .float 2.0, .instant 0, .int 2, .bool true] := by
  have hnan : ∀ c ∈ [.null, .int 9007199254740993, .text "x", .float 2.0, .instant 0, .int 2, .bool true],
      NotNaN c := by decide +kernel
  refine ⟨hnan, (preorderOn_compare_iff hnan).2.2.2 (fun m n x hm hn hx hmx hnx => ?_)⟩
  have hfar : (Float.ofInt 9007199254740993 == 2.0) = false := by decide +kernel
  have hx : x = 2.0 := by simpa using hx
  have htwo : ∀ {k : Int}, k = 9007199254740993 ∨ k = 2 → (Float.ofInt k == x) = true → k = 2 := by
    rintro k (rfl | rfl) hk
    · rw [hx, hfar] at hk
      cases hk
    · rfl
  rw [htwo (by simpa using hm) hmx, htwo (by simpa using hn) hnx]

/-- A float between two whole numbers that have it as their float. -/
theorem not_preorderOn_compare_beyond :
    (∀ c ∈ [.int 9007199254740993, .float 9007199254740992.0, .int 9007199254740992], NotNaN c) ∧
      ¬ PreorderOn Cell.compare [.int 9007199254740993, .float 9007199254740992.0, .int 9007199254740992] := by
  refine ⟨by decide +kernel, fun h => ?_⟩
  exact h.trans (.int 9007199254740993) (by simp) (.float 9007199254740992.0) (by simp) (.int 9007199254740992)
    (by simp) (by decide +kernel) (by decide +kernel) (by decide +kernel)

end FacetSql.Cell
