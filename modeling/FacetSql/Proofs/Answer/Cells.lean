import FacetSql.Answer.Rows
import FacetSql.Proofs.Decimal.Truncated
import FacetSql.Proofs.Numeral.Grammar
/-!
# Cells — what keys and values of metrics come to

A key of terms is kept as it is, a key of a histogram is an instant.  The value of a metric is a whole number for
`COUNT` and a float for any other operator.  What is no number, or no number that the cell can hold, is missing.  The
reader of keys and the writer of metrics make exactly these cells (`isKeyCell_iff`, `isMetricCell_iff`).
-/
namespace FacetSql.Answer

open Numeral Decimal

/-- **The whole number that a number stands for**: itself if it has 64 signed bits, or its float cut off. -/
inductive StandsFor : Json → Int → Prop where
  | whole {n : Int} (within : int64.least ≤ n ∧ n ≤ int64.greatest) : StandsFor (.int n) n
  | beyond {n k : Int} (beyond : ¬ (int64.least ≤ n ∧ n ≤ int64.greatest)) (cut : CutsOff (Float.ofInt n) k) :
      StandsFor (.int n) k
  | float {x : Float} {n : Int} (cut : CutsOff x n) : StandsFor (.float x) n

/-- **The cell of a key.** -/
inductive IsKeyCell : KeyKind → Json → Cell → Prop where
  | terms (key : Json) : IsKeyCell .terms key (.ofJson key)
  | instant {key : Json} {millis : Int} (stands : StandsFor key millis) (least : Instant.least ≤ millis)
      (greatest : millis ≤ Instant.greatest) : IsKeyCell .histogram key (.instant millis)
  | missing {key : Json} (none : ∀ millis, StandsFor key millis → millis < Instant.least ∨ Instant.greatest < millis) :
      IsKeyCell .histogram key .null

/-- **The float that a number is**, which for a whole number is the nearest. -/
inductive IsNumber : Json → Float → Prop where
  | whole (n : Int) : IsNumber (.int n) (.ofInt n)
  | float (x : Float) : IsNumber (.float x) x

/-- **The cell of a metric's value.** -/
inductive IsMetricCell (op : Operator) (value : Json) : Cell → Prop where
  | count {x : Float} {n : Int} (hop : op = .count) (number : IsNumber value x) (finite : x.isFinite = true)
      (cut : CutsOff x n) : IsMetricCell op value (.int n)
  | float {x : Float} (hop : op ≠ .count) (number : IsNumber value x) (finite : x.isFinite = true) :
      IsMetricCell op value (.float x)
  | missing (none : ∀ x, IsNumber value x → x.isFinite = false) : IsMetricCell op value .null

/-- **A number stands for one whole number**, from which the instant is made, and nothing else stands for any. -/
theorem standsFor_cases (key : Json) :
    (∃ n, (∀ k, StandsFor key k ↔ k = n) ∧ instantKey key = .ofMillis n) ∨
      ((∀ k, ¬ StandsFor key k) ∧ instantKey key = .null) := by
  cases key with
  | int n =>
    refine .inl ?_
    by_cases hn : int64.holds n = true
    · refine ⟨n, fun k => ⟨fun h => ?_, ?_⟩, by rw [instantKey, Json.int64?, if_pos hn]⟩
      · cases h with
        | whole => rfl
        | beyond hbeyond => exact absurd (int64_holds_iff.1 hn) hbeyond
      · rintro rfl
        exact .whole (int64_holds_iff.1 hn)
    · refine ⟨truncate (Float.ofInt n), fun k => ⟨fun h => ?_, fun h => ?_⟩, by rw [instantKey, Json.int64?, if_neg hn]; rfl⟩
      · cases h with
        | whole hwithin => exact absurd (int64_holds_iff.2 hwithin) hn
        | beyond _ hcut => exact cutsOff_iff.1 hcut
      · exact .beyond (mt int64_holds_iff.2 hn) (cutsOff_iff.2 h)
  | float x =>
    refine .inl ⟨truncate x, fun k => ⟨fun h => ?_, fun h => .float (cutsOff_iff.2 h)⟩, rfl⟩
    cases h with
    | float hcut => exact cutsOff_iff.1 hcut
  | null | bool | text | array | object => exact .inr ⟨nofun, rfl⟩

theorem isKeyCell_histogram_iff {key : Json} {cell : Cell} :
    IsKeyCell .histogram key cell ↔ cell = instantKey key := by
  rcases standsFor_cases key with ⟨n, hn, hkey⟩ | ⟨hnone, hkey⟩
  · rw [hkey, Cell.ofMillis]
    by_cases hvalid : Instant.isValid n = true
    · obtain ⟨hleast, hgreatest⟩ := Instant.isValid_iff.1 hvalid
      rw [if_pos hvalid]
      constructor
      · intro h
        cases h with
        | instant stands => rw [(hn _).1 stands]
        | missing hnone =>
          rcases hnone n ((hn n).2 rfl) with hlt | hlt <;> omega
      · rintro rfl
        exact .instant ((hn n).2 rfl) hleast hgreatest
    · rw [if_neg hvalid]
      constructor
      · intro h
        cases h with
        | instant stands hleast hgreatest =>
          cases (hn _).1 stands
          exact absurd (Instant.isValid_iff.2 ⟨hleast, hgreatest⟩) hvalid
        | missing => rfl
      · rintro rfl
        refine .missing (fun k hk => ?_)
        cases (hn k).1 hk
        rw [Instant.isValid_iff] at hvalid
        omega
  · rw [hkey]
    constructor
    · intro h
      cases h with
      | instant stands => exact absurd stands (hnone _)
      | missing => rfl
    · rintro rfl
      exact .missing (fun k hk => absurd hk (hnone k))

theorem IsKeyCell.unique {kind : KeyKind} {key : Json} {cell cell' : Cell} (h : IsKeyCell kind key cell)
    (h' : IsKeyCell kind key cell') : cell = cell' := by
  cases kind with
  | terms =>
    cases h
    cases h'
    rfl
  | histogram => rw [isKeyCell_histogram_iff.1 h, isKeyCell_histogram_iff.1 h']

/-- **The cell that is read as the key of a bucket.** -/
theorem isKeyCell_iff {kind : KeyKind} {ms : List (String × Json)} {key : Json} {cell : Cell}
    (hkey : Json.lookUp "key" ms = some key) : IsKeyCell kind key cell ↔ cell = bucketKey kind ms := by
  unfold bucketKey
  rw [hkey]
  cases kind with
  | terms =>
    constructor
    · intro h
      cases h
      rfl
    · rintro rfl
      exact .terms key
  | histogram => exact isKeyCell_histogram_iff

theorem float?_eq_some_iff {value : Json} {x : Float} : value.float? = some x ↔ IsNumber value x := by
  constructor
  · intro h
    cases value with
    | int n =>
      cases h
      exact .whole n
    | float y =>
      cases h
      exact .float x
    | null | bool | text | array | object => cases h
  · intro h
    cases h <;> rfl

/-- **The cell that is written for a metric.** -/
theorem isMetricCell_iff {op : Operator} {value : Json} {cell : Cell} :
    IsMetricCell op value cell ↔ cell = metricCell op value.float? := by
  cases hvalue : value.float? with
  | none =>
    have hnone : ∀ x, ¬ IsNumber value x := fun x hx => absurd (hvalue.symm.trans (float?_eq_some_iff.2 hx)) nofun
    constructor
    · intro h
      cases h with
      | count _ hnumber => exact absurd hnumber (hnone _)
      | float _ hnumber => exact absurd hnumber (hnone _)
      | missing => rfl
    · rintro rfl
      exact .missing (fun x hx => absurd hx (hnone x))
  | some x =>
    have hnumber : ∀ y, IsNumber value y ↔ y = x := fun y => by
      rw [← float?_eq_some_iff, hvalue, Option.some.injEq, eq_comm]
    rw [metricCell, Cell.ofFloat]
    constructor
    · intro h
      cases h with
      | count hop hy hfinite hcut =>
        cases (hnumber _).1 hy
        rw [if_pos ⟨hop, hfinite⟩, cutsOff_iff.1 hcut]
      | float hop hy hfinite =>
        cases (hnumber _).1 hy
        rw [if_neg (fun h => hop h.1), if_pos hfinite]
      | missing hnone =>
        have hinfinite : ¬ x.isFinite = true := Bool.eq_false_iff.1 (hnone x ((hnumber x).2 rfl))
        rw [if_neg (fun h => hinfinite h.2), if_neg hinfinite]
    · rintro rfl
      by_cases hfinite : x.isFinite = true
      · by_cases hop : op = .count
        · rw [if_pos ⟨hop, hfinite⟩]
          exact .count hop ((hnumber x).2 rfl) hfinite (cutsOff_iff.2 rfl)
        · rw [if_neg (fun h => hop h.1), if_pos hfinite]
          exact .float hop ((hnumber x).2 rfl) hfinite
      · rw [if_neg (fun h => hfinite h.2), if_neg hfinite]
        refine .missing (fun y hy => ?_)
        cases (hnumber y).1 hy
        exact Bool.eq_false_iff.2 hfinite

theorem IsMetricCell.unique {op : Operator} {value : Json} {cell cell' : Cell} (h : IsMetricCell op value cell)
    (h' : IsMetricCell op value cell') : cell = cell' := by
  rw [isMetricCell_iff.1 h, isMetricCell_iff.1 h']

end FacetSql.Answer
