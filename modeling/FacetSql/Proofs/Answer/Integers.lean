import FacetSql.Proofs.Answer.RoundTrip
import FacetSql.Proofs.Decimal.Truncated
import FacetSql.Proofs.Numeral.Grammar
import FacetSql.Proofs.Run.Flattened
/-!
# Integers — whole numbers of 64 bits in the rows

A whole number comes back as a field of a document, as a key of a bucket, or as a number of documents.  A number of 64
signed bits is the same number in its row and in the result.  A greater one, of 64 unsigned bits, becomes the float
nearest to it, so two of them may become one (`cells_of_integers`, `cells_beyondOfA`).
-/
namespace FacetSql.Answer

open Numeral Decimal Request Run

/-- **A whole number of 64 bits**, signed or unsigned. -/
def InWords (n : Int) : Prop := int64.least ≤ n ∧ n ≤ word64.greatest

/-- **A float nearest to a number** between 2⁶³ and 2⁶⁴, where floats are 2048 apart. -/
def IsNearest (x : Float) (n : Int) : Prop :=
  ∃ m e, Exact.ofFloat x = .finite false m e ∧ 0 ≤ e ∧ ((wholePart m e : Int) - n).natAbs ≤ 1024

/-- **A cell keeps a whole number**: it is this number and is written as it, or beyond 63 bits a float nearest to it. -/
inductive Keeps (n : Int) (c : Cell) : Prop where
  | exact (within : n ≤ int64.greatest) (cell : c = .int n) (written : c.toJson = .int n)
  | nearest {x : Float} (beyond : int64.greatest < n) (cell : c = .float x) (written : c.toJson = .float x)
      (nearest : IsNearest x n)

/-- **A row keeps the whole numbers of a document** in the columns of their fields. -/
def KeepsFields (h : Heading) (document : Json) (row : Row) : Prop :=
  ∀ c ∈ h.columns, ∀ field n, c.field = some field → fieldValue document field = some (.int n) → InWords n →
    Keeps n (row.cell c.index)

/-- **A row keeps the whole numbers of a leaf**: the terms among its keys, and the number of its documents, if it has 63
bits; a negative one counts as none. -/
structure KeepsLeaf (h : Heading) (path : List Column) (leaf : RawLeaf) (row : Row) : Prop where
  keys : List.Forall₂ (fun key sent => ∀ n, sent = (.terms, .int n) → InWords n → Keeps n (row.cell key.index))
    path leaf.keys
  counts : ∀ n, leaf.count = some (.int n) → n ≤ int64.greatest → ∀ c ∈ h.columns, c.isDocCount = true →
    Keeps (max 0 n) (row.cell c.index)

/-! ## Floats of whole numbers -/

theorem unpack_of_ofFloat {x : Float} {m : Nat} {e : Int} (he : 0 ≤ e) (hx : Exact.ofFloat x = .finite false m e) :
    ∃ hpos, x.toModel.unpack = .finite .positive m e hpos := by
  rw [ofFloat_eq] at hx
  generalize x.toModel.unpack = u at hx ⊢
  cases u with
  | notANumber => cases hx
  | infinity s => cases hx
  | zero s =>
    -- zero has the least exponent
    cases s <;> cases hx
    omega
  | finite s i f hpos =>
    cases s <;> cases hx
    exact ⟨hpos, rfl⟩

/-- **The float of a number beyond 63 bits is nearest to it**: of 64 bits, it loses eleven. -/
theorem isNearest_ofInt {n : Int} (hbeyond : int64.greatest < n) (hword : n ≤ word64.greatest) :
    (Float.ofInt n).isFinite = true ∧ IsNearest (Float.ofInt n) n := by
  simp only [int64, word64] at hbeyond hword
  obtain ⟨k, rfl⟩ := Int.eq_ofNat_of_zero_le (show 0 ≤ n by omega)
  have hne : k ≠ 0 := by omega
  have hlog : k.log2 = 52 + 11 := (Nat.log2_eq_iff hne).2 ⟨by omega, by omega⟩
  obtain ⟨hnonneg, hle, hge⟩ := rounded_near hlog
  obtain ⟨-, -, -, hexponent⟩ := rounded_bounds hne
  obtain ⟨hpos, hunpack⟩ := unpack_ofNat hne
  rw [if_pos (by omega)] at hunpack
  constructor
  · show (Float.ofNat k).toModel.unpack.isFinite = true
    rw [hunpack]
    rfl
  · refine ⟨(rounded k).1, (rounded k).2, ?_, hnonneg, ?_⟩
    · show Exact.ofFloat (Float.ofNat k) = _
      rw [ofFloat_eq, hunpack]
      rfl
    · rw [wholePart, if_pos hnonneg]
      show (((rounded k).1 * 2 ^ (rounded k).2.toNat : Nat) - (k : Int)).natAbs ≤ 1024
      omega

/-- Numbers nearest to equal floats are close together. -/
theorem near_of_isNearest {x y : Float} {m n : Int} (hx : IsNearest x m) (hy : IsNearest y n) (hxy : (x == y) = true) :
    (m - n).natAbs ≤ 2048 := by
  obtain ⟨i, e, hfloat, he, hnear⟩ := hx
  obtain ⟨j, f, hfloat', hf, hnear'⟩ := hy
  obtain ⟨hpos, hunpack⟩ := unpack_of_ofFloat he hfloat
  obtain ⟨hpos', hunpack'⟩ := unpack_of_ofFloat hf hfloat'
  change (x.toModel.unpack.compare y.toModel.unpack == some .eq) = true at hxy
  rw [hunpack, hunpack', beq_iff_eq, compare_eq_eq_iff_placeOf (by simp) (by simp)] at hxy
  simp only [placeOf, EmbeddingLike.apply_eq_iff_eq, Prod.mk.injEq, true_and] at hxy
  obtain ⟨rfl, hij⟩ := hxy
  have hmantissa : i = j := Int.ofNat_inj.1 hij
  subst hmantissa
  omega

theorem ofJson_of_not_holds {n : Int} (hn : int64.holds n = false) (hfinite : (Float.ofInt n).isFinite = true) :
    Cell.ofJson (.int n) = .float (Float.ofInt n) := by
  rw [Cell.ofJson, hn, if_neg Bool.false_ne_true, Cell.ofFloat, if_pos hfinite]

theorem keeps_ofJson {n : Int} (hn : InWords n) : Keeps n (.ofJson (.int n)) := by
  by_cases hwithin : n ≤ int64.greatest
  · have hcell : Cell.ofJson (.int n) = .int n := by
      rw [Cell.ofJson, if_pos (int64_holds_iff.2 ⟨hn.1, hwithin⟩)]
    exact .exact hwithin hcell (by rw [hcell]; rfl)
  · have hbeyond : int64.greatest < n := Int.not_le.1 hwithin
    obtain ⟨hfinite, hnearest⟩ := isNearest_ofInt hbeyond hn.2
    have hholds : int64.holds n = false := Bool.eq_false_iff.2 (fun h => hwithin (int64_holds_iff.1 h).2)
    have hcell := ofJson_of_not_holds hholds hfinite
    have hwritten : (Cell.float (Float.ofInt n)).toJson = .float (Float.ofInt n) := by
      rw [Cell.toJson, Json.ofFloat, if_pos hfinite]
    exact .nearest hbeyond hcell (by rw [hcell, hwritten]) hnearest

theorem Keeps.eq_int {n : Int} {c : Cell} (hc : Keeps n c) (hn : n ≤ int64.greatest) : c = .int n := by
  cases hc with
  | exact _ cell => exact cell
  | nearest beyond => exact absurd hn (Int.not_le.2 beyond)

/-- **Two numbers that become one are close together**, both beyond 63 bits. -/
theorem Keeps.eq_or_near {m n : Int} {a b : Cell} (ha : Keeps m a) (hb : Keeps n b) (hsame : a.same b = true) :
    m = n ∨ int64.greatest < m ∧ int64.greatest < n ∧ (m - n).natAbs ≤ 2048 := by
  cases ha with
  | exact _ ha =>
    cases hb with
    | exact _ hb =>
      rw [ha, hb] at hsame
      exact .inl (eq_of_beq hsame)
    | nearest _ hb =>
      rw [ha, hb] at hsame
      cases hsame
  | nearest hm ha _ hx =>
    cases hb with
    | exact _ hb =>
      rw [ha, hb] at hsame
      cases hsame
    | nearest hn hb _ hy =>
      rw [ha, hb] at hsame
      exact .inr ⟨hm, hn, near_of_isNearest hx hy hsame⟩

/-! ## Rows -/

theorem keepsFields_hitRow {level : Level} (hi : level.heading.Indexed) (document : Json) :
    KeepsFields level.heading document (hitRow level.heading (hitOf document)) := by
  intro c hc field n hf hvalue hn
  rw [cell_hitRow hi hc, hitCell_of_field hf, fieldCell, hvalue]
  exact keeps_ofJson hn

theorem keeps_signedCount {leaf : RawLeaf} {n : Int} (hcount : leaf.count = some (.int n))
    (hn : n ≤ int64.greatest) : Keeps (max 0 n) (.int (signedCount leaf.documents)) := by
  have hdocuments : leaf.documents = n.toNat := by
    rw [RawLeaf.documents, hcount, Option.bind_some, Json.word64?]
    split
    · rfl
    · rw [Int.toNat_of_nonpos (by omega)]
      rfl
  have hsigned : signedCount leaf.documents = max 0 n := by
    rw [hdocuments, signedCount_of_lt (by simp only [int64] at hn; omega)]
    omega
  have hwithin : max 0 n ≤ int64.greatest := by
    simp only [int64] at hn ⊢
    omega
  rw [hsigned]
  exact .exact hwithin rfl rfl

theorem ShowsRaw.keepsLeaf {h : Heading} {path : List Column} {before row : Row} {leaf : RawLeaf}
    (hs : ShowsRaw h path before leaf row) : KeepsLeaf h path leaf row := by
  refine ⟨hs.keys.imp (fun key sent hcell n hsent hn => ?_), fun n hcount hn c hc hdoc => ?_⟩
  · rw [hsent] at hcell
    rw [hcell.unique (.terms _)]
    exact keeps_ofJson hn
  · rw [hs.counts c hc hdoc]
    exact keeps_signedCount hcount hn

/-- **Whole numbers of 64 bits come back in the rows**: from documents into the columns of their fields, and from the
leaves of an answer of the shape asked for.  Two that come back as one are the same or beyond 63 bits and close
together. -/
theorem cells_of_integers {now : Int} {q : Sql.Query} {plan : Plan} (hplan : Query.planOf now q = .ok plan) :
    (plan.engine.isAggregation = false → ∀ response documents, Brings response documents →
      ∃ rows, tableOf plan.engine response = .ok ⟨plan.engine.heading, rows⟩ ∧
        List.Forall₂ (KeepsFields plan.engine.heading) documents rows) ∧
    (plan.engine.isAggregation = true → ∀ session root response leaves, rootOf session plan.engine = .ok root →
      Shaped root response leaves →
      ∃ rows, tableOf plan.engine response = .ok ⟨plan.engine.heading, rows⟩ ∧
        List.Forall₂ (KeepsLeaf plan.engine.heading (pathOf plan.engine)) leaves rows) ∧
    ∀ m n a b, Keeps m a → Keeps n b → a.same b = true →
      m = n ∨ int64.greatest < m ∧ int64.greatest < n ∧ (m - n).natAbs ≤ 2048 := by
  have hb := (Query.planOf_bound q hplan).engine.1
  refine ⟨fun hsearch response documents hbrings => ?_, fun ha session root response leaves hroot hshaped => ?_,
    fun m n a b ha hb hsame => ha.eq_or_near hb hsame⟩
  · refine ⟨_, tableOf_of_documentsOf hsearch hbrings.1, ?_⟩
    rw [hbrings.2, rowsFor, List.forall₂_map_right_iff, List.forall₂_same]
    exact fun document _ => keepsFields_hitRow hb.heading.index document
  · obtain ⟨rows, htable, hshow⟩ := exists_table_of_shaped hb ha hroot hshaped
    exact ⟨rows, htable, hshow.imp (fun _ _ hs => hs.keepsLeaf)⟩

/-- Two numbers for `a`, one after the other, beyond 63 bits. -/
def beyondOfA : List Json := [.object [("a", .int 9223372036854775809)], .object [("a", .int 9223372036854775810)]]

/-- **Beyond 63 bits a number may be lost**: both become the float of 2⁶³. -/
theorem cells_beyondOfA :
    ∃ x, hitRows ⟨[.plain "a"]⟩ (answerOf beyondOfA) = .ok [[.float x], [.float x]] ∧
      Exact.ofFloat x = .finite false 4503599627370496 11 ∧ (Cell.float x).same (.float x) = true ∧
      wholePart 4503599627370496 11 ≠ 9223372036854775809 := by
  have hsame : Float.ofInt 9223372036854775810 = Float.ofInt 9223372036854775809 := by decide +kernel
  have hfinite : (Float.ofInt 9223372036854775809).isFinite = true := by decide +kernel
  refine ⟨Float.ofInt 9223372036854775809, ?_, ?_, by decide +kernel, by decide⟩
  · show Except.ok [[Cell.ofJson (.int 9223372036854775809)], [Cell.ofJson (.int 9223372036854775810)]] = _
    have hfinite' : (Float.ofInt 9223372036854775810).isFinite = true := by rw [hsame]; exact hfinite
    rw [ofJson_of_not_holds (by decide) hfinite, ofJson_of_not_holds (by decide) hfinite', hsame]
  · with_unfolding_all rfl

/-- `SELECT a FROM t` -/
def onlyA : Sql.Query :=
  ⟨"", .select ⟨none, "", [.expr (.name ⟨"a", none⟩)], "", [⟨.table [⟨"t", none⟩] "" none "", []⟩], "", none, .keys [],
    ""⟩, [], none, ""⟩

/-- The least number of 64 bits for `a`, and the greatest. -/
def extremesOfA : List Json := [.object [("a", .int (-9223372036854775808))], .object [("a", .int 18446744073709551615)]]

/-- `SELECT a, b, COUNT(*), MAX(v) FROM t GROUP BY a, b` -/
def byTwoKeys : Sql.Query :=
  ⟨"", .select ⟨none, "",
    [.expr (.name ⟨"a", none⟩), .expr (.name ⟨"b", none⟩),
      .expr (.call ⟨[⟨"COUNT", none⟩], false, false, [.all], "", ""⟩),
      .expr (.call ⟨[⟨"MAX", none⟩], false, false, [.expr (.name ⟨"v", none⟩)], "", ""⟩)],
    "", [⟨.table [⟨"t", none⟩] "" none "", []⟩], "", none, .keys [.name ⟨"a", none⟩, .name ⟨"b", none⟩], ""⟩,
    [], none, ""⟩

def byTwoKeysPlan : Plan :=
  let a : Column := ⟨0, some "a", .plain, [], none, "a", "a"⟩
  let b : Column := ⟨1, some "b", .plain, [], none, "b", "b"⟩
  let count : Column := ⟨2, none, .count, [], none, "count(*)", "count___"⟩
  let max : Column := ⟨3, some "v", .max, [], none, "max(v)", "max_v_"⟩
  ⟨"t", ⟨⟨[a, b, count, max]⟩, [a, b], .everything, false, none, none⟩, []⟩

/-- A bucket of the least `b` with as many documents as 63 bits count. -/
def bucketOfLeast : Json := .object [("doc_count", .int 9223372036854775807), ("key", .int (-9223372036854775808))]

/-- A bucket of the greatest `a` around it. -/
def bucketOfGreatest : List (String × Json) :=
  [("doc_count", .int 9223372036854775807), ("key", .int 18446744073709551615),
    ("lterms#b", .object [("buckets", .array [bucketOfLeast])])]

/-- An answer with that bucket. -/
def answerWithGreatest : Json :=
  .object [("aggregations", .object [("lterms#a", .object [("buckets", .array [.object bucketOfGreatest])])])]

theorem cells_of_extremes :
    (∃ plan row row', Query.planOf 0 onlyA = .ok plan ∧
      tableOf plan.engine (answerOf extremesOfA) = .ok ⟨plan.engine.heading, [row, row']⟩ ∧
      row.cell 0 = .int (-9223372036854775808) ∧ Keeps 18446744073709551615 (row'.cell 0)) ∧
    ∃ row, Query.planOf 0 byTwoKeys = .ok byTwoKeysPlan ∧
      tableOf byTwoKeysPlan.engine answerWithGreatest = .ok ⟨byTwoKeysPlan.engine.heading, [row]⟩ ∧
      Keeps 18446744073709551615 (row.cell 0) ∧ row.cell 1 = .int (-9223372036854775808) ∧
      row.cell 2 = .int 9223372036854775807 := by
  have hleast : InWords (-9223372036854775808) := by constructor <;> decide
  have hgreatest : InWords 18446744073709551615 := by constructor <;> decide
  constructor
  · have hplan : Query.planOf 0 onlyA =
        .ok ⟨"t", ⟨⟨[.plain "a"]⟩, [], .everything, false, none, none⟩, []⟩ := by with_unfolding_all rfl
    obtain ⟨rows, htable, hkeeps⟩ := (cells_of_integers hplan).1 rfl (answerOf extremesOfA) extremesOfA
      ⟨rfl, documentsOf_answerOf _⟩
    obtain _ | ⟨hrow, _ | ⟨hrow', _ | _⟩⟩ := hkeeps
    have hcell := hrow _ List.mem_cons_self "a" _ rfl rfl hleast
    have hcell' := hrow' _ List.mem_cons_self "a" _ rfl rfl hgreatest
    exact ⟨_, _, _, hplan, htable, hcell.eq_int (by decide), hcell'⟩
  · have hplan : Query.planOf 0 byTwoKeys = .ok byTwoKeysPlan := by with_unfolding_all rfl
    have hroot : rootOf .standard byTwoKeysPlan.engine =
        .ok (.terms "a" "a" 10000 [.terms "b" "b" 10000 [.metric "max_v_" .max "v"]]) := rfl
    have hnone : ∀ node ∈ [Node.metric "max_v_" .max "v"], node.keyKind? = none := by simp [Node.keyKind?]
    have hbelow : RawLeavesOf .terms [.metric "max_v_" .max "v"] [bucketOfLeast]
        [⟨[(.terms, .int (-9223372036854775808))], some (.int 9223372036854775807), []⟩] :=
      .metrics hnone rfl ⟨.nil, List.nodup_nil⟩ (.nil _ _)
    have hkey : Json.lookUp "key" bucketOfGreatest = some (.int 18446744073709551615) := rfl
    have habove := RawLeavesOf.buckets hkey rfl ⟨rfl, "lterms", by decide, _, rfl, rfl⟩ hbelow
      (.nil .terms [.terms "b" "b" 10000 [.metric "max_v_" .max "v"]])
    obtain ⟨rows, htable, hkeeps⟩ := (cells_of_integers hplan).2.1 rfl .standard _ answerWithGreatest _ hroot
      (.buckets rfl rfl ⟨rfl, "lterms", by decide, _, rfl, rfl⟩ habove)
    obtain _ | ⟨⟨hkeys, hcounts⟩, _ | _⟩ := hkeeps
    obtain _ | ⟨ha, _ | ⟨hb, _ | _⟩⟩ := hkeys
    have hcount := hcounts _ rfl (by decide) _ (List.mem_cons_of_mem _ (List.mem_cons_of_mem _ List.mem_cons_self)) rfl
    exact ⟨_, hplan, htable, ha _ rfl hgreatest, (hb _ rfl hleast).eq_int (by decide), hcount.eq_int (by decide)⟩

end FacetSql.Answer
