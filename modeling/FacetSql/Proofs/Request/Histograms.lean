import FacetSql.Proofs.Decimal.Truncated
import FacetSql.Proofs.Request.Sources
import FacetSql.Proofs.Span.Offset
/-!
# Histograms — the intervals of date histograms

A key of GROUP BY asks for an interval by a positive number or the text of one (`Asks`), and what is asked for is
positive.  Every other key gets the interval of the session, which is any whole number of 64 bits: settings are read
without a look at the sign.  So the histograms of a tree have positive intervals exactly if that of the session is
positive or no key needs it (`positiveIntervals_iff`).
-/
namespace FacetSql

namespace Span

/-- **The interval that an argument asks for.** -/
inductive Asks : Option Argument → Int → Prop where
  | whole {n : Int} (pos : 0 < n) : Asks (some (.int n)) n
  | cutOff {x : Float} (pos : 1.0 ≤ x) : Asks (some (.float x)) (Decimal.truncate x)
  | text {s : String} {n : Int} (interval : interval s = .ok n) : Asks (some (.text s)) n

section

variable {argument : Option Argument} {fallback n : Int}

theorem Asks.pos (h : Asks argument n) : 1 ≤ n := by
  cases h with
  | whole pos => exact pos
  | cutOff pos => exact Decimal.one_le_truncate pos
  | text hinterval => exact (interval_eq_ok_iff.1 hinterval).2.1

theorem ofArgument_of_asks (h : Asks argument n) : ofArgument fallback argument = n := by
  cases h with
  | whole pos => exact if_pos pos
  | cutOff pos => exact if_pos pos
  | text hinterval => rw [ofArgument, intervalOr, hinterval]

theorem ofArgument_of_not_asks (h : ∀ n, ¬ Asks argument n) : ofArgument fallback argument = fallback := by
  match argument with
  | none => rfl
  | some (.int n) => exact if_neg (fun pos => h n (.whole pos))
  | some (.float x) => exact if_neg (fun pos => h _ (.cutOff pos))
  | some (.text s) =>
    rw [ofArgument, intervalOr]
    cases hs : interval s with
    | error => rfl
    | ok n => exact absurd (.text hs) (h n)

/-- **The interval of a key is positive if it asks for one**, and otherwise if the fallback is. -/
theorem one_le_ofArgument_iff : 1 ≤ ofArgument fallback argument ↔ 1 ≤ fallback ∨ ∃ n, Asks argument n := by
  by_cases h : ∃ n, Asks argument n
  · obtain ⟨n, hn⟩ := h
    rw [ofArgument_of_asks hn]
    exact iff_of_true hn.pos (.inr ⟨n, hn⟩)
  · rw [ofArgument_of_not_asks (not_exists.1 h), or_iff_left h]

end

end Span

theorem Session.readSetting_eq_ok_iff {key : String} {range : Numeral.Range} {fallback n : Int} {text : Option String} :
    Session.readSetting key range fallback text = .ok n ↔
      text = none ∧ fallback = n ∨ ∃ s, text = some s ∧ range.read s = .ok n := by
  cases text with
  | none => simp [Session.readSetting]
  | some s =>
    rw [Session.readSetting]
    cases hread : range.read s <;> simp [hread]

/-- The interval of a session is read from its setting, if there is one. -/
theorem Session.defaultInterval_of_ofTexts {find : String → Option String} {session : Session}
    (h : Session.ofTexts find = .ok session) :
    (find "default.interval" = none ∧ Span.defaultInterval = session.defaultInterval) ∨
      ∃ s, find "default.interval" = some s ∧ Numeral.IsNumeral s.toList session.defaultInterval := by
  obtain ⟨fetchSize, -, h⟩ := bind_eq_ok_iff.1 h
  obtain ⟨interval, hinterval, h⟩ := bind_eq_ok_iff.1 h
  obtain ⟨timeout, -, h⟩ := bind_eq_ok_iff.1 h
  cases h
  obtain hnone | ⟨s, hsome, hread⟩ := Session.readSetting_eq_ok_iff.1 hinterval
  · exact .inl hnone
  · exact .inr ⟨s, hsome, (Numeral.int64_read_eq_ok_iff.1 hread).1⟩

/-- **The interval of a session is positive if its setting is**, and if there is none. -/
theorem Session.one_le_defaultInterval_iff {find : String → Option String} {session : Session}
    (h : Session.ofTexts find = .ok session) : 1 ≤ session.defaultInterval ↔
      ∀ s, find "default.interval" = some s → ∃ n, 1 ≤ n ∧ Numeral.IsNumeral s.toList n := by
  rcases Session.defaultInterval_of_ofTexts h with ⟨hnone, hdefault⟩ | ⟨s, hsome, hnumeral⟩
  · rw [← hdefault]
    refine iff_of_true (by decide) (fun s hs => ?_)
    rw [hnone] at hs
    cases hs
  · constructor
    · intro hpos s' hs'
      rw [hsome] at hs'
      cases hs'
      exact ⟨_, hpos, hnumeral⟩
    · intro hall
      obtain ⟨n, hpos, hn⟩ := hall s hsome
      rwa [hnumeral.unique hn]

namespace Request

/-- A key whose interval is positive, if it is a histogram. -/
def PositiveInterval (session : Session) (key : Column) : Prop :=
  key.operator = .dateHistogram → 1 ≤ Span.ofArgument session.defaultInterval key.arguments.head?

/-- **All date histograms of a tree have positive intervals.** -/
def PositiveIntervals (root : Node) : Prop :=
  ∀ name field interval children, Within root (.histogram name field interval children) → 1 ≤ interval

section

variable {session : Session} {h : Heading} {key : Column} {rest groupBy : List Column} {nodes : List Node}
  {node root : Node} {query : Json}

theorem positiveIntervals_metrics (hm : metrics h = .ok nodes) : ∀ child ∈ nodes, PositiveIntervals child := by
  intro child hchild name field interval children hw
  obtain ⟨c, -, hc⟩ := (mem_mapM_iff hm _).1 hchild
  obtain ⟨_, -, rfl⟩ := metricNode_eq_ok_iff.1 hc
  cases within_metric_iff.1 hw

theorem positiveIntervals_bucketNode_iff (hb : bucketNode session key nodes = .ok node) :
    PositiveIntervals node ↔ PositiveInterval session key ∧ ∀ child ∈ nodes, PositiveIntervals child := by
  obtain ⟨field, -, hcases⟩ := bucketNode_eq_ok_iff.1 hb
  constructor
  · intro hpos
    refine ⟨fun hop => ?_, fun child hchild name field interval children hw => ?_⟩
    · rcases hcases with ⟨hplain, -⟩ | ⟨-, rfl⟩
      · rw [hop] at hplain
        cases hplain
      · exact hpos _ _ _ _ (.self _)
    · exact hpos name field interval children (.inside (children_of_bucketNode hb ▸ hchild) hw)
  · rintro ⟨hown, hchildren⟩ name field' interval children hw
    cases hw with
    | self =>
      rcases hcases with ⟨-, hnode⟩ | ⟨hop, hnode⟩
      · cases hnode
      · cases hnode
        exact hown hop
    | inside hmem hw => exact hchildren _ (children_of_bucketNode hb ▸ hmem) name field' interval children hw

theorem positiveIntervals_nest_iff (hn : nest session h key rest = .ok node) :
    PositiveIntervals node ↔ ∀ k ∈ key :: rest, PositiveInterval session k := by
  induction rest generalizing key node with
  | nil =>
    obtain ⟨nodes, hm, hb⟩ := bind_eq_ok_iff.1 hn
    rw [positiveIntervals_bucketNode_iff hb, and_iff_left (positiveIntervals_metrics hm), List.forall_mem_singleton]
  | cons next rest ih =>
    obtain ⟨below, hbelow, hb⟩ := bind_eq_ok_iff.1 hn
    rw [positiveIntervals_bucketNode_iff hb, List.forall_mem_singleton, ih hbelow]
    exact List.forall_mem_cons.symm

theorem positiveIntervals_grouped_iff (hroot : grouped session groupBy h query = .ok root) :
    PositiveIntervals root ↔ ∀ key ∈ groupBy, PositiveInterval session key := by
  unfold grouped at hroot
  split at hroot
  · obtain ⟨nodes, hm, hroot⟩ := bind_eq_ok_iff.1 hroot
    cases hroot
    refine iff_of_true ?_ (fun key hkey => absurd hkey List.not_mem_nil)
    intro name field interval children hw
    cases hw with
    | inside hmem hw => exact positiveIntervals_metrics hm _ hmem name field interval children hw
  · exact positiveIntervals_nest_iff hroot

/-- **The histograms of a tree have positive intervals exactly if the setting is positive or no key needs it**, that is
if the session has no setting or a positive one, or every key that is a histogram asks for an interval of its own. -/
theorem positiveIntervals_iff {find : String → Option String} (hsession : Session.ofTexts find = .ok session)
    (hroot : grouped session groupBy h query = .ok root) : PositiveIntervals root ↔
      (∀ s, find "default.interval" = some s → ∃ n, 1 ≤ n ∧ Numeral.IsNumeral s.toList n) ∨
        ∀ key ∈ groupBy, key.operator = .dateHistogram → ∃ n, Span.Asks key.arguments.head? n := by
  rw [positiveIntervals_grouped_iff hroot, ← Session.one_le_defaultInterval_iff hsession]
  simp only [PositiveInterval, Span.one_le_ofArgument_iff]
  by_cases hpos : 1 ≤ session.defaultInterval
  · exact iff_of_true (fun _ _ _ => .inl hpos) (.inl hpos)
  · simp only [or_iff_right hpos]

/-- Settings with an interval and nothing else. -/
def onlyInterval (s key : String) : Option String := if key = "default.interval" then some s else none

/-- A histogram that asks for no interval. -/
def histogramOfTime : Column := .function .dateHistogram (some "ts") []

theorem ofTexts_onlyInterval {s : String} {n : Int} (hread : Numeral.int64.read s = .ok n) :
    Session.ofTexts (onlyInterval s) = .ok { Session.standard with defaultInterval := n } := by
  simp [Session.ofTexts, onlyInterval, Session.readSetting, hread, bind, Except.bind, pure, Except.pure,
    Session.standard]

/-- A histogram that asks for no interval takes the minute of the settings. -/
theorem positiveIntervals_ofMinute :
    ∃ session root, Session.ofTexts (onlyInterval "60000") = .ok session ∧
      grouped session [histogramOfTime] .empty .null = .ok root ∧ PositiveIntervals root := by
  have hread : Numeral.int64.read "60000" = .ok 60000 := by rfl
  have hsession := ofTexts_onlyInterval hread
  have hroot : grouped { Session.standard with defaultInterval := 60000 } [histogramOfTime] .empty .null =
      .ok (.histogram histogramOfTime.aggName "ts" 60000 []) := rfl
  refine ⟨_, _, hsession, hroot, (positiveIntervals_iff hsession hroot).2 (.inl (fun s hs => ?_))⟩
  cases hs
  exact ⟨60000, by decide, (Numeral.int64_read_eq_ok_iff.1 hread).1⟩

/-- Settings may say zero, and then a histogram that asks for no interval has none. -/
theorem not_positiveIntervals_ofZero :
    ∃ session root, Session.ofTexts (onlyInterval "0") = .ok session ∧
      grouped session [histogramOfTime] .empty .null = .ok root ∧ ¬ PositiveIntervals root :=
  ⟨_, _, ofTexts_onlyInterval (by rfl), rfl, fun h => absurd (h _ _ _ _ (.self _)) (by decide)⟩

end

end Request
end FacetSql
