import FacetSql.Proofs.Span.Offset
import FacetSql.Query.Constant
/-!
# Clock — `NOW` moved by an offset

An offset lies within 64 signed bits, and so does the clock, but their sum need not: it is too large if the offset
leads further ahead than the clock has room.  Offsets up to 2⁶² milliseconds have room at every reading of a clock
that itself is before 2⁶², and those that lead further do not (`tellsTime_iff`); all that can be read have room at the
epoch alone (`forall_tellsTime_iff`).  Nothing can be too small, since the clock is not before its epoch.
-/
namespace FacetSql.Query

open Sql

/-- **A call of the clock** with the text of an offset. -/
structure IsClockCall (c : Call) (s : String) : Prop where
  function : Text.sameIgnoringAsciiCase (renderPath c.function) "NOW" = true
  offset : ∃ more, c.arguments = .expr (.literal (.text s)) :: more

/-- The clock, moved by an offset. -/
def clockCall (s : String) : Call where
  function := [⟨"now", none⟩]
  bare := false
  distinct := false
  arguments := [.expr (.literal (.text s))]
  order := ""
  window := ""

theorem isClockCall_clockCall (s : String) : IsClockCall (clockCall s) s := by
  have hname : Text.sameIgnoringAsciiCase (renderPath [⟨"now", none⟩]) "NOW" = true := by decide
  exact ⟨hname, [], rfl⟩

/-- **The call tells the time**: an offset that can be read moves the clock by exactly its milliseconds, and any other
text is refused for what is wrong with it. -/
structure TellsTime (now : Int) (c : Call) (s : String) : Prop where
  moved : ∀ d, Span.offset s = .ok d → argument now (.call c) = .ok (.int (now + d))
  refused : ∀ fault, Span.offset s = .error fault → argument now (.call c) = .error (.span fault)

section

variable {now d : Int} {c : Call} {s : String} {fault : SpanFault}

theorem argument_of_refused (h : IsClockCall c s) (hs : Span.offset s = .error fault) :
    argument now (.call c) = .error (.span fault) := by
  obtain ⟨more, harguments⟩ := h.offset
  rw [argument, if_pos h.function, harguments, clockOffset, hs]
  rfl

/-- **The sum can only be too large**: an offset goes back no further than to the least number but one. -/
theorem holds_moved_iff (hs : Span.offset s = .ok d) (past : 0 ≤ now) :
    Numeral.int64.holds (now + d) = true ↔ now + d ≤ 9223372036854775807 := by
  obtain ⟨-, hleast, -⟩ := Span.offset_eq_ok_iff.1 hs
  rw [Numeral.int64_holds_iff]
  omega

theorem argument_of_offset (h : IsClockCall c s) (past : 0 ≤ now) (hs : Span.offset s = .ok d) :
    argument now (.call c) = if now + d ≤ 9223372036854775807 then .ok (.int (now + d)) else .error .clockOverflow := by
  obtain ⟨more, harguments⟩ := h.offset
  rw [argument, if_pos h.function, harguments, clockOffset, hs, ← if_congr (holds_moved_iff hs past) rfl rfl]
  rfl

theorem tellsTime_at_iff (h : IsClockCall c s) (past : 0 ≤ now) :
    TellsTime now c s ↔ ∀ d, Span.offset s = .ok d → now + d ≤ 9223372036854775807 := by
  constructor
  · intro htells d hs
    have hmoved := htells.moved d hs
    rw [argument_of_offset h past hs] at hmoved
    by_contra hlarge
    rw [if_neg hlarge] at hmoved
    cases hmoved
  · intro hroom
    refine ⟨fun d hs => ?_, fun fault hs => argument_of_refused h hs⟩
    rw [argument_of_offset h past hs, if_pos (hroom d hs)]

theorem clockOverflow_iff (h : IsClockCall c s) (past : 0 ≤ now) :
    argument now (.call c) = .error .clockOverflow ↔ ∃ d, Span.offset s = .ok d ∧ 9223372036854775807 < now + d := by
  cases hs : Span.offset s with
  | error fault =>
    rw [argument_of_refused h hs]
    exact iff_of_false nofun nofun
  | ok d =>
    rw [argument_of_offset h past hs]
    by_cases hroom : now + d ≤ 9223372036854775807
    · rw [if_pos hroom]
      refine iff_of_false nofun ?_
      rintro ⟨_, hd, hlarge⟩
      cases hd
      omega
    · rw [if_neg hroom]
      exact iff_of_true rfl ⟨d, rfl, by omega⟩

theorem offset_furthest : Span.offset "9223372036854775807" = .ok 9223372036854775807 := by rfl

/-- **Only at its epoch can the clock be moved by every offset that is read.** -/
theorem forall_tellsTime_iff (past : 0 ≤ now) :
    (∀ c s, IsClockCall c s → TellsTime now c s) ↔ now = 0 := by
  constructor
  · intro hall
    have hcall := isClockCall_clockCall "9223372036854775807"
    have hroom := (tellsTime_at_iff hcall past).1 (hall _ _ hcall) _ offset_furthest
    omega
  · rintro rfl c s h
    refine (tellsTime_at_iff h past).2 (fun d hs => ?_)
    obtain ⟨-, -, hgreatest⟩ := Span.offset_eq_ok_iff.1 hs
    omega

/-- **Which offsets the clock can be moved by**: at a reading those that leave room for the sum, and the call breaks
with the others; at every reading before 2⁶² exactly those up to 2⁶² milliseconds. -/
theorem tellsTime_iff (h : IsClockCall c s) :
    (∀ now, 0 ≤ now →
      (TellsTime now c s ↔ ∀ d, Span.offset s = .ok d → now + d ≤ 9223372036854775807) ∧
      (¬ TellsTime now c s ↔ argument now (.call c) = .error .clockOverflow)) ∧
    ((∀ now, 0 ≤ now → now < 4611686018427387904 → TellsTime now c s) ↔
      ∀ d, Span.offset s = .ok d → d ≤ 4611686018427387904) := by
  refine ⟨fun now past => ⟨tellsTime_at_iff h past, ?_⟩, fun hall d hs => ?_, fun hsmall now past future => ?_⟩
  · rw [tellsTime_at_iff h past, clockOverflow_iff h past]
    simp only [not_forall, exists_prop, Int.not_le]
  · -- the last reading leaves the least room
    have hlast := (tellsTime_at_iff h (by decide)).1 (hall 4611686018427387903 (by decide) (by decide)) d hs
    omega
  · refine (tellsTime_at_iff h past).2 (fun d hs => ?_)
    have hd := hsmall d hs
    omega

/-- A day back is room enough. -/
theorem tellsTime_yesterday : IsClockCall (clockCall "-1d") "-1d" ∧
    ∀ now, 0 ≤ now → now < 4611686018427387904 → TellsTime now (clockCall "-1d") "-1d" := by
  refine ⟨isClockCall_clockCall _, (tellsTime_iff (isClockCall_clockCall _)).2.2 (fun d hs => ?_)⟩
  have hday : Span.offset "-1d" = .ok (-86400000) := by rfl
  rw [hday] at hs
  cases hs
  decide

/-- The furthest offset that is read breaks the clock of the year 2023. -/
theorem not_tellsTime_furthest :
    argument 1700000000000 (.call (clockCall "9223372036854775807")) = .error .clockOverflow ∧
      ¬ TellsTime 1700000000000 (clockCall "9223372036854775807") "9223372036854775807" := by
  have hoverflow : argument 1700000000000 (.call (clockCall "9223372036854775807")) = .error .clockOverflow :=
    (clockOverflow_iff (isClockCall_clockCall _) (by decide)).2 ⟨_, offset_furthest, by decide⟩
  refine ⟨hoverflow, fun h => ?_⟩
  have hmoved := h.moved _ offset_furthest
  rw [hoverflow] at hmoved
  cases hmoved

end

end FacetSql.Query
