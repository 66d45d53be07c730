import FacetSql.Run
import FacetSql.Proofs.Answer.Decoded
/-!
# Fits — an answer raises no compile failure

Whatever the engine answers, its level has a sound table, or reading the answer fails for what the answer is
(`tableOf_ends`), and for nothing that could be told without it (`tableOf_fits`).
-/
namespace FacetSql.Run

theorem rowsOf_ends (level : Level) (response : Json) :
    Ends Failure.OfAnswer (fun rows => ∀ row ∈ rows, Row.Sound level.heading.width row) (rowsOf level response) := by
  unfold rowsOf
  split
  · exact (Answer.Tree.ofResponse_ends response).bind (fun ts hts => Answer.treeRows_ends hts)
  · exact Answer.hitRows_ends response

/-- **The table of the engine's level is sound**, or there is none for what the answer is. -/
theorem tableOf_ends (level : Level) (response : Json) :
    Ends Failure.OfAnswer (fun t => t.heading = level.heading ∧ t.Sound) (tableOf level response) := by
  refine (rowsOf_ends level response).bind (fun rows hrows => ?_)
  obtain ⟨ht, hsound⟩ := Table.Sound.ofRows hrows
  rw [ht]
  exact ⟨rfl, hsound⟩

/-- **Neither what the engine replies nor what it answers raises a compile failure.** -/
theorem tableOf_fits (level : Level) (response : Json) : Fits (tableOf level response) :=
  (tableOf_ends level response).fits (fun _ => id)

theorem responseOf_fits (session : Session) (reply : Reply) : Fits (responseOf session reply) := by
  cases reply with
  | answered response => exact .ok response
  | failed reason => exact nofun
  | silent => exact nofun

end FacetSql.Run
