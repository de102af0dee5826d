import Astra.Chat.Invariants

/-!
# Completed replies

`_finalize_failure` overwrites the row of its exchange whatever the status of the
row is.  That is harmless as long as no handler is entered behind a committed
success; the `except` clauses of the event iterator enclose the success
transaction, so an interruption of its last two awaits reaches them.
-/

namespace Astra.Chat

open Astra.Foundation Astra.Platform Astra.Persistence Astra.LLM Astra.Services

/-- A completed row stays the row that it is. -/
theorem completed_row_absorbing (d : Deployment) {s t : ChatState} {before after : List ChatLabel}
    (hbefore : exec (ChatState.step d) {} before = some s)
    (hafter : exec (ChatState.step d) s after = some t)
    (hok : AllSteps ReturnsOnceCommitted (ChatState.step d) {} (before ++ after))
    {m : Message} (hm : m ∈ s.store.messages) (hcompleted : m.status = .completed) :
    getMessage t.store.messages m.id = some m := by
  obtain ⟨hokBefore, hokAfter⟩ := hok.append hbefore
  have hs : ChatInvariant s := run_invariant ChatInvariant.initial hokBefore hbefore
  have ht : ChatInvariant t := run_invariant hs hokAfter hafter
  have hmem : m ∈ t.store.messages := run_keepsCompleted hs hokAfter hafter m hm hcompleted
  exact ht.messages.getMessage_eq hmem

def replayAfter : List ChatLabel :=
  [.resume 0 (.awaited .done) 140, .resume 0 .next 140,
    .arrive 1 (helloArrival false ⟨30, 31, 200⟩)]

def unwindAndRecord : List ChatLabel :=
  [.resume 0 (.awaited .done) 140, .resume 0 (.awaited .done) 140,
    .resume 0 (.awaited .done) 150, .resume 0 (.awaited .done) 150]

theorem completed_row_absorbing_replay :
    ∃ s t m, exec (ChatState.step defaultDeployment) {} (streamToCommit .done) = some s ∧
      exec (ChatState.step defaultDeployment) s replayAfter = some t ∧
      m ∈ s.store.messages ∧ m.id = 21 ∧ m.content = "Hi" ∧
      getMessage t.store.messages m.id = some m := by
  have hrun : ((exec (ChatState.step defaultDeployment) {}
      (streamToCommit .done ++ replayAfter)).map fun s => s.rowView 21) =
        some (some (.completed, "Hi")) := by decide
  have hview : ((exec (ChatState.step defaultDeployment) {} (streamToCommit .done)).map
      fun s => s.rowView 21) = some (some (.completed, "Hi")) := by decide
  obtain ⟨t, ht, -⟩ := Option.map_eq_some_iff.mp hrun
  obtain ⟨s, hs, hst⟩ := exec_append.mp ht
  rw [hs, Option.map_some, Option.some.injEq] at hview
  obtain ⟨m, hm, hrow⟩ := Option.map_eq_some_iff.mp hview
  simp only [Prod.mk.injEq] at hrow
  obtain ⟨hmem, hid⟩ := getMessage_mem hm
  refine ⟨s, t, m, hs, hst, hmem, hid, hrow.2,
    completed_row_absorbing defaultDeployment hs hst (allSteps_of_quiet (by decide) _) hmem
      hrow.1⟩

/-- A cancellation that reaches the await of a commit that took effect. -/
theorem completed_row_overwritten :
    ∃ s t, exec (ChatState.step defaultDeployment) {}
        (streamToCommit (.raisedAfterCommit .cancelled)) = some s ∧
      exec (ChatState.step defaultDeployment) s unwindAndRecord = some t ∧
      s.rowView 21 = some (.completed, "Hi") ∧ t.rowView 21 = some (.failed, "Hi") := by
  have hview : ((exec (ChatState.step defaultDeployment) {}
      (streamToCommit (.raisedAfterCommit .cancelled))).map fun s => s.rowView 21) =
        some (some (.completed, "Hi")) := by decide
  have hrun : ((exec (ChatState.step defaultDeployment) {}
      (streamToCommit (.raisedAfterCommit .cancelled) ++ unwindAndRecord)).map
        fun s => s.rowView 21) = some (some (.failed, "Hi")) := by decide
  obtain ⟨t, ht, hfailed⟩ := Option.map_eq_some_iff.mp hrun
  obtain ⟨s, hs, hst⟩ := exec_append.mp ht
  rw [hs, Option.map_some, Option.some.injEq] at hview
  exact ⟨s, t, hs, hst, hview, hfailed⟩

end Astra.Chat
