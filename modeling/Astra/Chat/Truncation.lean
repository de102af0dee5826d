import Astra.Chat.Aggregation
import Astra.LLM.Ollama

/-!
# Interrupted answers of Ollama

A stream of the adapter behind the chat service: what the lines of a reply must be like
for an interrupted answer to reach the row as a failure.
-/

namespace Astra.Chat

open Astra.Foundation Astra.Platform Astra.Persistence Astra.LLM

/-- No chat service completes its row with the chunks, unless they end behind a finish reason. -/
def CompletesWhole (stream : List LLMChunk × Option Exn) : Prop :=
  ∀ (d : Deployment) (labels : List ChatLabel) (s : ChatState) (userId conversationId : UUID)
    (request : MessageSendRequest) (gen : Generated) (p q : PreparedExchange) (store : Store)
    (wire : List WireLabel) (t : WireState) (row : Message),
    exec (ChatState.step d) {} labels = some s →
      prepareExchange d.py d.config s.store userId conversationId request true gen =
        (.ok p, store) →
      p.needsGeneration = true →
      exec WireState.step (WireState.start p store ⟨stream.1, stream.2⟩) wire = some t →
      t.phase = .completedEvent q row → stream.2 = none ∧ HasFinishReason stream.1

private theorem completesWhole_of_reported {stream : List LLMChunk × Option Exn}
    (h : Reported stream) :
    CompletesWhole stream := by
  intro d labels s userId conversationId request gen p q store wire t row hrun hprepare hneeds
    hexec hcompleted
  obtain ⟨-, reply, now, m, ⟨hending, -⟩, -⟩ :=
    stream_aggregates hrun hprepare hneeds hexec hcompleted
  rcases h with hreported | ⟨e, he, -⟩
  · exact hreported
  · exact absurd (hending.symm.trans he) nofun

/-- For any lines, whatever they hold, and any end of the transport behind them. -/
theorem ollama_stream_reported_iff (json : JsonModule) (py : PyRuntime) (model : String)
    (lines : List String) (ending : TransportEnd) :
    Reported (ollamaStream json py model lines ending) ∧
        CompletesWhole (ollamaStream json py model lines ending) ↔
      Conclusive json lines ending := by
  have hreported : Reported (ollamaStream json py model lines ending) ↔
      Conclusive json lines ending := ollamaStream_reported_iff
  rw [← hreported]
  exact ⟨And.left, fun h => ⟨h, completesWhole_of_reported h⟩⟩

/-! ## An answer that breaks off -/

def harborLine : String := "\x7b\"message\": \x7b\"content\": \"The harbor\"\x7d\x7d"

def runnerStopped : String := "\x7b\"error\": \"model runner has unexpectedly stopped\"\x7d"

def brokenJson : JsonModule :=
  .table
    [(harborLine, .obj [("message", .obj [("content", .str "The harbor")])]),
      (runnerStopped, .obj [("error", .str "model runner has unexpectedly stopped")])]

def brokenStream : List LLMChunk × Option Exn :=
  ollamaStream brokenJson .ascii "roleplay-engine" [harborLine, runnerStopped] .closed

def readBroken : List WireLabel :=
  [.resume .next 100, .resume .next 100, .finish, .collect 110, .resume .next 110, .finish,
    .collect 110, .finish, .collect 120] ++ List.replicate 6 (.resume (.awaited .done) 130)

theorem broken_answer_completed :
    ¬ Reported brokenStream ∧
      ∃ s p store t row,
        exec (ChatState.step defaultDeployment) {} [openConversation10 (some "ollama")] = some s ∧
          prepareExchange defaultDeployment.py defaultDeployment.config s.store 1 10 helloRequest
            true ⟨20, 21, 100⟩ = (.ok p, store) ∧
          exec WireState.step (WireState.start p store ⟨brokenStream.1, brokenStream.2⟩)
            readBroken = some t ∧
          t.phase = .completedEvent p row ∧ row.status = .completed ∧ row.content = "The harbor" ∧
          row.messageMetadata.get? "finish_reason" = none := by
  constructor
  · rintro (⟨-, chunk, hchunk, hreason⟩ | ⟨e, he, -⟩)
    · have hnone : brokenStream.1.map LLMChunk.finishReason = [none, none] := rfl
      have hmem := List.mem_map_of_mem (f := LLMChunk.finishReason) hchunk
      rw [hnone] at hmem
      have hnot : chunk.finishReason = none := by simpa using hmem
      rw [hnot] at hreason
      cases hreason
    · cases he
  · exact ⟨_, _, _, _, _, rfl, rfl, rfl, rfl, rfl, rfl, rfl⟩

end Astra.Chat
