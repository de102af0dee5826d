import Astra.Agents.Runtime

/-!
# The scope of a run

Every tool of a run is executed for the user and in the conversation that the
metadata of the request name.
-/

namespace Astra.Agents

open Astra.Foundation Astra.Platform Astra.LLM Astra.Tools Program

def InContext (context : ToolContext) : AgentOp → Prop
  | .executeTool _ _ context' => context' = context
  | _ => True

theorem metadataUuid_text {rt : PyRuntime} {request : LLMRequest} {key : String} {id found : UUID}
    (h : request.metadata.get? key = some (.str (rt.uuidText id)))
    (hfound : metadataUuid rt request key = .ok found) : found = id := by
  unfold metadataUuid at hfound
  obtain ⟨value, hvalue, hfound⟩ := bind_eq_ok hfound
  cases value with
  | none => cases hfound
  | some value =>
      cases hfound
      unfold optionalMetadataUuid at hvalue
      rw [h] at hvalue
      split at hvalue
      · cases hvalue
      · cases hvalue
      · cases hvalue
      · rename_i text _ _ heq
        cases heq
        rw [rt.str_str, rt.uuidParse_text] at hvalue
        cases hvalue
        rfl

/-! ## The calls of the loop -/

def ToolOp (scope : RunScope) : AgentOp → Prop
  | .executeTool _ _ context => context = toolContext scope
  | .recordStep step => step.agentRunId = scope.run.id
  | .perfCounter | .makeTool _ => True
  | .generate .. | .createRun _ | .completeRun .. | .setTerminalStatus .. => False

def LoopOp (scope : RunScope) : AgentOp → Prop
  | .completeRun runId _ _ => runId = scope.run.id
  | .generate .. => True
  | o => ToolOp scope o

section Loop

variable {registry : ToolRegistry} {scope : RunScope}

theorem recordStep_calls {step : AgentStep} (hstep : step.agentRunId = scope.run.id) :
    Calls (ToolOp scope) (recordStep step) :=
  ⟨hstep, fun _ => trivial⟩

theorem definitions_calls (names : List String) : Calls (ToolOp scope) (definitions names) := by
  induction names with
  | nil => trivial
  | cons name names ih =>
      apply Calls.andThen
      · exact ⟨trivial, fun _ => trivial⟩
      · intro tool
        exact ih.andThen fun _ => trivial

theorem toolDefinitions_calls (registry : ToolRegistry) (allowed : Finset String) :
    Calls (ToolOp scope) (toolDefinitions registry allowed) :=
  (definitions_calls registry.names).andThen fun _ => trivial

theorem execute_calls (name : String) (arguments : Dict) :
    Calls (ToolOp scope) (execute registry name arguments (toolContext scope)) := by
  unfold execute resolveTool
  split_ifs
  · trivial
  · apply Calls.andThen
    · exact ⟨trivial, fun _ => trivial⟩
    · intro tool
      refine ⟨rfl, fun r => ?_⟩
      cases r with
      | ok result => trivial
      | error e => trivial
  · trivial

theorem callTool_calls (s : LoopState) (call : LLMToolCall) :
    Calls (ToolOp scope) (callTool registry scope s call) := by
  refine ⟨trivial, fun started => ?_⟩
  apply (execute_calls call.name call.arguments).bind
  intro r
  rcases r with (_ | _ | _ | _ | _ | _) | result
  case error.app => exact ⟨trivial, fun _ => (recordStep_calls rfl).andThen fun _ => trivial⟩
  case ok => exact ⟨trivial, fun _ => (recordStep_calls rfl).andThen fun _ => trivial⟩
  all_goals trivial

theorem callTools_calls (s : LoopState) (pending : List LLMToolCall) :
    Calls (ToolOp scope) (callTools registry scope s pending) := by
  induction pending generalizing s with
  | nil => trivial
  | cons call pending ih => exact (callTool_calls s call).andThen ih

theorem ToolOp.loopOp (o : AgentOp) (h : ToolOp scope o) : LoopOp scope o := by
  cases o <;> first | exact h | exact h.elim

theorem callModel_calls (tools : List LLMToolDefinition) (iteration : Nat) (s : LoopState) :
    Calls (LoopOp scope) (callModel scope tools iteration s) := by
  refine ⟨trivial, fun started => ⟨trivial, fun r => Calls.mono ?_ ToolOp.loopOp⟩⟩
  cases r with
  | ok response => exact ⟨trivial, fun _ => (recordStep_calls rfl).andThen fun _ => trivial⟩
  | error e =>
      show Calls _ (if e.isException then _ else _)
      split_ifs
      · exact ⟨trivial, fun _ => (recordStep_calls rfl).andThen fun _ => trivial⟩
      · trivial

theorem finish_calls (rt : PyRuntime) (s : LoopState) (response : LLMResponse) :
    Calls (LoopOp scope) (finish rt scope s response) := by
  unfold finish
  rcases Decidable.em (strip response.content = "") with hempty | hempty
  · rw [if_pos hempty]
    trivial
  · rw [if_neg hempty]
    apply Calls.andThen
    · exact ⟨rfl, fun _ => trivial⟩
    · exact fun _ => trivial

theorem modelLoop_calls (rt : PyRuntime) (runtime : AgentRuntime)
    (tools : List LLMToolDefinition) (remaining iteration : Nat) (s : LoopState) :
    Calls (LoopOp scope) (modelLoop rt runtime scope tools remaining iteration s) := by
  induction remaining generalizing iteration s with
  | zero => trivial
  | succ remaining ih =>
      apply (callModel_calls tools iteration s).andThen
      intro response
      show Calls _ (if response.toolCalls.isEmpty then _ else _)
      split_ifs
      · exact finish_calls rt _ response
      · trivial
      · exact ((callTools_calls _ _).mono ToolOp.loopOp).andThen fun s' => ih _ s'

theorem runLoop_calls (rt : PyRuntime) (runtime : AgentRuntime) :
    Calls (LoopOp scope) (runLoop rt runtime scope) := by
  apply Calls.andThen
  · exact (toolDefinitions_calls _ _).mono ToolOp.loopOp
  · exact fun tools => modelLoop_calls rt runtime tools _ _ _

theorem LoopOp.inContext (o : AgentOp) (h : LoopOp scope o) : InContext (toolContext scope) o := by
  cases o <;> first | exact h | trivial

end Loop

section Run

variable {context : ToolContext}

private theorem settle_inContext (runId : UUID) (r : Except Exn LLMResponse) :
    Calls (InContext context) (settle runId r) := by
  have hset : ∀ status code message e, Calls (InContext context)
      ((setTerminalStatus runId status code message).andThen
        fun _ => (fail e : AgentProgram LLMResponse)) := by
    intro status code message e
    apply Calls.andThen
    · exact ⟨trivial, fun _ => trivial⟩
    · exact fun _ => trivial
  rcases r with (_ | _ | _ | _ | _ | _) | response
  case ok => trivial
  case error.generatorExit => trivial
  all_goals exact hset _ _ _ _

theorem run_inContext {rt : PyRuntime} {runtime : AgentRuntime} {runId : UUID} {provider : String}
    {request : LLMRequest}
    (h : ∀ scope, prepareRun rt runtime runId provider request = .ok scope →
      toolContext scope = context) :
    Calls (InContext context) (runtime.run rt runId provider request) := by
  unfold AgentRuntime.run
  cases hprepare : prepareRun rt runtime runId provider request with
  | error e => trivial
  | ok scope =>
      rw [← h scope hprepare]
      apply Calls.andThen
      · exact ⟨trivial, fun _ => trivial⟩
      · intro _
        exact ((runLoop_calls rt runtime).mono LoopOp.inContext).bind (settle_inContext _)

end Run

end Astra.Agents
