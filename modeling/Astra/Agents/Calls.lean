import Astra.Agents.Policy
import Astra.Foundation.Program
import Astra.LLM.Contracts

/-!
# What an agent run asks of its environment

The rows of `agents/model.py`, the awaits and other effects of a run as the calls of
a program, and `ToolExecutor.execute` over them.  An expired `asyncio.timeout` of the
executor is a `TimeoutError` in the answer of `executeTool`; one of the whole run is
the cancellation `Exn.deadline` in whatever answer it interrupts.
-/

namespace Astra.Agents

open Astra.Foundation Astra.Platform Astra.LLM Astra.Tools

structure AgentRun where
  id : UUID
  userId : UUID
  conversationId : UUID
  userMessageId : Option UUID
  assistantMessageId : Option UUID
  provider : String
  model : Option String
  status : String
  allowedTools : List String
  stepCount : Nat
  toolCallCount : Nat
  errorCode : Option String := none
  errorMessage : Option String := none
  runMetadata : Dict

structure AgentStep where
  agentRunId : UUID
  stepNumber : Nat
  kind : String
  status : String
  toolCallId : Option String := none
  toolName : Option String := none
  inputPayload : Dict := []
  outputPayload : Dict := []
  durationMs : Option Int := none
  errorCode : Option String := none
  errorMessage : Option String := none

inductive AgentOp where
  | perfCounter
  | makeTool (name : String)
  | generate (provider : String) (request : LLMRequest)
  /-- `tool.execute(arguments, context)` under the executor's timeout. -/
  | executeTool (tool : Tool) (arguments : Dict) (context : ToolContext)
  | createRun (run : AgentRun)
  | recordStep (step : AgentStep)
  | completeRun (runId : UUID) (stepCount toolCallCount : Nat)
  | setTerminalStatus (runId : UUID) (status : String) (errorCode errorMessage : Option String)

/-- A transaction may have committed and still raise, when it is cancelled after that. -/
structure TxnOutcome where
  committed : Bool
  result : Except Exn Unit

def AgentOp.Answer : AgentOp → Type
  | .perfCounter => Rat
  | .makeTool _ => Except Exn Tool
  | .generate .. => Except Exn LLMResponse
  | .executeTool .. => Except Exn ToolExecutionResult
  | .createRun _ | .recordStep _ | .completeRun .. | .setTerminalStatus .. => TxnOutcome

abbrev AgentEvent := Event AgentOp AgentOp.Answer

abbrev AgentProgram (α : Type) := Program AgentOp AgentOp.Answer (Except Exn α)

def perfCounter {α : Type} (next : Rat → AgentProgram α) : AgentProgram α :=
  .call .perfCounter next

def makeTool (name : String) : AgentProgram Tool := .call (.makeTool name) .done

def generate (provider : String) (request : LLMRequest) : AgentProgram LLMResponse :=
  .call (.generate provider request) .done

def createRun (run : AgentRun) : AgentProgram Unit :=
  .call (.createRun run) fun (outcome : TxnOutcome) => .done outcome.result

def recordStep (step : AgentStep) : AgentProgram Unit :=
  .call (.recordStep step) fun (outcome : TxnOutcome) => .done outcome.result

def completeRun (runId : UUID) (stepCount toolCallCount : Nat) : AgentProgram Unit :=
  .call (.completeRun runId stepCount toolCallCount) fun (outcome : TxnOutcome) =>
    .done outcome.result

def setTerminalStatus (runId : UUID) (status : String) (errorCode errorMessage : Option String) :
    AgentProgram Unit :=
  .call (.setTerminalStatus runId status errorCode errorMessage) fun (outcome : TxnOutcome) =>
    .done outcome.result

def fail {α : Type} (e : Exn) : AgentProgram α := .done (.error e)

/-! ## Executing one tool -/

def toolForbidden (name : String) : Exn :=
  authorizationException ("Tool '" ++ name ++ "' is not allowed for this execution.") .toolForbidden

def toolNotFound (name : String) : Exn :=
  .app .toolNotFound ("Tool '" ++ name ++ "' is not registered.") 404 .null

def resolveTool (registry : ToolRegistry) (name : String) : AgentProgram Tool :=
  if name ∈ registry.names then makeTool name else fail (toolNotFound name)

def toolFailure (name : String) : Exn → Exn
  | .timeoutError _ =>
      .app .toolExecutionFailed ("Tool '" ++ name ++ "' timed out.") 504 .null
  | .other kind _ =>
      .app .toolExecutionFailed ("Tool '" ++ name ++ "' failed.") 502
        (.obj [("exception", .str kind)])
  | e => e

def execute (registry : ToolRegistry) (name : String) (arguments : Dict) (context : ToolContext) :
    AgentProgram ToolExecutionResult :=
  if ∃ allowed, context.allowedTools = some allowed ∧ name ∉ allowed then
    fail (toolForbidden name)
  else
    (resolveTool registry name).andThen fun tool =>
      .call (.executeTool tool arguments context) fun
        | .ok result => .done (.ok result)
        | .error e => fail (toolFailure name e)

end Astra.Agents
