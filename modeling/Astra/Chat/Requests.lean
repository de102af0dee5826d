import Astra.Chat.Finalize
import Astra.LLM.Providers

/-!
# Chat requests as state machines

`send_message`, and `start_stream` with the event iterator of `_stream_events`,
one state for each point at which the code can be suspended: an `await`, or a
`yield` of the iterator.  An input is what the suspended code is resumed with.
`GeneratorExit` reaches the iterator at a `yield` only, by way of `aclose()`.
-/

namespace Astra.Chat

open Astra.Platform Astra.Persistence Astra.LLM Astra.Services

structure ChatExchangeResponse where
  userMessage : MessageResponse
  assistantMessage : MessageResponse
  reused : Bool

/-! ## Locals of the stream -/

def orPrevious (new old : Option String) : Option String :=
  match new with
  | none => old
  | some text => if text = "" then old else some text

structure StreamLocals where
  contentParts : List String := []
  providerResponseId : Option String := none
  finishReason : Option String := none
  tokenUsage : Option Dict := none
  runtimeMetadata : Dict := []

/-- The body of `async for chunk in ...` up to its `yield`. -/
def StreamLocals.feed (locals : StreamLocals) (chunk : LLMChunk) : StreamLocals where
  contentParts :=
    if chunk.content = "" then locals.contentParts else locals.contentParts ++ [chunk.content]
  providerResponseId := orPrevious chunk.providerResponseId locals.providerResponseId
  finishReason := orPrevious chunk.finishReason locals.finishReason
  tokenUsage :=
    match chunk.usage with
    | none => locals.tokenUsage
    | some usage => some usage.modelDump
  runtimeMetadata := Dict.merge locals.runtimeMetadata chunk.metadata

def StreamLocals.content (locals : StreamLocals) : String := String.join locals.contentParts

def replyOfStream (p : PreparedExchange) (locals : StreamLocals) : FinalReply where
  content := locals.content
  providerResponseId := locals.providerResponseId
  tokenUsage := locals.tokenUsage
  metadata :=
    Dict.merge
      [("provider", .str p.provider), ("model", optStr p.llmRequest.model),
        ("finish_reason", optStr locals.finishReason)]
      locals.runtimeMetadata

def replyOfResponse (response : LLMResponse) : FinalReply where
  content := response.content
  providerResponseId := response.providerResponseId
  tokenUsage := response.usage.map LLMUsage.modelDump
  metadata :=
    Dict.merge
      [("provider", .str response.provider), ("model", .str response.model),
        ("finish_reason", optStr response.finishReason)]
      response.metadata

/-! ## Suspension points -/

/-- Where the event iterator is suspended before it finalises. -/
inductive StreamPoint where
  | notStarted
  | created
  | keepAlive
  | delta (text : String)
  | reading
  | draining (e : Exn)
  /-- At `await close()`, after the end of the chunks or with an exception in flight. -/
  | releasing (ending : Option Exn)

inductive ErrorHandler where
  | shielded
  /-- The shielded task goes on while its request has left with an exception. -/
  | detached (e : Exn)
  | plain

inductive Outcome where
  | returned (response : ChatExchangeResponse)
  | raised (e : Exn)
  | streamEnded

inductive Phase where
  | idle
  | generating (p : PreparedExchange)
  | streaming (p : PreparedExchange) (locals : StreamLocals) (point : StreamPoint)
  /-- In `_finalize_success`; `built` is the response once the commit took effect. -/
  | finalizing (streaming : Bool) (p : PreparedExchange) (reply : FinalReply)
      (built : Option MessageResponse) (stage : TxnStage)
  | recording (streaming : Bool) (p : PreparedExchange) (partialContent : String)
      (caught : Exn) (handler : ErrorHandler) (stage : TxnStage)
  | completedEvent (p : PreparedExchange) (message : MessageResponse)
  | errorEvent (p : PreparedExchange) (e : Exn)
  | exited (outcome : Outcome)

inductive Input where
  | next
  | aclose
  | response (response : LLMResponse)
  | timeout
  | chunk (chunk : LLMChunk)
  | exhausted
  | failed (e : Exn)
  | awaited (result : Await)

def Await.deliverable : Await → Bool
  | .done => true
  | .raised e | .raisedAfterCommit e => e.raisedByAwait

def Input.deliverable : Input → Bool
  | .failed e => e.raisedByAwait
  | .awaited result => result.deliverable
  | _ => true

/-! ## Events -/

inductive ChatEvent where
  | created (userMessage assistantMessage : MessageResponse) (reused : Bool)
  | keepAlive
  | delta (messageId : UUID) (text : String)
  | completed (message : MessageResponse)
  | error (messageId : UUID) (code message : String) (details : Json)

def streamError (messageId : UUID) : Exn → ChatEvent
  | .app code message _ details => .error messageId code.value message details
  | _ =>
      .error messageId ErrorCode.chatMessageFailed.value
        "The assistant could not complete this response." .null

def Phase.event : Phase → Option ChatEvent
  | .streaming p _ .created => some (.created p.userMessage p.assistantMessage p.reused)
  | .streaming _ _ .keepAlive => some .keepAlive
  | .streaming p _ (.delta text) => some (.delta p.assistantMessage.id text)
  | .completedEvent _ message => some (.completed message)
  | .errorEvent p e => some (streamError p.assistantMessage.id e)
  | _ => none

/-! ## Transitions -/

def handle (streaming : Bool) (p : PreparedExchange) (partialContent : String) (e : Exn) : Phase :=
  if e.isCancellation then .recording streaming p partialContent e .shielded .lookup
  else if e.isException then .recording streaming p partialContent e .plain .lookup
  else .exited (.raised e)

/-- After `_with_heartbeats` has closed the chunk iterator. -/
def leaveLoop (p : PreparedExchange) (locals : StreamLocals) : Option Exn → Phase
  | none => .finalizing true p (replyOfStream p locals) none .lookup
  | some e => handle true p locals.content e

def resumeStream (p : PreparedExchange) (locals : StreamLocals) :
    StreamPoint → Input → Option Phase
  | .notStarted, .next => some (.streaming p locals .created)
  | .notStarted, .aclose => some (.exited (.raised .generatorExit))
  | .created, .next =>
      if p.needsGeneration then some (.streaming p locals .reading)
      else some (.completedEvent p p.assistantMessage)
  -- This `yield` stands outside the `try` statement.
  | .created, .aclose => some (.exited (.raised .generatorExit))
  | .keepAlive, .next => some (.streaming p locals .reading)
  | .keepAlive, .aclose => some (handle true p locals.content .generatorExit)
  | .delta _, .next => some (.streaming p locals .reading)
  | .delta _, .aclose => some (handle true p locals.content .generatorExit)
  | .reading, .timeout => some (.streaming p locals .keepAlive)
  | .reading, .chunk chunk =>
      some (.streaming p (locals.feed chunk)
        (if chunk.content = "" then .reading else .delta chunk.content))
  | .reading, .exhausted => some (.streaming p locals (.releasing none))
  | .reading, .failed e => some (.streaming p locals (.releasing (some e)))
  | .reading, .awaited (.raised e) => some (.streaming p locals (.draining e))
  | .draining e, .awaited .done => some (.streaming p locals (.releasing (some e)))
  | .draining e, .awaited (.raised e') =>
      if e'.isCancellation then some (.streaming p locals (.releasing (some e)))
      else some (handle true p locals.content e')
  | .releasing ending, .awaited .done => some (leaveLoop p locals ending)
  | .releasing ending, .awaited (.raised e) =>
      if e.isException then some (leaveLoop p locals ending)
      else some (handle true p locals.content e)
  | _, _ => none

def replied (streaming : Bool) (p : PreparedExchange) (message : MessageResponse) : Phase :=
  if streaming then .completedEvent p message
  else .exited (.returned ⟨p.userMessage, message, p.reused⟩)

/-- `row` is the assistant row as the transaction has locked it. -/
def finalizingMove (streaming : Bool) (p : PreparedExchange) (reply : FinalReply)
    (built : Option MessageResponse) (row : Option Message) (store : Store) (now : Timestamp) :
    TxnMove → Option (Phase × Store)
  | .goto stage => some (.finalizing streaming p reply built stage, store)
  | .commit stage =>
      some (.finalizing streaming p reply (row.map (completeMessage reply now)) stage,
        finalizeSuccess reply p.assistantMessage.id now store)
  | .returns => built.map fun message => (replied streaming p message, store)
  -- Only the stream finalises inside its `try` statement.
  | .raises e =>
      some (if streaming then handle true p reply.content e else .exited (.raised e), store)

def resumeFinalizing (streaming : Bool) (p : PreparedExchange) (reply : FinalReply)
    (built : Option MessageResponse) (stage : TxnStage) (store : Store) (result : Await)
    (now : Timestamp) : Option (Phase × Store) :=
  let row := getMessage store.messages p.assistantMessage.id
  (stage.move successPlan row.isSome result).bind
    (finalizingMove streaming p reply built row store now)

def recorded (streaming : Bool) (p : PreparedExchange) (caught : Exn) : ErrorHandler → Phase
  | .shielded => .exited (.raised caught)
  | .detached e => .exited (.raised e)
  | .plain => if streaming then .errorEvent p caught else .exited (.raised caught)

def recordingRaised (e : Exn) : ErrorHandler → Phase
  | .detached e' => .exited (.raised e')
  | .shielded | .plain => .exited (.raised e)

/-- The cancellation of a request does not reach the task that it has shielded. -/
def detaches (handler : ErrorHandler) (result : Await) : Option Exn :=
  match handler, result with
  | .shielded, .raised e => if e.isCancellation then some e else none
  | _, _ => none

def recordingMove (streaming : Bool) (p : PreparedExchange) (partialContent : String)
    (caught : Exn) (handler : ErrorHandler) (store : Store) (now : Timestamp) :
    TxnMove → Phase × Store
  | .goto stage => (.recording streaming p partialContent caught handler stage, store)
  | .commit stage =>
      (.recording streaming p partialContent caught handler stage,
        finalizeFailure partialContent caught p.assistantMessage.id now store)
  | .returns => (recorded streaming p caught handler, store)
  | .raises e => (recordingRaised e handler, store)

def resumeRecording (streaming : Bool) (p : PreparedExchange) (partialContent : String)
    (caught : Exn) (handler : ErrorHandler) (stage : TxnStage) (store : Store) (result : Await)
    (now : Timestamp) : Option (Phase × Store) :=
  match detaches handler result with
  | some e => some (.recording streaming p partialContent caught (.detached e) stage, store)
  | none =>
      let row := getMessage store.messages p.assistantMessage.id
      (stage.move failurePlan row.isSome result).map
        (recordingMove streaming p partialContent caught handler store now)

/-- One step of a request that is under way, `now` being the clock reading of the step. -/
def resume (store : Store) (phase : Phase) (input : Input) (now : Timestamp) :
    Option (Phase × Store) :=
  if input.deliverable then
    match phase, input with
    | .generating p, .response response =>
        some (.finalizing false p (replyOfResponse response) none .lookup, store)
    | .generating p, .awaited (.raised e) => some (handle false p "" e, store)
    | .streaming p locals point, input =>
        (resumeStream p locals point input).map fun phase => (phase, store)
    | .finalizing streaming p reply built stage, .awaited result =>
        resumeFinalizing streaming p reply built stage store result now
    | .recording streaming p partialContent caught handler stage, .awaited result =>
        resumeRecording streaming p partialContent caught handler stage store result now
    | .completedEvent _ _, .next => some (.exited .streamEnded, store)
    | .completedEvent _ _, .aclose => some (.exited (.raised .generatorExit), store)
    | .errorEvent _ _, .next => some (.exited .streamEnded, store)
    | .errorEvent _ _, .aclose => some (.exited (.raised .generatorExit), store)
    | _, _ => none
  else none

/-! ## Arrival -/

structure Deployment where
  py : PyRuntime
  config : AppConfig
  registry : ProviderRegistry
  settings : ProviderSettings

/--
`ChatGenerationService.stream` as `start_stream` calls it: `ChatService` resolves
the provider at once, `AgentChatService.stream` is an asynchronous generator.
-/
def openChunks (d : Deployment) (service : ChatExecutionMode) (provider : String) :
    Except Exn Unit :=
  match service with
  | .direct => resolveProvider d.registry d.settings provider
  | .agent => .ok ()

def start (d : Deployment) (streaming : Bool) (service : ChatExecutionMode) :
    Except Exn PreparedExchange → Phase
  | .error e => .exited (.raised e)
  | .ok p =>
      if p.needsGeneration then
        if streaming then
          match openChunks d service p.provider with
          | .error e => .exited (.raised e)
          | .ok () => .streaming p {} .notStarted
        else .generating p
      else if streaming then .streaming p {} .notStarted
      else .exited (.returned ⟨p.userMessage, p.assistantMessage, true⟩)

end Astra.Chat
