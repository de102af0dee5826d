import Astra.Agents.Budget
import Astra.Agents.Usage
import Mathlib.Data.List.TakeWhile

/-!
# What a run tells the model

Every message list of a run is the instructed request followed by one round for each
response that has asked for tools: the assistant's message and a reply for each call.
The usage that the run returns is folded over the responses of the same history.
-/

namespace Astra.Agents

open Astra.Foundation Astra.Platform Astra.LLM Astra.Tools Program

def response? : AgentEvent → Option LLMResponse
  | ⟨.generate _ _, .ok response⟩ => some response
  | _ => none

def responses (history : List AgentEvent) : List LLMResponse := history.filterMap response?

def asksForTools (response : LLMResponse) : Bool := !response.toolCalls.isEmpty

structure Answers (call : LLMToolCall) (message : LLMMessage) : Prop where
  role : message.role = .tool
  toolCallId : message.toolCallId = some call.id
  name : message.name = some call.name
  toolCalls : message.toolCalls = []

/-- One assistant message with the calls of a response, then one reply for each, in order. -/
def Round (response : LLMResponse) (messages : List LLMMessage) : Prop :=
  ∃ assistant replies, messages = assistant :: replies ∧ assistant.role = .assistant ∧
    assistant.content = response.content ∧ assistant.toolCalls = response.toolCalls ∧
    List.Forall₂ Answers response.toolCalls replies

/-- The instruction stands directly behind the leading system messages. -/
def Instructed (messages instructed : List LLMMessage) : Prop :=
  ∃ leading rest, messages = leading ++ rest ∧ (∀ m ∈ leading, m.role = .system) ∧
    (∀ m, rest.head? = some m → m.role ≠ .system) ∧
    instructed = leading ++ { role := .system, content := agentSystemPrompt } :: rest

/-- The instructed request, then a round for each of the responses that ask for tools. -/
def TranscriptOf (request : LLMRequest) (answered : List LLMResponse)
    (messages : List LLMMessage) : Prop :=
  ∃ instructed rounds, Instructed request.messages instructed ∧
    messages = instructed ++ rounds.flatten ∧
    List.Forall₂ Round (answered.filter asksForTools) rounds

/-! ## Messages -/

section Messages

variable {request : LLMRequest} {answered : List LLMResponse} {messages : List LLMMessage}
  {response : LLMResponse}

private theorem instructed_withAgentInstructions (messages : List LLMMessage) :
    Instructed messages (withAgentInstructions messages) := by
  refine ⟨_, _, List.takeWhile_append_dropWhile.symm, ?_, ?_, rfl⟩
  · intro m hm
    simpa using List.mem_takeWhile_imp hm
  · intro m hm
    have hhead := List.head?_dropWhile_not (fun m : LLMMessage => m.role == .system) messages
    rw [hm] at hhead
    simpa using hhead

theorem TranscriptOf.instructed (request : LLMRequest) :
    TranscriptOf request [] (withAgentInstructions request.messages) :=
  ⟨_, [], instructed_withAgentInstructions request.messages, (List.append_nil _).symm, .nil⟩

theorem completedToolMessage_answers (call : LLMToolCall) (result : ToolExecutionResult) :
    Answers call (completedToolMessage call result) := ⟨rfl, rfl, rfl, rfl⟩

theorem failedToolMessage_answers (call : LLMToolCall) (message : String) :
    Answers call (failedToolMessage call message) := ⟨rfl, rfl, rfl, rfl⟩

private theorem TranscriptOf.round (h : TranscriptOf request answered messages)
    (hasks : asksForTools response = true) {replies : List LLMMessage}
    (hreplies : List.Forall₂ Answers response.toolCalls replies) :
    TranscriptOf request (answered ++ [response])
      (messages ++ [assistantMessage response] ++ replies) := by
  obtain ⟨instructed, rounds, hinstructed, hmessages, hrounds⟩ := h
  refine ⟨instructed, rounds ++ [assistantMessage response :: replies], hinstructed, ?_, ?_⟩
  · rw [hmessages, List.flatten_append, List.flatten_singleton]
    simp only [List.append_assoc, List.singleton_append]
  · rw [List.filter_append, List.filter_singleton, hasks]
    exact List.rel_append hrounds
      (.cons ⟨_, replies, rfl, rfl, rfl, rfl, hreplies⟩ .nil)

end Messages

/-! ## What each part of a run tells -/

def Tells (request : LLMRequest) (history : List AgentEvent) : AgentOp → Prop
  | .generate _ asked => TranscriptOf request (responses history) asked.messages
  | _ => True

def Returns {α : Type} (onOk : List AgentEvent → α → Prop) (history : List AgentEvent) :
    Except Exn α → Prop
  | .ok a => onOk history a
  | .error _ => True

abbrev Transcribes {α : Type} (request : LLMRequest) (history : List AgentEvent)
    (p : AgentProgram α) (onOk : List AgentEvent → α → Prop) : Prop :=
  Ensures (fun _ _ => True) (Tells request) (Returns onOk) p history

/-- The transcript and the usage in the variables of the loop are those of the history. -/
structure Transcript (request : LLMRequest) (history : List AgentEvent) (s : LoopState) : Prop where
  messages : TranscriptOf request (responses history) s.messages
  usage : s.accumulatedUsage = accumulateUsage ((responses history).map LLMResponse.usage)

section Transcribes

variable {request : LLMRequest} {history : List AgentEvent} {α β : Type} {s : LoopState}
  {scope : RunScope}

theorem responses_append (history : List AgentEvent) (e : AgentEvent) :
    responses (history ++ [e]) = responses history ++ (response? e).toList := by
  unfold responses
  rw [List.filterMap_append]
  cases h : response? e <;> simp [h]

theorem responses_silent (history : List AgentEvent) {e : AgentEvent} (h : response? e = none) :
    responses (history ++ [e]) = responses history := by
  rw [responses_append, h]
  exact List.append_nil _

private theorem accumulateUsage_concat (reports : List (Option LLMUsage))
    (report : Option LLMUsage) :
    accumulateUsage (reports ++ [report]) = addUsage (accumulateUsage reports) report := by
  unfold accumulateUsage
  rw [List.foldl_append]
  rfl

theorem Transcribes.andThen {p : AgentProgram α} {f : α → AgentProgram β}
    {onOk : List AgentEvent → α → Prop} {onOk' : List AgentEvent → β → Prop}
    (h : Transcribes request history p onOk)
    (hf : ∀ history a, onOk history a → Transcribes request history (f a) onOk') :
    Transcribes request history (p.andThen f) onOk' := by
  apply Ensures.andThen h hf
  intro history e he
  exact he

theorem perfCounter_transcribes {next : Rat → AgentProgram α} {onOk : List AgentEvent → α → Prop}
    (hnext : ∀ history' t, responses history' = responses history →
      Transcribes request history' (next t) onOk) :
    Transcribes request history (perfCounter next) onOk := by
  refine ⟨trivial, fun t _ => ?_⟩
  exact hnext _ t (responses_silent history rfl)

theorem recordStep_transcribes (step : AgentStep) :
    Transcribes request history (recordStep step) fun history' _ =>
      responses history' = responses history := by
  refine ⟨trivial, fun (outcome : TxnOutcome) _ => ?_⟩
  rcases outcome with ⟨_, _ | _⟩
  · trivial
  · exact responses_silent history rfl

theorem definitions_transcribes (names : List String) :
    Transcribes request history (definitions names) fun history' _ =>
      responses history' = responses history := by
  induction names generalizing history with
  | nil => rfl
  | cons name names ih =>
      refine ⟨trivial, fun r _ => ?_⟩
      cases r with
      | error e => trivial
      | ok tool =>
          have hmade : responses (history ++ [⟨.makeTool name, .ok tool⟩]) = responses history :=
            responses_silent history rfl
          apply Transcribes.andThen ih
          intro history' found hfound
          exact hfound.trans hmade

theorem execute_transcribes (registry : ToolRegistry) (name : String) (arguments : Dict)
    (context : ToolContext) :
    Ensures (fun _ _ => True) (Tells request)
      (fun history' _ => responses history' = responses history)
      (execute registry name arguments context) history := by
  unfold execute
  split_ifs
  · rfl
  · unfold resolveTool
    split_ifs
    · refine ⟨trivial, fun r _ => ?_⟩
      have hmade : responses (history ++ [⟨.makeTool name, r⟩]) = responses history :=
        responses_silent history rfl
      rcases r with e | tool
      · exact hmade
      · refine ⟨trivial, fun r _ => ?_⟩
        have hexecuted : responses (history ++ [⟨.makeTool name, .ok tool⟩] ++
            [⟨.executeTool tool arguments context, r⟩]) =
              responses (history ++ [⟨.makeTool name, .ok tool⟩]) :=
          responses_silent _ rfl
        rcases r with e | result
        · exact hexecuted.trans hmade
        · exact hexecuted.trans hmade
    · rfl

theorem callTool_transcribes (registry : ToolRegistry) (call : LLMToolCall) :
    Transcribes request history (callTool registry scope s call) fun history' s' =>
      responses history' = responses history ∧ s'.accumulatedUsage = s.accumulatedUsage ∧
        ∃ reply, s'.messages = s.messages ++ [reply] ∧ Answers call reply := by
  apply perfCounter_transcribes
  intro history₁ started hstarted
  apply (execute_transcribes registry call.name call.arguments (toolContext scope)).bind
  intro history₂ r hexecuted
  have hrecord : ∀ (step : Rat → AgentStep) (reply : LLMMessage), Answers call reply →
      Transcribes request history₂
        (perfCounter fun stopped => (recordStep (step stopped)).andThen
          fun _ => .done (.ok (s.afterTool reply))) fun history' s' =>
        responses history' = responses history ∧ s'.accumulatedUsage = s.accumulatedUsage ∧
          ∃ reply, s'.messages = s.messages ++ [reply] ∧ Answers call reply := by
    intro step reply hanswers
    apply perfCounter_transcribes
    intro history₃ stopped hstopped
    apply (recordStep_transcribes (step stopped)).andThen
    intro history₄ _ hrecorded
    exact ⟨hrecorded.trans (hstopped.trans (hexecuted.trans hstarted)), rfl, reply, rfl, hanswers⟩
  rcases r with (⟨code, message, _, _⟩ | _ | _ | _ | _ | _) | result
  case error.app => exact hrecord _ _ (failedToolMessage_answers call message)
  case ok => exact hrecord _ _ (completedToolMessage_answers call result)
  all_goals trivial

theorem callTools_transcribes (registry : ToolRegistry) (calls : List LLMToolCall) :
    Transcribes request history (callTools registry scope s calls) fun history' s' =>
      responses history' = responses history ∧ s'.accumulatedUsage = s.accumulatedUsage ∧
        ∃ replies, s'.messages = s.messages ++ replies ∧ List.Forall₂ Answers calls replies := by
  induction calls generalizing history s with
  | nil => exact ⟨rfl, rfl, [], (List.append_nil _).symm, .nil⟩
  | cons call calls ih =>
      apply (callTool_transcribes registry call).andThen
      rintro history₁ s₁ ⟨hsame, husage, reply, hmessages, hanswers⟩
      apply Ensures.mono ih
      intro history₂ r hr
      cases r with
      | error e => trivial
      | ok s₂ =>
          obtain ⟨hsame', husage', replies, hmessages', hreplies⟩ := hr
          refine ⟨hsame'.trans hsame, husage'.trans husage, reply :: replies, ?_,
            .cons hanswers hreplies⟩
          rw [hmessages', hmessages, List.append_assoc, List.singleton_append]

theorem callModel_transcribes {tools : List LLMToolDefinition} {iteration : Nat}
    (h : TranscriptOf request (responses history) s.messages) :
    Transcribes request history (callModel scope tools iteration s) fun history' response =>
      responses history' = responses history ++ [response] := by
  apply perfCounter_transcribes
  intro history₁ started hstarted
  refine ⟨?_, fun r _ => ?_⟩
  · show TranscriptOf request (responses history₁) s.messages
    rw [hstarted]
    exact h
  · rcases r with e | response
    · show Transcribes _ _ (if e.isException then _ else _) _
      split_ifs
      · apply perfCounter_transcribes
        intro history₂ stopped _
        apply (recordStep_transcribes _).andThen
        intro history₃ _ _
        trivial
      · trivial
    · apply perfCounter_transcribes
      intro history₂ stopped hstopped
      apply (recordStep_transcribes _).andThen
      intro history₃ _ hrecorded
      show responses history₃ = _
      rw [hrecorded, hstopped, responses_append, hstarted]
      rfl

def UsageOf (history : List AgentEvent) (r : LLMResponse) : Prop :=
  r.usage = accumulateUsage ((responses history).map LLMResponse.usage)

theorem finish_transcribes {rt : PyRuntime} {response : LLMResponse}
    (h : s.accumulatedUsage = accumulateUsage ((responses history).map LLMResponse.usage)) :
    Transcribes request history (finish rt scope s response) UsageOf := by
  unfold finish
  rcases Decidable.em (strip response.content = "") with hempty | hempty
  · rw [if_pos hempty]
    trivial
  · rw [if_neg hempty]
    refine ⟨trivial, fun (outcome : TxnOutcome) _ => ?_⟩
    rcases outcome with ⟨did, _ | _⟩
    · trivial
    · show s.accumulatedUsage = _
      rw [responses_silent history rfl]
      exact h

theorem modelLoop_transcribes {rt : PyRuntime} {runtime : AgentRuntime}
    {tools : List LLMToolDefinition} {remaining iteration : Nat}
    (h : Transcript request history s) :
    Transcribes request history (modelLoop rt runtime scope tools remaining iteration s)
      UsageOf := by
  induction remaining generalizing history iteration s with
  | zero => trivial
  | succ remaining ih =>
      apply (callModel_transcribes h.messages).andThen
      intro history₁ response hcalled
      have husage : (s.afterModel response).accumulatedUsage =
          accumulateUsage ((responses history₁).map LLMResponse.usage) := by
        rw [hcalled, List.map_append, List.map_singleton, accumulateUsage_concat, ← h.usage]
        rfl
      show Transcribes _ _ (if response.toolCalls.isEmpty then _ else _) _
      split_ifs with hnone hover
      · exact finish_transcribes husage
      · trivial
      · apply (callTools_transcribes runtime.registry response.toolCalls).andThen
        rintro history₂ s₂ ⟨hsame, hkept, replies, hmessages, hreplies⟩
        have hasks : asksForTools response = true := by simp [asksForTools, hnone]
        apply ih
        constructor
        · rw [hmessages, hsame, hcalled]
          exact h.messages.round hasks hreplies
        · rw [hkept, hsame]
          exact husage

theorem runLoop_transcribes {rt : PyRuntime} {runtime : AgentRuntime}
    (hscope : scope.request = request) (hnone : responses history = []) :
    Transcribes request history (runLoop rt runtime scope) UsageOf := by
  apply (definitions_transcribes runtime.registry.names).andThen
    (fun history₁ found hfound => (show Transcribes request history₁ (.done (.ok _))
      fun history' _ => responses history' = [] from hfound.trans hnone)) |>.andThen
  intro history₁ tools htools
  apply modelLoop_transcribes
  constructor
  · rw [htools, ← hscope]
    exact TranscriptOf.instructed scope.request
  · rw [htools]
    rfl

theorem settle_transcribes {runId : UUID} {r : Except Exn LLMResponse}
    (h : Returns UsageOf history r) :
    Transcribes request history (settle runId r) UsageOf := by
  rcases r with e | response
  · cases e with
    | generatorExit => trivial
    | cancelled | deadline | timeoutError | app | other =>
        refine ⟨trivial, fun (outcome : TxnOutcome) _ => ?_⟩
        rcases outcome with ⟨_, _ | _⟩ <;> trivial
  · exact h

end Transcribes

/-! ## A whole run -/

section Run

variable {rt : PyRuntime} {runtime : AgentRuntime} {runId : UUID} {provider : String}
  {request : LLMRequest}

theorem run_transcribes :
    Transcribes request [] (runtime.run rt runId provider request) UsageOf := by
  unfold AgentRuntime.run
  cases hprepare : prepareRun rt runtime runId provider request with
  | error e => trivial
  | ok scope =>
      refine ⟨trivial, fun (outcome : TxnOutcome) _ => ?_⟩
      rcases outcome with ⟨_, _ | _⟩
      · trivial
      · apply (runLoop_transcribes (prepareRun_prepared hprepare).request rfl).bind
        intro history r hr
        exact settle_transcribes hr

theorem run_usage {es : List AgentEvent} {response : LLMResponse}
    (htrace : Trace (runtime.run rt runId provider request) es (some (.ok response))) :
    response.usage = accumulateUsage ((responses es).map LLMResponse.usage) := by
  have hrun : Transcribes request [] (runtime.run rt runId provider request) UsageOf :=
    run_transcribes
  have hpost := (hrun.trace htrace fun _ _ => trivial).2 _ rfl
  rwa [List.nil_append] at hpost

/--
Whatever the model and the tools answer, every message list that a run sends is the
instructed request and one complete round for each earlier response with tool calls.
-/
theorem run_sends_transcripts {es : List AgentEvent} {result : Option (Except Exn LLMResponse)}
    (htrace : Trace (runtime.run rt runId provider request) es result)
    (before after : List AgentEvent) (name : String) (asked : LLMRequest)
    (answer : Except Exn LLMResponse)
    (hes : es = before ++ ⟨.generate name asked, answer⟩ :: after) :
    TranscriptOf request (responses before) asked.messages := by
  have hrun : Transcribes request [] (runtime.run rt runId provider request) UsageOf :=
    run_transcribes
  have htold := (hrun.trace htrace fun _ _ => trivial).1 before _ after hes
  rwa [List.nil_append] at htold

end Run

theorem run_sends_transcripts_lookup :
    ∃ es out before name asked answer after,
      Trace (lookupRuntime.run .ascii 7 "ollama" lookupRequest) es out ∧
      es = before ++ ⟨.generate name asked, answer⟩ :: after ∧
      (responses before).map (fun response => response.toolCalls.map LLMToolCall.id) =
        [["call-1"]] ∧
      asked.messages.map LLMMessage.toolCallId = [none, none, none, some "call-1"] ∧
      TranscriptOf lookupRequest (responses before) asked.messages := by
  have htrace := follow_trace lookupAnswers
    (lookupRuntime.run .ascii 7 "ollama" lookupRequest) []
  -- the thirteenth call is the second one of the model
  have hsplit := List.take_append_drop 12
    ((lookupRuntime.run .ascii 7 "ollama" lookupRequest).follow lookupAnswers []).1
  exact ⟨_, _, _, _, _, _, _, htrace, hsplit.symm, rfl, rfl,
    run_sends_transcripts htrace _ _ _ _ _ hsplit.symm⟩

end Astra.Agents
