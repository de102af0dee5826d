import Astra.Agents.Settlement
import Astra.Agents.Transcript

/-!
# Recovering from tool calls

A response with tool calls is followed by its turn: one recorded step and one reply for
each call, and then the next model call.  Two failures pass both handlers and abort the
run instead: a step that the columns of `agent_steps` do not take, and a factory that
raises no `AppException`.
-/

namespace Astra.Agents

open Astra.Foundation Astra.Platform Astra.LLM Astra.Tools Program

structure AgentStep.Storable (step : AgentStep) : Prop where
  kind_length : step.kind.length ≤ 32
  status_length : step.status.length ≤ 32
  toolCallId_length : ∀ id ∈ step.toolCallId, id.length ≤ 255
  toolName_length : ∀ name ∈ step.toolName, name.length ≤ 100
  errorCode_length : ∀ code ∈ step.errorCode, code.length ≤ 100
  stepNumber_positive : 0 < step.stepNumber
  kind_values : step.kind = "model" ∨ step.kind = "tool"
  status_values : step.status = "completed" ∨ step.status = "failed"
  duration_nonnegative : ∀ duration ∈ step.durationMs, 0 ≤ duration

instance (step : AgentStep) : Decidable step.Storable :=
  decidable_of_iff
    (step.kind.length ≤ 32 ∧ step.status.length ≤ 32 ∧ (∀ id ∈ step.toolCallId, id.length ≤ 255) ∧
      (∀ name ∈ step.toolName, name.length ≤ 100) ∧ (∀ code ∈ step.errorCode, code.length ≤ 100) ∧
      0 < step.stepNumber ∧ (step.kind = "model" ∨ step.kind = "tool") ∧
      (step.status = "completed" ∨ step.status = "failed") ∧
      ∀ duration ∈ step.durationMs, 0 ≤ duration)
    ⟨fun ⟨h₁, h₂, h₃, h₄, h₅, h₆, h₇, h₈, h₉⟩ => ⟨h₁, h₂, h₃, h₄, h₅, h₆, h₇, h₈, h₉⟩,
      fun ⟨h₁, h₂, h₃, h₄, h₅, h₆, h₇, h₈, h₉⟩ => ⟨h₁, h₂, h₃, h₄, h₅, h₆, h₇, h₈, h₉⟩⟩

/--
Tools, factories and the model may raise any `Exception`; a step is recorded exactly
when its columns take it, and the other transactions go through.
-/
def ToolsMayFail : (o : AgentOp) → o.Answer → Prop
  | .perfCounter, _ => True
  | .makeTool _, r => ∀ e, r = .error e → e.isException = true
  | .generate .., r => ∀ e, r = .error e → e.isException = true
  | .executeTool .., r => ∀ e, r = .error e → e.isException = true
  | .recordStep step, outcome =>
      (step.Storable → outcome = ⟨true, .ok ()⟩) ∧
        (¬ step.Storable → outcome.committed = false ∧
          ∃ kind message, outcome.result = .error (.other kind message))
  | .createRun _, outcome | .completeRun .., outcome | .setTerminalStatus .., outcome =>
      outcome = ⟨true, .ok ()⟩

def persistedToolStep? : AgentEvent → Option AgentStep
  | ⟨.recordStep step, outcome⟩ =>
      if outcome.committed && step.kind == "tool" then some step else none
  | _ => none

def persistedToolSteps (history : List AgentEvent) : List AgentStep :=
  history.filterMap persistedToolStep?

def factoryFails : AgentEvent → Bool
  | ⟨.makeTool _, .error e⟩ => e.code?.isNone
  | _ => false

structure StepOf (call : LLMToolCall) (step : AgentStep) : Prop where
  toolCallId : step.toolCallId = some call.id
  toolName : step.toolName = some call.name

def turn (after : List AgentEvent) : List AgentEvent := after.takeWhile fun e => !isModelCall e

def beyond (after : List AgentEvent) : List AgentEvent := after.dropWhile fun e => !isModelCall e

/--
Each call of the response has one persisted step and one reply, and the loop comes to its
next model call, which is sent the replies, or to its step limit.
-/
def Recovered (asked : LLMRequest) (response : LLMResponse) (after : List AgentEvent)
    (result : Except Exn LLMResponse) : Prop :=
  List.Forall₂ StepOf response.toolCalls (persistedToolSteps (turn after)) ∧
    ((∃ name next answer later, beyond after = ⟨.generate name next, answer⟩ :: later ∧
        ∃ replies, List.Forall₂ Answers response.toolCalls replies ∧
          next.messages = asked.messages ++ assistantMessage response :: replies) ∨
      beyond after = [] ∧ result = .error agentMaxStepsReached)

def Fits (call : LLMToolCall) : Prop := call.name.length ≤ 100 ∧ call.id.length ≤ 255

instance (call : LLMToolCall) : Decidable (Fits call) := inferInstanceAs (Decidable (_ ∧ _))

/-- Every call fits its columns, and no factory of the turn raises past the executor. -/
def Recoverable (response : LLMResponse) (after : List AgentEvent) : Prop :=
  (∀ call ∈ response.toolCalls, Fits call) ∧ (turn after).any factoryFails = false

/-! ## One tool call -/

def Aborting {α : Type} (r : Except Exn α) : Prop :=
  ∃ e, r = .error e ∧ e.isException = true ∧ e.code? = none

theorem durationMs_nonneg (started stopped : Rat) : 0 ≤ durationMs started stopped :=
  le_max_right _ _

@[simp] theorem persistedToolSteps_append (es es' : List AgentEvent) :
    persistedToolSteps (es ++ es') = persistedToolSteps es ++ persistedToolSteps es' :=
  List.filterMap_append

theorem persistedToolSteps_cons_none {e : AgentEvent} {es : List AgentEvent}
    (h : persistedToolStep? e = none) : persistedToolSteps (e :: es) = persistedToolSteps es :=
  List.filterMap_cons_none h

private theorem persistedToolStep?_committed {step : AgentStep} (h : step.kind = "tool") :
    persistedToolStep? ⟨.recordStep step, ⟨true, .ok ()⟩⟩ = some step := by
  simp [persistedToolStep?, h]

section Calls

variable {registry : ToolRegistry} {scope : RunScope} {s : LoopState} {call : LLMToolCall}
  {es : List AgentEvent}

theorem storable_iff_fits {step : AgentStep} (hstep : StepOf call step) (hkind : step.kind = "tool")
    (hstatus : step.status = "completed" ∨ step.status = "failed")
    (hcode : ∀ text, step.errorCode = some text → ∃ code : ErrorCode, text = code.value)
    (hnumber : 0 < step.stepNumber)
    (hduration : ∀ duration, step.durationMs = some duration → 0 ≤ duration) :
    step.Storable ↔ Fits call := by
  constructor
  · intro h
    exact ⟨h.toolName_length _ hstep.toolName, h.toolCallId_length _ hstep.toolCallId⟩
  · rintro ⟨hname, hid⟩
    constructor
    case kind_length =>
      rw [hkind]
      decide
    case status_length => rcases hstatus with h | h <;> rw [h] <;> decide
    case toolCallId_length =>
      intro id h
      rw [hstep.toolCallId, Option.mem_some_iff] at h
      rwa [← h]
    case toolName_length =>
      intro name h
      rw [hstep.toolName, Option.mem_some_iff] at h
      rwa [← h]
    case errorCode_length =>
      intro text h
      obtain ⟨code, rfl⟩ := hcode text h
      exact code.value_length
    case stepNumber_positive => exact hnumber
    case kind_values => exact Or.inr hkind
    case status_values => exact hstatus
    case duration_nonnegative => exact hduration

private theorem completedToolStep_storable {started stopped : Rat} {result : ToolExecutionResult} :
    (completedToolStep scope call s (durationMs started stopped) result).Storable ↔ Fits call :=
  storable_iff_fits ⟨rfl, rfl⟩ rfl (Or.inl rfl) nofun (Nat.succ_pos _)
    (by rintro _ ⟨⟩; exact durationMs_nonneg started stopped)

private theorem failedToolStep_storable {started stopped : Rat} {code : ErrorCode}
    {message : String} :
    (failedToolStep scope call s (durationMs started stopped) code message).Storable ↔ Fits call :=
  storable_iff_fits ⟨rfl, rfl⟩ rfl (Or.inr rfl) (by rintro _ ⟨⟩; exact ⟨code, rfl⟩)
    (Nat.succ_pos _) (by rintro _ ⟨⟩; exact durationMs_nonneg started stopped)

private theorem completedModelStep_storable {iteration : Nat} {started stopped : Rat}
    {response : LLMResponse} :
    (completedModelStep scope iteration s (durationMs started stopped) response).Storable := by
  constructor
  case kind_length => exact (by decide : "model".length ≤ 32)
  case status_length => exact (by decide : "completed".length ≤ 32)
  case toolCallId_length => nofun
  case toolName_length => nofun
  case errorCode_length => nofun
  case stepNumber_positive => exact Nat.succ_pos _
  case kind_values => exact Or.inl rfl
  case status_values => exact Or.inl rfl
  case duration_nonnegative =>
    rintro _ ⟨⟩
    exact durationMs_nonneg started stopped

theorem execute_trace {name : String} {arguments : Dict} {context : ToolContext}
    {r : Except Exn ToolExecutionResult}
    (htrace : Trace (execute registry name arguments context) es (some r))
    (hes : ∀ e ∈ es, ToolsMayFail e.op e.answer) :
    persistedToolSteps es = [] ∧
      ((es.any factoryFails = false ∧ ∀ e, r = .error e → e.code?.isSome = true) ∨
        es.any factoryFails = true ∧ Aborting r) := by
  unfold execute at htrace
  split_ifs at htrace with hforbidden
  · cases htrace
    exact ⟨rfl, Or.inl ⟨rfl, by rintro _ ⟨⟩; rfl⟩⟩
  · unfold resolveTool at htrace
    split_ifs at htrace with hregistered
    · cases htrace with
      | called _ _ made htrace =>
          have hmade := hes _ List.mem_cons_self
          rcases made with e | tool
          · cases htrace
            refine ⟨rfl, ?_⟩
            cases hcode : e.code? with
            | none =>
                exact Or.inr ⟨by simp [factoryFails, hcode], e, rfl, hmade e rfl, hcode⟩
            | some code =>
                exact Or.inl ⟨by simp [factoryFails, hcode], by rintro _ ⟨⟩; simp [hcode]⟩
          · cases htrace with
            | called _ _ executed htrace =>
                have hexecuted := hes _ (List.mem_cons_of_mem _ List.mem_cons_self)
                rcases executed with e | result
                · cases htrace
                  have hraised := hexecuted e rfl
                  refine ⟨rfl, Or.inl ⟨rfl, ?_⟩⟩
                  rintro _ ⟨⟩
                  cases e <;> first | rfl | cases hraised
                · cases htrace
                  exact ⟨rfl, Or.inl ⟨rfl, nofun⟩⟩
    · cases htrace
      exact ⟨rfl, Or.inl ⟨rfl, by rintro _ ⟨⟩; rfl⟩⟩

/-- What a stretch of calls leaves: its steps and replies, or an exception that aborts the run. -/
def Handles (calls : List LLMToolCall) (s : LoopState) (es : List AgentEvent)
    (r : Except Exn LoopState) : Prop :=
  ((∀ call ∈ calls, Fits call) ∧ es.any factoryFails = false ∧
      List.Forall₂ StepOf calls (persistedToolSteps es) ∧
      ∃ s' replies, r = .ok s' ∧ List.Forall₂ Answers calls replies ∧
        s'.messages = s.messages ++ replies ∧
        s'.toolCallCount = s.toolCallCount + calls.length) ∨
    ¬ ((∀ call ∈ calls, Fits call) ∧ es.any factoryFails = false) ∧ Aborting r

theorem Handles.congr {calls : List LLMToolCall} {es' : List AgentEvent} {r : Except Exn LoopState}
    (h : Handles calls s es r) (hsteps : persistedToolSteps es' = persistedToolSteps es)
    (hfails : es'.any factoryFails = es.any factoryFails) : Handles calls s es' r := by
  unfold Handles
  rw [hsteps, hfails]
  exact h

theorem answer_trace {step : Rat → AgentStep} {reply : LLMMessage} {r : Except Exn LoopState}
    (hreply : Answers call reply) (hstep : ∀ stopped, StepOf call (step stopped))
    (hkind : ∀ stopped, (step stopped).kind = "tool")
    (hstorable : ∀ stopped, (step stopped).Storable ↔ Fits call)
    (htrace : Trace (perfCounter fun stopped => (recordStep (step stopped)).andThen fun _ =>
      .done (.ok (s.afterTool reply))) es (some r))
    (hes : ∀ e ∈ es, ToolsMayFail e.op e.answer) :
    es.any factoryFails = false ∧ Handles [call] s es r := by
  cases htrace with
  | called _ _ stopped htrace =>
      cases htrace with
      | called _ _ outcome htrace =>
          obtain ⟨haccept, hrefuse⟩ := hes _ (List.mem_cons_of_mem _ List.mem_cons_self)
          rcases Decidable.em (Fits call) with hfits | hfits
          · obtain rfl := haccept ((hstorable stopped).mpr hfits)
            cases htrace
            refine ⟨rfl, Or.inl ⟨by simpa using hfits, rfl, ?_, s.afterTool reply, [reply], rfl,
              .cons hreply .nil, rfl, rfl⟩⟩
            rw [persistedToolSteps_cons_none rfl, persistedToolSteps,
              List.filterMap_cons_some (persistedToolStep?_committed (hkind stopped))]
            exact .cons (hstep stopped) .nil
          · obtain ⟨-, kind, message, hresult⟩ := hrefuse fun h => hfits ((hstorable stopped).mp h)
            rcases outcome with ⟨did, result⟩
            obtain rfl : result = .error (.other kind message) := hresult
            cases htrace
            exact ⟨rfl, Or.inr ⟨by simp [hfits], _, rfl, rfl, rfl⟩⟩

theorem callTool_trace {r : Except Exn LoopState}
    (htrace : Trace (callTool registry scope s call) es (some r))
    (hes : ∀ e ∈ es, ToolsMayFail e.op e.answer) : Handles [call] s es r := by
  cases htrace with
  | called _ _ started htrace =>
      obtain ⟨es₁, r₁, es₂, rfl, hexecute, hrest⟩ := Trace.of_bind htrace
      obtain ⟨hnone, hraised⟩ := execute_trace hexecute fun e he =>
        hes e (List.mem_cons_of_mem _ (List.mem_append_left es₂ he))
      have hes₂ : ∀ e ∈ es₂, ToolsMayFail e.op e.answer := fun e he =>
        hes e (List.mem_cons_of_mem _ (List.mem_append_right es₁ he))
      have hfails : (⟨.perfCounter, started⟩ :: (es₁ ++ es₂) : List AgentEvent).any factoryFails =
          (es₁.any factoryFails || es₂.any factoryFails) := by
        simp [factoryFails]
      rcases hraised with ⟨hquiet, happ⟩ | ⟨hfailed, e, rfl, hexception, hcode⟩
      · -- a result or an `AppException` is recorded and answered
        have hanswered : es₂.any factoryFails = false ∧ Handles [call] s es₂ r := by
          rcases r₁ with e | result
          · cases e with
            | app code message status details =>
                exact answer_trace (failedToolMessage_answers call message) (fun _ => ⟨rfl, rfl⟩)
                  (fun _ => rfl) (fun _ => failedToolStep_storable) hrest hes₂
            | _ => cases happ _ rfl
          · exact answer_trace (completedToolMessage_answers call result) (fun _ => ⟨rfl, rfl⟩)
              (fun _ => rfl) (fun _ => completedToolStep_storable) hrest hes₂
        apply hanswered.2.congr
        · rw [persistedToolSteps_cons_none rfl, persistedToolSteps_append, hnone, List.nil_append]
        · rw [hfails, hquiet, Bool.false_or]
      · refine Or.inr ⟨by simp [hfails, hfailed], e, ?_, hexception, hcode⟩
        cases e with
        | app code message status details => cases hcode
        | _ =>
            cases hrest
            rfl

theorem callTools_trace {calls : List LLMToolCall} {r : Except Exn LoopState}
    (htrace : Trace (callTools registry scope s calls) es (some r))
    (hes : ∀ e ∈ es, ToolsMayFail e.op e.answer) : Handles calls s es r := by
  induction calls generalizing s es with
  | nil =>
      cases htrace
      exact Or.inl ⟨by simp, rfl, .nil, s, [], rfl, .nil, (List.append_nil _).symm, rfl⟩
  | cons call calls ih =>
      rcases Trace.of_andThen htrace with ⟨es₁, s₁, es₂, rfl, hfirst, hrest⟩ | ⟨e, hfirst, rfl⟩
      · have hcall := callTool_trace hfirst fun e he => hes e (List.mem_append_left es₂ he)
        have hcalls := ih hrest fun e he => hes e (List.mem_append_right es₁ he)
        have hfails : (es₁ ++ es₂).any factoryFails =
            (es₁.any factoryFails || es₂.any factoryFails) := List.any_append
        rcases hcall with ⟨hfits, hquiet, hsteps, s', replies, hok, hreplies, hmessages, hcount⟩ |
          ⟨-, e, he, -⟩
        · cases hok
          rcases hcalls with ⟨hfits', hquiet', hsteps', s'', replies', rfl, hreplies', hmessages',
            hcount'⟩ | ⟨hnot, habort⟩
          · refine Or.inl ⟨?_, by rw [hfails, hquiet, hquiet', Bool.or_self], ?_, s'',
              replies ++ replies', rfl, List.rel_append hreplies hreplies', ?_, ?_⟩
            · intro call' hcall'
              rcases List.mem_cons.mp hcall' with rfl | hcall'
              · exact hfits call' (List.mem_singleton_self call')
              · exact hfits' call' hcall'
            · rw [persistedToolSteps_append]
              exact List.rel_append hsteps hsteps'
            · rw [hmessages', hmessages, List.append_assoc]
            · simp only [List.length_cons, List.length_nil] at hcount ⊢
              omega
          · refine Or.inr ⟨fun h => hnot ⟨fun call' hcall' => ?_, ?_⟩, habort⟩
            · exact h.1 call' (List.mem_cons_of_mem call hcall')
            · have hany := h.2
              rw [hfails, hquiet, Bool.false_or] at hany
              exact hany
        · cases he
      · rcases callTool_trace hfirst hes with ⟨-, -, -, s', -, hok, -⟩ | ⟨hnot, habort⟩
        · cases hok
        · refine Or.inr ⟨fun h => hnot ⟨?_, h.2⟩, ?_⟩
          · simpa using h.1 call List.mem_cons_self
          · obtain ⟨e', he, hexception, hcode⟩ := habort
            cases he
            exact ⟨_, rfl, hexception, hcode⟩

end Calls

/-! ## The turn of a response -/

section Turn

variable {rt : PyRuntime} {runtime : AgentRuntime} {scope : RunScope} {s : LoopState}
  {tools : List LLMToolDefinition} {remaining iteration : Nat} {es : List AgentEvent}
  {r : Except Exn LLMResponse}

theorem toolOp_neither {e : AgentEvent} (h : ToolOp scope e.op) :
    isModelCall e = false ∧ callsAsked e = 0 := by
  rcases e with ⟨op, answer⟩
  cases op <;> first | exact ⟨rfl, rfl⟩ | exact h.elim

def afterRecorded (rt : PyRuntime) (runtime : AgentRuntime) (scope : RunScope)
    (tools : List LLMToolDefinition) (remaining iteration : Nat) (s : LoopState)
    (response : LLMResponse) : AgentProgram LLMResponse :=
  if response.toolCalls.isEmpty then finish rt scope (s.afterModel response) response
  else if (((s.afterModel response).toolCallCount + response.toolCalls.length : Nat) : Int) >
      runtime.policy.maxToolCalls then
    fail agentToolLimitReached
  else
    (callTools runtime.registry scope
      { s.afterModel response with
        messages := (s.afterModel response).messages ++ [assistantMessage response] }
      response.toolCalls).andThen fun s' =>
        modelLoop rt runtime scope tools remaining (iteration + 1) s'

theorem callModel_trace {r : Except Exn LLMResponse}
    (htrace : Trace (callModel scope tools iteration s) es (some r))
    (hes : ∀ e ∈ es, ToolsMayFail e.op e.answer) :
    ∃ started answer rest, es = ⟨.perfCounter, started⟩ ::
        ⟨.generate scope.provider (modelRequest scope tools s), answer⟩ :: rest ∧
      (∀ e ∈ rest, isModelCall e = false ∧ callsAsked e = 0) ∧
      ((∃ response, answer = .ok response ∧ r = .ok response ∧ rest.any factoryFails = false ∧
          persistedToolSteps rest = []) ∨
        ∃ e e', answer = .error e ∧ r = .error e') := by
  cases htrace with
  | called _ _ started htrace =>
  cases htrace with
  | called _ _ answer htrace =>
  refine ⟨started, answer, _, rfl, ?_⟩
  rcases answer with e | response
  · have hfailed : Trace (if e.isException then
        perfCounter fun stopped => (recordStep (failedModelStep scope iteration s
          (durationMs started stopped) e)).andThen fun _ => (fail e : AgentProgram LLMResponse)
        else fail e) _ (some r) := htrace
    split_ifs at hfailed
    · cases hfailed with
      | called _ _ stopped hfailed =>
      cases hfailed with
      | called _ _ outcome hfailed =>
      rcases outcome with ⟨did, e' | ⟨⟩⟩
      · cases hfailed
        exact ⟨by simp [isModelCall, callsAsked], Or.inr ⟨e, e', rfl, rfl⟩⟩
      · cases hfailed
        exact ⟨by simp [isModelCall, callsAsked], Or.inr ⟨e, e, rfl, rfl⟩⟩
    · cases hfailed
      exact ⟨by simp, Or.inr ⟨e, e, rfl, rfl⟩⟩
  · cases htrace with
    | called _ _ stopped htrace =>
    cases htrace with
    | called _ _ outcome htrace =>
    have hrecorded := hes ⟨.recordStep (completedModelStep scope iteration s
      (durationMs started stopped) response), outcome⟩ (by simp)
    obtain rfl := hrecorded.1 completedModelStep_storable
    cases htrace
    exact ⟨by simp [isModelCall, callsAsked], Or.inl ⟨response, rfl, rfl, rfl, rfl⟩⟩

theorem split_behind {p : AgentEvent → Bool} {es₁ es₂ before after : List AgentEvent}
    {e : AgentEvent} (hsplit : es₁ ++ es₂ = before ++ e :: after)
    (hfirst : ∀ e ∈ es₁, p e = false) (he : p e = true) :
    ∃ middle, before = es₁ ++ middle ∧ es₂ = middle ++ e :: after := by
  rcases List.append_eq_append_iff.mp hsplit with
    ⟨middle, hbefore, hafter⟩ | ⟨middle, hbefore, hafter⟩
  · exact ⟨middle, hbefore, hafter⟩
  · cases middle with
    | nil => exact ⟨[], by simpa using hbefore.symm, by simpa using hafter.symm⟩
    | cons e' middle =>
        obtain ⟨rfl, -⟩ := List.cons.inj hafter
        have hmem := hfirst e (by rw [hbefore]; simp)
        rw [hmem] at he
        cases he

private theorem split_before {p : AgentEvent → Bool} {es₁ es₂ before after : List AgentEvent}
    {e : AgentEvent} (hsplit : es₁ ++ es₂ = before ++ e :: after)
    (hsecond : ∀ e ∈ es₂, p e = false) (he : p e = true) :
    ∃ middle, es₁ = before ++ e :: middle ∧ after = middle ++ es₂ := by
  rcases List.append_eq_append_iff.mp hsplit with
    ⟨middle, hbefore, hafter⟩ | ⟨middle, hbefore, hafter⟩
  · have hmem := hsecond e (by simp [hafter])
    rw [hmem] at he
    cases he
  · cases middle with
    | nil =>
        rw [List.nil_append] at hafter
        have hmem := hsecond e (by simp [← hafter])
        rw [hmem] at he
        cases he
    | cons e' middle =>
        obtain ⟨rfl, rfl⟩ := List.cons.inj hafter
        exact ⟨middle, hbefore, rfl⟩

theorem callsSoFar_append (es es' : List AgentEvent) :
    callsSoFar (es ++ es') = callsSoFar es + callsSoFar es' := by
  simp [callsSoFar]

theorem callsSoFar_none {es : List AgentEvent} (h : ∀ e ∈ es, callsAsked e = 0) :
    callsSoFar es = 0 := by
  apply List.sum_eq_zero
  intro n hn
  obtain ⟨e, he, rfl⟩ := List.mem_map.mp hn
  exact h e he

structure Recorded (recorded : List AgentEvent) : Prop where
  neither : ∀ e ∈ recorded, isModelCall e = false
  quiet : recorded.any factoryFails = false
  steps : persistedToolSteps recorded = []

theorem finish_trace {response : LLMResponse}
    (htrace : Trace (finish rt scope s response) es (some r)) :
    ∀ e ∈ es, isModelCall e = false := by
  unfold finish at htrace
  split_ifs at htrace
  · cases htrace
    simp
  · cases htrace with
    | called _ _ outcome htrace =>
    rcases outcome with ⟨did, _ | _⟩
    · cases htrace
      simp [isModelCall]
    · cases htrace
      simp [isModelCall]

theorem no_model_call {before after : List AgentEvent} {e : AgentEvent}
    (h : ∀ e ∈ es, isModelCall e = false) (hsplit : es = before ++ e :: after)
    (he : isModelCall e = true) : False := by
  have hmem := h e (by simp [hsplit])
  rw [hmem] at he
  cases he

private theorem afterRecorded_later {before after : List AgentEvent} {e : AgentEvent}
    {response : LLMResponse}
    (htrace :
      Trace (afterRecorded rt runtime scope tools remaining iteration s response) es (some r))
    (hes : ∀ e ∈ es, ToolsMayFail e.op e.answer) (hsplit : es = before ++ e :: after)
    (he : isModelCall e = true) :
    ∃ called s' middle, before = called ++ middle ∧ callsSoFar called = 0 ∧
      s'.toolCallCount = s.toolCallCount + response.toolCalls.length ∧
      Trace (modelLoop rt runtime scope tools remaining (iteration + 1) s') (middle ++ e :: after)
        (some r) := by
  unfold afterRecorded at htrace
  split_ifs at htrace with hnone hover
  · exact (no_model_call (finish_trace htrace) hsplit he).elim
  · cases htrace
    simp at hsplit
  · rcases Trace.of_andThen htrace with ⟨es₁, s₁, es₂, rfl, htools, hloop⟩ | ⟨_, htools, -⟩
    · have hcalls : ∀ e ∈ es₁, isModelCall e = false ∧ callsAsked e = 0 := fun e he =>
        toolOp_neither ((callTools_calls _ _).trace htools e he)
      obtain ⟨middle, rfl, rfl⟩ := split_behind hsplit (fun e he => (hcalls e he).1) he
      refine ⟨es₁, s₁, middle, rfl, callsSoFar_none fun e he => (hcalls e he).2, ?_, hloop⟩
      rcases callTools_trace htools fun e he => hes e (List.mem_append_left _ he) with
        ⟨-, -, -, s', -, hok, -, -, hcount⟩ | ⟨-, e', he', -⟩
      · cases hok
        exact hcount
      · cases he'
    · refine (no_model_call (fun e he => ?_) hsplit he).elim
      exact (toolOp_neither ((callTools_calls _ _).trace htools e he)).1

private theorem modelLoop_at {before after : List AgentEvent} {name : String} {asked : LLMRequest}
    {response : LLMResponse}
    (htrace : Trace (modelLoop rt runtime scope tools remaining iteration s) es (some r))
    (hes : ∀ e ∈ es, ToolsMayFail e.op e.answer)
    (hsplit : es = before ++ ⟨.generate name asked, .ok response⟩ :: after) :
    ∃ remaining' iteration' s' recorded rest, after = recorded ++ rest ∧
      Recorded recorded ∧ asked.messages = s'.messages ∧
      s'.toolCallCount = s.toolCallCount + callsSoFar before ∧
      Trace (afterRecorded rt runtime scope tools remaining' iteration' s' response) rest
        (some r) := by
  induction remaining generalizing s iteration es before with
  | zero =>
      cases htrace
      simp at hsplit
  | succ remaining ih =>
      rcases Trace.of_andThen htrace with ⟨es₁, response₁, es₂, rfl, hmodel, hrest⟩ |
        ⟨e, hmodel, rfl⟩
      · obtain ⟨started, answer, recorded, rfl, hneither,
          ⟨_, rfl, heq, hquiet, hsteps⟩ | ⟨_, _, _, heq⟩⟩ :=
            callModel_trace hmodel fun e he => hes e (List.mem_append_left es₂ he)
        · cases heq
          have hrecorded : Recorded recorded := ⟨fun e he => (hneither e he).1, hquiet, hsteps⟩
          rcases before with _ | ⟨e₀, _ | ⟨e₁, before⟩⟩
          · cases (List.cons.inj hsplit).1
          · -- the response of this iteration
            cases hsplit
            exact ⟨remaining, iteration, s, recorded, es₂, rfl, hrecorded, rfl, rfl, hrest⟩
          · -- a later response
            simp only [List.cons_append, List.cons.injEq] at hsplit
            obtain ⟨rfl, rfl, hlater⟩ := hsplit
            obtain ⟨middle, rfl, hsplit⟩ := split_behind hlater hrecorded.neither rfl
            have hes₂ : ∀ e ∈ es₂, ToolsMayFail e.op e.answer := fun e he =>
              hes e (List.mem_append_right _ he)
            obtain ⟨called, s₁, middle, rfl, hcalled, hcount, hloop⟩ :=
              afterRecorded_later hrest hes₂ hsplit rfl
            obtain ⟨remaining', iteration', s', recorded', rest, hafter, hrecorded', hmessages,
              hcount', hturn⟩ := ih hloop (fun e he => hes₂ e (by simp_all)) rfl
            refine ⟨remaining', iteration', s', recorded', rest, hafter, hrecorded', hmessages, ?_,
              hturn⟩
            have hbefore : callsSoFar (⟨.perfCounter, started⟩ ::
                ⟨.generate scope.provider (modelRequest scope tools s), .ok response₁⟩ ::
                  (recorded ++ (called ++ middle))) =
                response₁.toolCalls.length + callsSoFar middle := by
              have hnone := callsSoFar_none fun e he => (hneither e he).2
              show
                0 + (response₁.toolCalls.length + callsSoFar (recorded ++ (called ++ middle))) = _
              rw [callsSoFar_append, callsSoFar_append, hnone, hcalled]
              omega
            rw [hcount', hcount, hbefore]
            omega
        · cases heq
      · obtain ⟨started, answer, rest, rfl, hneither, ⟨_, _, heq, _⟩ | ⟨e', _, rfl, _⟩⟩ :=
          callModel_trace hmodel hes
        · cases heq
        · rcases before with _ | ⟨e₀, _ | ⟨e₁, before⟩⟩
          · cases (List.cons.inj hsplit).1
          · cases hsplit
          · simp only [List.cons_append, List.cons.injEq] at hsplit
            exact (no_model_call (fun e he => (hneither e he).1) hsplit.2.2 rfl).elim

private theorem afterRecorded_turn {response : LLMResponse}
    (htrace :
      Trace (afterRecorded rt runtime scope tools remaining iteration s response) es (some r))
    (hes : ∀ e ∈ es, ToolsMayFail e.op e.answer) (hasks : asksForTools response = true)
    (hbudget : (s.toolCallCount + response.toolCalls.length : Int) ≤ runtime.policy.maxToolCalls) :
    ∃ called rest, es = called ++ rest ∧ (∀ e ∈ called, isModelCall e = false) ∧
      (((∀ call ∈ response.toolCalls, Fits call) ∧ called.any factoryFails = false ∧
          List.Forall₂ StepOf response.toolCalls (persistedToolSteps called) ∧
          ((rest = [] ∧ r = .error agentMaxStepsReached) ∨
            ∃ started name next answer later, rest =
                ⟨.perfCounter, started⟩ :: ⟨.generate name next, answer⟩ :: later ∧
              ∃ replies, List.Forall₂ Answers response.toolCalls replies ∧
                next.messages = s.messages ++ assistantMessage response :: replies)) ∨
        rest = [] ∧ Aborting r ∧
          ¬ ((∀ call ∈ response.toolCalls, Fits call) ∧ called.any factoryFails = false)) := by
  unfold afterRecorded at htrace
  split_ifs at htrace with hnone hover
  · simp [asksForTools, hnone] at hasks
  · have hcount : (s.afterModel response).toolCallCount = s.toolCallCount := rfl
    rw [hcount] at hover
    omega
  · have hneither : ∀ {es₁ r₁}, Trace (callTools runtime.registry scope { s.afterModel response with
        messages := (s.afterModel response).messages ++ [assistantMessage response] }
          response.toolCalls) es₁ (some r₁) → ∀ e ∈ es₁, isModelCall e = false :=
      fun htools e he => (toolOp_neither ((callTools_calls _ _).trace htools e he)).1
    rcases Trace.of_andThen htrace with ⟨es₁, s₁, es₂, rfl, htools, hloop⟩ | ⟨e, htools, rfl⟩
    · refine ⟨es₁, es₂, rfl, hneither htools, ?_⟩
      rcases callTools_trace htools fun e he => hes e (List.mem_append_left es₂ he) with
        ⟨hfits, hquiet, hsteps, s', replies, hok, hreplies, hmessages, -⟩ | ⟨-, _, he, -⟩
      · cases hok
        refine Or.inl ⟨hfits, hquiet, hsteps, ?_⟩
        cases remaining with
        | zero =>
            cases hloop
            exact Or.inl ⟨rfl, rfl⟩
        | succ remaining =>
            cases hloop with
            | called _ _ started hloop =>
            cases hloop with
            | called _ _ answer hloop =>
            refine Or.inr ⟨started, _, _, answer, _, rfl, replies, hreplies, ?_⟩
            show s₁.messages = _
            rw [hmessages]
            show s.messages ++ [assistantMessage response] ++ replies = _
            rw [List.append_assoc, List.singleton_append]
      · cases he
    · refine ⟨es, [], (List.append_nil es).symm, hneither htools, Or.inr ⟨rfl, ?_⟩⟩
      rcases callTools_trace htools hes with ⟨-, -, -, _, -, hok, -⟩ | ⟨hnot, e', he, haborts⟩
      · cases hok
      · cases he
        exact ⟨⟨e, rfl, haborts⟩, hnot⟩

theorem settle_turn {runId : UUID} {e : Exn} {tail : List AgentEvent}
    (htrace : Trace (settle runId (.error e)) tail (some r)) (hexception : e.isException = true)
    (hes : ∀ e ∈ tail, ToolsMayFail e.op e.answer) :
    Recorded tail ∧
      (r = .error e ∨ e.code? = none ∧ r = .error agentTimeout) := by
  have hset : ∀ status code message error,
      Trace ((setTerminalStatus runId status code message).andThen fun _ =>
        (fail error : AgentProgram LLMResponse)) tail (some r) →
      Recorded tail ∧ r = .error error := by
    intro status code message error htrace
    cases htrace with
    | called _ _ outcome htrace =>
    have houtcome : outcome = ⟨true, .ok ()⟩ := hes _ List.mem_cons_self
    subst houtcome
    cases htrace
    exact ⟨⟨by simp [isModelCall], rfl, rfl⟩, rfl⟩
  cases e with
  | app code message status details =>
      obtain ⟨hrecorded, hr⟩ := hset _ _ _ _ htrace
      exact ⟨hrecorded, Or.inl hr⟩
  | timeoutError message =>
      obtain ⟨hrecorded, hr⟩ := hset _ _ _ _ htrace
      exact ⟨hrecorded, Or.inr ⟨rfl, hr⟩⟩
  | other kind message =>
      obtain ⟨hrecorded, hr⟩ := hset _ _ _ _ htrace
      exact ⟨hrecorded, Or.inl hr⟩
  | _ => cases hexception

end Turn

/-! ## A whole run -/

section Run

variable {rt : PyRuntime} {runtime : AgentRuntime} {runId : UUID} {provider : String}
  {request : LLMRequest} {response : LLMResponse}

theorem turn_append {es : List AgentEvent} (h : ∀ e ∈ es, isModelCall e = false)
    (es' : List AgentEvent) : turn (es ++ es') = es ++ turn es' :=
  List.takeWhile_append_of_pos (by simpa using h)

theorem beyond_append {es : List AgentEvent} (h : ∀ e ∈ es, isModelCall e = false)
    (es' : List AgentEvent) : beyond (es ++ es') = beyond es' :=
  List.dropWhile_append_of_pos (by simpa using h)

private theorem turn_all {es : List AgentEvent} (h : ∀ e ∈ es, isModelCall e = false) :
    turn es = es ∧ beyond es = [] := by
  have hturn := turn_append h []
  have hbeyond := beyond_append h []
  rw [List.append_nil] at hturn hbeyond
  exact ⟨hturn.trans (List.append_nil es), hbeyond⟩

theorem turn_last {recorded called tail : List AgentEvent} (hrecorded : Recorded recorded)
    (hcalled : ∀ e ∈ called, isModelCall e = false) (htail : Recorded tail) :
    beyond (recorded ++ (called ++ tail)) = [] ∧
      persistedToolSteps (turn (recorded ++ (called ++ tail))) = persistedToolSteps called ∧
      (turn (recorded ++ (called ++ tail))).any factoryFails = called.any factoryFails := by
  have hall : ∀ e ∈ recorded ++ (called ++ tail), isModelCall e = false := by
    intro e he
    simp only [List.mem_append] at he
    rcases he with he | he | he
    · exact hrecorded.neither e he
    · exact hcalled e he
    · exact htail.neither e he
  obtain ⟨hturn, hbeyond⟩ := turn_all hall
  refine ⟨hbeyond, ?_, ?_⟩
  · rw [hturn]
    simp [hrecorded.steps, htail.steps]
  · rw [hturn, List.any_append, List.any_append, hrecorded.quiet, htail.quiet, Bool.false_or,
      Bool.or_false]

private theorem settle_neither {r result : Except Exn LLMResponse} {tail : List AgentEvent}
    (htrace : Trace (settle runId r) tail (some result)) : ∀ e ∈ tail, isModelCall e = false := by
  have hcalls : Calls (fun o => ∀ answer, isModelCall ⟨o, answer⟩ = false) (settle runId r) := by
    rcases r with e | response
    · cases e with
      | generatorExit => trivial
      | _ =>
          apply Calls.andThen
          · exact ⟨fun _ => rfl, fun _ => trivial⟩
          · exact fun _ => trivial
    · trivial
  intro e he
  exact hcalls.trace htrace e he e.answer

theorem run_at {es before after : List AgentEvent} {name : String} {asked : LLMRequest}
    {result : Except Exn LLMResponse}
    (htrace : Trace (runtime.run rt runId provider request) es (some result))
    (hes : ∀ e ∈ es, ToolsMayFail e.op e.answer)
    (hsplit : es = before ++ ⟨.generate name asked, .ok response⟩ :: after) :
    ∃ scope tools remaining iteration s recorded rest r tail, after = recorded ++ (rest ++ tail) ∧
      Recorded recorded ∧ asked.messages = s.messages ∧ s.toolCallCount = callsSoFar before ∧
      Trace (afterRecorded rt runtime scope tools remaining iteration s response) rest (some r) ∧
      Trace (settle scope.run.id r) tail (some result) := by
  obtain ⟨scope, outcome, rest, hprepared, rfl,
    ⟨e, -, rfl, -⟩ | ⟨-, es₁, r, tail, rfl, hloop, hsettle⟩⟩ :=
    run_split htrace (by simp [hsplit])
  · cases before with
    | nil => cases (List.cons.inj hsplit).1
    | cons e₀ before => simp at hsplit
  · cases before with
    | nil => cases (List.cons.inj hsplit).1
    | cons e₀ before =>
        simp only [List.cons_append, List.cons.injEq] at hsplit
        obtain ⟨rfl, hsplit⟩ := hsplit
        obtain ⟨middle, rfl, rfl⟩ := split_before hsplit (settle_neither hsettle) rfl
        rcases Trace.of_andThen hloop with ⟨es₁, tools, es₂, hloops, hoffered, hasked⟩ |
          ⟨e, hoffered, -⟩
        · have hnone : ∀ e ∈ es₁, isModelCall e = false ∧ callsAsked e = 0 := by
            intro e he
            have hop : ToolOp scope e.op := (toolDefinitions_calls _ _).trace hoffered e he
            exact toolOp_neither hop
          obtain ⟨before, rfl, rfl⟩ := split_behind hloops.symm (fun e he => (hnone e he).1) rfl
          obtain ⟨remaining, iteration, s, recorded, rest, rfl, hrecorded, hmessages, hcount,
            hturn⟩ := modelLoop_at hasked (fun e he => hes e (by simp at he ⊢; tauto)) rfl
          refine ⟨scope, tools, remaining, iteration, s, recorded, rest, r, tail,
            List.append_assoc _ _ _, hrecorded, hmessages, ?_, hturn, hsettle⟩
          have hbefore : callsSoFar (⟨.createRun scope.run, outcome⟩ :: (es₁ ++ before)) =
              callsSoFar before := by
            show 0 + callsSoFar (es₁ ++ before) = _
            rw [callsSoFar_append, callsSoFar_none fun e he => (hnone e he).2]
            omega
          rw [hbefore, hcount]
          exact Nat.zero_add _
        · have hnone : ∀ e ∈ before ++ ⟨.generate name asked, .ok response⟩ :: middle,
              isModelCall e = false := by
            intro e he
            have hop : ToolOp scope e.op := (toolDefinitions_calls _ _).trace hoffered e he
            exact (toolOp_neither hop).1
          exact (no_model_call hnone rfl rfl).elim

/--
A response whose calls fit the remaining budget is recovered from exactly when every name
and id fits its column and no factory raises past the executor.
-/
theorem tool_failures_recovered_iff {es before after : List AgentEvent} {name : String}
    {asked : LLMRequest} {result : Except Exn LLMResponse}
    (htrace : Trace (runtime.run rt runId provider request) es (some result))
    (hes : ∀ e ∈ es, ToolsMayFail e.op e.answer)
    (hsplit : es = before ++ ⟨.generate name asked, .ok response⟩ :: after)
    (hasks : asksForTools response = true)
    (hbudget :
      (callsSoFar before + response.toolCalls.length : Int) ≤ runtime.policy.maxToolCalls) :
    Recovered asked response after result ↔ Recoverable response after := by
  obtain ⟨scope, tools, remaining, iteration, s, recorded, rest, r, tail, rfl, hrecorded, hmessages,
    hcount, hturn, hsettle⟩ := run_at htrace hes hsplit
  have hrest : ∀ e ∈ rest, ToolsMayFail e.op e.answer := fun e he => hes e (by simp [hsplit, he])
  have htail : ∀ e ∈ tail, ToolsMayFail e.op e.answer := fun e he => hes e (by simp [hsplit, he])
  obtain ⟨called, rest, rfl, hcalled, hgood | ⟨rfl, ⟨e, rfl, hexception, hcode⟩, hnot⟩⟩ :=
    afterRecorded_turn hturn hrest hasks (by rw [hcount]; exact hbudget)
  · obtain ⟨hfits, hquiet, hsteps,
      ⟨rfl, rfl⟩ | ⟨started, next, asked', answer, later, rfl, hreplies⟩⟩ :=
      hgood
    · -- the loop has reached its step limit
      obtain ⟨htail, rfl | ⟨hcode, -⟩⟩ := settle_turn hsettle rfl htail
      · obtain ⟨hbeyond, hpersisted, hfails⟩ := turn_last hrecorded hcalled htail
        rw [List.append_nil]
        refine iff_of_true ⟨?_, Or.inr ⟨hbeyond, rfl⟩⟩ ⟨hfits, hfails.trans hquiet⟩
        rw [hpersisted]
        exact hsteps
      · cases hcode
    · -- the loop has come to its next model call
      have hfront : ∀ e ∈ recorded ++ (called ++ [⟨.perfCounter, started⟩]),
          isModelCall e = false := by
        intro e he
        simp only [List.mem_append, List.mem_singleton] at he
        rcases he with he | he | rfl
        · exact hrecorded.neither e he
        · exact hcalled e he
        · rfl
      have hafter : recorded ++ (called ++ ⟨.perfCounter, started⟩ ::
            ⟨.generate next asked', answer⟩ :: later ++ tail) =
          recorded ++ (called ++ [⟨.perfCounter, started⟩]) ++
            ⟨.generate next asked', answer⟩ :: (later ++ tail) := by
        simp
      obtain ⟨replies, hreplies, hsent⟩ := hreplies
      have hturn : turn (⟨.generate next asked', answer⟩ :: (later ++ tail)) = [] := rfl
      have hbeyond : beyond (⟨.generate next asked', answer⟩ :: (later ++ tail)) =
          ⟨.generate next asked', answer⟩ :: (later ++ tail) := rfl
      unfold Recovered Recoverable
      rw [hafter, turn_append hfront, beyond_append hfront, hturn, hbeyond, List.append_nil]
      refine iff_of_true ⟨?_, Or.inl ⟨next, asked', answer, _, rfl, replies, hreplies, ?_⟩⟩
        ⟨hfits, ?_⟩
      · have hstarted : persistedToolSteps [⟨.perfCounter, started⟩] = [] := rfl
        rw [persistedToolSteps_append, persistedToolSteps_append, hrecorded.steps, hstarted]
        simpa using hsteps
      · rw [hsent, hmessages]
      · rw [List.any_append, List.any_append, hrecorded.quiet, hquiet]
        rfl
  · -- the run has been aborted
    obtain ⟨htail, hresult⟩ := settle_turn hsettle hexception htail
    obtain ⟨hbeyond, hpersisted, hfails⟩ := turn_last hrecorded hcalled htail
    rw [List.append_nil]
    refine iff_of_false ?_ ?_
    · rintro ⟨-, ⟨_, _, _, _, hnext, -⟩ | ⟨-, hlimit⟩⟩
      · rw [hbeyond] at hnext
        cases hnext
      · rcases hresult with rfl | ⟨-, rfl⟩
        · cases hlimit
          cases hcode
        · cases hlimit
    · rintro ⟨hfits, hquiet⟩
      exact hnot ⟨hfits, hfails.symm.trans hquiet⟩

end Run

/-! ## A failing lookup -/

def storeStep (step : AgentStep) : TxnOutcome :=
  if step.Storable then ⟨true, .ok ()⟩
  else ⟨false, .error (.other "DBAPIError" "value too long for type character varying")⟩

def failingAnswers (model : List AgentEvent → LLMResponse) (history : List AgentEvent) :
    (o : AgentOp) → o.Answer
  | .perfCounter => (0 : Rat)
  | .makeTool name => .ok (lookupTool name)
  | .generate .. => .ok (model history)
  | .executeTool .. => .error (runtimeError "lookup failed")
  | .recordStep step => storeStep step
  | .createRun _ | .completeRun .. | .setTerminalStatus .. => ⟨true, .ok ()⟩

theorem failingAnswers_mayFail (model : List AgentEvent → LLMResponse) (history : List AgentEvent)
    (o : AgentOp) : ToolsMayFail o (failingAnswers model history o) := by
  cases o with
  | perfCounter => trivial
  | makeTool name => nofun
  | generate name request => nofun
  | executeTool tool arguments context => rintro _ ⟨⟩; rfl
  | recordStep step =>
      constructor
      · intro h
        exact if_pos h
      · intro h
        have hrefused : storeStep step = ⟨false, _⟩ := if_neg h
        show (storeStep step).committed = false ∧ ∃ kind message, (storeStep step).result = _
        rw [hrefused]
        exact ⟨rfl, _, _, rfl⟩
  | createRun run => rfl
  | completeRun runId stepCount toolCallCount => rfl
  | setTerminalStatus runId status code message => rfl

theorem tool_failures_recovered_iff_lookup :
    ∃ es result before name asked response after,
      Trace (lookupRuntime.run .ascii 7 "ollama" lookupRequest) es (some result) ∧
      es = before ++ ⟨.generate name asked, .ok response⟩ :: after ∧
      response.toolCalls.length = 1 ∧ Recovered asked response after result := by
  have htrace := follow_trace (failingAnswers lookupModel)
    (lookupRuntime.run .ascii 7 "ollama" lookupRequest) []
  have hes := follow_admitted (failingAnswers_mayFail lookupModel)
    (lookupRuntime.run .ascii 7 "ollama" lookupRequest) []
  have hsplit := List.take_append_drop 3
    ((lookupRuntime.run .ascii 7 "ollama" lookupRequest).follow (failingAnswers lookupModel) []).1
  exact ⟨_, _, _, _, _, _, _, htrace, hsplit.symm, rfl,
    (tool_failures_recovered_iff htrace hes hsplit.symm rfl (by decide)).mpr
      ⟨by decide, by decide +kernel⟩⟩

def longNameModel (history : List AgentEvent) : LLMResponse :=
  if history.countP isModelCall = 0 then
    { content := "", model := "roleplay-engine", provider := "ollama",
      toolCalls := [{ id := "call-1", name := String.ofList (List.replicate 101 'x') }] }
  else { content := "Found it.", model := "roleplay-engine", provider := "ollama" }

/-- One unknown name of 101 characters aborts the run. -/
theorem long_tool_name_aborts_run :
    ∃ es result before name asked response after,
      Trace (lookupRuntime.run .ascii 7 "ollama" lookupRequest) es (some result) ∧
      (∀ e ∈ es, ToolsMayFail e.op e.answer) ∧
      es = before ++ ⟨.generate name asked, .ok response⟩ :: after ∧
      asksForTools response = true ∧
      (callsSoFar before + response.toolCalls.length : Int) ≤ lookupRuntime.policy.maxToolCalls ∧
      ¬ Recovered asked response after result := by
  have htrace := follow_trace (failingAnswers longNameModel)
    (lookupRuntime.run .ascii 7 "ollama" lookupRequest) []
  have hes := follow_admitted (failingAnswers_mayFail longNameModel)
    (lookupRuntime.run .ascii 7 "ollama" lookupRequest) []
  have hsplit := List.take_append_drop 3
    ((lookupRuntime.run .ascii 7 "ollama" lookupRequest).follow (failingAnswers longNameModel) []).1
  have hbeyond : (beyond (((lookupRuntime.run .ascii 7 "ollama" lookupRequest).follow
      (failingAnswers longNameModel) []).1.drop 4)).isEmpty = true := by decide +kernel
  have hfailed : (match ((lookupRuntime.run .ascii 7 "ollama" lookupRequest).follow
      (failingAnswers longNameModel) []).2 with
    | .error e => e.code?.isNone
    | .ok _ => false) = true := by decide +kernel
  refine ⟨_, _, _, _, _, _, _, htrace, hes, hsplit.symm, rfl, by decide, ?_⟩
  rintro ⟨-, ⟨_, _, _, _, hnext, -⟩ | ⟨-, hlimit⟩⟩
  · have hnone := List.isEmpty_iff.mp hbeyond
    exact absurd (hnone.symm.trans hnext) (by simp)
  · rw [hlimit] at hfailed
    cases hfailed

end Astra.Agents
