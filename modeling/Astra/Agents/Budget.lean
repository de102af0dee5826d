import Astra.Agents.Runtime
import Mathlib.Algebra.Ring.Nat

/-!
# Budgets and authorisation of a run

Every history of a run, whatever the model answers, stays within the two budgets of
the policy, and every tool that is offered or executed is permitted.  The loop
invariant is a ledger of the history: the model calls made, the tools executed, the
tool calls asked for so far, and the length.
-/

namespace Astra.Agents

open Astra.Foundation Astra.Platform Astra.LLM Astra.Tools Program

def isModelCall (e : AgentEvent) : Bool :=
  match e.op with
  | .generate .. => true
  | _ => false

def isExecution (e : AgentEvent) : Bool :=
  match e.op with
  | .executeTool .. => true
  | _ => false

def callsAsked : AgentEvent → Nat
  | ⟨.generate _ _, .ok response⟩ => response.toolCalls.length
  | _ => 0

def callsSoFar (history : List AgentEvent) : Nat := (history.map callsAsked).sum

/-- A registered name is the name in the definition of its tool. -/
def NamesAgree : (o : AgentOp) → o.Answer → Prop
  | .makeTool name, .ok tool => tool.definition.name = name
  | _, _ => True

/-- The name passes the configured list, the registry and the requested list. -/
def AgentRuntime.Authorised (runtime : AgentRuntime) (request : LLMRequest) (name : String) :
    Prop :=
  ∃ requested, requestedTools request = .ok requested ∧
    runtime.policy.Permits runtime.registry requested name

def Offers (tools : List LLMToolDefinition) (permitted : String → Prop) : Prop :=
  (tools.map LLMToolDefinition.name).Nodup ∧
    ∀ name, name ∈ tools.map LLMToolDefinition.name ↔ permitted name

def AgentRuntime.callBound (runtime : AgentRuntime) : Nat :=
  3 + runtime.registry.names.length + 4 * runtime.policy.maxSteps.toNat +
    5 * runtime.policy.maxToolCalls.toNat

/-- What a call may be, after the calls of the history. -/
def Admissible (runtime : AgentRuntime) (permitted : String → Prop) (history : List AgentEvent)
    (o : AgentOp) : Prop :=
  history.length < runtime.callBound ∧
    match o with
    | .generate _ request =>
        history.countP isModelCall < runtime.policy.maxSteps.toNat ∧
          Offers request.tools permitted
    | .executeTool tool _ _ =>
        history.countP isExecution < runtime.policy.maxToolCalls.toNat ∧
          (callsSoFar history : Int) ≤ runtime.policy.maxToolCalls ∧
          permitted tool.definition.name
    | _ => True

/-! ## The ledger -/

structure Ledger (history : List AgentEvent) (models executions calls length : Nat) : Prop where
  models_eq : history.countP isModelCall = models
  executions_le : history.countP isExecution ≤ executions
  calls_eq : callsSoFar history = calls
  length_le : history.length ≤ length

section Ledger

variable {history : List AgentEvent} {models executions calls length : Nat}

theorem Ledger.nil : Ledger [] 0 0 0 0 := ⟨rfl, Nat.le_refl _, rfl, Nat.le_refl _⟩

theorem Ledger.mono {executions' length' : Nat} (h : Ledger history models executions calls length)
    (hexecutions : executions ≤ executions') (hlength : length ≤ length') :
    Ledger history models executions' calls length' :=
  ⟨h.models_eq, Nat.le_trans h.executions_le hexecutions, h.calls_eq,
    Nat.le_trans h.length_le hlength⟩

theorem Ledger.append (h : Ledger history models executions calls length) (e : AgentEvent) :
    Ledger (history ++ [e]) (models + (if isModelCall e then 1 else 0))
      (executions + (if isExecution e then 1 else 0)) (calls + callsAsked e) (length + 1) where
  models_eq := by rw [List.countP_append, h.models_eq, List.countP_singleton]
  executions_le := by
    rw [List.countP_append, List.countP_singleton]
    have := h.executions_le
    omega
  calls_eq := by
    have := h.calls_eq
    simp only [callsSoFar, List.map_append, List.sum_append] at this ⊢
    simp
    omega
  length_le := by
    have := h.length_le
    simp
    omega

theorem Ledger.neutral (h : Ledger history models executions calls length) (e : AgentEvent)
    (hmodel : isModelCall e = false) (hexecution : isExecution e = false)
    (hcalls : callsAsked e = 0) :
    Ledger (history ++ [e]) models executions calls (length + 1) := by
  have := h.append e
  simpa [hmodel, hexecution, hcalls] using this

end Ledger

/-! ## What each part of a run spends -/

/-- After an error only the length matters, since the run asks the model nothing more. -/
def Leaves {α : Type} (length : Nat) (onOk : List AgentEvent → α → Prop)
    (history : List AgentEvent) : Except Exn α → Prop
  | .ok a => onOk history a
  | .error _ => history.length ≤ length

abbrev Spends {α : Type} (runtime : AgentRuntime) (allowed : Finset String)
    (history : List AgentEvent) (p : AgentProgram α) (length : Nat)
    (onOk : List AgentEvent → α → Prop) : Prop :=
  Ensures NamesAgree (Admissible runtime (· ∈ allowed)) (Leaves length onOk) p history

section Spends

variable {runtime : AgentRuntime} {allowed : Finset String} {history : List AgentEvent}
  {models executions calls length : Nat} {α β : Type}

theorem Spends.andThen {p : AgentProgram α} {f : α → AgentProgram β} {length' : Nat}
    {onOk : List AgentEvent → α → Prop} {onOk' : List AgentEvent → β → Prop}
    (h : Spends runtime allowed history p length onOk)
    (hf : ∀ history a, onOk history a → Spends runtime allowed history (f a) length' onOk')
    (hlength : length ≤ length') :
    Spends runtime allowed history (p.andThen f) length' onOk' := by
  apply Ensures.andThen h hf
  intro history e he
  exact Nat.le_trans he hlength

theorem Spends.mono {p : AgentProgram α} {onOk onOk' : List AgentEvent → α → Prop} {length' : Nat}
    (h : Spends runtime allowed history p length onOk)
    (honOk : ∀ history a, onOk history a → onOk' history a) (hlength : length ≤ length') :
    Spends runtime allowed history p length' onOk' := by
  apply Ensures.mono h
  intro history r hr
  cases r with
  | ok a => exact honOk history a hr
  | error e => exact Nat.le_trans hr hlength

theorem perfCounter_spends {next : Rat → AgentProgram α} {onOk : List AgentEvent → α → Prop}
    {length' : Nat} (h : Ledger history models executions calls length)
    (hbound : length < runtime.callBound)
    (hnext : ∀ history t, Ledger history models executions calls (length + 1) →
      Spends runtime allowed history (next t) length' onOk) :
    Spends runtime allowed history (perfCounter next) length' onOk := by
  have hlength := h.length_le
  refine ⟨⟨by omega, trivial⟩, fun t _ => ?_⟩
  exact hnext _ t (h.neutral _ rfl rfl rfl)

theorem makeTool_spends {name : String} (h : Ledger history models executions calls length)
    (hbound : length < runtime.callBound) :
    Spends runtime allowed history (makeTool name) (length + 1) fun history tool =>
      Ledger history models executions calls (length + 1) ∧ tool.definition.name = name := by
  have hlength := h.length_le
  refine ⟨⟨by omega, trivial⟩, fun r hname => ?_⟩
  have hledger := h.neutral ⟨.makeTool name, r⟩ rfl rfl rfl
  cases r with
  | ok tool => exact ⟨hledger, hname⟩
  | error e => exact hledger.length_le

theorem recordStep_spends {step : AgentStep} (h : Ledger history models executions calls length)
    (hbound : length < runtime.callBound) :
    Spends runtime allowed history (recordStep step) (length + 1) fun history _ =>
      Ledger history models executions calls (length + 1) := by
  have hlength := h.length_le
  refine ⟨⟨by omega, trivial⟩, fun outcome _ => ?_⟩
  have hledger := h.neutral ⟨.recordStep step, outcome⟩ rfl rfl rfl
  rcases outcome with ⟨_, _ | _⟩
  · exact hledger.length_le
  · exact hledger

theorem definitions_spends {names : List String}
    (h : Ledger history models executions calls length)
    (hbound : length + names.length ≤ runtime.callBound) :
    Spends runtime allowed history (definitions names) (length + names.length)
      fun history found =>
        Ledger history models executions calls (length + names.length) ∧
          found.map ToolDefinition.name = names := by
  induction names generalizing history length with
  | nil => exact ⟨h, rfl⟩
  | cons name names ih =>
      simp only [List.length_cons] at hbound ⊢
      apply (makeTool_spends h (by omega)).andThen _ (by omega)
      rintro history tool ⟨h, hname⟩
      apply (ih h (by omega)).andThen _ (by omega)
      rintro history found ⟨h, hfound⟩
      refine ⟨h.mono (Nat.le_refl _) (by omega), ?_⟩
      rw [List.map_cons, hname, hfound]

theorem toolDefinitions_spends (h : Ledger history models executions calls length)
    (hallowed : ∀ name ∈ allowed, name ∈ runtime.registry.names)
    (hbound : length + runtime.registry.names.length ≤ runtime.callBound) :
    Spends runtime allowed history (toolDefinitions runtime.registry allowed)
      (length + runtime.registry.names.length) fun history tools =>
        Ledger history models executions calls (length + runtime.registry.names.length) ∧
          Offers tools (· ∈ allowed) := by
  apply (definitions_spends h hbound).andThen _ (Nat.le_refl _)
  rintro history found ⟨h, hfound⟩
  have hnames : ((found.filter fun definition => definition.name ∈ allowed).map toLlmTool).map
      LLMToolDefinition.name = runtime.registry.names.filter fun name => name ∈ allowed := by
    rw [← hfound, List.filter_map, List.map_map]
    rfl
  refine ⟨h, ?_⟩
  unfold Offers
  rw [hnames]
  refine ⟨runtime.registry.nodup.filter _, fun name => ?_⟩
  rw [List.mem_filter, decide_eq_true_iff]
  exact ⟨And.right, fun hname => ⟨hallowed name hname, hname⟩⟩

theorem execute_spends {name : String} {arguments : Dict} {context : ToolContext}
    (h : Ledger history models executions calls length)
    (hcontext : context.allowedTools = some allowed)
    (hexecutions : executions < runtime.policy.maxToolCalls.toNat)
    (hcalls : (calls : Int) ≤ runtime.policy.maxToolCalls)
    (hbound : length + 2 ≤ runtime.callBound) :
    Ensures NamesAgree (Admissible runtime (· ∈ allowed))
      (fun history _ => Ledger history models (executions + 1) calls (length + 2))
      (execute runtime.registry name arguments context) history := by
  unfold execute
  split_ifs with hforbidden
  · exact h.mono (by omega) (by omega)
  · have hname : name ∈ allowed := by
      by_contra hnot
      exact hforbidden ⟨allowed, hcontext, hnot⟩
    unfold resolveTool
    split_ifs with hregistered
    · refine ⟨⟨by have := h.length_le; omega, trivial⟩, fun r hagree => ?_⟩
      have hmade := h.neutral ⟨.makeTool name, r⟩ rfl rfl rfl
      rcases r with e | tool
      · exact hmade.mono (by omega) (by omega)
      · have htool : tool.definition.name = name := hagree
        refine ⟨⟨by have := hmade.length_le; omega, ?_, ?_, ?_⟩, fun r _ => ?_⟩
        · have := hmade.executions_le
          omega
        · rw [hmade.calls_eq]
          exact hcalls
        · rw [htool]
          exact hname
        · have hexecuted := hmade.append ⟨.executeTool tool arguments context, r⟩
          rcases r with e | result
          · exact hexecuted
          · exact hexecuted
    · exact h.mono (by omega) (by omega)

variable {scope : RunScope}

theorem callTool_spends {s : LoopState} {call : LLMToolCall}
    (h : Ledger history models executions calls length)
    (hexecutions : executions < runtime.policy.maxToolCalls.toNat)
    (hcalls : (calls : Int) ≤ runtime.policy.maxToolCalls)
    (hbound : length + 5 ≤ runtime.callBound) :
    Spends runtime scope.allowedTools history (callTool runtime.registry scope s call) (length + 5)
      fun history s' =>
        Ledger history models (executions + 1) calls (length + 5) ∧
          s'.toolCallCount = s.toolCallCount + 1 := by
  apply perfCounter_spends h (by omega)
  intro history started h
  apply (execute_spends h rfl hexecutions hcalls (by omega)).bind
  intro history r h
  rcases r with (⟨code, message, _, _⟩ | _ | _ | _ | _ | _) | result
  case error.app =>
    apply perfCounter_spends h (by omega)
    intro history stopped h
    apply (recordStep_spends h (by omega)).andThen _ (by omega)
    intro history _ h
    exact ⟨h, rfl⟩
  case ok =>
    apply perfCounter_spends h (by omega)
    intro history stopped h
    apply (recordStep_spends h (by omega)).andThen _ (by omega)
    intro history _ h
    exact ⟨h, rfl⟩
  all_goals
    have := h.length_le
    show history.length ≤ length + 5
    omega

theorem callTools_spends {s : LoopState} {pending : List LLMToolCall}
    (h : Ledger history models executions calls length)
    (hexecutions : executions + pending.length ≤ runtime.policy.maxToolCalls.toNat)
    (hcalls : (calls : Int) ≤ runtime.policy.maxToolCalls)
    (hbound : length + 5 * pending.length ≤ runtime.callBound) :
    Spends runtime scope.allowedTools history (callTools runtime.registry scope s pending)
      (length + 5 * pending.length) fun history s' =>
        Ledger history models (executions + pending.length) calls (length + 5 * pending.length) ∧
          s'.toolCallCount = s.toolCallCount + pending.length := by
  induction pending generalizing history executions length s with
  | nil => exact ⟨h, rfl⟩
  | cons call pending ih =>
      simp only [List.length_cons] at hexecutions hbound ⊢
      apply (callTool_spends h (by omega) hcalls (by omega)).andThen _ (by omega)
      rintro history s' ⟨h, hcount⟩
      apply (ih h (by omega) (by omega)).mono _ (by omega)
      rintro history s'' ⟨h, hcount'⟩
      exact ⟨h.mono (by omega) (by omega), by omega⟩

theorem callModel_spends {tools : List LLMToolDefinition} {iteration : Nat} {s : LoopState}
    (h : Ledger history models executions calls length)
    (hoffer : Offers tools (· ∈ allowed))
    (hmodels : models < runtime.policy.maxSteps.toNat)
    (hbound : length + 4 ≤ runtime.callBound) :
    Spends runtime allowed history (callModel scope tools iteration s) (length + 4)
      fun history response =>
        Ledger history (models + 1) executions (calls + response.toolCalls.length)
          (length + 4) := by
  apply perfCounter_spends h (by omega)
  intro history started h
  refine ⟨⟨by have := h.length_le; omega, by rw [h.models_eq]; exact hmodels, hoffer⟩,
    fun r _ => ?_⟩
  have hcalled := h.append ⟨.generate scope.provider (modelRequest scope tools s), r⟩
  rcases r with e | response
  · have hlength := hcalled.length_le
    show Spends _ _ _ (if e.isException then _ else _) _ _
    split_ifs
    · apply perfCounter_spends hcalled (by omega)
      intro history stopped h
      apply (recordStep_spends h (by omega)).andThen _ (by omega)
      intro history _ h
      exact h.length_le
    · show _ ≤ _
      omega
  · apply perfCounter_spends hcalled (by omega)
    intro history stopped h
    apply (recordStep_spends h (by omega)).andThen _ (by omega)
    intro history _ h
    exact h

theorem finish_spends {rt : PyRuntime} {s : LoopState} {response : LLMResponse}
    (hlength : history.length < length) (hbound : length ≤ runtime.callBound) :
    Spends runtime allowed history (finish rt scope s response) length
      fun history _ => history.length ≤ length := by
  unfold finish
  rcases Decidable.em (strip response.content = "") with hempty | hempty
  · rw [if_pos hempty]
    exact Nat.le_of_lt hlength
  · rw [if_neg hempty]
    refine ⟨⟨by omega, trivial⟩, fun outcome _ => ?_⟩
    have hafter : ∀ e : AgentEvent, (history ++ [e]).length ≤ length := by
      intro e
      rw [List.length_append, List.length_singleton]
      omega
    rcases outcome with ⟨_, _ | _⟩
    · exact hafter _
    · exact hafter _

theorem modelLoop_spends {rt : PyRuntime} {tools : List LLMToolDefinition} {remaining : Nat}
    {iteration : Nat} {s : LoopState}
    (h : Ledger history models s.toolCallCount s.toolCallCount length)
    (hoffer : Offers tools (· ∈ scope.allowedTools))
    (hmodels : models + remaining ≤ runtime.policy.maxSteps.toNat)
    (hcount : s.toolCallCount ≤ runtime.policy.maxToolCalls.toNat)
    (hbound : length + 4 * remaining +
      5 * (runtime.policy.maxToolCalls.toNat - s.toolCallCount) + 2 ≤ runtime.callBound) :
    Spends runtime scope.allowedTools history
      (modelLoop rt runtime scope tools remaining iteration s) (runtime.callBound - 1)
      fun history _ => history.length ≤ runtime.callBound - 1 := by
  induction remaining generalizing history models length iteration s with
  | zero =>
      have := h.length_le
      show history.length ≤ runtime.callBound - 1
      omega
  | succ remaining ih =>
      apply (callModel_spends h hoffer (by omega) (by omega)).andThen _ (by omega)
      intro history response h
      have hlength := h.length_le
      show Spends _ _ _ (if response.toolCalls.isEmpty then _ else _) _ _
      split_ifs with hnone hover
      · apply finish_spends (by omega) (by omega)
      · show history.length ≤ runtime.callBound - 1
        omega
      · have hfits : ((s.toolCallCount + response.toolCalls.length : Nat) : Int) ≤
            runtime.policy.maxToolCalls := Int.not_lt.mp hover
        apply (callTools_spends h (by omega) hfits (by omega)).andThen _ (by omega)
        rintro history s' ⟨h, hcount'⟩
        have hcount'' : s'.toolCallCount = s.toolCallCount + response.toolCalls.length := hcount'
        rw [← hcount''] at h
        exact ih h (by omega) (by omega) (by omega)

theorem runLoop_spends {rt : PyRuntime} (h : Ledger history 0 0 0 1)
    (hallowed : ∀ name ∈ scope.allowedTools, name ∈ runtime.registry.names) :
    Spends runtime scope.allowedTools history (runLoop rt runtime scope) (runtime.callBound - 1)
      fun history _ => history.length ≤ runtime.callBound - 1 := by
  unfold AgentRuntime.callBound
  apply (toolDefinitions_spends h hallowed (by unfold AgentRuntime.callBound; omega)).andThen _
    (by omega)
  rintro history tools ⟨h, hoffer⟩
  apply modelLoop_spends h hoffer (by omega) (Nat.zero_le _)
  unfold AgentRuntime.callBound
  dsimp only
  omega

theorem settle_spends {runId : UUID} {r : Except Exn LLMResponse}
    (hlength : history.length ≤ runtime.callBound - 1) :
    Ensures NamesAgree (Admissible runtime (· ∈ allowed)) (fun _ _ => True) (settle runId r)
      history := by
  have hbound : history.length < runtime.callBound := by
    unfold AgentRuntime.callBound at hlength ⊢
    omega
  have hset : ∀ status code message e, Ensures NamesAgree (Admissible runtime (· ∈ allowed))
      (fun _ _ => True)
      ((setTerminalStatus runId status code message).andThen fun _ =>
        (fail e : AgentProgram LLMResponse))
      history := by
    intro status code message e
    refine ⟨⟨hbound, trivial⟩, fun outcome _ => ?_⟩
    rcases outcome with ⟨_, _ | _⟩
    · trivial
    · trivial
  rcases r with (_ | _ | _ | _ | _ | _) | response
  case ok => trivial
  case error.generatorExit => trivial
  all_goals exact hset _ _ _ _

end Spends

/-! ## A whole run -/

section Run

variable {rt : PyRuntime} {runtime : AgentRuntime} {runId : UUID} {provider : String}
  {request : LLMRequest}

theorem prepareRun_allowed {scope : RunScope}
    (h : prepareRun rt runtime runId provider request = .ok scope) (name : String) :
    name ∈ scope.allowedTools ↔ runtime.Authorised request name := by
  obtain ⟨requested, hrequested, hallowed⟩ := (prepareRun_prepared h).allowedTools
  rw [AgentPolicy.mem_resolveAllowedTools hallowed]
  constructor
  · intro hname
    exact ⟨requested, hrequested, hname⟩
  · rintro ⟨requested', hrequested', hname⟩
    rw [hrequested] at hrequested'
    cases hrequested'
    exact hname

theorem run_ensures : Ensures NamesAgree (Admissible runtime (runtime.Authorised request))
    (fun _ _ => True) (runtime.run rt runId provider request) [] := by
  unfold AgentRuntime.run
  cases hprepare : prepareRun rt runtime runId provider request with
  | error e => trivial
  | ok scope =>
      have hpermitted : (· ∈ scope.allowedTools) = runtime.Authorised request := by
        funext name
        exact propext (prepareRun_allowed hprepare name)
      rw [← hpermitted]
      have hallowed : ∀ name ∈ scope.allowedTools, name ∈ runtime.registry.names := by
        intro name hname
        obtain ⟨requested, _, _, hregistered, _⟩ := (prepareRun_allowed hprepare name).mp hname
        exact hregistered
      refine ⟨⟨by unfold AgentRuntime.callBound; simp, trivial⟩, fun outcome _ => ?_⟩
      have hcreated := Ledger.nil.neutral ⟨.createRun scope.run, outcome⟩ rfl rfl rfl
      rcases outcome with ⟨_, e | _⟩
      · trivial
      · apply (runLoop_spends hcreated hallowed).bind
        intro history r hr
        apply settle_spends
        cases r with
        | error e => exact hr
        | ok response => exact hr

private theorem Admissible.modelCall {permitted : String → Prop} {history : List AgentEvent}
    {e : AgentEvent} (h : Admissible runtime permitted history e.op) (he : isModelCall e = true) :
    history.countP isModelCall < runtime.policy.maxSteps.toNat := by
  unfold isModelCall at he
  split at he
  case h_1 name asked hop =>
    rw [hop] at h
    exact h.2.1
  case h_2 => cases he

theorem Admissible.execution {permitted : String → Prop} {history : List AgentEvent}
    {e : AgentEvent} (h : Admissible runtime permitted history e.op) (he : isExecution e = true) :
    history.countP isExecution < runtime.policy.maxToolCalls.toNat ∧
      (callsSoFar history : Int) ≤ runtime.policy.maxToolCalls := by
  unfold isExecution at he
  split at he
  case h_1 tool arguments context hop =>
    rw [hop] at h
    exact ⟨h.2.1, h.2.2.1⟩
  case h_2 => cases he

/--
Whatever the model, the tools and the other calls answer, a run keeps its budgets and
its allow-list, and ends: no history exceeds `callBound`, and an unfinished one goes
on with whatever answer its next call gets.
-/
theorem run_within_budget {es : List AgentEvent} {result : Option (Except Exn LLMResponse)}
    (htrace : Trace (runtime.run rt runId provider request) es result)
    (hnames : ∀ e ∈ es, NamesAgree e.op e.answer) :
    es.countP isModelCall ≤ runtime.policy.maxSteps.toNat ∧
      es.countP isExecution ≤ runtime.policy.maxToolCalls.toNat ∧
      es.length ≤ runtime.callBound ∧
      (result = none →
        (∃ r, Trace (runtime.run rt runId provider request) es (some r)) ∨
          ∃ o, ∀ answer, Trace (runtime.run rt runId provider request) (es ++ [⟨o, answer⟩]) none) ∧
      (∀ name asked response before after,
        es = before ++ ⟨.generate name asked, .ok response⟩ :: after →
        ((callsSoFar before + response.toolCalls.length : Nat) : Int) >
          runtime.policy.maxToolCalls →
        after.countP isExecution = 0) ∧
      (∀ e ∈ es, ∀ tool arguments context, e.op = .executeTool tool arguments context →
        runtime.Authorised request tool.definition.name) ∧
      ∀ e ∈ es, ∀ name asked, e.op = .generate name asked →
        Offers asked.tools (runtime.Authorised request) := by
  have hcalls : ∀ before e after, es = before ++ e :: after →
      Admissible runtime (runtime.Authorised request) before e.op :=
    (run_ensures.trace htrace hnames).1
  have hmem : ∀ e ∈ es, ∃ before, Admissible runtime (runtime.Authorised request) before e.op := by
    intro e he
    obtain ⟨before, after, heq⟩ := List.append_of_mem he
    exact ⟨before, hcalls before e after heq⟩
  refine ⟨?_, ?_, ?_, ?_, ?_, ?_, ?_⟩
  · apply countP_le_of_calls
    intro before e after heq he
    exact (hcalls before e after heq).modelCall he
  · apply countP_le_of_calls
    intro before e after heq he
    exact ((hcalls before e after heq).execution he).1
  · rw [← List.countP_true]
    apply countP_le_of_calls
    intro before e after heq _
    rw [List.countP_true]
    exact (hcalls before e after heq).1
  · rintro rfl
    exact htrace.progress
  · -- an execution behind the response would find its calls within the budget
    intro provider' asked response before after heq hover
    rw [List.countP_eq_zero]
    intro e he hexecution
    obtain ⟨between, rest, rfl⟩ := List.append_of_mem he
    have hwithin := ((hcalls (before ++ ⟨.generate provider' asked, .ok response⟩ :: between) e rest
      (by simp [heq])).execution hexecution).2
    have hsum : callsSoFar (before ++ ⟨.generate provider' asked, .ok response⟩ :: between) =
        callsSoFar before + (response.toolCalls.length + callsSoFar between) := by
      unfold callsSoFar
      rw [List.map_append, List.sum_append, List.map_cons, List.sum_cons]
      rfl
    omega
  · intro e he tool arguments context hop
    obtain ⟨before, h⟩ := hmem e he
    rw [hop] at h
    exact h.2.2.2
  · intro e he name asked hop
    obtain ⟨before, h⟩ := hmem e he
    rw [hop] at h
    exact h.2.2

end Run

/-! ## A run with one lookup -/

def lookupRuntime : AgentRuntime where
  registry := { names := ["lookup"] }
  policy := {
    maxSteps := 4
    maxToolCalls := 4
    timeoutSeconds := 5
    defaultAllowedTools := {"lookup"} }

def lookupTool (name : String) : Tool where
  definition := {
    name := name
    description := "Look up a value for the agent."
    inputSchema := [("type", .str "object")] }

def lookupRequest : LLMRequest where
  messages := [{ role := .user, content := "Find Astra Harbor" }]
  model := some "roleplay-engine"
  metadata := [("user_id", .str "1"), ("conversation_id", .str "2")]

def lookupModel (history : List AgentEvent) : LLMResponse :=
  if history.countP isModelCall = 0 then
    { content := "", model := "roleplay-engine", provider := "ollama",
      toolCalls := [{ id := "call-1", name := "lookup", arguments := [("query", .str "Harbor")] }] }
  else { content := "Found it.", model := "roleplay-engine", provider := "ollama" }

def lookupAnswers (history : List AgentEvent) : (o : AgentOp) → o.Answer
  | .perfCounter => (0 : Rat)
  | .makeTool name => .ok (lookupTool name)
  | .generate _ _ => .ok (lookupModel history)
  | .executeTool tool _ _ =>
      .ok { toolName := tool.definition.name, content := "stored-result:Harbor" }
  | .createRun _ | .recordStep _ | .completeRun .. | .setTerminalStatus .. => ⟨true, .ok ()⟩

private theorem lookupAnswers_agree (history : List AgentEvent) (o : AgentOp) :
    NamesAgree o (lookupAnswers history o) := by
  cases o <;> trivial

theorem run_within_budget_lookup :
    ∃ es r, Trace (lookupRuntime.run .ascii 7 "ollama" lookupRequest) es (some (.ok r)) ∧
      es.countP isModelCall = 2 ∧ es.countP isExecution = 1 ∧ es.countP isModelCall ≤ 4 ∧
      ∀ e ∈ es, ∀ tool arguments context, e.op = .executeTool tool arguments context →
        lookupRuntime.Authorised lookupRequest tool.definition.name := by
  have htrace := follow_trace lookupAnswers
    (lookupRuntime.run .ascii 7 "ollama" lookupRequest) []
  have hnames := follow_admitted lookupAnswers_agree
    (lookupRuntime.run .ascii 7 "ollama" lookupRequest) []
  obtain ⟨hmodels, _, _, _, _, hauthorised, _⟩ := run_within_budget htrace hnames
  exact ⟨_, _, htrace, by decide, by decide, hmodels, hauthorised⟩

end Astra.Agents
