import Astra.Agents.Budget
import Astra.Foundation.Table

/-!
# The recorded trace of a run

The tables `agent_runs` and `agent_steps` under the transactions of a run.  Every
committed state numbers the steps without gaps and counts them in the run's row, and
when a run exits behind its terminal transaction the row tells how.
-/

namespace Astra.Agents

open Astra.Foundation Astra.Platform Astra.LLM Astra.Tools Program

structure TraceStore where
  runs : List AgentRun
  steps : List AgentStep

namespace TraceStore

/-- `SELECT ... WHERE id = :run_id`, with the rows of the table rather than one of them. -/
def runsOf (store : TraceStore) (runId : UUID) : List AgentRun :=
  store.runs.filter fun run => run.id == runId

def stepsOf (store : TraceStore) (runId : UUID) : List AgentStep :=
  store.steps.filter fun step => step.agentRunId == runId

def changeRun (store : TraceStore) (runId : UUID) (change : AgentRun → AgentRun) : TraceStore :=
  { store with runs := updateWhere (fun run => run.id == runId) change store.runs }

def addRun (store : TraceStore) (run : AgentRun) : TraceStore :=
  { store with runs := store.runs ++ [run] }

def recordStep (store : TraceStore) (step : AgentStep) : TraceStore :=
  { store with steps := store.steps ++ [step] }.changeRun step.agentRunId fun run =>
    { run with
      stepCount := max run.stepCount step.stepNumber
      toolCallCount := if step.kind = "tool" then run.toolCallCount + 1 else run.toolCallCount }

def completeRun (store : TraceStore) (runId : UUID) (stepCount toolCallCount : Nat) : TraceStore :=
  store.changeRun runId fun run => { run with status := "completed", stepCount, toolCallCount }

def setTerminalStatus (store : TraceStore) (runId : UUID) (status : String)
    (errorCode errorMessage : Option String) : TraceStore :=
  store.changeRun runId fun run => { run with status, errorCode, errorMessage }

def write (store : TraceStore) : AgentOp → TraceStore
  | .createRun run => store.addRun run
  | .recordStep step => store.recordStep step
  | .completeRun runId stepCount toolCallCount => store.completeRun runId stepCount toolCallCount
  | .setTerminalStatus runId status errorCode errorMessage =>
      store.setTerminalStatus runId status errorCode errorMessage
  | .perfCounter | .makeTool _ | .generate .. | .executeTool .. => store

end TraceStore

def outcome? : AgentEvent → Option TxnOutcome
  | ⟨.createRun _, outcome⟩ | ⟨.recordStep _, outcome⟩ | ⟨.completeRun .., outcome⟩
  | ⟨.setTerminalStatus .., outcome⟩ => some outcome
  | _ => none

def committed (e : AgentEvent) : Bool := (outcome? e).any TxnOutcome.committed

def TraceStore.after (store : TraceStore) (e : AgentEvent) : TraceStore :=
  if committed e then store.write e.op else store

/-- The committed state behind a history. -/
def TraceStore.behind (store : TraceStore) (es : List AgentEvent) : TraceStore :=
  es.foldl TraceStore.after store

def isTerminal : AgentOp → Bool
  | .completeRun .. | .setTerminalStatus .. => true
  | _ => false

/-- The last call is a terminal transaction, which has committed and returned. -/
def TerminalCommitted (es : List AgentEvent) : Prop :=
  ∃ e, es.getLast? = some e ∧ isTerminal e.op = true ∧ outcome? e = some ⟨true, .ok ()⟩

/-- What an `await` raises is no `GeneratorExit`, and a transaction that returns has committed. -/
def Awaited : (o : AgentOp) → o.Answer → Prop
  | .perfCounter, _ => True
  | .makeTool _, r => ∀ e, r = .error e → e.raisedByAwait = true
  | .generate .., r => ∀ e, r = .error e → e.raisedByAwait = true
  | .executeTool .., r => ∀ e, r = .error e → e.raisedByAwait = true
  | .createRun _, outcome | .recordStep _, outcome | .completeRun .., outcome
  | .setTerminalStatus .., outcome =>
      (∀ e, outcome.result = .error e → e.raisedByAwait = true) ∧
        (outcome.result = .ok () → outcome.committed = true)

/-! ## What a trace shows -/

/-- The steps of a run are numbered from one without gaps, and its row counts them. -/
def Numbered (store : TraceStore) (runId : UUID) : Prop :=
  ∀ run ∈ store.runsOf runId,
    (store.stepsOf runId).map AgentStep.stepNumber = List.range' 1 run.stepCount ∧
      (store.stepsOf runId).countP (fun step => step.kind == "tool") = run.toolCallCount

def EndsWithAnswer (steps : List AgentStep) : Prop :=
  ∃ step, steps.getLast? = some step ∧ step.kind = "model" ∧ step.status = "completed" ∧
    step.outputPayload.get? "tool_calls" = some (.arr [])

/-- The row tells how the run has exited. -/
def Agrees (run : AgentRun) (steps : List AgentStep) : Except Exn LLMResponse → Prop
  | .ok response =>
      run.status = "completed" ∧ EndsWithAnswer steps ∧
        response.metadata.get? "agent_step_count" = some (.int run.stepCount) ∧
        response.metadata.get? "agent_tool_call_count" = some (.int run.toolCallCount)
  | .error .cancelled => run.status = "cancelled"
  | .error e => run.status = "failed" ∧ run.errorCode = some e.codeValue

/-- `uuid4()` has given the run an id that no row uses. -/
def TraceStore.Fresh (store : TraceStore) (runId : UUID) : Prop :=
  (∀ run ∈ store.runs, run.id ≠ runId) ∧ ∀ step ∈ store.steps, step.agentRunId ≠ runId

/-! ## The transactions -/

structure Traced (store : TraceStore) (runId : UUID) (steps tools : Nat) : Prop where
  row : ∃ run, store.runsOf runId = [run] ∧ run.stepCount = steps ∧ run.toolCallCount = tools
  numbers : (store.stepsOf runId).map AgentStep.stepNumber = List.range' 1 steps
  counted : (store.stepsOf runId).countP (fun step => step.kind == "tool") = tools

section Transactions

variable {store : TraceStore} {runId : UUID} {steps tools : Nat}

theorem runsOf_changeRun {change : AgentRun → AgentRun} {run : AgentRun}
    (hrun : store.runsOf runId = [run]) (hid : ∀ run, (change run).id = run.id) :
    (store.changeRun runId change).runsOf runId = [change run] := by
  have hself : (run.id == runId) = true := by
    have hmem : run ∈ store.runsOf runId := by rw [hrun]; exact List.mem_singleton_self run
    exact (List.mem_filter.mp hmem).2
  unfold TraceStore.runsOf TraceStore.changeRun
  rw [filter_updateWhere_comm _ fun run _ _ => by rw [hid]]
  have hrows : store.runs.filter (fun run => run.id == runId) = [run] := hrun
  simp only [hrows, updateWhere, List.map_cons, List.map_nil, hself, if_true]

theorem stepsOf_recordStep {step : AgentStep} (hstep : step.agentRunId = runId) :
    (store.recordStep step).stepsOf runId = store.stepsOf runId ++ [step] := by
  show (store.steps ++ [step]).filter _ = _
  rw [List.filter_append, List.filter_singleton, hstep, beq_self_eq_true]
  rfl

theorem Traced.numbered (h : Traced store runId steps tools) : Numbered store runId := by
  obtain ⟨run, hrun, hsteps, htools⟩ := h.row
  intro run' hrun'
  rw [hrun, List.mem_singleton] at hrun'
  subst hrun'
  rw [hsteps, htools]
  exact ⟨h.numbers, h.counted⟩

theorem runsOf_addRun {run : AgentRun} (hfresh : store.Fresh run.id) :
    (store.addRun run).runsOf run.id = [run] := by
  have hold : store.runs.filter (fun run' => run'.id == run.id) = [] := by
    apply List.filter_eq_nil_iff.mpr
    intro run' hrun'
    simpa using hfresh.1 run' hrun'
  show (store.runs ++ [run]).filter _ = _
  rw [List.filter_append, List.filter_singleton, beq_self_eq_true, hold]
  rfl

theorem Traced.addRun {run : AgentRun} (hfresh : store.Fresh run.id) (hsteps : run.stepCount = 0)
    (htools : run.toolCallCount = 0) : Traced (store.addRun run) run.id 0 0 := by
  have hnone : (store.addRun run).stepsOf run.id = [] := by
    apply List.filter_eq_nil_iff.mpr
    intro step hstep
    simpa using hfresh.2 step hstep
  constructor
  · exact ⟨run, runsOf_addRun hfresh, hsteps, htools⟩
  · rw [hnone]
    rfl
  · rw [hnone]
    rfl

theorem Traced.recordStep (h : Traced store runId steps tools) {step : AgentStep}
    (hstep : step.agentRunId = runId) (hnumber : step.stepNumber = steps + 1) :
    Traced (store.recordStep step) runId (steps + 1)
      (if step.kind = "tool" then tools + 1 else tools) := by
  obtain ⟨run, hrun, hsteps, htools⟩ := h.row
  constructor
  · subst hstep
    have hsame :
        { store with steps := store.steps ++ [step] }.runsOf step.agentRunId = [run] := hrun
    refine ⟨_, runsOf_changeRun hsame fun _ => rfl, ?_, ?_⟩
    · simp only [hnumber, hsteps]
      omega
    · simp only [htools]
  · rw [stepsOf_recordStep hstep, List.map_append, h.numbers, List.range'_concat]
    simp only [List.map_cons, List.map_nil, hnumber]
    congr 2
    omega
  · rw [stepsOf_recordStep hstep, List.countP_append, h.counted, List.countP_singleton]
    by_cases hkind : step.kind = "tool" <;> simp [hkind]

theorem Traced.completeRun (h : Traced store runId steps tools) :
    Traced (store.completeRun runId steps tools) runId steps tools ∧
      ∀ run ∈ (store.completeRun runId steps tools).runsOf runId, run.status = "completed" := by
  obtain ⟨run, hrun, hsteps, htools⟩ := h.row
  have hrows : (store.completeRun runId steps tools).runsOf runId =
      [{ run with status := "completed", stepCount := steps, toolCallCount := tools }] := by
    exact runsOf_changeRun hrun fun _ => rfl
  refine ⟨⟨⟨_, hrows, rfl, rfl⟩, h.numbers, h.counted⟩, ?_⟩
  intro run' hrun'
  rw [hrows, List.mem_singleton] at hrun'
  rw [hrun']

theorem Traced.setTerminalStatus (h : Traced store runId steps tools) (status : String)
    (errorCode errorMessage : Option String) :
    Traced (store.setTerminalStatus runId status errorCode errorMessage) runId steps tools ∧
      ∀ run ∈ (store.setTerminalStatus runId status errorCode errorMessage).runsOf runId,
        run.status = status ∧ run.errorCode = errorCode := by
  obtain ⟨run, hrun, hsteps, htools⟩ := h.row
  have hrows : (store.setTerminalStatus runId status errorCode errorMessage).runsOf runId =
      [{ run with status, errorCode, errorMessage }] := by
    exact runsOf_changeRun hrun fun _ => rfl
  refine ⟨⟨⟨_, hrows, hsteps, htools⟩, h.numbers, h.counted⟩, ?_⟩
  intro run' hrun'
  rw [hrows, List.mem_singleton] at hrun'
  rw [hrun']
  exact ⟨rfl, rfl⟩

theorem behind_append (es : List AgentEvent) (e : AgentEvent) :
    store.behind (es ++ [e]) = (store.behind es).after e := by
  unfold TraceStore.behind
  rw [List.foldl_append]
  rfl

theorem behind_uncommitted (es : List AgentEvent) {e : AgentEvent} (h : committed e = false) :
    store.behind (es ++ [e]) = store.behind es := by
  rw [behind_append, TraceStore.after, if_neg (by simp [h])]

theorem behind_committed (es : List AgentEvent) {e : AgentEvent} (h : committed e = true) :
    store.behind (es ++ [e]) = (store.behind es).write e.op := by
  rw [behind_append, TraceStore.after, if_pos h]

end Transactions

/-! ## What each part of a run records -/

/-- After an error the rows stay consistent, whatever step the error has interrupted. -/
def Exits {α : Type} (store : TraceStore) (runId : UUID) (onOk : List AgentEvent → α → Prop)
    (history : List AgentEvent) : Except Exn α → Prop
  | .ok a => onOk history a
  | .error e =>
      (∃ steps tools, Traced (store.behind history) runId steps tools) ∧ e.raisedByAwait = true

abbrev Records {α : Type} (store : TraceStore) (runId : UUID) (history : List AgentEvent)
    (p : AgentProgram α) (onOk : List AgentEvent → α → Prop) : Prop :=
  Ensures Awaited (fun history _ => Numbered (store.behind history) runId)
    (Exits store runId onOk) p history

abbrev LoopTraced (store : TraceStore) (runId : UUID) (history : List AgentEvent) (s : LoopState) :
    Prop :=
  Traced (store.behind history) runId s.stepNumber s.toolCallCount

def LastAnswered (store : TraceStore) (runId : UUID) (history : List AgentEvent)
    (response : LLMResponse) : Prop :=
  ∃ step, ((store.behind history).stepsOf runId).getLast? = some step ∧ step.kind = "model" ∧
    step.status = "completed" ∧ step.outputPayload = modelOutput response

section Records

variable {store : TraceStore} {runId : UUID} {history : List AgentEvent} {steps tools : Nat}
  {α β : Type}

theorem Records.andThen {p : AgentProgram α} {f : α → AgentProgram β}
    {onOk : List AgentEvent → α → Prop} {onOk' : List AgentEvent → β → Prop}
    (h : Records store runId history p onOk)
    (hf : ∀ history a, onOk history a → Records store runId history (f a) onOk') :
    Records store runId history (p.andThen f) onOk' := by
  apply Ensures.andThen h hf
  intro history e he
  exact he

theorem perfCounter_records {next : Rat → AgentProgram α} {onOk : List AgentEvent → α → Prop}
    (h : Traced (store.behind history) runId steps tools)
    (hnext : ∀ history' t, store.behind history' = store.behind history →
      Records store runId history' (next t) onOk) :
    Records store runId history (perfCounter next) onOk := by
  refine ⟨h.numbered, fun t _ => ?_⟩
  exact hnext _ t (behind_uncommitted _ rfl)

theorem makeTool_records {name : String} (h : Traced (store.behind history) runId steps tools) :
    Records store runId history (makeTool name) fun history' _ =>
      store.behind history' = store.behind history := by
  refine ⟨h.numbered, fun r hr => ?_⟩
  have hsame : store.behind (history ++ [⟨.makeTool name, r⟩]) = store.behind history :=
    behind_uncommitted history rfl
  cases r with
  | ok tool => exact hsame
  | error e =>
      refine ⟨⟨steps, tools, ?_⟩, hr e rfl⟩
      rw [hsame]
      exact h

theorem definitions_records {names : List String}
    (h : Traced (store.behind history) runId steps tools) :
    Records store runId history (definitions names) fun history' _ =>
      store.behind history' = store.behind history := by
  induction names generalizing history with
  | nil => rfl
  | cons name names ih =>
      apply (makeTool_records h).andThen
      intro history' tool hmade
      rw [← hmade] at h ⊢
      apply (ih h).andThen
      intro history'' found hfound
      exact hfound

theorem toolDefinitions_records {registry : ToolRegistry} {allowed : Finset String}
    (h : Traced (store.behind history) runId steps tools) :
    Records store runId history (toolDefinitions registry allowed) fun history' _ =>
      store.behind history' = store.behind history := by
  apply (definitions_records h).andThen
  intro history' found hfound
  exact hfound

theorem recordStep_records {step : AgentStep} (h : Traced (store.behind history) runId steps tools)
    (hstep : step.agentRunId = runId) (hnumber : step.stepNumber = steps + 1) :
    Records store runId history (recordStep step) fun history' _ =>
      Traced (store.behind history') runId (steps + 1)
          (if step.kind = "tool" then tools + 1 else tools) ∧
        ((store.behind history').stepsOf runId).getLast? = some step := by
  refine ⟨h.numbered, fun (outcome : TxnOutcome) houtcome => ?_⟩
  have hrecorded := h.recordStep hstep hnumber
  rcases outcome with ⟨did, e | ⟨⟩⟩
  · refine ⟨?_, houtcome.1 e rfl⟩
    cases did with
    | true =>
        rw [behind_committed _ rfl]
        exact ⟨_, _, hrecorded⟩
    | false =>
        rw [behind_uncommitted _ rfl]
        exact ⟨_, _, h⟩
  · obtain rfl : did = true := houtcome.2 rfl
    show Traced _ _ _ _ ∧ _
    rw [behind_committed _ rfl]
    refine ⟨hrecorded, ?_⟩
    show ((((store.behind history).recordStep step).stepsOf runId).getLast? = _)
    rw [stepsOf_recordStep hstep, List.getLast?_concat]

theorem execute_records {registry : ToolRegistry} {name : String} {arguments : Dict}
    {context : ToolContext} (h : Traced (store.behind history) runId steps tools) :
    Ensures Awaited (fun history _ => Numbered (store.behind history) runId)
      (fun history' r => store.behind history' = store.behind history ∧
        ∀ e, r = .error e → e.raisedByAwait = true)
      (execute registry name arguments context) history := by
  unfold execute
  split_ifs
  · exact ⟨rfl, fun e he => by cases he; rfl⟩
  · unfold resolveTool
    split_ifs
    · refine ⟨h.numbered, fun r hr => ?_⟩
      have hmade : store.behind (history ++ [⟨.makeTool name, r⟩]) = store.behind history :=
        behind_uncommitted history rfl
      have hnumbered : Numbered (store.behind (history ++ [⟨.makeTool name, r⟩])) runId := by
        rw [hmade]
        exact h.numbered
      rcases r with e | tool
      · exact ⟨hmade, fun e' he => by cases he; exact hr e rfl⟩
      · refine ⟨hnumbered, fun r hr => ?_⟩
        have hexecuted : store.behind (history ++ [⟨.makeTool name, .ok tool⟩] ++
            [⟨.executeTool tool arguments context, r⟩]) =
              store.behind (history ++ [⟨.makeTool name, .ok tool⟩]) :=
          behind_uncommitted _ rfl
        rcases r with e | result
        · refine ⟨hexecuted.trans hmade, fun e' he => ?_⟩
          cases he
          have hawait := hr e rfl
          cases e <;> first | rfl | exact hawait
        · exact ⟨hexecuted.trans hmade, fun e' he => by cases he⟩
    · exact ⟨rfl, fun e he => by cases he; rfl⟩

variable {scope : RunScope} {s : LoopState}

theorem LoopTraced.same (h : LoopTraced store runId history s) {history' : List AgentEvent}
    (hsame : store.behind history' = store.behind history) :
    LoopTraced store runId history' s := by
  unfold LoopTraced
  rw [hsame]
  exact h

theorem callTool_records {registry : ToolRegistry} {call : LLMToolCall}
    (h : LoopTraced store scope.run.id history s) :
    Records store scope.run.id history (callTool registry scope s call)
      (LoopTraced store scope.run.id) := by
  apply perfCounter_records h
  intro history started hstarted
  apply (execute_records (h.same hstarted)).bind
  rintro history r ⟨hexecuted, hraised⟩
  have h' := (h.same hstarted).same hexecuted
  -- an `AppException` is recorded like a result, and the loop goes on
  have hrecord : ∀ (step : Rat → AgentStep) (message : LLMMessage),
      (∀ stopped, (step stopped).agentRunId = scope.run.id ∧
        (step stopped).stepNumber = s.stepNumber + 1 ∧ (step stopped).kind = "tool") →
      Records store scope.run.id history
        (perfCounter fun stopped => (recordStep (step stopped)).andThen
          fun _ => .done (.ok (s.afterTool message))) (LoopTraced store scope.run.id) := by
    intro step message hstep
    apply perfCounter_records h'
    intro history' stopped hstopped
    obtain ⟨hrun, hnumber, hkind⟩ := hstep stopped
    apply (recordStep_records (h'.same hstopped) hrun hnumber).andThen
    rintro history'' _ ⟨hrecorded, _⟩
    rw [if_pos hkind] at hrecorded
    exact hrecorded
  rcases r with (⟨code, message, _, _⟩ | _ | _ | _ | _ | _) | result
  case error.app => exact hrecord _ _ fun _ => ⟨rfl, rfl, rfl⟩
  case ok => exact hrecord _ _ fun _ => ⟨rfl, rfl, rfl⟩
  all_goals exact ⟨⟨_, _, h'⟩, hraised _ rfl⟩

theorem callTools_records {registry : ToolRegistry} {pending : List LLMToolCall}
    (h : LoopTraced store scope.run.id history s) :
    Records store scope.run.id history (callTools registry scope s pending)
      (LoopTraced store scope.run.id) := by
  induction pending generalizing history s with
  | nil => exact h
  | cons call pending ih =>
      apply (callTool_records h).andThen
      intro history s' h
      exact ih h

theorem callModel_records {offered : List LLMToolDefinition} {iteration : Nat}
    (h : LoopTraced store scope.run.id history s) :
    Records store scope.run.id history (callModel scope offered iteration s)
      fun history response =>
        LoopTraced store scope.run.id history (s.afterModel response) ∧
          LastAnswered store scope.run.id history response := by
  apply perfCounter_records h
  intro history started hstarted
  have h' := h.same hstarted
  refine ⟨h'.numbered, fun r hr => ?_⟩
  have hcalled := h'.same (behind_uncommitted history
    (e := ⟨.generate scope.provider (modelRequest scope offered s), r⟩) rfl)
  rcases r with e | response
  · show Records _ _ _ (if e.isException then _ else _) _
    split_ifs
    · apply perfCounter_records hcalled
      intro history' stopped hstopped
      apply (recordStep_records (hcalled.same hstopped) rfl rfl).andThen
      rintro history'' _ ⟨hrecorded, _⟩
      exact ⟨⟨_, _, hrecorded⟩, hr e rfl⟩
    · exact ⟨⟨_, _, hcalled⟩, hr e rfl⟩
  · apply perfCounter_records hcalled
    intro history' stopped hstopped
    apply (recordStep_records (hcalled.same hstopped) rfl rfl).andThen
    rintro history'' _ ⟨hrecorded, hlast⟩
    exact ⟨hrecorded, _, hlast, rfl, rfl, rfl⟩

def Told (store : TraceStore) (runId : UUID) (r : Except Exn LLMResponse) : Prop :=
  ∃ run, store.runsOf runId = [run] ∧ Agrees run (store.stepsOf runId) r

private theorem finalResponse_metadata (rt : PyRuntime) (scope : RunScope) (s : LoopState)
    (response : LLMResponse) :
    (finalResponse rt scope s response).metadata.get? "agent_step_count" =
        some (.int s.stepNumber) ∧
      (finalResponse rt scope s response).metadata.get? "agent_tool_call_count" =
        some (.int s.toolCallCount) := by
  simp only [finalResponse, Dict.merge, List.foldl_cons, List.foldl_nil]
  constructor
  · rw [Dict.get?_set_ne _ _ (by decide), Dict.get?_set_ne _ _ (by decide), Dict.get?_set_self]
  · rw [Dict.get?_set_ne _ _ (by decide), Dict.get?_set_self]

theorem finish_records {rt : PyRuntime} {response : LLMResponse}
    (h : LoopTraced store scope.run.id history s)
    (hlast : LastAnswered store scope.run.id history response)
    (hnone : response.toolCalls.isEmpty = true) :
    Records store scope.run.id history (finish rt scope s response) fun history r =>
      Numbered (store.behind history) scope.run.id ∧
        Told (store.behind history) scope.run.id (.ok r) := by
  unfold finish
  rcases Decidable.em (strip response.content = "") with hempty | hempty
  · rw [if_pos hempty]
    exact ⟨⟨_, _, h⟩, rfl⟩
  · rw [if_neg hempty]
    refine ⟨h.numbered, fun (outcome : TxnOutcome) houtcome => ?_⟩
    obtain ⟨hcompleted, hstatus⟩ := Traced.completeRun h
    rcases outcome with ⟨did, e | ⟨⟩⟩
    · -- the completion may stand, and the handlers then overwrite its status
      refine ⟨?_, houtcome.1 e rfl⟩
      cases did with
      | true =>
          rw [behind_committed _ rfl]
          exact ⟨_, _, hcompleted⟩
      | false =>
          rw [behind_uncommitted _ rfl]
          exact ⟨_, _, h⟩
    · obtain rfl : did = true := houtcome.2 rfl
      show Numbered _ _ ∧ Told _ _ _
      rw [behind_committed _ rfl]
      refine ⟨hcompleted.numbered, ?_⟩
      obtain ⟨run, hrun, hsteps, htools⟩ := hcompleted.row
      obtain ⟨hstepCount, htoolCount⟩ := finalResponse_metadata rt scope s response
      have hcalls : response.toolCalls = [] := List.isEmpty_iff.mp hnone
      obtain ⟨step, hstep, hkind, hcompletedStep, houtput⟩ := hlast
      refine ⟨run, hrun, hstatus run (by rw [hrun]; exact List.mem_singleton_self run), ?_, ?_, ?_⟩
      · refine ⟨step, hstep, hkind, hcompletedStep, ?_⟩
        rw [houtput]
        unfold modelOutput
        rw [hcalls]
        rfl
      · rw [hsteps]
        exact hstepCount
      · rw [htools]
        exact htoolCount

theorem modelLoop_records {rt : PyRuntime} {runtime : AgentRuntime}
    {offered : List LLMToolDefinition} {remaining iteration : Nat}
    (h : LoopTraced store scope.run.id history s) :
    Records store scope.run.id history (modelLoop rt runtime scope offered remaining iteration s)
      fun history r => Numbered (store.behind history) scope.run.id ∧
        Told (store.behind history) scope.run.id (.ok r) := by
  induction remaining generalizing history iteration s with
  | zero => exact ⟨⟨_, _, h⟩, rfl⟩
  | succ remaining ih =>
      apply (callModel_records h).andThen
      rintro history response ⟨h, hlast⟩
      show Records _ _ _ (if response.toolCalls.isEmpty then _ else _) _
      split_ifs with hnone hover
      · exact finish_records h hlast hnone
      · exact ⟨⟨_, _, h⟩, rfl⟩
      · apply (callTools_records (s := { s.afterModel response with
          messages := (s.afterModel response).messages ++ [assistantMessage response] }) h).andThen
        intro history s' h
        exact ih h

theorem runLoop_records {rt : PyRuntime} {runtime : AgentRuntime}
    (h : Traced (store.behind history) scope.run.id 0 0) :
    Records store scope.run.id history (runLoop rt runtime scope) fun history r =>
      Numbered (store.behind history) scope.run.id ∧
        Told (store.behind history) scope.run.id (.ok r) := by
  apply (toolDefinitions_records h).andThen
  intro history offered hoffered
  apply modelLoop_records
  unfold LoopTraced
  rw [hoffered]
  exact h

/-- What holds at the exit of a run. -/
def Outcome (store : TraceStore) (runId : UUID) (history : List AgentEvent)
    (r : Except Exn LLMResponse) : Prop :=
  Numbered (store.behind history) runId ∧
    (TerminalCommitted history → Told (store.behind history) runId r)

theorem not_terminalCommitted {e : AgentEvent}
    (h : isTerminal e.op = false ∨ outcome? e ≠ some ⟨true, .ok ()⟩) :
    ¬ TerminalCommitted (history ++ [e]) := by
  rintro ⟨e', hlast, hterminal, houtcome⟩
  rw [List.getLast?_concat, Option.some.injEq] at hlast
  subst hlast
  rcases h with h | h
  · rw [h] at hterminal
    cases hterminal
  · exact h houtcome

theorem setTerminalStatus_records {status : String} {errorCode errorMessage : Option String}
    {e : Exn} (h : Traced (store.behind history) runId steps tools)
    (hagrees : ∀ run steps, run.status = status ∧ run.errorCode = errorCode →
      Agrees run steps (.error e)) :
    Ensures Awaited (fun history _ => Numbered (store.behind history) runId)
      (Outcome store runId)
      ((setTerminalStatus runId status errorCode errorMessage).andThen fun _ =>
        (fail e : AgentProgram LLMResponse)) history := by
  refine ⟨h.numbered, fun (outcome : TxnOutcome) houtcome => ?_⟩
  obtain ⟨hset, hstatus⟩ := h.setTerminalStatus status errorCode errorMessage
  rcases outcome with ⟨did, e' | ⟨⟩⟩
  · constructor
    · cases did with
      | true =>
          rw [behind_committed _ rfl]
          exact hset.numbered
      | false =>
          rw [behind_uncommitted _ rfl]
          exact h.numbered
    · intro hterminal
      refine absurd hterminal (not_terminalCommitted (Or.inr fun heq => ?_))
      cases heq
  · obtain rfl : did = true := houtcome.2 rfl
    show Outcome _ _ _ _
    unfold Outcome
    rw [behind_committed _ rfl]
    refine ⟨hset.numbered, fun _ => ?_⟩
    obtain ⟨run, hrun, -, -⟩ := hset.row
    exact ⟨run, hrun, hagrees _ _ (hstatus run (by rw [hrun]; exact List.mem_singleton_self run))⟩

theorem settle_records {r : Except Exn LLMResponse}
    (h : Exits store runId (fun history r => Numbered (store.behind history) runId ∧
      Told (store.behind history) runId (.ok r)) history r) :
    Ensures Awaited (fun history _ => Numbered (store.behind history) runId)
      (Outcome store runId) (settle runId r) history := by
  rcases r with e | response
  · obtain ⟨⟨steps, tools, htraced⟩, hraised⟩ := h
    cases e with
    | generatorExit => cases hraised
    | cancelled => exact setTerminalStatus_records htraced fun _ _ hrun => hrun.1
    | deadline => exact setTerminalStatus_records htraced fun _ _ hrun => hrun
    | timeoutError message => exact setTerminalStatus_records htraced fun _ _ hrun => hrun
    | app code message status details =>
        exact setTerminalStatus_records htraced fun _ _ hrun => hrun
    | other kind message => exact setTerminalStatus_records htraced fun _ _ hrun => hrun
  · exact ⟨h.1, fun _ => h.2⟩

end Records

/-! ## A whole run -/

section Run

variable {rt : PyRuntime} {runtime : AgentRuntime} {runId : UUID} {provider : String}
  {request : LLMRequest} {store : TraceStore}

theorem TraceStore.Fresh.numbered (h : store.Fresh runId) : Numbered store runId := by
  intro run hrun
  obtain ⟨hmem, hid⟩ := List.mem_filter.mp hrun
  exact absurd (by simpa using hid) (h.1 run hmem)

theorem run_records (hfresh : store.Fresh runId) :
    Ensures Awaited (fun history _ => Numbered (store.behind history) runId)
      (Outcome store runId) (runtime.run rt runId provider request) [] := by
  unfold AgentRuntime.run
  cases hprepare : prepareRun rt runtime runId provider request with
  | error e =>
      refine ⟨hfresh.numbered, ?_⟩
      rintro ⟨e, hlast, -⟩
      cases hlast
  | ok scope =>
      have hprepared := prepareRun_prepared hprepare
      obtain rfl := hprepared.runId
      refine ⟨hfresh.numbered, fun (outcome : TxnOutcome) houtcome => ?_⟩
      have hadded := Traced.addRun hfresh hprepared.stepCount hprepared.toolCallCount
      rcases outcome with ⟨did, e | ⟨⟩⟩
      · refine ⟨?_, fun hterminal => absurd hterminal (not_terminalCommitted (Or.inl rfl))⟩
        cases did with
        | true =>
            rw [behind_committed _ rfl]
            exact hadded.numbered
        | false =>
            rw [behind_uncommitted _ rfl]
            exact hfresh.numbered
      · obtain rfl : did = true := houtcome.2 rfl
        have htraced : Traced (store.behind ([] ++ [⟨.createRun scope.run, ⟨true, .ok ()⟩⟩]))
            scope.run.id 0 0 := by
          rw [behind_committed _ rfl]
          exact hadded
        apply (runLoop_records htraced).bind
        intro history r hr
        exact settle_records hr

/--
Whatever the awaits of a run answer or raise, every committed state numbers and counts
its steps; and when the run exits behind its terminal transaction, its row tells how.
-/
theorem run_trace_agrees {es : List AgentEvent} {result : Option (Except Exn LLMResponse)}
    (hfresh : store.Fresh runId)
    (htrace : Trace (runtime.run rt runId provider request) es result)
    (hes : ∀ e ∈ es, Awaited e.op e.answer) :
    Numbered (store.behind es) runId ∧
      ∀ r, result = some r → TerminalCommitted es →
        ∃ run, (store.behind es).runsOf runId = [run] ∧
          Agrees run ((store.behind es).stepsOf runId) r := by
  have hrun : Ensures Awaited (fun history _ => Numbered (store.behind history) runId)
      (Outcome store runId) (runtime.run rt runId provider request) [] := run_records hfresh
  constructor
  · have hreached := hrun.reached (fun _ _ h => h) (fun _ _ h => h.1) htrace hes
    rwa [List.nil_append] at hreached
  · intro r hr hterminal
    have hpost := (hrun.trace htrace hes).2 r hr
    rw [List.nil_append] at hpost
    exact hpost.2 hterminal

end Run

/-! ## The recorded lookup -/

theorem lookupAnswers_awaited (history : List AgentEvent) (o : AgentOp) :
    Awaited o (lookupAnswers history o) := by
  cases o with
  | perfCounter => trivial
  | makeTool name => intro e he; cases he
  | generate provider request => intro e he; cases he
  | executeTool tool arguments context => intro e he; cases he
  | createRun run => exact ⟨nofun, fun _ => rfl⟩
  | recordStep step => exact ⟨nofun, fun _ => rfl⟩
  | completeRun runId stepCount toolCallCount => exact ⟨nofun, fun _ => rfl⟩
  | setTerminalStatus runId status errorCode errorMessage =>
      exact ⟨nofun, fun _ => rfl⟩

theorem run_trace_agrees_lookup :
    ∃ es r run, Trace (lookupRuntime.run .ascii 7 "ollama" lookupRequest) es (some (.ok r)) ∧
      (TraceStore.behind ⟨[], []⟩ es).runsOf 7 = [run] ∧ run.stepCount = 3 ∧
      run.toolCallCount = 1 ∧ Agrees run ((TraceStore.behind ⟨[], []⟩ es).stepsOf 7) (.ok r) := by
  have htrace := follow_trace lookupAnswers
    (lookupRuntime.run .ascii 7 "ollama" lookupRequest) []
  have hawaited := follow_admitted lookupAnswers_awaited
    (lookupRuntime.run .ascii 7 "ollama" lookupRequest) []
  have hfresh : TraceStore.Fresh ⟨[], []⟩ 7 := ⟨by simp, by simp⟩
  obtain ⟨_, hexit⟩ := run_trace_agrees hfresh htrace hawaited
  obtain ⟨run, hrun, hagrees⟩ := hexit _ rfl ⟨_, rfl, rfl, rfl⟩
  have hcounts : ((TraceStore.behind ⟨[], []⟩ (follow lookupAnswers
      (lookupRuntime.run .ascii 7 "ollama" lookupRequest) []).1).runsOf 7).map
        (fun run => (run.stepCount, run.toolCallCount)) = [(3, 1)] := by decide
  rw [hrun] at hcounts
  obtain ⟨hsteps, htools⟩ := Prod.mk.inj (List.cons.inj hcounts).1
  exact ⟨_, _, run, htrace, hrun, hsteps, htools, hagrees⟩

end Astra.Agents
