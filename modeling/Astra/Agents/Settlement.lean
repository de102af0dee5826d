import Astra.Agents.Scope
import Astra.Agents.Trace

/-!
# How a run leaves its row

The row of a run is open from the commit of `_create_run` on.  `run` guards only what
comes after `_create_run`, and its handlers are not shielded: a cancellation behind the
creating commit, or before the commit of a handler, can leave the row open.
-/

namespace Astra.Agents

open Astra.Foundation Astra.Platform Astra.LLM Astra.Tools Program

def terminalStatuses : List String := ["completed", "failed", "cancelled"]

def HasStatus (store : TraceStore) (runId : UUID) (status : String) : Prop :=
  ∃ run, store.runsOf runId = [run] ∧ run.status = status

def RowSettled (store : TraceStore) (runId : UUID) : Prop :=
  ∃ status ∈ terminalStatuses, HasStatus store runId status

def isCompletion (e : AgentEvent) : Bool :=
  match e.op with
  | .completeRun .. => committed e
  | _ => false

def isCreation (e : AgentEvent) : Bool :=
  match e.op with
  | .createRun _ => true
  | _ => false

def isHandler (e : AgentEvent) : Bool :=
  match e.op with
  | .setTerminalStatus .. => true
  | _ => false

def returned (e : AgentEvent) : Bool := (outcome? e).any fun outcome => outcome.result.isOk

/--
`_create_run` is not interrupted after its commit, and a handler that is interrupted
before its commit finds the run completed.
-/
def Uninterrupted (es : List AgentEvent) : Prop :=
  (∀ e ∈ es, isCreation e = true → returned e = true) ∧
    ∀ e ∈ es, isHandler e = true → committed e = false → es.any isCompletion = true

/-! ## The status behind the transactions -/

section Status

variable {store : TraceStore} {runId : UUID} {status : String} {scope : RunScope}

theorem HasStatus.unique {status' : String} (h : HasStatus store runId status)
    (h' : HasStatus store runId status') : status = status' := by
  obtain ⟨run, hrun, rfl⟩ := h
  obtain ⟨run', hrun', rfl⟩ := h'
  rw [hrun] at hrun'
  rw [(List.cons.inj hrun').1]

theorem HasStatus.settled_iff (h : HasStatus store runId status) :
    RowSettled store runId ↔ status ∈ terminalStatuses := by
  constructor
  · rintro ⟨status', hterminal, h'⟩
    rwa [h.unique h']
  · intro hterminal
    exact ⟨status, hterminal, h⟩

theorem HasStatus.addRun {run : AgentRun} (hfresh : store.Fresh run.id) :
    HasStatus (store.addRun run) run.id run.status :=
  ⟨run, runsOf_addRun hfresh, rfl⟩

theorem HasStatus.recordStep (h : HasStatus store runId status) {step : AgentStep}
    (hstep : step.agentRunId = runId) : HasStatus (store.recordStep step) runId status := by
  obtain ⟨run, hrun, hstatus⟩ := h
  subst hstep
  have hsame : { store with steps := store.steps ++ [step] }.runsOf step.agentRunId = [run] := hrun
  exact ⟨_, runsOf_changeRun hsame fun _ => rfl, hstatus⟩

theorem HasStatus.completeRun (h : HasStatus store runId status) (stepCount toolCallCount : Nat) :
    HasStatus (store.completeRun runId stepCount toolCallCount) runId "completed" := by
  obtain ⟨run, hrun, -⟩ := h
  exact ⟨_, runsOf_changeRun hrun fun _ => rfl, rfl⟩

theorem HasStatus.setTerminalStatus (h : HasStatus store runId status) (status' : String)
    (errorCode errorMessage : Option String) :
    HasStatus (store.setTerminalStatus runId status' errorCode errorMessage) runId status' := by
  obtain ⟨run, hrun, -⟩ := h
  exact ⟨_, runsOf_changeRun hrun fun _ => rfl, rfl⟩

private theorem isCompletion_uncommitted {e : AgentEvent} (h : committed e = false) :
    isCompletion e = false := by
  unfold isCompletion
  split
  · exact h
  · rfl

theorem HasStatus.after (h : HasStatus store scope.run.id status) {e : AgentEvent}
    (he : LoopOp scope e.op) :
    HasStatus (store.after e) scope.run.id (if isCompletion e then "completed" else status) := by
  unfold TraceStore.after
  cases hcommitted : committed e with
  | false => simpa [isCompletion_uncommitted hcommitted] using h
  | true =>
      rw [if_pos rfl]
      rcases e with ⟨op, answer⟩
      cases op with
      | createRun run => exact he.elim
      | setTerminalStatus runId status' errorCode errorMessage => exact he.elim
      | recordStep step => exact h.recordStep he
      | completeRun runId stepCount toolCallCount =>
          obtain rfl : runId = scope.run.id := he
          have hcompletion : isCompletion
              ⟨.completeRun scope.run.id stepCount toolCallCount, answer⟩ = true := hcommitted
          rw [hcompletion]
          exact h.completeRun stepCount toolCallCount
      | perfCounter => exact h
      | makeTool name => exact h
      | generate name request => exact h
      | executeTool tool arguments context => exact h

theorem HasStatus.behind (h : HasStatus store scope.run.id status) {es : List AgentEvent}
    (hes : ∀ e ∈ es, LoopOp scope e.op) :
    HasStatus (store.behind es) scope.run.id
      (if es.any isCompletion then "completed" else status) := by
  induction es generalizing store status with
  | nil => exact h
  | cons e es ih =>
      have hafter := ih (h.after (hes e List.mem_cons_self)) fun e' he' =>
        hes e' (List.mem_cons_of_mem e he')
      show HasStatus ((store.after e).behind es) _ _
      cases hcompletion : isCompletion e with
      | true => simpa [hcompletion] using hafter
      | false => simpa [hcompletion] using hafter

end Status

/-! ## The parts of a run -/

section Parts

variable {rt : PyRuntime} {runtime : AgentRuntime} {runId : UUID} {provider : String}
  {request : LLMRequest} {store : TraceStore} {scope : RunScope}

private theorem settle_trace {e : Exn} {es : List AgentEvent} {r : Except Exn LLMResponse}
    (hraised : e.raisedByAwait = true) (htrace : Trace (settle runId (.error e)) es (some r)) :
    ∃ status errorCode errorMessage, ∃ outcome : TxnOutcome, status ∈ terminalStatuses ∧
      es = [⟨.setTerminalStatus runId status errorCode errorMessage, outcome⟩] := by
  have hset : ∀ status errorCode errorMessage error, status ∈ terminalStatuses →
      Trace ((setTerminalStatus runId status errorCode errorMessage).andThen fun _ =>
        (fail error : AgentProgram LLMResponse)) es (some r) →
      ∃ status errorCode errorMessage, ∃ outcome : TxnOutcome, status ∈ terminalStatuses ∧
        es = [⟨.setTerminalStatus runId status errorCode errorMessage, outcome⟩] := by
    intro status errorCode errorMessage error hterminal htrace
    refine ⟨status, errorCode, errorMessage, ?_⟩
    cases htrace with
    | called _ _ outcome htrace =>
        refine ⟨outcome, hterminal, ?_⟩
        rcases outcome with ⟨did, e' | ⟨⟩⟩
        · cases htrace
          rfl
        · cases htrace
          rfl
  cases e with
  | generatorExit => cases hraised
  | cancelled => exact hset _ _ _ _ (by simp [terminalStatuses]) htrace
  | deadline => exact hset _ _ _ _ (by simp [terminalStatuses]) htrace
  | timeoutError message => exact hset _ _ _ _ (by simp [terminalStatuses]) htrace
  | app code message status details => exact hset _ _ _ _ (by simp [terminalStatuses]) htrace
  | other kind message => exact hset _ _ _ _ (by simp [terminalStatuses]) htrace

theorem run_split {es : List AgentEvent} {r : Except Exn LLMResponse}
    (htrace : Trace (runtime.run rt runId provider request) es (some r)) (hne : es ≠ []) :
    ∃ scope, ∃ outcome : TxnOutcome, ∃ rest, Prepared rt runtime runId request scope ∧
      es = ⟨.createRun scope.run, outcome⟩ :: rest ∧
      ((∃ e, outcome.result = .error e ∧ rest = [] ∧ r = .error e) ∨
        outcome.result = .ok () ∧ ∃ es₁ r₁ es₂, rest = es₁ ++ es₂ ∧
          Trace (runLoop rt runtime scope) es₁ (some r₁) ∧
          Trace (settle scope.run.id r₁) es₂ (some r)) := by
  unfold AgentRuntime.run at htrace
  cases hprepare : prepareRun rt runtime runId provider request with
  | error e =>
      rw [hprepare] at htrace
      cases htrace
      exact absurd rfl hne
  | ok scope =>
      rw [hprepare] at htrace
      cases htrace with
      | called _ _ outcome htrace =>
          refine ⟨scope, outcome, _, prepareRun_prepared hprepare, rfl, ?_⟩
          rcases outcome with ⟨did, e | ⟨⟩⟩
          · cases htrace
            exact Or.inl ⟨e, rfl, rfl, rfl⟩
          · have hguarded : Trace ((runLoop rt runtime scope).bind (settle scope.run.id)) _
                (some r) := htrace
            obtain ⟨es₁, r₁, es₂, hsplit, hloop, hsettle⟩ := hguarded.of_bind
            exact Or.inr ⟨rfl, es₁, r₁, es₂, hsplit, hloop, hsettle⟩

private theorem loop_neither {es : List AgentEvent} {r : Except Exn LLMResponse}
    (hloop : Trace (runLoop rt runtime scope) es (some r)) :
    ∀ e ∈ es, isCreation e = false ∧ isHandler e = false := by
  intro e he
  have hop := (runLoop_calls rt runtime).trace hloop e he
  rcases e with ⟨op, answer⟩
  cases op <;> first | exact ⟨rfl, rfl⟩ | exact hop.elim

private theorem loop_status (hfresh : store.Fresh scope.run.id)
    (hprepared : Prepared rt runtime runId request scope) {es : List AgentEvent}
    {r : Except Exn LLMResponse} (hloop : Trace (runLoop rt runtime scope) es (some r))
    (hes : ∀ e ∈ es, Awaited e.op e.answer) :
    HasStatus ((store.addRun scope.run).behind es) scope.run.id
        (if es.any isCompletion then "completed" else "running") ∧
      (∀ response, r = .ok response → es.any isCompletion = true) ∧
      ∀ e, r = .error e → e.raisedByAwait = true := by
  have hstatus := (HasStatus.addRun hfresh).behind ((runLoop_calls rt runtime).trace hloop)
  rw [hprepared.status] at hstatus
  have htraced := Traced.addRun hfresh hprepared.stepCount hprepared.toolCallCount
  have hrecords : Records (store.addRun scope.run) scope.run.id [] (runLoop rt runtime scope) _ :=
    runLoop_records htraced
  have hpost := (hrecords.trace hloop hes).2 r rfl
  refine ⟨hstatus, ?_, ?_⟩
  · rintro response rfl
    obtain ⟨-, run, hrun, hagrees⟩ := hpost
    by_contra hnone
    rw [if_neg hnone] at hstatus
    exact absurd (hstatus.unique ⟨run, hrun, hagrees.1⟩) (by decide)
  · rintro e rfl
    exact hpost.2

end Parts

/-! ## A whole run -/

section Run

variable {rt : PyRuntime} {runtime : AgentRuntime} {runId : UUID} {provider : String}
  {request : LLMRequest} {store : TraceStore}

theorem behind_create {run : AgentRun} {outcome : TxnOutcome} {rest : List AgentEvent}
    (hcommitted : outcome.committed = true) :
    store.behind (⟨.createRun run, outcome⟩ :: rest) = (store.addRun run).behind rest := by
  show (store.after _).behind rest = _
  unfold TraceStore.after
  rw [if_pos (by simpa [committed, outcome?] using hcommitted)]
  rfl

/-- A handler settles the row unless it is kept from it while the run is not completed. -/
theorem HasStatus.handled_iff {es : List AgentEvent} {status code message}
    {outcome : TxnOutcome}
    (h : HasStatus store runId (if es.any isCompletion then "completed" else "running"))
    (hterminal : status ∈ terminalStatuses) :
    RowSettled (store.behind [⟨.setTerminalStatus runId status code message, outcome⟩]) runId ↔
      (committed ⟨.setTerminalStatus runId status code message, outcome⟩ = false →
        es.any isCompletion = true) := by
  show RowSettled (store.after _) runId ↔ _
  unfold TraceStore.after
  cases hcommitted : committed ⟨.setTerminalStatus runId status code message, outcome⟩ with
  | true =>
      rw [if_pos rfl]
      exact iff_of_true ⟨status, hterminal, h.setTerminalStatus status code message⟩ nofun
  | false =>
      rw [if_neg (by simp), h.settled_iff]
      cases es.any isCompletion <;> simp [terminalStatuses]

theorem isHandler_only {e : AgentEvent} (h : isHandler e = true) :
    isCreation e = false ∧ isCompletion e = false := by
  rcases e with ⟨op, answer⟩
  cases op <;> first | exact ⟨rfl, rfl⟩ | cases h

theorem uninterrupted_iff {run : AgentRun} {es₁ es₂ : List AgentEvent}
    (hloop : ∀ e ∈ es₁, isCreation e = false ∧ isHandler e = false)
    (hhandlers : ∀ e ∈ es₂, isHandler e = true) :
    Uninterrupted (⟨.createRun run, ⟨true, .ok ()⟩⟩ :: (es₁ ++ es₂)) ↔
      ∀ e ∈ es₂, committed e = false → es₁.any isCompletion = true := by
  have hany : (⟨.createRun run, ⟨true, .ok ()⟩⟩ :: (es₁ ++ es₂) : List AgentEvent).any
      isCompletion = es₁.any isCompletion := by
    have hnone : es₂.any isCompletion = false := by
      apply List.any_eq_false.mpr
      intro e he
      simp [(isHandler_only (hhandlers e he)).2]
    have hhead : isCompletion ⟨.createRun run, ⟨true, .ok ()⟩⟩ = false := rfl
    simp [hnone, hhead]
  unfold Uninterrupted
  rw [hany]
  constructor
  · rintro ⟨-, hsettled⟩ e he hopen
    exact hsettled e (List.mem_cons_of_mem _ (List.mem_append_right es₁ he)) (hhandlers e he) hopen
  · intro hsettled
    constructor
    · intro e he hcreation
      rcases List.mem_cons.mp he with rfl | he
      · rfl
      rcases List.mem_append.mp he with he | he
      · rw [(hloop e he).1] at hcreation
        cases hcreation
      · rw [(isHandler_only (hhandlers e he)).1] at hcreation
        cases hcreation
    · intro e he hhandler hopen
      rcases List.mem_cons.mp he with rfl | he
      · cases hhandler
      rcases List.mem_append.mp he with he | he
      · rw [(hloop e he).2] at hhandler
        cases hhandler
      · exact hsettled e he hopen

/--
When a run exits whose row has been committed, the row is settled exactly when no
interruption has come between that commit and the handlers, and none has kept a handler
from committing before the run was completed.
-/
theorem run_settled_iff {es : List AgentEvent} {r : Except Exn LLMResponse}
    (hfresh : store.Fresh runId)
    (htrace : Trace (runtime.run rt runId provider request) es (some r))
    (hes : ∀ e ∈ es, Awaited e.op e.answer)
    (hcreated : ∃ e ∈ es, isCreation e = true ∧ committed e = true) :
    RowSettled (store.behind es) runId ↔ Uninterrupted es := by
  obtain ⟨created, hmem, hcreation, hcommitted⟩ := hcreated
  obtain ⟨scope, outcome, rest, hprepared, rfl, hrest⟩ :=
    run_split htrace (List.ne_nil_of_mem hmem)
  obtain rfl := hprepared.runId
  rcases hrest with ⟨e, hresult, rfl, rfl⟩ | ⟨hresult, es₁, r₁, es₂, rfl, hloop, hsettle⟩
  · -- interrupted behind the commit: no handler is reached
    rw [List.mem_singleton] at hmem
    subst hmem
    have hopen : HasStatus (store.addRun scope.run) scope.run.id scope.run.status :=
      HasStatus.addRun hfresh
    rw [behind_create hcommitted]
    refine iff_of_false ?_ ?_
    · show ¬ RowSettled (store.addRun scope.run) scope.run.id
      rw [hopen.settled_iff, hprepared.status]
      decide
    · rintro ⟨hreturned, -⟩
      have hok : outcome.result.isOk = true := by
        simpa [returned, outcome?] using hreturned _ List.mem_cons_self rfl
      rw [hresult] at hok
      cases hok
  · have hdid : outcome.committed = true := (hes _ List.mem_cons_self).2 hresult
    obtain ⟨did, result⟩ := outcome
    obtain rfl : did = true := hdid
    obtain rfl : result = .ok () := hresult
    have hloops := loop_neither hloop
    obtain ⟨hstatus, hcompleted, hraised⟩ := loop_status hfresh hprepared hloop fun e he =>
      hes e (List.mem_cons_of_mem _ (List.mem_append_left es₂ he))
    have hbehind : store.behind (⟨.createRun scope.run, ⟨true, .ok ()⟩⟩ :: (es₁ ++ es₂)) =
        ((store.addRun scope.run).behind es₁).behind es₂ := by
      rw [behind_create rfl]
      exact List.foldl_append
    rw [hbehind]
    rcases r₁ with e | response
    · obtain ⟨status, code, message, handled, hterminal, rfl⟩ :=
        settle_trace (hraised e rfl) hsettle
      rw [uninterrupted_iff hloops (by simp [isHandler])]
      rw [hstatus.handled_iff hterminal]
      simp
    · cases hsettle
      have hdone := hcompleted response rfl
      rw [hdone, if_pos rfl] at hstatus
      rw [uninterrupted_iff hloops (by simp)]
      exact iff_of_true ⟨"completed", by simp [terminalStatuses], hstatus⟩ (by simp)

end Run

theorem run_settled_iff_lookup :
    ∃ es r, Trace (lookupRuntime.run .ascii 7 "ollama" lookupRequest) es (some r) ∧
      Uninterrupted es ∧ RowSettled (TraceStore.behind ⟨[], []⟩ es) 7 := by
  have htrace := follow_trace lookupAnswers
    (lookupRuntime.run .ascii 7 "ollama" lookupRequest) []
  have hawaited := follow_admitted lookupAnswers_awaited
    (lookupRuntime.run .ascii 7 "ollama" lookupRequest) []
  have hfresh : TraceStore.Fresh ⟨[], []⟩ 7 := ⟨by simp, by simp⟩
  have hquiet : Uninterrupted ((lookupRuntime.run .ascii 7 "ollama" lookupRequest).follow
      lookupAnswers []).1 := by
    unfold Uninterrupted
    decide
  exact ⟨_, _, htrace, hquiet, (run_settled_iff hfresh htrace hawaited
    ⟨_, List.mem_cons_self, rfl, rfl⟩).mpr hquiet⟩

def cancelledOnCreate (history : List AgentEvent) : (o : AgentOp) → o.Answer
  | .createRun _ => ⟨true, .error .cancelled⟩
  | o => lookupAnswers history o

/-- The row of the cancelled run stays open. -/
theorem cancelled_run_left_running :
    ∃ es, Trace (lookupRuntime.run .ascii 7 "ollama" lookupRequest) es (some (.error .cancelled)) ∧
      (∀ e ∈ es, Awaited e.op e.answer) ∧ (∃ e ∈ es, isCreation e = true ∧ committed e = true) ∧
      HasStatus (TraceStore.behind ⟨[], []⟩ es) 7 "running" ∧
      ¬ RowSettled (TraceStore.behind ⟨[], []⟩ es) 7 := by
  have htrace := follow_trace cancelledOnCreate
    (lookupRuntime.run .ascii 7 "ollama" lookupRequest) []
  refine ⟨_, htrace, ?_, ⟨_, List.mem_cons_self, rfl, rfl⟩, ?_⟩
  · intro e he
    obtain rfl := List.mem_singleton.mp he
    exact ⟨fun e he => by cases he; rfl, nofun⟩
  · have hopen : HasStatus (TraceStore.behind ⟨[], []⟩ ((lookupRuntime.run .ascii 7 "ollama"
        lookupRequest).follow cancelledOnCreate []).1) 7 "running" := ⟨_, rfl, rfl⟩
    refine ⟨hopen, ?_⟩
    rw [hopen.settled_iff]
    decide

end Astra.Agents
