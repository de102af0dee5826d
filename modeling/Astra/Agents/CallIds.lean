import Astra.Agents.Recovery

/-!
# The ids of the calls of a run

A run takes up the responses within its budget of tool calls.  Every tool step that it
persists is one of their calls, each at most once and in their order, and every message
list that it sends holds a beginning of them.
-/

namespace Astra.Agents

open Astra.Foundation Astra.Platform Astra.LLM Astra.Tools Program

/-! ## Calls within the budget -/

/-- The items before the first that exceeds the budget, when each takes its size. -/
def takenUp {α : Type} (size : α → Nat) (budget : Int) : Nat → List α → List α
  | _, [] => []
  | used, x :: xs =>
      if ((used + size x : Nat) : Int) > budget then []
      else x :: takenUp size budget (used + size x) xs

section TakenUp

variable {α β : Type} {size : α → Nat} {budget : Int} {used : Nat}

theorem takenUp_prefix (xs ys : List α) :
    takenUp size budget used xs <+: takenUp size budget used (xs ++ ys) := by
  induction xs generalizing used with
  | nil => exact List.nil_prefix
  | cons x xs ih =>
      rw [List.cons_append, takenUp, takenUp]
      split_ifs
      · exact List.prefix_rfl
      · exact (List.prefix_cons_inj x).mpr ih

private theorem takenUp_concat {xs : List α} {x : α} (hall : takenUp size budget used xs = xs)
    (hroom : ((used + (xs.map size).sum + size x : Nat) : Int) ≤ budget) :
    takenUp size budget used (xs ++ [x]) = xs ++ [x] := by
  induction xs generalizing used with
  | nil =>
      rw [List.nil_append, takenUp, if_neg]
      · rfl
      · simp only [List.map_nil, List.sum_nil, Nat.add_zero] at hroom
        omega
  | cons y xs ih =>
      rw [takenUp] at hall
      split_ifs at hall with hover
      rw [List.cons_append, takenUp, if_neg hover, ih (List.cons.inj hall).2]
      rw [List.map_cons, List.sum_cons] at hroom
      omega

theorem takenUp_forall₂ {size' : β → Nat} {rel : α → β → Prop} {xs : List α} {ys : List β}
    (hsize : ∀ x y, rel x y → size x = size' y) (h : List.Forall₂ rel xs ys) :
    List.Forall₂ rel (takenUp size budget used xs) (takenUp size' budget used ys) := by
  induction h generalizing used with
  | nil => exact .nil
  | cons hxy _ ih =>
      rw [takenUp, takenUp, hsize _ _ hxy]
      split_ifs
      · exact .nil
      · exact .cons hxy ih

end TakenUp

def callCount (response : LLMResponse) : Nat := response.toolCalls.length

abbrev takenResponses (budget : Int) (rs : List LLMResponse) : List LLMResponse :=
  takenUp callCount budget 0 rs

def callIds (response : LLMResponse) : List String := response.toolCalls.map LLMToolCall.id

def askedIds (rs : List LLMResponse) : List String := rs.flatMap callIds

def persistedIds (history : List AgentEvent) : List (Option String) :=
  (persistedToolSteps history).map AgentStep.toolCallId

theorem askedIds_append (rs rs' : List LLMResponse) :
    askedIds (rs ++ rs') = askedIds rs ++ askedIds rs' := List.flatMap_append

/-! ## What each part of a run persists -/

def Silent : AgentOp → Prop
  | .generate .. => False
  | .recordStep step => step.kind ≠ "tool"
  | .perfCounter | .makeTool _ | .executeTool .. | .createRun _ | .completeRun ..
  | .setTerminalStatus .. => True

structure Same (history history' : List AgentEvent) : Prop where
  responses : responses history' = responses history
  persisted : persistedIds history' = persistedIds history

/-- There is room for these calls behind the steps that have been persisted. -/
def Room (budget : Int) (history : List AgentEvent) (ids : List String) : Prop :=
  (persistedIds history ++ ids.map some).Sublist
    ((askedIds (takenResponses budget (responses history))).map some)

abbrev Kept (budget : Int) (history : List AgentEvent) : Prop := Room budget history []

def AllTaken (budget : Int) (history : List AgentEvent) : Prop :=
  takenResponses budget (responses history) = responses history

def Admits (budget : Int) (history : List AgentEvent) (o : AgentOp) : Prop :=
  Kept budget history ∧ ∀ name asked, o = .generate name asked → AllTaken budget history

abbrev Identifies {α : Type} (budget : Int) (history : List AgentEvent) (p : AgentProgram α)
    (onOk : List AgentEvent → α → Prop) : Prop :=
  Ensures (fun _ _ => True) (Admits budget)
    (fun history' r => Kept budget history' ∧ Returns onOk history' r) p history

section Identifies

variable {budget : Int} {history history' : List AgentEvent} {α β : Type} {s : LoopState}
  {scope : RunScope} {ids : List String}

theorem persistedIds_append (history : List AgentEvent) (e : AgentEvent) :
    persistedIds (history ++ [e]) =
      persistedIds history ++ (persistedToolStep? e).toList.map AgentStep.toolCallId := by
  unfold persistedIds
  rw [persistedToolSteps_append, List.map_append]
  cases h : persistedToolStep? e <;> simp [persistedToolSteps, h]

theorem Same.refl (history : List AgentEvent) : Same history history := ⟨rfl, rfl⟩

theorem Same.trans {history'' : List AgentEvent} (h : Same history history')
    (h' : Same history' history'') : Same history history'' :=
  ⟨h'.responses.trans h.responses, h'.persisted.trans h.persisted⟩

theorem Same.silent {o : AgentOp} (h : Silent o) (r : o.Answer) :
    Same history (history ++ [⟨o, r⟩]) := by
  constructor
  · refine responses_silent history ?_
    cases o with
    | generate name asked => exact h.elim
    | _ => rfl
  · rw [persistedIds_append]
    have hnone : persistedToolStep? ⟨o, r⟩ = none := by
      cases o with
      | recordStep step =>
          have hkind : step.kind ≠ "tool" := h
          simp [persistedToolStep?, hkind]
      | _ => rfl
    rw [hnone]
    simp

theorem Same.clock (history : List AgentEvent) (t : Rat) :
    Same history (history ++ [⟨.perfCounter, t⟩]) := .silent (o := .perfCounter) trivial t

theorem Same.room (h : Same history history') (hroom : Room budget history ids) :
    Room budget history' ids := by
  unfold Room at hroom ⊢
  rwa [h.responses, h.persisted]

theorem Room.kept (h : Room budget history ids) : Kept budget history := by
  unfold Kept Room at *
  simpa using (List.sublist_append_left _ _).trans h

theorem Room.admits {o : AgentOp} (h : Room budget history ids)
    (ho : ∀ name asked, o ≠ .generate name asked) : Admits budget history o :=
  ⟨h.kept, fun name asked heq => absurd heq (ho name asked)⟩

private theorem Silent.ne_generate {o : AgentOp} (h : Silent o) (name : String)
    (asked : LLMRequest) :
    o ≠ .generate name asked := by
  rintro rfl
  exact h

theorem Identifies.andThen {p : AgentProgram α} {f : α → AgentProgram β}
    {onOk : List AgentEvent → α → Prop} {onOk' : List AgentEvent → β → Prop}
    (h : Identifies budget history p onOk)
    (hf : ∀ history a, Kept budget history → onOk history a →
      Identifies budget history (f a) onOk') :
    Identifies budget history (p.andThen f) onOk' := by
  apply Ensures.andThen h
  · exact fun history a ha => hf history a ha.1 ha.2
  · exact fun history e he => ⟨he.1, trivial⟩

theorem ensures_silent {γ : Type} {p : Program AgentOp AgentOp.Answer γ} (h : Calls Silent p)
    (hkept : Kept budget history) :
    Ensures (fun _ _ => True) (Admits budget) (fun history' _ => Same history history') p
      history := by
  apply Ensures.of_calls h (Same.refl history)
  · exact fun history' o ho hsame => (hsame.room hkept).admits ho.ne_generate
  · exact fun history' o r ho hsame => hsame.trans (.silent ho r)

theorem Identifies.silent {p : AgentProgram α} (h : Calls Silent p) (hkept : Kept budget history) :
    Identifies budget history p fun history' _ => Same history history' := by
  apply Ensures.mono (ensures_silent h hkept)
  intro history' r hsame
  refine ⟨hsame.room hkept, ?_⟩
  cases r with
  | ok a => exact hsame
  | error e => trivial

theorem definitions_silent (names : List String) : Calls Silent (definitions names) := by
  induction names with
  | nil => trivial
  | cons name names ih =>
      apply Calls.andThen
      · exact ⟨trivial, fun _ => trivial⟩
      · intro tool
        exact ih.andThen fun _ => trivial

theorem execute_silent (registry : ToolRegistry) (name : String) (arguments : Dict)
    (context : ToolContext) : Calls Silent (execute registry name arguments context) := by
  unfold execute resolveTool
  split_ifs
  · trivial
  · apply Calls.andThen
    · exact ⟨trivial, fun _ => trivial⟩
    · intro tool
      refine ⟨trivial, fun r => ?_⟩
      cases r with
      | ok result => trivial
      | error e => trivial
  · trivial

theorem recordStep_silent {step : AgentStep} (h : step.kind ≠ "tool") :
    Calls Silent (recordStep step) := ⟨h, fun _ => trivial⟩

theorem recordStep_identifies {step : AgentStep} {id : String}
    (hid : step.toolCallId = some id) (h : Room budget history (id :: ids)) :
    Identifies budget history (recordStep step) fun history' _ =>
      responses history' = responses history ∧ Room budget history' ids := by
  refine ⟨h.admits nofun, fun (outcome : TxnOutcome) _ => ?_⟩
  have hresponses : responses (history ++ [⟨.recordStep step, outcome⟩]) = responses history :=
    responses_silent history rfl
  have hroom : Room budget (history ++ [⟨.recordStep step, outcome⟩]) ids := by
    have hsteps : (persistedIds (history ++ [⟨.recordStep step, outcome⟩]) ++ ids.map some).Sublist
        (persistedIds history ++ (id :: ids).map some) := by
      rw [persistedIds_append, List.append_assoc, List.map_cons]
      refine (List.Sublist.refl _).append ?_
      simp only [persistedToolStep?]
      split_ifs
      · simp [hid]
      · simp
    unfold Room at h ⊢
    rw [hresponses]
    exact hsteps.trans h
  rcases outcome with ⟨did, e | ⟨⟩⟩
  · exact ⟨hroom.kept, trivial⟩
  · exact ⟨hroom.kept, hresponses, hroom⟩

theorem callTool_identifies (registry : ToolRegistry) (call : LLMToolCall)
    (h : Room budget history (call.id :: ids)) :
    Identifies budget history (callTool registry scope s call) fun history' s' =>
      responses history' = responses history ∧ Room budget history' ids ∧
        s'.toolCallCount = s.toolCallCount + 1 := by
  refine ⟨h.admits nofun, fun started _ => ?_⟩
  have hstarted : Same history (history ++ [⟨.perfCounter, started⟩]) := .clock history started
  apply (ensures_silent (execute_silent registry call.name call.arguments (toolContext scope))
    (hstarted.room h).kept).bind
  intro history₂ r hexecuted
  have hsame := hstarted.trans hexecuted
  have hrecord : ∀ (step : Rat → AgentStep) (reply : LLMMessage),
      (∀ stopped, (step stopped).toolCallId = some call.id) →
      Identifies budget history₂
        (perfCounter fun stopped => (recordStep (step stopped)).andThen
          fun _ => .done (.ok (s.afterTool reply))) fun history' s' =>
        responses history' = responses history ∧ Room budget history' ids ∧
          s'.toolCallCount = s.toolCallCount + 1 := by
    intro step reply hstep
    refine ⟨(hsame.room h).admits nofun, fun stopped _ => ?_⟩
    have hstopped : Same history (history₂ ++ [⟨.perfCounter, stopped⟩]) :=
      hsame.trans (.clock _ stopped)
    apply (recordStep_identifies (hstep stopped) (hstopped.room h)).andThen
    rintro history₃ - hkept ⟨hresponses, hroom⟩
    exact ⟨hkept, hresponses.trans hstopped.responses, hroom, rfl⟩
  have hfail : ∀ e, Identifies budget history₂ (fail e : AgentProgram LoopState) fun history' s' =>
      responses history' = responses history ∧ Room budget history' ids ∧
        s'.toolCallCount = s.toolCallCount + 1 :=
    fun e => ⟨(hsame.room h).kept, trivial⟩
  rcases r with (⟨code, message, _, _⟩ | _ | _ | _ | _ | _) | result
  case error.app => exact hrecord _ _ fun _ => rfl
  case ok => exact hrecord _ _ fun _ => rfl
  all_goals exact hfail _

theorem callTools_identifies (registry : ToolRegistry) (calls : List LLMToolCall)
    (h : Room budget history (calls.map LLMToolCall.id)) :
    Identifies budget history (callTools registry scope s calls) fun history' s' =>
      responses history' = responses history ∧
        s'.toolCallCount = s.toolCallCount + calls.length := by
  induction calls generalizing history s with
  | nil => exact ⟨h, rfl, rfl⟩
  | cons call calls ih =>
      apply (callTool_identifies registry call h).andThen
      rintro history₁ s₁ - ⟨hresponses, hroom, hcount⟩
      apply Ensures.mono (ih hroom)
      rintro history₂ r ⟨hkept, hr⟩
      refine ⟨hkept, ?_⟩
      cases r with
      | error e => trivial
      | ok s₂ =>
          obtain ⟨hresponses', hcount'⟩ := hr
          refine ⟨hresponses'.trans hresponses, ?_⟩
          rw [hcount', hcount, List.length_cons]
          omega

theorem Room.later {rs : List LLMResponse} (h : Room budget history ids)
    (hresponses : responses history' = responses history ++ rs)
    (hpersisted : persistedIds history' = persistedIds history) : Room budget history' ids := by
  unfold Room at h ⊢
  rw [hresponses, hpersisted]
  obtain ⟨later, hlater⟩ : takenResponses budget (responses history) <+:
      takenResponses budget (responses history ++ rs) := takenUp_prefix _ _
  rw [← hlater, askedIds_append, List.map_append]
  exact h.trans (List.sublist_append_left _ _)

theorem callModel_identifies {tools : List LLMToolDefinition} {iteration : Nat}
    (hkept : Kept budget history) (hall : AllTaken budget history) :
    Identifies budget history (callModel scope tools iteration s) fun history' response =>
      responses history' = responses history ++ [response] ∧
        persistedIds history' = persistedIds history := by
  refine ⟨hkept.admits nofun, fun started _ => ?_⟩
  have hstarted : Same history (history ++ [⟨.perfCounter, started⟩]) := .clock history started
  refine ⟨⟨hstarted.room hkept, fun _ _ _ => ?_⟩, fun r _ => ?_⟩
  · unfold AllTaken
    rw [hstarted.responses]
    exact hall
  · rcases r with e | response
    · have hasked : Same history (history ++ [⟨.perfCounter, started⟩] ++
          [⟨.generate scope.provider (modelRequest scope tools s), .error e⟩]) := by
        refine hstarted.trans ⟨responses_silent _ rfl, ?_⟩
        rw [persistedIds_append]
        exact List.append_nil _
      show Identifies _ _ (if e.isException then _ else _) _
      split_ifs
      · refine ⟨(hasked.room hkept).admits nofun, fun stopped _ => ?_⟩
        have hstopped := hasked.trans (.clock _ stopped)
        apply (Identifies.silent (recordStep_silent (by simp [failedModelStep]))
          (hstopped.room hkept)).andThen
        exact fun history₃ _ hkept₃ _ => ⟨hkept₃, trivial⟩
      · exact ⟨hasked.room hkept, trivial⟩
    · have hresponses : responses (history ++ [⟨.perfCounter, started⟩] ++
          [⟨.generate scope.provider (modelRequest scope tools s), .ok response⟩]) =
            responses history ++ [response] := by
        rw [responses_append, hstarted.responses]
        rfl
      have hpersisted : persistedIds (history ++ [⟨.perfCounter, started⟩] ++
          [⟨.generate scope.provider (modelRequest scope tools s), .ok response⟩]) =
            persistedIds history := by
        rw [persistedIds_append, hstarted.persisted]
        exact List.append_nil _
      have hasked := hkept.later hresponses hpersisted
      refine ⟨hasked.admits nofun, fun stopped _ => ?_⟩
      have hstopped := Same.clock (history ++ [⟨.perfCounter, started⟩] ++
        [⟨.generate scope.provider (modelRequest scope tools s), .ok response⟩]) stopped
      apply (Identifies.silent (recordStep_silent (by simp [completedModelStep]))
        (hstopped.room hasked)).andThen
      rintro history₃ - hkept₃ hrecorded
      have hsame := hstopped.trans hrecorded
      exact ⟨hkept₃, hsame.responses.trans hresponses, hsame.persisted.trans hpersisted⟩

theorem finish_silent (rt : PyRuntime) (s : LoopState) (response : LLMResponse) :
    Calls Silent (finish rt scope s response) := by
  unfold finish
  rcases Decidable.em (strip response.content = "") with hempty | hempty
  · rw [if_pos hempty]
    trivial
  · rw [if_neg hempty]
    apply Calls.andThen
    · exact ⟨trivial, fun _ => trivial⟩
    · exact fun _ => trivial

theorem modelLoop_identifies {rt : PyRuntime} {runtime : AgentRuntime}
    {tools : List LLMToolDefinition} {remaining iteration : Nat}
    (hkept : Kept runtime.policy.maxToolCalls history)
    (hall : AllTaken runtime.policy.maxToolCalls history)
    (hcount : s.toolCallCount = ((responses history).map callCount).sum) :
    Identifies runtime.policy.maxToolCalls history
      (modelLoop rt runtime scope tools remaining iteration s) fun _ _ => True := by
  induction remaining generalizing history iteration s with
  | zero => exact ⟨hkept, trivial⟩
  | succ remaining ih =>
      apply (callModel_identifies hkept hall).andThen
      rintro history₁ response hkept₁ ⟨hresponses, hpersisted⟩
      show Identifies _ _ (if response.toolCalls.isEmpty then _ else _) _
      split_ifs with hnone hover
      · apply Ensures.mono (Identifies.silent (finish_silent rt _ response) hkept₁)
        rintro history₂ r ⟨hkept₂, -⟩
        refine ⟨hkept₂, ?_⟩
        cases r <;> trivial
      · exact ⟨hkept₁, trivial⟩
      · have hroom : ((0 + ((responses history).map callCount).sum + callCount response : Nat) :
            Int) ≤ runtime.policy.maxToolCalls := by
          rw [Nat.zero_add, ← hcount]
          exact Int.not_lt.mp hover
        have hall₁ : AllTaken runtime.policy.maxToolCalls history₁ := by
          unfold AllTaken
          rw [hresponses]
          exact takenUp_concat hall hroom
        have hroom₁ : Room runtime.policy.maxToolCalls history₁
            (response.toolCalls.map LLMToolCall.id) := by
          unfold Kept Room at hkept
          rw [hall, List.map_nil, List.append_nil] at hkept
          have hids : askedIds [response] = response.toolCalls.map LLMToolCall.id := by
            simp [askedIds, callIds]
          unfold Room
          rw [hall₁, hpersisted, hresponses, askedIds_append, hids, List.map_append]
          exact hkept.append (List.Sublist.refl _)
        apply (callTools_identifies runtime.registry response.toolCalls hroom₁).andThen
        rintro history₂ s₂ hkept₂ ⟨hresponses₂, hcount₂⟩
        apply ih hkept₂
        · unfold AllTaken
          rw [hresponses₂]
          exact hall₁
        · rw [hcount₂, hresponses₂, hresponses, List.map_append, List.sum_append]
          show s.toolCallCount + _ = _
          rw [hcount]
          simp [callCount]

theorem settle_silent (runId : UUID) (r : Except Exn LLMResponse) :
    Calls Silent (settle runId r) := by
  have hset : ∀ status code message e, Calls Silent
      ((setTerminalStatus runId status code message).andThen
        fun _ => (fail e : AgentProgram LLMResponse)) := by
    intro status code message e
    apply Calls.andThen
    · exact ⟨trivial, fun _ => trivial⟩
    · exact fun _ => trivial
  rcases r with (_ | _ | _ | _ | _ | _) | response
  case ok => trivial
  case error.generatorExit => trivial
  all_goals exact hset _ _ _ _

theorem run_identifies {rt : PyRuntime} {runtime : AgentRuntime} {runId : UUID} {provider : String}
    {request : LLMRequest} :
    Identifies runtime.policy.maxToolCalls [] (runtime.run rt runId provider request)
      fun _ _ => True := by
  have hnil : Kept runtime.policy.maxToolCalls [] := List.Sublist.refl _
  unfold AgentRuntime.run
  cases hprepare : prepareRun rt runtime runId provider request with
  | error e => exact ⟨hnil, trivial⟩
  | ok scope =>
      have hcreate : Calls Silent (createRun scope.run) := ⟨trivial, fun _ => trivial⟩
      apply (Identifies.silent hcreate hnil).andThen
      rintro history₁ _ hkept₁ hcreated
      have htools : Calls Silent (toolDefinitions runtime.registry scope.allowedTools) :=
        (definitions_silent _).andThen fun _ => trivial
      have hloop : Identifies runtime.policy.maxToolCalls history₁ (runLoop rt runtime scope)
          fun _ _ => True := by
        apply (Identifies.silent htools hkept₁).andThen
        rintro history₂ tools hkept₂ hsame
        have hempty : responses history₂ = [] := (hcreated.trans hsame).responses
        apply modelLoop_identifies hkept₂
        · unfold AllTaken
          rw [hempty]
          rfl
        · rw [hempty]
          rfl
      apply Ensures.bind hloop
      rintro history₂ r ⟨hkept₂, -⟩
      apply Ensures.mono (Identifies.silent (settle_silent scope.run.id r) hkept₂)
      rintro history₃ r' ⟨hkept₃, -⟩
      refine ⟨hkept₃, ?_⟩
      cases r' <;> trivial

end Identifies

/-! ## Whole runs -/

section Run

variable {rt : PyRuntime} {runtime : AgentRuntime} {runId : UUID} {provider : String}
  {request : LLMRequest} {es : List AgentEvent} {result : Option (Except Exn LLMResponse)}

theorem run_persists_calls
    (htrace : Trace (runtime.run rt runId provider request) es result) :
    (persistedIds es).Sublist
      ((askedIds (takenResponses runtime.policy.maxToolCalls (responses es))).map some) := by
  have hrun : Identifies runtime.policy.maxToolCalls [] (runtime.run rt runId provider request)
      fun _ _ => True := run_identifies
  have hkept : Kept runtime.policy.maxToolCalls ([] ++ es) :=
    hrun.reached (fun _ _ h => h.1) (fun _ _ h => h.1) htrace fun _ _ => trivial
  unfold Kept Room at hkept
  simpa using hkept

theorem run_takes_up (htrace : Trace (runtime.run rt runId provider request) es result)
    {before after : List AgentEvent} {name : String} {asked : LLMRequest}
    {answer : Except Exn LLMResponse}
    (hes : es = before ++ ⟨.generate name asked, answer⟩ :: after) :
    responses before <+: takenResponses runtime.policy.maxToolCalls (responses es) := by
  have hrun : Identifies runtime.policy.maxToolCalls [] (runtime.run rt runId provider request)
      fun _ _ => True := run_identifies
  have hall : AllTaken runtime.policy.maxToolCalls ([] ++ before) :=
    ((hrun.trace htrace fun _ _ => trivial).1 before _ after hes).2 name asked rfl
  rw [List.nil_append] at hall
  have hsplit : ∃ later, responses es = responses before ++ later :=
    ⟨_, by rw [hes]; exact List.filterMap_append⟩
  obtain ⟨later, hlater⟩ := hsplit
  have hprefix : takenResponses runtime.policy.maxToolCalls (responses before) <+:
      takenResponses runtime.policy.maxToolCalls (responses es) := by
    rw [hlater]
    exact takenUp_prefix _ _
  rwa [hall] at hprefix

end Run

end Astra.Agents
