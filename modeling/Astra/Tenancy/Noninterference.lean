import Astra.Agents.Budget
import Astra.Agents.Scope
import Astra.Tenancy.Frame

/-!
# Nothing that a user's model sees depends on another user

Two reachable stores with the same view of a user prepare the same exchange for that
user, and the agent run on its request goes the same way when the built-in tools
search stores with the same view.
-/

namespace Astra.Tenancy

open Astra.Foundation Astra.Platform Astra.Persistence Astra.LLM Astra.Services Astra.Knowledge
  Astra.Chat Astra.Tools Astra.Agents Program

/-! ## The run of a prepared request -/

section Request

variable {py : PyRuntime} {config : AppConfig} {store : Store} {userId conversationId : UUID}
  {request : MessageSendRequest} {streaming : Bool} {gen : Generated} {p : PreparedExchange}

theorem buildPrepared_metadata {conversation : Conversation} {user assistant : Message}
    {messages : List LLMMessage} {memoryIds : List UUID} {needsGeneration reused : Bool}
    (h : buildPreparedFromContext py config conversation user assistant request messages
      memoryIds needsGeneration reused = .ok p) :
    p.llmRequest.metadata =
      requestMetadata py conversation user assistant request memoryIds := by
  unfold buildPreparedFromContext at h
  split at h
  · cases h
  · cases h
    rfl

private theorem prepareExchange_metadata
    (h : (prepareExchange py config store userId conversationId request streaming gen).1 = .ok p) :
    ∃ conversation user assistant memoryIds,
      conversation.userId = userId ∧ conversation.id = conversationId ∧
        p.llmRequest.metadata =
          requestMetadata py conversation user assistant request memoryIds := by
  unfold prepareExchange at h
  split at h
  · cases h
  · split at h
    · cases h
    · rename_i conversation howned
      obtain ⟨-, hid, huser⟩ := getOwnedConversation_mem howned
      split at h
      · cases h
      · split at h
        · dsimp only at h
          split at h
          · cases h
          · rename_i hbuilt
            cases h
            exact ⟨_, _, _, _, huser, hid, buildPrepared_metadata hbuilt⟩
        · dsimp only at h
          exact ⟨_, _, _, _, huser, hid, buildPrepared_metadata h⟩

theorem run_context
    (h : (prepareExchange py config store userId conversationId request streaming gen).1 = .ok p)
    (runtime : AgentRuntime) (runId : UUID) :
    ∃ context : ToolContext, context.userId = userId ∧
      Calls (InContext context) (runtime.run py runId p.provider p.llmRequest) := by
  obtain ⟨conversation, user, assistant, memoryIds, howner, _, hmetadata⟩ :=
    prepareExchange_metadata h
  cases hprepare : prepareRun py runtime runId p.provider p.llmRequest with
  | error e =>
      refine ⟨{ userId := userId }, rfl, run_inContext ?_⟩
      intro scope hscope
      rw [hprepare] at hscope
      cases hscope
  | ok scope =>
      refine ⟨toolContext scope, ?_, run_inContext ?_⟩
      · have hkey : p.llmRequest.metadata.get? "user_id" =
            some (.str (py.uuidText conversation.userId)) := by
          rw [hmetadata]
          rfl
        rw [← howner]
        exact metadataUuid_text hkey (prepareRun_prepared hprepare).userId
      · intro scope' hscope'
        rw [hprepare] at hscope'
        cases hscope'
        rfl

end Request

/-! ## The environment of a run -/

/--
What a run meets besides the built-in tools: the answers to its other calls, and the
timeout or cancellation, if any, that interrupts a tool.  Both may depend on all of
the run so far.
-/
structure Surroundings where
  answers : List AgentEvent → (o : AgentOp) → o.Answer
  interrupts : List AgentEvent → Option Exn

def builtinTool (name : String) : Option Tool :=
  if name = "search_knowledge" then some ⟨searchKnowledgeDefinition⟩
  else if name = "search_conversation" then some ⟨searchConversationDefinition⟩
  else none

def executeBuiltin (py : PyRuntime) (text : FullText) (store : Store) (name : String)
    (arguments : Dict) (context : ToolContext) : Option (Except Exn ToolExecutionResult) :=
  if name = "search_knowledge" then some (searchKnowledgeBase py text store arguments context)
  else if name = "search_conversation" then some (searchConversation py store arguments context)
  else none

/-- The environment in which the tools search the store of the moment. -/
def Surroundings.oracle (around : Surroundings) (py : PyRuntime) (text : FullText)
    (world : List AgentEvent → Store) (history : List AgentEvent) : (o : AgentOp) → o.Answer
  | .makeTool name =>
      match builtinTool name with
      | some tool => .ok tool
      | none => around.answers history (.makeTool name)
  | .executeTool tool arguments context =>
      match around.interrupts history with
      | some e => .error e
      | none =>
          (executeBuiltin py text (world history) tool.definition.name arguments context).getD
            (around.answers history (.executeTool tool arguments context))
  | o => around.answers history o

theorem executeBuiltin_view {store : Store} (h : KnowledgeOwned store) (py : PyRuntime)
    (text : FullText) (name : String) (arguments : Dict) (context : ToolContext) :
    executeBuiltin py text (view context.userId store) name arguments context =
      executeBuiltin py text store name arguments context := by
  unfold executeBuiltin
  rw [searchKnowledgeBase_view h py text arguments rfl, searchConversation_view py arguments rfl]

private theorem oracle_congr {around : Surroundings} {py : PyRuntime} {text : FullText}
    {world world' : List AgentEvent → Store} {context : ToolContext}
    (howned : ∀ history, KnowledgeOwned (world history))
    (howned' : ∀ history, KnowledgeOwned (world' history))
    (hview : ∀ history, view context.userId (world history) = view context.userId (world' history))
    (history : List AgentEvent) (o : AgentOp) (hcontext : InContext context o) :
    around.oracle py text world history o = around.oracle py text world' history o := by
  cases o with
  | executeTool tool arguments context' =>
      have hsame : context' = context := hcontext
      subst hsame
      unfold Surroundings.oracle
      dsimp only
      rw [← executeBuiltin_view (howned history), hview, executeBuiltin_view (howned' history)]
  | _ => rfl

/-! ## Two runs -/

section TwoRuns

variable {d : Deployment} {userId conversationId : UUID} {request : MessageSendRequest}
  {streaming : Bool} {gen : Generated} {store store' : Store}

theorem prepareExchange_congr (h : WellOwned store) (h' : WellOwned store')
    (hview : view userId store = view userId store')
    (hclear : ClearOfOthers userId gen store) (hclear' : ClearOfOthers userId gen store') :
    (prepareExchange d.py d.config store userId conversationId request streaming gen).1 =
        (prepareExchange d.py d.config store' userId conversationId request streaming gen).1 ∧
      view userId
          (prepareExchange d.py d.config store userId conversationId request streaming gen).2 =
        view userId
          (prepareExchange d.py d.config store' userId conversationId request streaming gen).2 := by
  have hrun : prepareExchange d.py d.config (view userId store) userId conversationId request
      streaming gen = (_, _) := prepareExchange_view h hclear
  rw [hview, prepareExchange_view h' hclear', Prod.mk.injEq] at hrun
  exact ⟨hrun.1.symm, hrun.2.symm⟩

theorem run_congr {p : PreparedExchange}
    (hp : (prepareExchange d.py d.config store userId conversationId request streaming gen).1 =
      .ok p)
    (text : FullText) (runtime : AgentRuntime) (runId : UUID) (around : Surroundings)
    {world world' : List AgentEvent → Store}
    (howned : ∀ history, KnowledgeOwned (world history))
    (howned' : ∀ history, KnowledgeOwned (world' history))
    (hviews : ∀ history, view userId (world history) = view userId (world' history)) :
    follow (around.oracle d.py text world) (runtime.run d.py runId p.provider p.llmRequest) [] =
      follow (around.oracle d.py text world')
        (runtime.run d.py runId p.provider p.llmRequest) [] := by
  obtain ⟨context, rfl, hcalls⟩ := run_context hp runtime runId
  exact hcalls.follow_congr (oracle_congr howned howned' hviews) []

/--
Two reachable stores that agree on a user's rows: `_prepare_exchange` has the same
result for the user and leaves stores that agree again, and an agent run on the
request is the same run in any two worlds of reachable stores that agree.  The views
agree in the table order of the user's own rows too, which settles ties.
-/
theorem tenant_noninterference (hreach : Reachable d store) (hreach' : Reachable d store')
    (hview : view userId store = view userId store')
    (hclear : ClearOfOthers userId gen store) (hclear' : ClearOfOthers userId gen store') :
    let run := prepareExchange d.py d.config store userId conversationId request streaming gen
    let run' := prepareExchange d.py d.config store' userId conversationId request streaming gen
    run.1 = run'.1 ∧ view userId run.2 = view userId run'.2 ∧
      ∀ p, run.1 = .ok p → ∀ (text : FullText) (runtime : AgentRuntime) (runId : UUID)
        (around : Surroundings) (world world' : List AgentEvent → Store),
        (∀ history, Reachable d (world history)) → (∀ history, Reachable d (world' history)) →
        (∀ history, view userId (world history) = view userId (world' history)) →
        follow (around.oracle d.py text world)
            (runtime.run d.py runId p.provider p.llmRequest) [] =
          follow (around.oracle d.py text world')
            (runtime.run d.py runId p.provider p.llmRequest) [] := by
  intro run run'
  obtain ⟨hresult, hviews⟩ :=
    prepareExchange_congr hreach.wellOwned hreach'.wellOwned hview hclear hclear'
  refine ⟨hresult, hviews, ?_⟩
  intro p hp text runtime runId around world world' hworld hworld' hagree
  exact run_congr hp text runtime runId around (fun history => (hworld history).wellOwned.knowledge)
    (fun history => (hworld' history).wellOwned.knowledge) hagree

/-- The worlds that all other users make of a state. -/
def MovedByOthers (d : Deployment) (userId : UUID) (s t : ChatState) : Prop :=
  ∃ labels, AllSteps (fun s label => ¬ ActsFor userId s label) (ChatState.step d) s labels ∧
    exec (ChatState.step d) s labels = some t

theorem MovedByOthers.keeps {s t : ChatState} (h : OwnedState s)
    (hmoved : MovedByOthers d userId s t) : OwnedState t ∧ KeepsView userId s t := by
  obtain ⟨labels, hothers, hrun⟩ := hmoved
  exact ⟨exec_invariant' (fun _ _ _ h hstep => OwnedState.step h hstep) h hrun,
    run_view h hothers hrun⟩

theorem arrive_store {s t : ChatState} {i : Nat} {a : Arrival}
    (h : s.step d (.arrive i a) = some t) : t.store = (a.prepare d s.store).2 := by
  obtain ⟨-, -, rfl⟩ := ChatState.step_arrive h
  rfl

/--
Once the request of a user is prepared in two systems with the same view, its agent
run is the same in both, whatever the other users do at whatever point of it.
-/
theorem run_unaffected_by_others {s s' t t' : ChatState} {i i' : Nat} {a : Arrival}
    {p : PreparedExchange} (h : OwnedState s) (h' : OwnedState s')
    (hview : view a.userId s.store = view a.userId s'.store)
    (hclear : ClearOfOthers a.userId a.gen s.store)
    (hclear' : ClearOfOthers a.userId a.gen s'.store) (hawaits : a.awaits = .completed)
    (hstep : s.step d (.arrive i a) = some t) (hstep' : s'.step d (.arrive i' a) = some t')
    (hp : (a.prepare d s.store).1 = .ok p)
    (text : FullText) (runtime : AgentRuntime) (runId : UUID) (around : Surroundings)
    {world world' : List AgentEvent → ChatState}
    (hworld : ∀ history, MovedByOthers d a.userId t (world history))
    (hworld' : ∀ history, MovedByOthers d a.userId t' (world' history)) :
    (a.prepare d s'.store).1 = .ok p ∧
      follow (around.oracle d.py text fun history => (world history).store)
          (runtime.run d.py runId p.provider p.llmRequest) [] =
        follow (around.oracle d.py text fun history => (world' history).store)
          (runtime.run d.py runId p.provider p.llmRequest) [] := by
  have hprepare : ∀ store, a.prepare d store =
      prepareExchange d.py d.config store a.userId a.conversationId a.request a.streaming
        a.gen := by
    intro store
    unfold Arrival.prepare
    rw [hawaits]
    rfl
  have harrived := arrive_store hstep
  have harrived' := arrive_store hstep'
  rw [hprepare] at hp harrived harrived'
  obtain ⟨hresult, hviews⟩ :=
    prepareExchange_congr ⟨h.table.messages, h.rows.knowledge⟩
      ⟨h'.table.messages, h'.rows.knowledge⟩ hview hclear hclear'
  constructor
  · rw [hprepare, ← hresult]
    exact hp
  · have hmoved := fun history => (hworld history).keeps (h.step hstep)
    have hmoved' := fun history => (hworld' history).keeps (h'.step hstep')
    apply run_congr hp text runtime runId around
    · exact fun history => (hmoved history).1.rows.knowledge
    · exact fun history => (hmoved' history).1.rows.knowledge
    · intro history
      have hkeep : view a.userId (world history).store = view a.userId t.store :=
        (hmoved history).2
      have hkeep' : view a.userId (world' history).store = view a.userId t'.store :=
        (hmoved' history).2
      rw [hkeep, hkeep', harrived, harrived']
      exact hviews

end TwoRuns

/-! ## With and without a second user -/

def serviceLabels (actions : List (UUID × ServiceAction)) : List ChatLabel :=
  actions.map fun action => .service action.1 action.2

def storeAfter (d : Deployment) (actions : List (UUID × ServiceAction)) : Store :=
  actions.foldl (fun store action => applyService d.config store action.1 action.2) {}

theorem exec_services (d : Deployment) (actions : List (UUID × ServiceAction)) (s : ChatState) :
    exec (ChatState.step d) s (serviceLabels actions) = some { s with
      store := actions.foldl (fun store action => applyService d.config store action.1 action.2)
        s.store } := by
  induction actions generalizing s with
  | nil => rfl
  | cons action actions ih => exact ih _

theorem reachable_storeAfter (d : Deployment) (actions : List (UUID × ServiceAction)) :
    Reachable d (storeAfter d actions) :=
  ⟨serviceLabels actions, _, exec_services d actions {}, rfl⟩

def firstTenant : List (UUID × ServiceAction) :=
  [(1, .createConversation { provider := none } 10 0),
    (1, .createSource { name := "Notes", content := "Harbor plan" } 11 fun _ => 12)]

def secondTenant : List (UUID × ServiceAction) :=
  [(2, .createConversation { provider := none } 20 0),
    (2, .createSource { name := "Other", content := "Harbor secret" } 21 fun _ => 22)]

def agentArrival : Arrival where
  streaming := false
  service := .agent
  userId := 1
  conversationId := 10
  request := { content := "Hello", clientMessageId := 5, executionMode := .agent }
  gen := { userMessageId := 101, assistantMessageId := 102, now := 1000 }

def substringSearch : FullText where
  found content query := containsText query content
  rank _ _ := 1

def searchRuntime : AgentRuntime where
  registry := { names := ["search_knowledge", "search_conversation"] }
  policy := {
    maxSteps := 6
    maxToolCalls := 8
    timeoutSeconds := 90
    defaultAllowedTools := {"search_knowledge", "search_conversation"} }

def searchModel (history : List AgentEvent) : LLMResponse :=
  if history.countP isModelCall = 0 then
    { content := "", model := "roleplay-engine", provider := "ollama",
      toolCalls := [
        { id := "call-1", name := "search_knowledge", arguments := [("query", .str "Harbor")] },
        { id := "call-2", name := "search_conversation", arguments := [("query", .str "hello")] }] }
  else { content := "Found it.", model := "roleplay-engine", provider := "ollama" }

def searchSurroundings : Surroundings where
  answers history
    | .perfCounter => (0 : Rat)
    | .makeTool _ => .error queryRequired
    | .generate _ _ => .ok (searchModel history)
    | .executeTool .. => .error queryRequired
    | .createRun _ | .recordStep _ | .completeRun .. | .setTerminalStatus .. => ⟨true, .ok ()⟩
  interrupts _ := none

def hitCounts (es : List AgentEvent) : List Nat :=
  es.filterMap fun
    | ⟨.executeTool .., .ok result⟩ =>
        match result.data with
        | [("hits", .arr hits)] => some hits.length
        | [("match_count", .int count)] => some count.toNat
        | _ => none
    | _ => none

def prepareAgent (store : Store) : Except Exn PreparedExchange × Store :=
  prepareExchange defaultDeployment.py defaultDeployment.config store agentArrival.userId
    agentArrival.conversationId agentArrival.request agentArrival.streaming agentArrival.gen

def searchRun (store : Store) (p : PreparedExchange) :
    List AgentEvent × Except Exn LLMResponse :=
  follow (searchSurroundings.oracle defaultDeployment.py substringSearch fun _ =>
      (prepareAgent store).2)
    (searchRuntime.run defaultDeployment.py 7 p.provider p.llmRequest) []

def oneTenant : Store := storeAfter defaultDeployment firstTenant

def twoTenants : Store := storeAfter defaultDeployment (firstTenant ++ secondTenant)

theorem prepareAgent_reachable (actions : List (UUID × ServiceAction)) :
    Reachable defaultDeployment (prepareAgent (storeAfter defaultDeployment actions)).2 :=
  (reachable_storeAfter defaultDeployment actions).prepare agentArrival rfl

private theorem oneTenant_finds :
    (prepareAgent oneTenant).1.toOption.map (fun p => hitCounts (searchRun oneTenant p).1) =
      some [1, 1] := by
  decide +kernel

private theorem oneTenant_view : view 1 oneTenant = view 1 twoTenants := by
  have hfirst := exec_services defaultDeployment firstTenant {}
  have hsecond := exec_services defaultDeployment secondTenant { store := oneTenant }
  have hothers : AllSteps (fun s label => ¬ ActsFor 1 s label) (ChatState.step defaultDeployment)
      { store := oneTenant } (serviceLabels secondTenant) := by
    apply AllSteps.of_forall
    intro label hlabel s
    obtain ⟨action, haction, rfl⟩ := List.mem_map.mp hlabel
    have hother : ∀ action ∈ secondTenant, action.1 ≠ 1 := by
      simp [secondTenant]
    exact hother action haction
  have hkeep : view 1 _ = view 1 oneTenant := run_view (run_owned hfirst) hothers hsecond
  rw [← hkeep, twoTenants, storeAfter, List.foldl_append]
  rfl

theorem tenant_noninterference_search :
    ∃ p, (prepareAgent oneTenant).1 = .ok p ∧ (prepareAgent twoTenants).1 = .ok p ∧
      hitCounts (searchRun oneTenant p).1 = [1, 1] ∧
      searchRun twoTenants p = searchRun oneTenant p := by
  have hfresh : ClearOfOthers 1 agentArrival.gen oneTenant ∧
      ClearOfOthers 1 agentArrival.gen twoTenants := by
    unfold ClearOfOthers
    decide +kernel
  have hpair : (prepareAgent oneTenant).1 = (prepareAgent twoTenants).1 ∧
      view 1 (prepareAgent oneTenant).2 = view 1 (prepareAgent twoTenants).2 ∧ _ :=
    tenant_noninterference (reachable_storeAfter defaultDeployment firstTenant)
      (reachable_storeAfter defaultDeployment (firstTenant ++ secondTenant))
      oneTenant_view hfresh.1 hfresh.2
  obtain ⟨hresult, hviews, hruns⟩ := hpair
  have hfinds := oneTenant_finds
  cases hp : (prepareAgent oneTenant).1 with
  | error e =>
      rw [hp] at hfinds
      cases hfinds
  | ok p =>
      rw [hp] at hfinds
      refine ⟨p, rfl, hresult.symm.trans hp, Option.some.inj hfinds, ?_⟩
      exact (hruns p hp substringSearch searchRuntime 7 searchSurroundings _ _
        (fun _ => prepareAgent_reachable firstTenant)
        (fun _ => prepareAgent_reachable (firstTenant ++ secondTenant)) fun _ => hviews).symm

end Astra.Tenancy
