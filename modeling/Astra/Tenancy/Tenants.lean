import Astra.Agents.Trace
import Astra.Tenancy.Noninterference
import Astra.Tenancy.References

/-!
# One tenant for each reference

The chat system with the rows of its agent runs.  A run copies its references from
the metadata of the prepared request, which names what `_prepare_exchange` has
looked up for the user.
-/

namespace Astra.Tenancy

open Astra.Foundation Astra.Platform Astra.Persistence Astra.LLM Astra.Services Astra.Chat
  Astra.Agents

/-! ## The system -/

structure TenantState where
  chat : ChatState := {}
  trace : TraceStore := ⟨[], []⟩

inductive TenantLabel where
  | chat (label : ChatLabel)
  | createRun (i : Nat) (runtime : AgentRuntime) (runId : UUID)
  | writeRun (op : AgentOp)

def createsRun : AgentOp → Bool
  | .createRun _ => true
  | _ => false

def TenantState.step (d : Deployment) (s : TenantState) : TenantLabel → Option TenantState
  | .chat label => (s.chat.step d label).map fun chat => { s with chat := chat }
  | .createRun i runtime runId =>
      (s.chat.phases i).exchange.bind fun p =>
        match prepareRun d.py runtime runId p.provider p.llmRequest with
        | .error _ => none
        | .ok scope => some { s with trace := s.trace.addRun scope.run }
  | .writeRun op => if createsRun op then none else some { s with trace := s.trace.write op }

/-! ## The property -/

/-- Every stored reference leads to a row of the user who owns the referring row. -/
structure InTenant (store : Store) (runs : List AgentRun) : Prop where
  character : ∀ c ∈ store.conversations, CharacterOwned store c.userId c.characterId
  persona : ∀ c ∈ store.conversations, PersonaOwned store c.userId c.personaId
  memoryCharacter : ∀ m ∈ store.memories, CharacterOwned store m.userId m.characterId
  memoryConversation : ∀ m ∈ store.memories, ConversationOwned store m.userId m.conversationId
  memorySource : ∀ m ∈ store.memories, MessageOwned store m.userId m.sourceMessageId
  runConversation : ∀ r ∈ runs, ConversationOwned store r.userId (some r.conversationId)
  runUserMessage : ∀ r ∈ runs, MessageOwned store r.userId r.userMessageId
  runAssistantMessage : ∀ r ∈ runs, MessageOwned store r.userId r.assistantMessageId

/-- The condition on a step: a source message of a memory is one of the user's own. -/
def SourceOwned (s : TenantState) : TenantLabel → Prop
  | .chat (.service userId (.createMemory request _ _)) =>
      MessageOwned s.chat.store userId request.sourceMessageId
  | _ => True

/-! ## The references of conversations and memories -/

structure KeysInTenant (store : Store) : Prop where
  character : ∀ c ∈ store.conversations, CharacterOwned store c.userId c.characterId
  memory : ∀ m ∈ store.memories, CharacterOwned store m.userId m.characterId ∧
    ConversationOwned store m.userId m.conversationId ∧
    MessageOwned store m.userId m.sourceMessageId

section Keys

variable {store store' : Store} {userId : UUID} {action : ServiceAction}

theorem KeysInTenant.memory_mono (h : KeysInTenant store) (hstay : Persists store store')
    {m : Memory} (hm : m ∈ store.memories) :
    CharacterOwned store' m.userId m.characterId ∧
      ConversationOwned store' m.userId m.conversationId ∧
      MessageOwned store' m.userId m.sourceMessageId := by
  obtain ⟨hcharacter, hconversation, hsource⟩ := h.memory m hm
  exact ⟨characterOwned_mono hcharacter hstay, conversationOwned_mono hconversation hstay,
    messageOwned_mono hsource hstay⟩

theorem KeysInTenant.keeps (h : KeysInTenant store) (hstay : Persists store store')
    (hkeeps : KeepsReferences store store') : KeysInTenant store' where
  character c hc := by
    have hkey := List.mem_map_of_mem (f := conversationKey) hc
    rw [hkeeps.conversations] at hkey
    obtain ⟨old, hold, heq⟩ := List.mem_map.mp hkey
    simp only [conversationKey, ConversationKey.mk.injEq] at heq
    rw [← heq.2.1, ← heq.2.2]
    exact characterOwned_mono (h.character old hold) hstay
  memory m hm := by
    have hkey := List.mem_map_of_mem (f := memoryKey) hm
    rw [hkeeps.memories] at hkey
    obtain ⟨old, hold, heq⟩ := List.mem_map.mp hkey
    simp only [memoryKey, MemoryKey.mk.injEq] at heq
    obtain ⟨howner, -, hconversation, hcharacter, hsource⟩ := heq
    rw [← howner, ← hconversation, ← hcharacter, ← hsource]
    exact h.memory_mono hstay hold

private theorem requestedKey_owned {request : MemoryCreateRequest}
    (hchecked : MemoryChecked store userId request)
    (hsource : MessageOwned store userId request.sourceMessageId) {m : Memory}
    (hkey : memoryKey m = requestedKey userId request) :
    CharacterOwned store m.userId m.characterId ∧
      ConversationOwned store m.userId m.conversationId ∧
      MessageOwned store m.userId m.sourceMessageId := by
  simp only [memoryKey, requestedKey, MemoryKey.mk.injEq] at hkey
  obtain ⟨howner, -, hconversation, hcharacter, hsource'⟩ := hkey
  rw [howner, hconversation, hcharacter, hsource']
  refine ⟨?_, ?_, hsource⟩
  · split
    · exact fun _ hid => by cases hid
    · exact hchecked.character
  · split
    · exact fun _ hid => by cases hid
    · exact hchecked.conversation

theorem KeysInTenant.service (h : KeysInTenant store)
    (hids : (store.conversations.map Conversation.id).Nodup) (hstay : Persists store store')
    (hsource : ∀ request id now, action = .createMemory request id now →
      MessageOwned store userId request.sourceMessageId)
    (heffect : ReferenceEffect store userId action store') : KeysInTenant store' := by
  cases heffect with
  | keeps store' hkeeps => exact h.keeps hstay hkeeps
  | addConversation c howner hcharacter =>
      refine ⟨?_, fun m hm => h.memory_mono hstay hm⟩
      intro c' hc'
      rcases List.mem_append.mp hc' with hc' | hc'
      · exact characterOwned_mono (h.character c' hc') hstay
      · rw [List.mem_singleton.mp hc', howner]
        exact characterOwned_mono hcharacter hstay
  | changeConversation id change c howned hkey hcharacter =>
      refine ⟨?_, fun m hm => h.memory_mono hstay hm⟩
      intro c' hc'
      rcases mem_updateWhere.mp hc' with ⟨row, hrow, hselected, rfl⟩ | ⟨hrow, -⟩
      · rw [(hkey row).2]
        rcases hcharacter row with hsame | hchecked
        · rw [hsame]
          exact characterOwned_mono (h.character row hrow) hstay
        · rw [getOwnedConversation_owner hids howned hrow (beq_iff_eq.mp hselected)]
          exact characterOwned_mono hchecked hstay
      · exact characterOwned_mono (h.character c' hrow) hstay
  | addMemory request id now m haction hchecked hkey =>
      refine ⟨fun c hc => characterOwned_mono (h.character c hc) hstay, ?_⟩
      intro m' hm'
      rcases List.mem_append.mp hm' with hm' | hm'
      · exact h.memory_mono hstay hm'
      · rw [List.mem_singleton.mp hm']
        obtain ⟨h₁, h₂, h₃⟩ := requestedKey_owned hchecked (hsource request id now haction) hkey
        exact ⟨characterOwned_mono h₁ hstay, conversationOwned_mono h₂ hstay,
          messageOwned_mono h₃ hstay⟩

end Keys

/-! ## The references of agent runs -/

/-- The metadata names the exchange and the user it was prepared for. -/
structure Names (py : PyRuntime) (userId conversationId : UUID) (p : PreparedExchange) : Prop where
  user : p.llmRequest.metadata.get? "user_id" = some (.str (py.uuidText userId))
  conversation : p.llmRequest.metadata.get? "conversation_id" =
    some (.str (py.uuidText conversationId))
  userMessage : p.llmRequest.metadata.get? "user_message_id" =
    some (.str (py.uuidText p.userMessage.id))
  assistantMessage : p.llmRequest.metadata.get? "assistant_message_id" =
    some (.str (py.uuidText p.assistantMessage.id))

def OwnedExchange (py : PyRuntime) (store : Store) (p : PreparedExchange) : Prop :=
  ∃ userId conversationId, Names py userId conversationId p ∧
    ConversationOwned store userId (some conversationId) ∧
    MessageOwned store userId (some p.userMessage.id) ∧
    MessageOwned store userId (some p.assistantMessage.id)

theorem OwnedExchange.mono {py : PyRuntime} {store store' : Store} {p : PreparedExchange}
    (h : OwnedExchange py store p) (hstay : Persists store store') : OwnedExchange py store' p := by
  obtain ⟨userId, conversationId, hnames, hconversation, huser, hassistant⟩ := h
  exact ⟨userId, conversationId, hnames, conversationOwned_mono hconversation hstay,
    messageOwned_mono huser hstay, messageOwned_mono hassistant hstay⟩

section Prepare

variable {py : PyRuntime} {config : AppConfig} {store store' : Store}
  {userId conversationId : UUID} {request : MessageSendRequest} {streaming : Bool}
  {gen : Generated} {p : PreparedExchange}

private theorem names_of_metadata {conversation : Conversation} {memoryIds : List UUID}
    (h : p.llmRequest.metadata =
      requestMetadata py conversation p.userMessage p.assistantMessage request memoryIds) :
    Names py conversation.userId conversation.id p := by
  constructor <;> rw [h] <;> rfl

theorem buildPrepared_names {conversation : Conversation} {user assistant : Message}
    {messages : List LLMMessage} {memoryIds : List UUID} {needsGeneration reused : Bool}
    (h : buildPreparedFromContext py config conversation user assistant request messages
      memoryIds needsGeneration reused = .ok p) :
    Names py conversation.userId conversation.id p := by
  obtain ⟨-, huser, hassistant, -, -⟩ := buildPrepared_eq_ok h
  have hmetadata := buildPrepared_metadata h
  rw [← huser, ← hassistant] at hmetadata
  exact names_of_metadata hmetadata

private theorem prepareExchange_names
    (h : prepareExchange py config store userId conversationId request streaming gen =
      (.ok p, store')) : Names py userId conversationId p := by
  unfold prepareExchange at h
  split at h
  · cases h
  · split at h
    · cases h
    · rename_i conversation howned
      obtain ⟨-, rfl, rfl⟩ := getOwnedConversation_mem howned
      split at h
      · cases h
      · split at h
        · dsimp only at h
          split at h
          · cases h
          · rename_i hbuilt
            cases h
            exact buildPrepared_names hbuilt
        · simp only [Prod.mk.injEq] at h
          exact buildPrepared_names h.1

private theorem prepareExchange_owned (hrows : WellFormed store.messages)
    (h : prepareExchange py config store userId conversationId request streaming gen =
      (.ok p, store')) : OwnedExchange py store' p := by
  obtain ⟨c, ex, howned, hloc, hdescribes, hmessages⟩ := prepareExchange_ok h
  obtain ⟨hmem, hid, howner⟩ := getOwnedConversation_mem howned
  have hconversation : ConversationOwned store' userId (some conversationId) := by
    have hkeeps := prepareExchange_keepsReferences py config store userId conversationId request
      streaming gen
    rw [h] at hkeeps
    obtain ⟨c', hc', hkey⟩ := mem_of_conversationKeys hkeeps.conversations hmem
    simp only [conversationKey, ConversationKey.mk.injEq] at hkey
    intro id hid'
    cases hid'
    exact ⟨c', hc', hkey.1.trans hid, hkey.2.1.trans howner⟩
  obtain ⟨⟨huser, hclient⟩, hassistant, hreply⟩ := hloc.exchange_mem
  obtain ⟨user, huserMem, hkey⟩ := List.mem_map.mp huser
  have huserId : user.id = ex.userMessage.id := congrArg MessageKey.id hkey
  have huserConversation : user.conversationId = conversationId :=
    (congrArg MessageKey.conversationId hkey).trans (hasClientId_iff.mp hclient).1
  have hassistantConversation : ex.assistantMessage.conversationId = conversationId := by
    rw [← huserId] at hreply
    exact ((hloc.wellFormed hrows).reply_conversation huserMem hassistant hreply).trans
      huserConversation
  refine ⟨userId, conversationId, prepareExchange_names h, hconversation, ?_, ?_⟩
  · intro id hid'
    cases hid'
    rw [hmessages, hdescribes.userMessage]
    exact ⟨user, huserMem, huserId, by rw [huserConversation]; exact hconversation⟩
  · intro id hid'
    cases hid'
    rw [hmessages, hdescribes.assistantMessage]
    exact ⟨_, hassistant, rfl, by rw [hassistantConversation]; exact hconversation⟩

end Prepare

section AgentRow

variable {rt : PyRuntime} {runtime : AgentRuntime} {runId : UUID} {store : Store}
  {p : PreparedExchange} {scope : RunScope}

theorem optionalMetadataUuid_text {request : LLMRequest} {key : String} {id : UUID}
    {found : Option UUID} (h : request.metadata.get? key = some (.str (rt.uuidText id)))
    (hfound : optionalMetadataUuid rt request key = .ok found) :
    found = none ∨ found = some id := by
  unfold optionalMetadataUuid at hfound
  rw [h] at hfound
  split at hfound
  · cases hfound
    exact Or.inl rfl
  · cases hfound
    exact Or.inl rfl
  · cases hfound
    exact Or.inl rfl
  · rename_i text _ _ heq
    cases heq
    rw [rt.str_str, rt.uuidParse_text] at hfound
    cases hfound
    exact Or.inr rfl

theorem messageOwned_of_metadata {userId id : UUID} {found : Option UUID}
    (howned : MessageOwned store userId (some id)) (hfound : found = none ∨ found = some id) :
    MessageOwned store userId found := by
  rcases hfound with rfl | rfl
  · exact fun _ hid => by cases hid
  · exact howned

structure RunOwned (store : Store) (run : AgentRun) : Prop where
  conversation : ConversationOwned store run.userId (some run.conversationId)
  userMessage : MessageOwned store run.userId run.userMessageId
  assistantMessage : MessageOwned store run.userId run.assistantMessageId

private theorem prepareRun_owned (h : OwnedExchange rt store p)
    (hrun : prepareRun rt runtime runId p.provider p.llmRequest = .ok scope) :
    RunOwned store scope.run := by
  obtain ⟨userId, conversationId, hnames, hconversation, huser, hassistant⟩ := h
  have hprepared := prepareRun_prepared hrun
  have howner := metadataUuid_text hnames.user hprepared.userId
  constructor
  · rw [howner, metadataUuid_text hnames.conversation hprepared.conversationId]
    exact hconversation
  · rw [howner]
    exact messageOwned_of_metadata huser
      (optionalMetadataUuid_text hnames.userMessage hprepared.userMessageId)
  · rw [howner]
    exact messageOwned_of_metadata hassistant
      (optionalMetadataUuid_text hnames.assistantMessage hprepared.assistantMessageId)

theorem RunOwned.mono {store' : Store} {run : AgentRun} (h : RunOwned store run)
    (hstay : Persists store store') : RunOwned store' run :=
  ⟨conversationOwned_mono h.conversation hstay, messageOwned_mono h.userMessage hstay,
    messageOwned_mono h.assistantMessage hstay⟩

def RunsOwned (store : Store) (runs : List AgentRun) : Prop := ∀ run ∈ runs, RunOwned store run

theorem RunsOwned.changeRun {trace : TraceStore} (h : RunsOwned store trace.runs) (id : UUID)
    {change : AgentRun → AgentRun}
    (hchange : ∀ run, RunOwned store run → RunOwned store (change run)) :
    RunsOwned store (trace.changeRun id change).runs := by
  intro run hrun
  rcases mem_updateWhere.mp hrun with ⟨old, hold, -, rfl⟩ | ⟨hrun, -⟩
  · exact hchange old (h old hold)
  · exact h run hrun

theorem RunsOwned.write {trace : TraceStore} (h : RunsOwned store trace.runs) {op : AgentOp}
    (hop : createsRun op = false) : RunsOwned store (trace.write op).runs := by
  cases op with
  | createRun run => cases hop
  | recordStep step => exact RunsOwned.changeRun h _ fun _ hrun => ⟨hrun.1, hrun.2, hrun.3⟩
  | completeRun id steps tools =>
      exact RunsOwned.changeRun h _ fun _ hrun => ⟨hrun.1, hrun.2, hrun.3⟩
  | setTerminalStatus id status code message =>
      exact RunsOwned.changeRun h _ fun _ hrun => ⟨hrun.1, hrun.2, hrun.3⟩
  | _ => exact h

end AgentRow

/-! ## Every run -/

structure TenantInvariant (d : Deployment) (s : TenantState) : Prop where
  owned : OwnedState s.chat
  keys : KeysInTenant s.chat.store
  exchange : ∀ i p, (s.chat.phases i).exchange = some p → OwnedExchange d.py s.chat.store p
  runs : RunsOwned s.chat.store s.trace.runs

theorem TenantInvariant.initial (d : Deployment) : TenantInvariant d {} where
  owned := ⟨RowsOwned.initial, TableInvariant.initial⟩
  keys := ⟨by simp, by simp⟩
  exchange _ _ h := by cases h
  runs := by simp [RunsOwned]

section Step

variable {d : Deployment} {s t : TenantState}

theorem update_exchange {phases : Nat → Phase} {i : Nat} {phase : Phase} {store : Store}
    {py : PyRuntime}
    (h : ∀ j p, (phases j).exchange = some p → OwnedExchange py store p)
    (hphase : ∀ p, phase.exchange = some p → OwnedExchange py store p) (j : Nat)
    (p : PreparedExchange) (hp : (Function.update phases i phase j).exchange = some p) :
    OwnedExchange py store p := by
  by_cases hji : j = i
  · subst hji
    rw [Function.update_self] at hp
    exact hphase p hp
  · rw [Function.update_of_ne hji] at hp
    exact h j p hp

private theorem chat_exchange (h : TenantInvariant d s) {label : ChatLabel} {chat : ChatState}
    (hstep : s.chat.step d label = some chat) (hstay : Persists s.chat.store chat.store) (i : Nat)
    (p : PreparedExchange) (hp : (chat.phases i).exchange = some p) :
    OwnedExchange d.py chat.store p := by
  have hold (j : Nat) (p : PreparedExchange) (hp : (s.chat.phases j).exchange = some p) :
      OwnedExchange d.py chat.store p := (h.exchange j p hp).mono hstay
  cases label with
  | arrive j a =>
      obtain ⟨-, -, rfl⟩ := ChatState.step_arrive hstep
      refine update_exchange hold ?_ i p hp
      intro p hp
      have hok := start_exchange hp
      simp only [Arrival.prepare] at hok ⊢
      cases hawaits : a.awaits <;> rw [hawaits] at hok <;> simp only [awaitPrepare] at hok ⊢
      · exact prepareExchange_owned h.owned.table.messages (Prod.ext hok rfl)
      · cases hok
      · cases hok
      · cases hok
  | resume j input now =>
      obtain ⟨phase, store, hresume, rfl⟩ := ChatState.step_resume hstep
      obtain ⟨q, hq, hkeeps, -⟩ := resume_writes hresume
      refine update_exchange hold ?_ i p hp
      intro p hp
      rcases hkeeps with hkeeps | ⟨outcome, rfl⟩
      · rw [hkeeps, Option.some.injEq] at hp
        exact hold j p (hp ▸ hq)
      · cases hp
  | service userId action =>
      obtain rfl := ChatState.step_service hstep
      exact hold i p hp

private theorem step_inTenant (h : TenantInvariant d s) {label : TenantLabel}
    (hok : SourceOwned s label)
    (hstep : s.step d label = some t) : TenantInvariant d t := by
  cases label with
  | chat label =>
      obtain ⟨chat, hchat, rfl⟩ := Option.map_eq_some_iff.mp hstep
      have hstay : Persists s.chat.store chat.store := step_persists h.owned.table hchat
      refine ⟨h.owned.step hchat, ?_, chat_exchange h hchat hstay,
        fun run hrun => (h.runs run hrun).mono hstay⟩
      rcases step_references hchat with hkeeps | ⟨userId, action, rfl, heffect⟩
      · exact h.keys.keeps hstay hkeeps
      · refine h.keys.service h.owned.rows.conversationIds hstay ?_ heffect
        rintro request id now rfl
        exact hok
  | createRun i runtime runId =>
      obtain ⟨p, hp, hstep⟩ := Option.bind_eq_some_iff.mp hstep
      split at hstep
      · cases hstep
      · rename_i scope hscope
        cases hstep
        refine ⟨h.owned, h.keys, h.exchange, ?_⟩
        intro run hrun
        rcases List.mem_append.mp hrun with hrun | hrun
        · exact h.runs run hrun
        · rw [List.mem_singleton.mp hrun]
          exact prepareRun_owned (h.exchange i p hp) hscope
  | writeRun op =>
      simp only [TenantState.step] at hstep
      split at hstep
      · cases hstep
      · rename_i hop
        cases hstep
        exact ⟨h.owned, h.keys, h.exchange, h.runs.write (by simpa using hop)⟩

private theorem TenantInvariant.inTenant (h : TenantInvariant d s) :
    InTenant s.chat.store s.trace.runs where
  character := h.keys.character
  persona := h.owned.rows.personaOwner
  memoryCharacter m hm := (h.keys.memory m hm).1
  memoryConversation m hm := (h.keys.memory m hm).2.1
  memorySource m hm := (h.keys.memory m hm).2.2
  runConversation run hrun := (h.runs run hrun).conversation
  runUserMessage run hrun := (h.runs run hrun).userMessage
  runAssistantMessage run hrun := (h.runs run hrun).assistantMessage

end Step

/-- No reference leads to a row of another tenant. -/
theorem references_stay_in_tenant (d : Deployment) {labels : List TenantLabel} {s : TenantState}
    (hrun : exec (TenantState.step d) {} labels = some s)
    (hok : AllSteps SourceOwned (TenantState.step d) {} labels) :
    InTenant s.chat.store s.trace.runs :=
  (exec_invariant (fun _ _ _ h hok hstep => step_inTenant h hok hstep)
    (TenantInvariant.initial d) hok hrun).inTenant

/-! ## A memory with a source message -/

def sendToAgent : List TenantLabel :=
  [.chat (openConversation10 (some "ollama")), .chat (.arrive 0 (helloArrival true ⟨20, 21, 100⟩)),
    .createRun 0 searchRuntime 60]

def rememberMessage (userId : UUID) : TenantLabel :=
  .chat (.service userId (.createMemory
    { scope := .user, content := "Says hello.", sourceMessageId := some 20 } 50 0))

def ownsMessage20 (userId : UUID) (s : TenantState) : Bool :=
  decide (∃ m ∈ s.chat.store.messages, m.id = 20 ∧
    ∃ c ∈ s.chat.store.conversations, c.id = m.conversationId ∧ c.userId = userId)

private theorem messageOwned_of_ownsMessage20 {userId : UUID} {s : TenantState}
    (h : ownsMessage20 userId s = true) : MessageOwned s.chat.store userId (some 20) := by
  obtain ⟨m, hm, hid, c, hc, hconversation, howner⟩ := of_decide_eq_true h
  intro id hid'
  cases hid'
  refine ⟨m, hm, hid, ?_⟩
  intro id hid''
  cases hid''
  exact ⟨c, hc, hconversation, howner⟩

theorem references_stay_in_tenant_own :
    ∃ s, exec (TenantState.step defaultDeployment) {} (sendToAgent ++ [rememberMessage 1]) =
      some s ∧
      s.chat.store.memories.map Memory.sourceMessageId = [some 20] ∧
      s.trace.runs.map AgentRun.userMessageId = [some 20] ∧
      InTenant s.chat.store s.trace.runs := by
  have hview : ((exec (TenantState.step defaultDeployment) {}
      (sendToAgent ++ [rememberMessage 1])).map fun s =>
        (s.chat.store.memories.map Memory.sourceMessageId,
          s.trace.runs.map AgentRun.userMessageId)) = some ([some 20], [some 20]) := by
    decide +kernel
  have hsent : (exec (TenantState.step defaultDeployment) {} sendToAgent).map (ownsMessage20 1) =
      some true := by decide +kernel
  obtain ⟨s, hs, hview⟩ := Option.map_eq_some_iff.mp hview
  obtain ⟨t, ht, howns⟩ := Option.map_eq_some_iff.mp hsent
  simp only [Prod.mk.injEq] at hview
  have hok : AllSteps SourceOwned (TenantState.step defaultDeployment) {}
      (sendToAgent ++ [rememberMessage 1]) := by
    have hsend : AllSteps SourceOwned (TenantState.step defaultDeployment) {} sendToAgent := by
      apply AllSteps.of_forall
      simp [sendToAgent, openConversation10, SourceOwned]
    exact hsend.extend ht ⟨messageOwned_of_ownsMessage20 howns, fun _ _ => trivial⟩
  exact ⟨s, hs, hview.1, hview.2, references_stay_in_tenant defaultDeployment hs hok⟩

/-- Message 20 is in a conversation of user 1, and user 2 makes it the source of a memory. -/
theorem foreign_source_message_stored :
    ∃ s, exec (TenantState.step defaultDeployment) {} (sendToAgent ++ [rememberMessage 2]) =
      some s ∧
      ¬ InTenant s.chat.store s.trace.runs := by
  have hview : ((exec (TenantState.step defaultDeployment) {}
      (sendToAgent ++ [rememberMessage 2])).map fun s =>
        decide (∃ m ∈ s.chat.store.memories, m.userId = 2 ∧ m.sourceMessageId = some 20) &&
          decide (∀ c ∈ s.chat.store.conversations, c.userId = 1)) = some true := by
    decide +kernel
  obtain ⟨s, hs, hview⟩ := Option.map_eq_some_iff.mp hview
  rw [Bool.and_eq_true, decide_eq_true_eq, decide_eq_true_eq] at hview
  obtain ⟨⟨m, hm, howner, hsource⟩, hothers⟩ := hview
  refine ⟨s, hs, ?_⟩
  intro h
  obtain ⟨message, -, -, hconversation⟩ := h.memorySource m hm 20 hsource
  obtain ⟨c, hc, -, hc'⟩ := hconversation _ rfl
  rw [hothers c hc, howner] at hc'
  cases hc'

end Astra.Tenancy
