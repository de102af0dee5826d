import Astra.Tenancy.Owners
import Astra.Tenancy.Prepare

/-!
# Other users leave the view alone

A step that is not taken for a user changes none of the rows in the view of that
user: services and arrivals of others touch rows of their own, and a finalising
transaction touches the reply and the conversation that it was opened for.
-/

namespace Astra.Tenancy

open Astra.Foundation Astra.Platform Astra.Persistence Astra.Services Astra.Chat

section View

variable {store store' : Store} {userId other : UUID}

theorem ownsConversation_eq (store : Store) (userId id : UUID) :
    ownsConversation store userId id =
      (view userId store).conversations.any fun c => c.id == id := by
  unfold ownsConversation view
  rw [List.any_filter]
  congr 1
  funext c
  exact Bool.and_comm _ _

theorem view_eq
    (hconversations : (view userId store').conversations = (view userId store).conversations)
    (hmessages : store'.messages.filter (ownsMessage store userId) =
      store.messages.filter (ownsMessage store userId))
    (hcharacters : (view userId store').characters = (view userId store).characters)
    (hpersonas : (view userId store').personas = (view userId store).personas)
    (hmemories : (view userId store').memories = (view userId store).memories)
    (hsources : (view userId store').sources = (view userId store).sources)
    (hchunks : (view userId store').chunks = (view userId store).chunks) :
    view userId store' = view userId store := by
  have howns : ownsMessage store' userId = ownsMessage store userId := by
    funext m
    unfold ownsMessage
    rw [ownsConversation_eq, ownsConversation_eq, hconversations]
  have hview : (view userId store').messages = (view userId store).messages := by
    show store'.messages.filter (ownsMessage store' userId) = _
    rw [howns]
    exact hmessages
  cases hold : view userId store
  cases hnew : view userId store'
  rw [hold, hnew] at hconversations hview hcharacters hpersonas hmemories hsources hchunks
  simp_all

theorem not_owner {id : UUID} (hne : other ≠ userId) (hid : id = other) :
    (id == userId) = false := by
  rw [hid]
  simpa using hne

theorem filter_append_others {α : Type} {owner : α → UUID} {rows added : List α}
    (hne : other ≠ userId) (hadded : ∀ row ∈ added, owner row = other) :
    (rows ++ added).filter (fun row => owner row == userId) =
      rows.filter fun row => owner row == userId := by
  have hnone : added.filter (fun row => owner row == userId) = [] := by
    rw [List.filter_eq_nil_iff]
    intro row hrow
    rw [not_owner hne (hadded row hrow)]
    simp
  rw [List.filter_append, hnone, List.append_nil]

theorem filter_change_other {α : Type} {key owner : α → UUID} {rows : List α} {change : α → α}
    {found : α} (hne : other ≠ userId) (hrows : (rows.map key).Nodup) (hfound : found ∈ rows)
    (howner : owner found = other) (hkeep : ∀ row, owner (change row) = owner row) :
    (updateWhere (fun row => key row == key found) change rows).filter
        (fun row => owner row == userId) = rows.filter fun row => owner row == userId := by
  apply filter_updateWhere_key hrows hfound (not_owner hne howner)
  intro row
  rw [hkeep]

/-! ## Services of another user -/

theorem clearDefault_others {rows : List Persona} {except : Option UUID} (hne : other ≠ userId) :
    (clearDefault other except rows).filter (fun p => p.userId == userId) =
      rows.filter fun p => p.userId == userId := by
  have hother : ∀ p ∈ rows, (p.userId == other && some p.id != except) = true →
      (p.userId == userId) = false := by
    intro p _ hselected
    simp only [Bool.and_eq_true, beq_iff_eq] at hselected
    exact not_owner hne hselected.1
  exact filter_updateWhere _ hother hother

theorem defaultsCleared_others {rows : List Persona} (hne : other ≠ userId)
    (h : DefaultsCleared store other rows) :
    rows.filter (fun p => p.userId == userId) =
      store.personas.filter fun p => p.userId == userId := by
  rcases h with rfl | ⟨except, rfl⟩
  · rfl
  · exact clearDefault_others hne

theorem deletePersona_others (h : RowsOwned store) {p : Persona} (hne : other ≠ userId)
    (hp : p ∈ store.personas) (howner : p.userId = other) :
    (updateWhere (fun c => c.personaId == some p.id)
        (fun c : Conversation => { c with personaId := none }) store.conversations).filter
          (fun c => c.userId == userId) =
      store.conversations.filter fun c => c.userId == userId := by
  have hother : ∀ c ∈ store.conversations, (c.personaId == some p.id) = true →
      (c.userId == userId) = false := by
    intro c hc hrefers
    rw [beq_iff_eq] at hrefers
    obtain ⟨q, hq, hid, hsame⟩ := h.personaOwner c hc p.id hrefers
    rw [eq_of_key_eq h.personaIds hq hp hid, howner] at hsame
    exact not_owner hne hsame.symm
  exact filter_updateWhere _ hother hother

private theorem view_service (h : RowsOwned store) (hne : other ≠ userId)
    (heffect : ServiceEffect store other store') : view userId store' = view userId store := by
  cases heffect with
  | addConversation c howner hfresh hpersona =>
      refine view_eq ?_ rfl rfl rfl rfl rfl rfl
      exact filter_append_others hne (by simpa using howner)
  | changeConversation id change c howned hkey hpersona =>
      refine view_eq ?_ rfl rfl rfl rfl rfl rfl
      obtain ⟨hmem, rfl, howner⟩ := getOwnedConversation_mem howned
      exact filter_change_other hne h.conversationIds hmem howner fun row => (hkey row).2
  | addCharacter c howner hfresh =>
      refine view_eq rfl rfl ?_ rfl rfl rfl rfl
      exact filter_append_others hne (by simpa using howner)
  | changeCharacter id change c howned hkey =>
      refine view_eq rfl rfl ?_ rfl rfl rfl rfl
      obtain ⟨hmem, rfl, howner⟩ := getOwnedCharacterAny_mem howned
      exact filter_change_other hne h.characterIds hmem howner fun row => (hkey row).2
  | addPersona p cleared howner hcleared hfresh =>
      refine view_eq rfl rfl rfl ?_ rfl rfl rfl
      exact (filter_append_others hne (by simpa using howner)).trans
        (defaultsCleared_others hne hcleared)
  | changePersona id change cleared p howned hcleared hkey =>
      refine view_eq rfl rfl rfl ?_ rfl rfl rfl
      obtain ⟨hmem, rfl, huser⟩ := getOwnedPersona_mem howned
      obtain ⟨q, hq, hid, howner⟩ := mem_of_keys (defaultsCleared_keys hcleared) hmem
      have hids : (cleared.map Persona.id).Nodup := by
        rw [ids_of_keys (defaultsCleared_keys hcleared)]
        exact h.personaIds
      rw [← hid]
      exact (filter_change_other hne hids hq (howner.trans huser) fun row => (hkey row).2).trans
        (defaultsCleared_others hne hcleared)
  | deletePersona id p howned =>
      obtain ⟨hp, rfl, howner⟩ := getOwnedPersona_mem howned
      refine view_eq ?_ rfl rfl ?_ rfl rfl rfl
      · exact deletePersona_others h hne hp howner
      · apply filter_of_imp
        intro q hq hquser
        simp only [bne_iff_ne, ne_eq]
        intro hid
        rw [eq_of_key_eq h.personaIds hq hp hid, not_owner hne howner] at hquser
        cases hquser
  | addMemory m howner hfresh =>
      refine view_eq rfl rfl rfl rfl ?_ rfl rfl
      exact filter_append_others hne (by simpa using howner)
  | changeMemory id change m howned hkey =>
      refine view_eq rfl rfl rfl rfl ?_ rfl rfl
      obtain ⟨hmem, rfl, howner⟩ := getOwnedMemory_mem howned
      exact filter_change_other hne h.memoryIds hmem howner fun row => (hkey row).2
  | addSource source chunks howner hfresh hchunks =>
      refine view_eq rfl rfl rfl rfl rfl ?_ ?_
      · exact filter_append_others hne (by simpa using howner)
      · exact filter_append_others hne fun chunk hchunk => (hchunks chunk hchunk).1
  | changeSource id change source howned hkey =>
      refine view_eq rfl rfl rfl rfl rfl ?_ rfl
      obtain ⟨hmem, rfl, howner⟩ := getSourceOwned_mem howned
      exact filter_change_other hne h.knowledge.sourceIds hmem howner fun row => (hkey row).2

/-! ## Exchanges of another user -/

private theorem not_ownsConversation (h : RowsOwned store) (hne : other ≠ userId) {id : UUID}
    {c : Conversation} (howned : getOwnedConversation store.conversations id other = some c) :
    ownsConversation store userId id = false := by
  unfold ownsConversation
  rw [List.any_eq_false]
  intro c' hc' hboth
  simp only [Bool.and_eq_true, beq_iff_eq] at hboth
  have howner := getOwnedConversation_owner h.conversationIds howned hc' hboth.1
  exact hne (howner.symm.trans hboth.2)

theorem located_others {rows : List Message} {owned : UUID → Bool} {conversationId : UUID}
    {request : MessageSendRequest} {streaming : Bool} {gen : Generated} {ex : Exchange}
    (h : WellFormed rows) (hother : owned conversationId = false)
    (hloc : Located rows conversationId request streaming gen ex) :
    ownedRows owned ex.rows = ownedRows owned rows := by
  cases hloc with
  | new hclient huser hassistant hne =>
      simp [ownedRows, newUserMessage, newAssistantMessage, hother]
  | unanswered user huser hclient hreply hassistant =>
      simp [ownedRows, newAssistantMessage, hother]
  | replay user assistant huser hclient hassistant hreply hstatus => rfl
  | retry user assistant huser hclient hassistant hreply hstatus =>
      have hconversation := h.reply_conversation huser hassistant hreply
      rw [(hasClientId_iff.mp hclient).1] at hconversation
      apply filter_updateWhere_key h.ids hassistant
      · rw [hconversation]
        exact hother
      · intro row
        rfl

theorem touchMemories_others (h : RowsOwned store) (hne : other ≠ userId) {conversationId : UUID}
    {characterId : Option UUID} {limit : Nat} {minImportance : Rat} {now : Timestamp} :
    (touchMemories
        (listForContext store.memories other conversationId characterId limit minImportance) now
        store.memories).filter (fun m => m.userId == userId) =
      store.memories.filter fun m => m.userId == userId := by
  have hother : ∀ m ∈ store.memories,
      decide (m.id ∈ (listForContext store.memories other conversationId characterId limit
        minImportance).map Memory.id) = true → (m.userId == userId) = false := by
    intro m hm hselected
    rw [decide_eq_true_iff] at hselected
    obtain ⟨found, hfound, hid⟩ := List.mem_map.mp hselected
    obtain ⟨hmem, hquery⟩ := mem_of_mem_selectOrdered hfound
    simp only [memorySelected, Bool.and_eq_true, beq_iff_eq] at hquery
    rw [eq_of_key_eq h.memoryIds hm hmem hid.symm]
    exact not_owner hne hquery.1.1.1
  exact filter_updateWhere _ hother hother

private theorem view_prepareExchange (h : RowsOwned store) (hmessages : WellFormed store.messages)
    (hne : other ≠ userId) (py : PyRuntime) (config : AppConfig) (conversationId : UUID)
    (request : MessageSendRequest) (streaming : Bool) (gen : Generated) :
    view userId
        (prepareExchange py config store other conversationId request streaming gen).2 =
      view userId store := by
  unfold prepareExchange
  split_ifs
  · rfl
  cases howned : getOwnedConversation store.conversations conversationId other with
  | none => rfl
  | some conversation =>
      dsimp only
      cases hlocate : locateExchange store.messages conversationId request streaming gen with
      | error e => rfl
      | ok exchange =>
          dsimp only
          have hforeign := not_ownsConversation h hne howned
          obtain ⟨hmem, rfl, howner⟩ := getOwnedConversation_mem howned
          split_ifs
          · dsimp only [assemble]
            split
            · exact view_eq rfl rfl rfl rfl (touchMemories_others h hne) rfl rfl
            · refine view_eq ?_ ?_ rfl rfl (touchMemories_others h hne) rfl rfl
              · exact filter_change_other hne h.conversationIds hmem howner fun row => rfl
              · exact located_others hmessages hforeign (locateExchange_located hlocate)
          · rfl

private theorem view_storeWrite {p : PreparedExchange} {now : Timestamp}
    (hforeign : ∀ m ∈ store.messages, m.id = p.assistantMessage.id →
      ownsMessage store userId m = false)
    (h : StoreWrite p now store store') : view userId store' = view userId store := by
  have hother : ∀ m ∈ store.messages, (m.id == p.assistantMessage.id) = true →
      ownsMessage store userId m = false := by
    intro m hm hid
    rw [beq_iff_eq] at hid
    exact hforeign m hm hid
  cases h with
  | unchanged => rfl
  | success reply =>
      unfold finalizeSuccess
      split
      · rfl
      · rename_i assistant hfound
        obtain ⟨hmem, hid⟩ := getMessage_mem hfound
        refine view_eq ?_ ?_ rfl rfl rfl rfl rfl
        · have hconversation : ∀ c ∈ store.conversations,
              (c.id == assistant.conversationId) = true → (c.userId == userId) = false := by
            intro c hc hcid
            have hnone := hforeign assistant hmem hid
            unfold ownsMessage ownsConversation at hnone
            rw [List.any_eq_false] at hnone
            have hboth := hnone c hc
            rw [hcid, Bool.true_and] at hboth
            simpa using hboth
          exact filter_updateWhere _ hconversation hconversation
        · exact filter_updateWhere _ hother hother
  | failure content e =>
      refine view_eq rfl ?_ rfl rfl rfl rfl rfl
      exact filter_updateWhere _ hother hother

end View

/-! ## Runs -/

section Runs

variable {d : Deployment} {s t : ChatState} {label : ChatLabel} {userId : UUID}

/-- The step is one of the user: a request of the user, or one whose reply the user owns. -/
def ActsFor (userId : UUID) (s : ChatState) : ChatLabel → Prop
  | .arrive _ arrival => arrival.userId = userId
  | .resume i _ _ => ∃ p m, (s.phases i).exchange = some p ∧ m ∈ s.store.messages ∧
      m.id = p.assistantMessage.id ∧ ownsMessage s.store userId m = true
  | .service other _ => other = userId

private theorem view_prepare (h : RowsOwned s.store) (hmessages : WellFormed s.store.messages)
    {a : Arrival} (hne : a.userId ≠ userId) :
    view userId (a.prepare d s.store).2 = view userId s.store := by
  have hprepare := view_prepareExchange h hmessages hne d.py d.config a.conversationId a.request
    a.streaming a.gen
  unfold Arrival.prepare awaitPrepare
  cases a.awaits with
  | completed => exact hprepare
  | raisedBeforeAssembly e => rfl
  | raisedBeforeCommit e =>
      have hmemories := congrArg Store.memories hprepare
      exact view_eq rfl rfl rfl rfl hmemories rfl rfl
  | raisedAfterCommit e => exact hprepare

private theorem step_view (h : OwnedState s)
    (hother : ¬ ActsFor userId s label) (hstep : s.step d label = some t) :
    view userId t.store = view userId s.store := by
  cases label with
  | arrive i a =>
      obtain ⟨-, -, rfl⟩ := ChatState.step_arrive hstep
      exact view_prepare h.rows h.table.messages hother
  | resume i input now =>
      obtain ⟨phase, store, hresume, rfl⟩ := ChatState.step_resume hstep
      obtain ⟨p, hp, _, hwrite⟩ := resume_writes hresume
      apply view_storeWrite _ hwrite
      intro m hm hid
      cases howns : ownsMessage s.store userId m with
      | false => rfl
      | true => exact absurd ⟨p, m, hp, hm, hid, howns⟩ hother
  | service other action =>
      obtain rfl := ChatState.step_service hstep
      rcases applyService_cases d.config s.store other action with hsame | heffect
      · rw [hsame]
      · exact view_service h.rows hother heffect

def KeepsView (userId : UUID) (s t : ChatState) : Prop :=
  view userId t.store = view userId s.store

/-- Whatever the others do, a user's view stays as it is. -/
theorem run_view {labels : List ChatLabel} (h : OwnedState s)
    (hothers : AllSteps (fun s label => ¬ ActsFor userId s label) (ChatState.step d) s labels)
    (hrun : exec (ChatState.step d) s labels = some t) : KeepsView userId s t := by
  refine exec_relation ?_ ?_ ?_ ?_ h hothers hrun
  · intro s
    rfl
  · intro s t u h h'
    exact Eq.trans h' h
  · intro s label t h _ hstep
    exact h.step hstep
  · intro s label t h hother hstep
    exact step_view h hother hstep

end Runs

end Astra.Tenancy
