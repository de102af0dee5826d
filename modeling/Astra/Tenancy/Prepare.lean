import Astra.Tenancy.View

/-!
# Preparing an exchange, seen by its user

`_prepare_exchange` commutes with the view: on the rows of the user alone it returns
the same result and leaves the user's part of what it leaves in the whole store.
-/

namespace Astra.Tenancy

open Astra.Foundation Astra.Platform Astra.Persistence Astra.LLM Astra.Services Astra.Chat

/-- The `uuid4` ids of the exchange are not those of another user's messages. -/
def ClearOfOthers (userId : UUID) (gen : Generated) (store : Store) : Prop :=
  ∀ m ∈ store.messages, ownsMessage store userId m = false →
    m.id ≠ gen.userMessageId ∧ m.id ≠ gen.assistantMessageId

/-! ## The message table -/

section Messages

variable {rows : List Message} {owned : UUID → Bool} {conversationId : UUID}

def ownedRows (owned : UUID → Bool) (rows : List Message) : List Message :=
  rows.filter fun m => owned m.conversationId

theorem addMessage_owned {m : Message} (howned : owned m.conversationId = true)
    (hid : ∀ row ∈ rows, owned row.conversationId = false → row.id ≠ m.id) :
    addMessage m (ownedRows owned rows) = (addMessage m rows).map (ownedRows owned) := by
  have hany : (ownedRows owned rows).any (hasClientId m.conversationId m.clientMessageId) =
      rows.any (hasClientId m.conversationId m.clientMessageId) := by
    rw [ownedRows, List.any_filter]
    congr 1
    funext row
    cases hclient : hasClientId m.conversationId m.clientMessageId row with
    | false => simp
    | true =>
        simp only [hasClientId, Bool.and_eq_true, beq_iff_eq] at hclient
        simp [hclient.1.2, howned]
  have hmem : m.id ∈ (ownedRows owned rows).map Message.id ↔ m.id ∈ rows.map Message.id := by
    constructor
    · intro h
      obtain ⟨row, hrow, heq⟩ := List.mem_map.mp h
      exact List.mem_map.mpr ⟨row, (List.mem_filter.mp hrow).1, heq⟩
    · intro h
      obtain ⟨row, hrow, heq⟩ := List.mem_map.mp h
      refine List.mem_map.mpr ⟨row, List.mem_filter.mpr ⟨hrow, ?_⟩, heq⟩
      by_contra hnot
      exact hid row hrow (by simpa using hnot) heq
  unfold addMessage
  rw [hany]
  split_ifs with hclient
  · rfl
  · unfold addRow insertRow
    by_cases htaken : m.id ∈ rows.map Message.id
    · rw [if_pos htaken, if_pos (hmem.mpr htaken)]
      rfl
    · rw [if_neg htaken, if_neg (fun h => htaken (hmem.mp h))]
      simp [ownedRows, Except.map, howned]

theorem updateMessage_owned {id : UUID} {change : Message → Message}
    (hkeep : ∀ m, (change m).conversationId = m.conversationId) :
    ownedRows owned (updateMessage id change rows) =
      updateMessage id change (ownedRows owned rows) := by
  apply filter_updateWhere_comm
  intro m _ _
  rw [hkeep]

def restrictExchange (owned : UUID → Bool) (ex : Exchange) : Exchange :=
  { ex with rows := ownedRows owned ex.rows }

variable {gen : Generated} {streaming : Bool}

theorem reuseExchange_owned (h : WellFormed rows) (howned : owned conversationId = true)
    {user : Message} (huser : user ∈ rows) (hconversation : user.conversationId = conversationId)
    (hassistant : ∀ row ∈ rows, owned row.conversationId = false →
      row.id ≠ gen.assistantMessageId) :
    reuseExchange (ownedRows owned rows) conversationId user streaming gen =
      (reuseExchange rows conversationId user streaming gen).map (restrictExchange owned) := by
  have hreply : getAssistantReply (ownedRows owned rows) user.id =
      getAssistantReply rows user.id := by
    unfold getAssistantReply ownedRows
    rw [filter_of_imp]
    intro reply hmem hparent
    rw [h.reply_conversation huser hmem hparent, hconversation]
    exact howned
  have hadd : addMessage (newAssistantMessage gen conversationId user.id streaming)
      (ownedRows owned rows) =
        (addMessage (newAssistantMessage gen conversationId user.id streaming) rows).map
          (ownedRows owned) :=
    addMessage_owned howned hassistant
  unfold reuseExchange
  rw [hreply]
  cases getAssistantReply rows user.id with
  | error e => rfl
  | ok reply =>
      cases reply with
      | none =>
          simp only [bind, Except.bind, hadd]
          cases addMessage (newAssistantMessage gen conversationId user.id streaming) rows <;> rfl
      | some assistant =>
          cases hstatus : assistant.status with
          | completed => simp [bind, Except.bind, hstatus, Except.map, restrictExchange]
          | pending => simp [bind, Except.bind, hstatus, Except.map]
          | streaming => simp [bind, Except.bind, hstatus, Except.map]
          | failed =>
              have hupdate : ownedRows owned
                  (updateMessage assistant.id (resetForRetry streaming gen.now) rows) =
                    updateMessage assistant.id (resetForRetry streaming gen.now)
                      (ownedRows owned rows) :=
                updateMessage_owned fun _ => rfl
              simp [bind, Except.bind, hstatus, Except.map, restrictExchange, hupdate]

theorem locateExchange_owned (h : WellFormed rows) (howned : owned conversationId = true)
    {request : MessageSendRequest}
    (hclear : ∀ row ∈ rows, owned row.conversationId = false →
      row.id ≠ gen.userMessageId ∧ row.id ≠ gen.assistantMessageId) :
    locateExchange (ownedRows owned rows) conversationId request streaming gen =
      (locateExchange rows conversationId request streaming gen).map (restrictExchange owned) := by
  have hclient : getByClientMessageId (ownedRows owned rows) conversationId
      request.clientMessageId =
        getByClientMessageId rows conversationId request.clientMessageId := by
    unfold getByClientMessageId ownedRows
    rw [filter_of_imp]
    intro m _ hm
    rw [(hasClientId_iff.mp hm).1]
    exact howned
  unfold locateExchange
  rw [hclient]
  cases hfound : getByClientMessageId rows conversationId request.clientMessageId with
  | error e => rfl
  | ok found =>
      cases found with
      | none =>
          have huser : addMessage (newUserMessage gen conversationId request)
              (ownedRows owned rows) =
                (addMessage (newUserMessage gen conversationId request) rows).map
                  (ownedRows owned) :=
            addMessage_owned howned fun row hrow hforeign => (hclear row hrow hforeign).1
          simp only [bind, Except.bind, huser]
          cases hadd : addMessage (newUserMessage gen conversationId request) rows with
          | error e => rfl
          | ok added =>
              obtain ⟨-, rfl⟩ := addMessage_eq_ok hadd
              have hassistant : ∀ row ∈ rows ++ [newUserMessage gen conversationId request],
                  owned row.conversationId = false → row.id ≠ gen.assistantMessageId := by
                intro row hrow hforeign
                rcases List.mem_append.mp hrow with hrow | hrow
                · exact (hclear row hrow hforeign).2
                · rw [List.mem_singleton.mp hrow] at hforeign
                  exact absurd (howned.symm.trans hforeign) (by simp)
              have hreply := addMessage_owned
                (m := newAssistantMessage gen conversationId
                  (newUserMessage gen conversationId request).id streaming) howned hassistant
              simp only [Except.map, hreply]
              cases addMessage (newAssistantMessage gen conversationId
                (newUserMessage gen conversationId request).id streaming)
                (rows ++ [newUserMessage gen conversationId request]) <;> rfl
      | some user =>
          obtain ⟨hmem, hmatch⟩ := scalarOneOrNone_eq_some hfound
          exact reuseExchange_owned h howned hmem (hasClientId_iff.mp hmatch).1
            fun row hrow hforeign => (hclear row hrow hforeign).2

end Messages

/-! ## The whole transaction -/

section Prepare

variable {store : Store} {userId : UUID} {py : PyRuntime} {config : AppConfig}

private theorem assemble_view (conversation : Conversation) (history : List Message)
    (now : Timestamp) :
    assemble py config (view userId store) userId conversation history now =
      ((assemble py config store userId conversation history now).1,
        (assemble py config store userId conversation history now).2.filter
          fun m => m.userId == userId) := by
  have htouch : ∀ selected : List Memory,
      (touchMemories selected now store.memories).filter (fun m => m.userId == userId) =
        touchMemories selected now (view userId store).memories := by
    intro selected
    apply filter_updateWhere_comm
    intro m _ _
    rfl
  simp only [assemble, getOwnedCharacter_view, getOwnedPersona_view, listForContext_view, htouch]

private theorem ownsConversation_congr {store' : Store}
    (h : store'.conversations.map (fun c => (c.id, c.userId)) =
      store.conversations.map fun c => (c.id, c.userId)) :
    ownsConversation store' userId = ownsConversation store userId := by
  have hany : ∀ (rows : List Conversation) (id : UUID),
      (rows.any fun c => c.id == id && c.userId == userId) =
        (rows.map fun c => (c.id, c.userId)).any fun key => key.1 == id && key.2 == userId := by
    intro rows id
    rw [List.any_map]
    rfl
  funext id
  unfold ownsConversation
  rw [hany, hany, h]

private theorem view_openConversation (userId : UUID) (store : Store) (id : UUID)
    {change : Conversation → Conversation}
    (hkey : ∀ c, (change c).id = c.id ∧ (change c).userId = c.userId) :
    view userId { store with
        conversations := updateConversationRow id change store.conversations } =
      { view userId store with
        conversations := updateConversationRow id change (view userId store).conversations } := by
  have howns : ownsConversation { store with
      conversations := updateConversationRow id change store.conversations } userId =
        ownsConversation store userId := by
    apply ownsConversation_congr
    apply map_updateWhere
    intro c _ _
    rw [(hkey c).1, (hkey c).2]
  have hconversations :
      (updateConversationRow id change store.conversations).filter (fun c => c.userId == userId) =
        updateConversationRow id change (view userId store).conversations := by
    apply filter_updateWhere_comm
    intro c _ _
    rw [(hkey c).2]
  have hmessages : ownsMessage { store with
      conversations := updateConversationRow id change store.conversations } userId =
        ownsMessage store userId := by
    funext m
    exact congrFun howns m.conversationId
  simp only [view, hconversations, hmessages]

theorem prepareExchange_view {conversationId : UUID} {request : MessageSendRequest}
    {streaming : Bool} {gen : Generated} (h : WellOwned store)
    (hclear : ClearOfOthers userId gen store) :
    prepareExchange py config (view userId store) userId conversationId request streaming gen =
      ((prepareExchange py config store userId conversationId request streaming gen).1,
        view userId
          (prepareExchange py config store userId conversationId request streaming gen).2) := by
  unfold prepareExchange
  split_ifs with hlength
  · rfl
  rw [getOwnedConversation_view]
  cases howned : getOwnedConversation store.conversations conversationId userId with
  | none => rfl
  | some conversation =>
      have hconversation := ownsConversation_of_getOwned howned
      have hlocate : locateExchange (view userId store).messages conversationId request streaming
          gen = (locateExchange store.messages conversationId request streaming gen).map
            (restrictExchange (ownsConversation store userId)) :=
        locateExchange_owned h.messages hconversation hclear
      simp only [hlocate]
      cases locateExchange store.messages conversationId request streaming gen with
      | error e => rfl
      | ok exchange =>
          cases hneeds : exchange.needsGeneration with
          | false => simp [Except.map, restrictExchange, hneeds]
          | true =>
              have hhistory : listContext
                  (ownedRows (ownsConversation store userId) exchange.rows) conversationId
                    config.chatContextMessageLimit =
                  listContext exchange.rows conversationId config.chatContextMessageLimit := by
                apply listContext_filter
                intro m hm
                rw [hm]
                exact hconversation
              simp only [Except.map, restrictExchange, hneeds, if_true, hhistory, assemble_view]
              generalize assemble py config store userId
                (openConversation request gen.now conversation)
                (listContext exchange.rows conversationId config.chatContextMessageLimit)
                gen.now = assembled
              cases buildPreparedFromContext py config
                (openConversation request gen.now conversation) exchange.userMessage
                exchange.assistantMessage request assembled.1.messages assembled.1.memoryIds
                true exchange.reused with
              | error e => rfl
              | ok prepared =>
                  have hkey : ∀ c, (openConversation request gen.now c).id = c.id ∧
                      (openConversation request gen.now c).userId = c.userId :=
                    fun _ => ⟨rfl, rfl⟩
                  have hopened := view_openConversation userId
                    { store with memories := assembled.2, messages := exchange.rows }
                    conversationId hkey
                  simp only [hopened]
                  rfl

end Prepare

end Astra.Tenancy
