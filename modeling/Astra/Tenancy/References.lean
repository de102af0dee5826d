import Astra.Services.References
import Astra.Tenancy.Owners

/-!
# References between rows

The chat services store no reference in a conversation or in a memory; what the
other services store there is the effect of one operation.
-/

namespace Astra.Tenancy

open Astra.Foundation Astra.Platform Astra.Persistence Astra.Services Astra.Chat

section Keep

variable {store store' : Store}

theorem touchMemories_keys (selected : List Memory) (now : Timestamp) (rows : List Memory) :
    (touchMemories selected now rows).map memoryKey = rows.map memoryKey :=
  map_updateWhere _ fun _ _ _ => rfl

theorem updateConversationRow_keys {id : UUID} {change : Conversation → Conversation}
    {rows : List Conversation} (hkey : ∀ c, conversationKey (change c) = conversationKey c) :
    (updateConversationRow id change rows).map conversationKey = rows.map conversationKey :=
  map_updateWhere _ fun c _ _ => hkey c

theorem prepareExchange_keepsReferences (py : PyRuntime) (config : AppConfig) (store : Store)
    (userId conversationId : UUID) (request : MessageSendRequest) (streaming : Bool)
    (gen : Generated) :
    KeepsReferences store
      (prepareExchange py config store userId conversationId request streaming gen).2 := by
  unfold prepareExchange
  split_ifs
  · exact KeepsReferences.refl store
  split
  · exact KeepsReferences.refl store
  split
  · exact KeepsReferences.refl store
  split_ifs
  · dsimp only
    split
    · exact ⟨rfl, fun c hc => ⟨c, hc, rfl, rfl⟩, touchMemories_keys _ _ _⟩
    · exact ⟨updateConversationRow_keys fun _ => rfl, fun c hc => ⟨c, hc, rfl, rfl⟩,
        touchMemories_keys _ _ _⟩
  · exact KeepsReferences.refl store

private theorem prepare_keepsReferences (d : Deployment) (a : Arrival) (store : Store) :
    KeepsReferences store (a.prepare d store).2 := by
  have h := prepareExchange_keepsReferences d.py d.config store a.userId a.conversationId
    a.request a.streaming a.gen
  unfold Arrival.prepare awaitPrepare
  cases a.awaits with
  | completed => exact h
  | raisedBeforeAssembly e => exact KeepsReferences.refl store
  | raisedBeforeCommit e => exact ⟨rfl, fun c hc => ⟨c, hc, rfl, rfl⟩, h.memories⟩
  | raisedAfterCommit e => exact h

private theorem storeWrite_keepsReferences {p : PreparedExchange} {now : Timestamp}
    (h : StoreWrite p now store store') : KeepsReferences store store' := by
  cases h with
  | unchanged => exact KeepsReferences.refl store
  | success reply =>
      unfold finalizeSuccess
      split
      · exact KeepsReferences.refl store
      · exact ⟨updateConversationRow_keys fun _ => rfl, fun c hc => ⟨c, hc, rfl, rfl⟩, rfl⟩
  | failure content e => exact ⟨rfl, fun c hc => ⟨c, hc, rfl, rfl⟩, rfl⟩

end Keep

theorem step_references {d : Deployment} {s t : ChatState} {label : ChatLabel}
    (hstep : s.step d label = some t) :
    KeepsReferences s.store t.store ∨
      ∃ userId action, label = .service userId action ∧
        ReferenceEffect s.store userId action t.store := by
  cases label with
  | arrive i a =>
      obtain ⟨-, -, rfl⟩ := ChatState.step_arrive hstep
      exact Or.inl (prepare_keepsReferences d a s.store)
  | resume i input now =>
      obtain ⟨phase, store, hresume, rfl⟩ := ChatState.step_resume hstep
      obtain ⟨p, _, _, hwrite⟩ := resume_writes hresume
      exact Or.inl (storeWrite_keepsReferences hwrite)
  | service userId action =>
      obtain rfl := ChatState.step_service hstep
      exact Or.inr ⟨userId, action, rfl, applyService_references d.config s.store userId action⟩

/-! ## Rows that stay -/

def MessageOwned (store : Store) (userId : UUID) (messageId : Option UUID) : Prop :=
  ∀ id, messageId = some id → ∃ m ∈ store.messages, m.id = id ∧
    ConversationOwned store userId (some m.conversationId)

/-- The rows that references lead to are still there, and their owners are the same. -/
structure Persists (store store' : Store) : Prop where
  conversations : ∀ c ∈ store.conversations,
    ∃ c' ∈ store'.conversations, c'.id = c.id ∧ c'.userId = c.userId
  characters : ∀ c ∈ store.characters, ∃ c' ∈ store'.characters, c'.id = c.id ∧ c'.userId = c.userId
  messages : ∀ k ∈ store.messages.map messageKey, k ∈ store'.messages.map messageKey

section Persist

variable {store store' : Store} {userId : UUID}

theorem characterOwned_mono {characterId : Option UUID}
    (h : CharacterOwned store userId characterId) (hstay : Persists store store') :
    CharacterOwned store' userId characterId := by
  intro id hid
  obtain ⟨c, hc, rfl, howner⟩ := h id hid
  obtain ⟨c', hc', hid', howner'⟩ := hstay.characters c hc
  exact ⟨c', hc', hid', howner'.trans howner⟩

theorem conversationOwned_mono {conversationId : Option UUID}
    (h : ConversationOwned store userId conversationId) (hstay : Persists store store') :
    ConversationOwned store' userId conversationId := by
  intro id hid
  obtain ⟨c, hc, rfl, howner⟩ := h id hid
  obtain ⟨c', hc', hid', howner'⟩ := hstay.conversations c hc
  exact ⟨c', hc', hid', howner'.trans howner⟩

theorem messageOwned_mono {messageId : Option UUID} (h : MessageOwned store userId messageId)
    (hstay : Persists store store') : MessageOwned store' userId messageId := by
  intro id hid
  obtain ⟨m, hm, rfl, howned⟩ := h id hid
  obtain ⟨m', hm', hkey⟩ := List.mem_map.mp (hstay.messages _ (List.mem_map_of_mem hm))
  have hid' : m'.id = m.id := congrArg MessageKey.id hkey
  have hconversation : m'.conversationId = m.conversationId :=
    congrArg MessageKey.conversationId hkey
  refine ⟨m', hm', hid', ?_⟩
  rw [hconversation]
  exact conversationOwned_mono howned hstay

theorem mem_of_conversationKeys
    (h : store'.conversations.map conversationKey = store.conversations.map conversationKey)
    {c : Conversation} (hc : c ∈ store.conversations) :
    ∃ c' ∈ store'.conversations, conversationKey c' = conversationKey c := by
  have hkey := List.mem_map_of_mem (f := conversationKey) hc
  rw [← h] at hkey
  exact List.mem_map.mp hkey

theorem keepsReferences_persists (hkeeps : KeepsReferences store store')
    (hmessages : ∀ k ∈ store.messages.map messageKey, k ∈ store'.messages.map messageKey) :
    Persists store store' where
  conversations c hc := by
    obtain ⟨c', hc', hkey⟩ := mem_of_conversationKeys hkeeps.conversations hc
    exact ⟨c', hc', congrArg ConversationKey.id hkey, congrArg ConversationKey.userId hkey⟩
  characters := hkeeps.characters
  messages := hmessages

private theorem referenceEffect_persists {action : ServiceAction}
    (heffect : ReferenceEffect store userId action store')
    (hmessages : store'.messages = store.messages) : Persists store store' := by
  have hkeys : ∀ k ∈ store.messages.map messageKey, k ∈ store'.messages.map messageKey := by
    rw [hmessages]
    exact fun _ hk => hk
  cases heffect with
  | keeps store' hkeeps => exact keepsReferences_persists hkeeps hkeys
  | addConversation c howner hcharacter =>
      exact ⟨fun c' hc' => ⟨c', List.mem_append_left _ hc', rfl, rfl⟩,
        fun c' hc' => ⟨c', hc', rfl, rfl⟩, hkeys⟩
  | changeConversation id change c howned hkey hcharacter =>
      refine ⟨?_, fun c' hc' => ⟨c', hc', rfl, rfl⟩, hkeys⟩
      intro row hrow
      cases hselected : row.id == id with
      | true =>
          exact ⟨change row, mem_updateWhere.mpr (Or.inl ⟨row, hrow, hselected, rfl⟩), hkey row⟩
      | false => exact ⟨row, mem_updateWhere.mpr (Or.inr ⟨hrow, hselected⟩), rfl, rfl⟩
  | addMemory request id now m haction hchecked hkey =>
      exact ⟨fun c hc => ⟨c, hc, rfl, rfl⟩, fun c hc => ⟨c, hc, rfl, rfl⟩, hkeys⟩

end Persist

private theorem step_messageKeys {d : Deployment} {s t : ChatState} {label : ChatLabel}
    (h : TableInvariant s) (hstep : s.step d label = some t) :
    ∀ k ∈ s.store.messages.map messageKey, k ∈ t.store.messages.map messageKey := by
  intro k hk
  cases label with
  | arrive i a =>
      obtain ⟨-, -, rfl⟩ := ChatState.step_arrive hstep
      rcases a.prepare_messages (d := d) s.store with ⟨hmessages, -⟩ | ⟨ex, hloc, hmessages, -⟩
      · exact hmessages ▸ hk
      · rw [hmessages]
        exact hloc.key_mem hk
  | resume i input now =>
      obtain ⟨phase, store, hresume, rfl⟩ := ChatState.step_resume hstep
      obtain ⟨p, hp, -, hwrite⟩ := resume_writes hresume
      rw [(hwrite.wellFormed h.messages (h.assistant i p hp)).2]
      exact hk
  | service userId action =>
      obtain rfl := ChatState.step_service hstep
      rw [applyService_messages]
      exact hk

theorem step_persists {d : Deployment} {s t : ChatState} {label : ChatLabel}
    (h : TableInvariant s) (hstep : s.step d label = some t) : Persists s.store t.store := by
  rcases step_references hstep with hkeeps | ⟨userId, action, rfl, heffect⟩
  · exact keepsReferences_persists hkeeps (step_messageKeys h hstep)
  · refine referenceEffect_persists heffect ?_
    rw [ChatState.step_service hstep]
    exact applyService_messages d.config s.store userId action

end Astra.Tenancy
