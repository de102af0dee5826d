import Astra.Services.Effects

/-!
# References that a service stores

Which rows the columns of a conversation or of a memory may refer to after an
operation: what the operation has looked up for its user, what the row referred
to before, and for `source_message_id` whatever the request names.
-/

namespace Astra.Services

open Astra.Foundation Astra.Platform Astra.Persistence

def CharacterOwned (store : Store) (userId : UUID) (characterId : Option UUID) : Prop :=
  ∀ id, characterId = some id → ∃ c ∈ store.characters, c.id = id ∧ c.userId = userId

def ConversationOwned (store : Store) (userId : UUID) (conversationId : Option UUID) : Prop :=
  ∀ id, conversationId = some id → ∃ c ∈ store.conversations, c.id = id ∧ c.userId = userId

structure ConversationKey where
  id : UUID
  userId : UUID
  characterId : Option UUID

def conversationKey (c : Conversation) : ConversationKey := ⟨c.id, c.userId, c.characterId⟩

structure MemoryKey where
  userId : UUID
  scope : MemoryScope
  conversationId : Option UUID
  characterId : Option UUID
  sourceMessageId : Option UUID

def memoryKey (m : Memory) : MemoryKey :=
  ⟨m.userId, m.scope, m.conversationId, m.characterId, m.sourceMessageId⟩

def requestedKey (userId : UUID) (request : MemoryCreateRequest) : MemoryKey where
  userId := userId
  scope := request.scope
  conversationId := if request.scope = .user then none else request.conversationId
  characterId := if request.scope = .user then none else request.characterId
  sourceMessageId := request.sourceMessageId

/-- What is checked before a memory is stored. -/
structure MemoryChecked (store : Store) (userId : UUID) (request : MemoryCreateRequest) : Prop where
  valid : request.valid = true
  character : CharacterOwned store userId request.characterId
  conversation : ConversationOwned store userId request.conversationId
  source : ∀ id, request.sourceMessageId = some id → id ∈ store.messages.map Message.id

/-- No row goes, and none gets another owner or another reference. -/
structure KeepsReferences (store store' : Store) : Prop where
  conversations :
    store'.conversations.map conversationKey = store.conversations.map conversationKey
  characters : ∀ c ∈ store.characters, ∃ c' ∈ store'.characters, c'.id = c.id ∧ c'.userId = c.userId
  memories : store'.memories.map memoryKey = store.memories.map memoryKey

theorem KeepsReferences.refl (store : Store) : KeepsReferences store store :=
  ⟨rfl, fun c hc => ⟨c, hc, rfl, rfl⟩, rfl⟩

inductive ReferenceEffect (store : Store) (userId : UUID) (action : ServiceAction) : Store → Prop
  | keeps (store' : Store) (hkeeps : KeepsReferences store store') :
      ReferenceEffect store userId action store'
  | addConversation (c : Conversation) (howner : c.userId = userId)
      (hcharacter : CharacterOwned store userId c.characterId) :
      ReferenceEffect store userId action { store with conversations := store.conversations ++ [c] }
  | changeConversation (id : UUID) (change : Conversation → Conversation) (c : Conversation)
      (howned : getOwnedConversation store.conversations id userId = some c)
      (hkey : ∀ row, (change row).id = row.id ∧ (change row).userId = row.userId)
      (hcharacter : ∀ row, (change row).characterId = row.characterId ∨
        CharacterOwned store userId (change row).characterId) :
      ReferenceEffect store userId action
        { store with conversations := updateConversationRow id change store.conversations }
  | addMemory (request : MemoryCreateRequest) (id : UUID) (now : Timestamp) (m : Memory)
      (haction : action = .createMemory request id now)
      (hchecked : MemoryChecked store userId request)
      (hkey : memoryKey m = requestedKey userId request) :
      ReferenceEffect store userId action { store with memories := store.memories ++ [m] }

section Checks

variable {store : Store} {userId : UUID}

theorem checkCharacter_ok {characterId : Option UUID}
    (h : checkCharacter store userId characterId = .ok ()) :
    CharacterOwned store userId characterId := by
  rintro id rfl
  simp only [checkCharacter] at h
  split at h
  · cases h
  · rename_i c hc
    have hmatch := List.find?_some hc
    simp only [Bool.and_eq_true, beq_iff_eq] at hmatch
    exact ⟨c, List.mem_of_find?_eq_some hc, hmatch.1⟩

theorem checkConversation_ok {conversationId : Option UUID}
    (h : checkConversation store userId conversationId = .ok ()) :
    ConversationOwned store userId conversationId := by
  rintro id rfl
  simp only [checkConversation] at h
  split at h
  · cases h
  · rename_i c hc
    exact ⟨c, getOwnedConversation_mem hc⟩

theorem checkSourceMessage_ok {sourceMessageId : Option UUID}
    (h : checkSourceMessage store sourceMessageId = .ok ()) (id : UUID)
    (hid : sourceMessageId = some id) : id ∈ store.messages.map Message.id := by
  subst hid
  simp only [checkSourceMessage] at h
  split at h
  · assumption
  · cases h

theorem validateContextReferences_character {characterId personaId : Option UUID}
    (h : validateContextReferences store userId characterId personaId = .ok ()) :
    CharacterOwned store userId characterId := by
  obtain ⟨_, hcharacter, -⟩ := bind_eq_ok h
  exact checkCharacter_ok hcharacter

theorem validate_ok {request : MemoryCreateRequest} (h : request.validate = .ok ()) :
    request.valid = true := by
  simp only [MemoryCreateRequest.validate] at h
  split at h
  · assumption
  · cases h

end Checks

section Operations

variable {config : AppConfig} {store store' : Store} {userId : UUID} {action : ServiceAction}

theorem createConversation_references {request : ConversationCreateRequest} {id : UUID}
    {now : Timestamp} {c : Conversation}
    (h : createConversation config store userId request id now = .ok (c, store')) :
    ReferenceEffect store userId action store' := by
  obtain ⟨_, -, h⟩ := bind_eq_ok h
  obtain ⟨_, hrefs, h⟩ := bind_eq_ok h
  obtain ⟨rows, hadd, h⟩ := bind_eq_ok h
  obtain ⟨-, rfl⟩ := addRow_eq_ok.mp hadd
  simp only [Except.ok.injEq, Prod.mk.injEq] at h
  rw [← h.2]
  exact .addConversation _ rfl (validateContextReferences_character hrefs)

theorem updateConversation_references {conversationId : UUID} {request : ConversationUpdateRequest}
    {now : Timestamp} {c : Conversation}
    (h : updateConversation config store userId conversationId request now = .ok (c, store')) :
    ReferenceEffect store userId action store' := by
  unfold updateConversation at h
  split at h
  · cases h
  · rename_i conversation howned
    obtain ⟨_, hrefs, h⟩ := bind_eq_ok h
    obtain ⟨_, -, h⟩ := bind_eq_ok h
    simp only [Except.ok.injEq, Prod.mk.injEq] at h
    rw [← h.2]
    refine .changeConversation _ _ conversation howned (fun _ => ⟨rfl, rfl⟩) ?_
    intro row
    cases hcharacter : request.characterId with
    | none => exact Or.inl (by simp [applyConversationUpdate, hcharacter])
    | some characterId =>
        right
        simp only [checkUpdatedReferences, hcharacter, Option.isSome_some, Bool.true_or, if_true,
          Option.getD_some] at hrefs
        simpa [applyConversationUpdate, hcharacter] using validateContextReferences_character hrefs

theorem ReferenceEffect.conversations {rows : List Conversation} {personas : List Persona}
    (hrows : rows.map conversationKey = store.conversations.map conversationKey) :
    ReferenceEffect store userId action
      { store with conversations := rows, personas := personas } :=
  .keeps _ ⟨hrows, fun c hc => ⟨c, hc, rfl, rfl⟩, rfl⟩

theorem archiveConversation_references {conversationId : UUID} {now : Timestamp}
    (h : archiveConversation store userId conversationId now = .ok store') :
    ReferenceEffect store userId action store' := by
  unfold archiveConversation at h
  split at h
  · cases h
  · cases h
    exact .conversations (map_updateWhere _ fun _ _ _ => rfl)

theorem deletePersona_references {personaId : UUID}
    (h : deletePersona store userId personaId = .ok store') :
    ReferenceEffect store userId action store' := by
  unfold deletePersona at h
  split at h
  · cases h
  · cases h
    exact .conversations (map_updateWhere _ fun _ _ _ => rfl)

theorem ReferenceEffect.characters {rows : List Character}
    (hrows : ∀ c ∈ store.characters, ∃ c' ∈ rows, c'.id = c.id ∧ c'.userId = c.userId) :
    ReferenceEffect store userId action { store with characters := rows } :=
  .keeps _ ⟨rfl, hrows, rfl⟩

theorem createCharacter_references {request : CharacterCreateRequest} {id : UUID} {c : Character}
    (h : createCharacter store userId request id = .ok (c, store')) :
    ReferenceEffect store userId action store' := by
  obtain ⟨rows, hadd, h⟩ := bind_eq_ok h
  obtain ⟨-, rfl⟩ := addRow_eq_ok.mp hadd
  simp only [Except.ok.injEq, Prod.mk.injEq] at h
  rw [← h.2]
  exact .characters fun c hc => ⟨c, List.mem_append_left _ hc, rfl, rfl⟩

theorem updateCharacterRow_keeps {id : UUID} {change : Character → Character}
    (hkey : ∀ row, (change row).id = row.id ∧ (change row).userId = row.userId) :
    ReferenceEffect store userId action
      { store with characters := updateCharacterRow id change store.characters } := by
  refine .characters fun c hc => ?_
  cases hselected : c.id == id with
  | true =>
      exact ⟨change c, mem_updateWhere.mpr (Or.inl ⟨c, hc, hselected, rfl⟩), hkey c⟩
  | false => exact ⟨c, mem_updateWhere.mpr (Or.inr ⟨hc, hselected⟩), rfl, rfl⟩

theorem updateCharacter_references {characterId : UUID} {request : CharacterUpdateRequest}
    {c : Character} (h : updateCharacter store userId characterId request = .ok (c, store')) :
    ReferenceEffect store userId action store' := by
  unfold updateCharacter at h
  split at h
  · cases h
  · split at h
    · cases h
    · cases h
      exact updateCharacterRow_keeps fun _ => ⟨rfl, rfl⟩

theorem archiveCharacter_references {characterId : UUID}
    (h : archiveCharacter store userId characterId = .ok store') :
    ReferenceEffect store userId action store' := by
  unfold archiveCharacter at h
  split at h
  · cases h
  · cases h
    exact updateCharacterRow_keeps fun _ => ⟨rfl, rfl⟩

theorem createMemory_references {request : MemoryCreateRequest} {id : UUID} {now : Timestamp}
    {m : Memory} (h : createMemory store userId request id now = .ok (m, store')) :
    ReferenceEffect store userId (.createMemory request id now) store' := by
  obtain ⟨_, hvalid, h⟩ := bind_eq_ok h
  obtain ⟨_, hcharacter, h⟩ := bind_eq_ok h
  obtain ⟨_, hconversation, h⟩ := bind_eq_ok h
  obtain ⟨_, hsource, h⟩ := bind_eq_ok h
  obtain ⟨rows, hadd, h⟩ := bind_eq_ok h
  obtain ⟨-, rfl⟩ := addRow_eq_ok.mp hadd
  simp only [Except.ok.injEq, Prod.mk.injEq] at h
  rw [← h.2]
  have hchecked : MemoryChecked store userId request :=
    ⟨validate_ok hvalid, checkCharacter_ok hcharacter, checkConversation_ok hconversation,
      checkSourceMessage_ok hsource⟩
  exact .addMemory request id now _ rfl hchecked rfl

theorem archiveMemory_references {memoryId : UUID} {now : Timestamp}
    (h : archiveMemory store userId memoryId now = .ok store') :
    ReferenceEffect store userId action store' := by
  unfold archiveMemory at h
  split at h
  · cases h
  · cases h
    exact .keeps _ ⟨rfl, fun c hc => ⟨c, hc, rfl, rfl⟩, map_updateWhere _ fun _ _ _ => rfl⟩

theorem ReferenceEffect.others {personas : List Persona} {sources : List KnowledgeSource}
    {chunks : List KnowledgeChunk} :
    ReferenceEffect store userId action
      { store with personas := personas, sources := sources, chunks := chunks } :=
  .keeps _ ⟨rfl, fun c hc => ⟨c, hc, rfl, rfl⟩, rfl⟩

theorem createPersona_references {request : PersonaCreateRequest} {id : UUID} {p : Persona}
    (h : createPersona store userId request id = .ok (p, store')) :
    ReferenceEffect store userId action store' := by
  obtain ⟨rows, -, h⟩ := bind_eq_ok h
  simp only [Except.ok.injEq, Prod.mk.injEq] at h
  rw [← h.2]
  exact .others

theorem updatePersona_references {personaId : UUID} {request : PersonaUpdateRequest} {p : Persona}
    (h : updatePersona store userId personaId request = .ok (p, store')) :
    ReferenceEffect store userId action store' := by
  unfold updatePersona at h
  split at h
  · cases h
  · split at h
    · cases h
    · cases h
      exact .others

theorem createSource_references {request : KnowledgeSourceCreateRequest} {id : UUID}
    {chunkIds : Nat → UUID} {s : KnowledgeSource}
    (h : createSource config store userId request id chunkIds = .ok (s, store')) :
    ReferenceEffect store userId action store' := by
  obtain ⟨chunks, -, h⟩ := bind_eq_ok h
  obtain ⟨sources, -, h⟩ := bind_eq_ok h
  obtain ⟨rows, -, h⟩ := bind_eq_ok h
  simp only [Except.ok.injEq, Prod.mk.injEq] at h
  rw [← h.2]
  exact .others

theorem archiveSource_references {sourceId : UUID}
    (h : archiveSource store userId sourceId = .ok store') :
    ReferenceEffect store userId action store' := by
  unfold archiveSource at h
  split at h
  · cases h
  · cases h
    exact .others

theorem runService_references (h : runService config store userId action = .ok store') :
    ReferenceEffect store userId action store' := by
  cases action with
  | createConversation request id now =>
      exact createConversation_references (snd_map_eq_ok h).choose_spec
  | updateConversation conversationId request now =>
      exact updateConversation_references (snd_map_eq_ok h).choose_spec
  | archiveConversation conversationId now => exact archiveConversation_references h
  | createCharacter request id => exact createCharacter_references (snd_map_eq_ok h).choose_spec
  | updateCharacter characterId request =>
      exact updateCharacter_references (snd_map_eq_ok h).choose_spec
  | archiveCharacter characterId => exact archiveCharacter_references h
  | createPersona request id => exact createPersona_references (snd_map_eq_ok h).choose_spec
  | updatePersona personaId request =>
      exact updatePersona_references (snd_map_eq_ok h).choose_spec
  | deletePersona personaId => exact deletePersona_references h
  | createMemory request id now => exact createMemory_references (snd_map_eq_ok h).choose_spec
  | archiveMemory memoryId now => exact archiveMemory_references h
  | createSource request id chunkIds => exact createSource_references (snd_map_eq_ok h).choose_spec
  | archiveSource sourceId => exact archiveSource_references h

theorem applyService_references (config : AppConfig) (store : Store) (userId : UUID)
    (action : ServiceAction) :
    ReferenceEffect store userId action (applyService config store userId action) := by
  unfold applyService
  split
  · exact runService_references ‹_›
  · exact .keeps _ (KeepsReferences.refl store)

end Operations

end Astra.Services
