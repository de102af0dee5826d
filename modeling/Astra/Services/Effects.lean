import Astra.Services.Operations

/-!
# What a service operation does to the store

One inversion lemma for `runService`: an operation of a user adds rows of that
user, or changes rows that it has looked up as that user's, in one table.
-/

namespace Astra.Services

open Astra.Foundation Astra.Platform Astra.Persistence Astra.Knowledge

def PersonaOwned (store : Store) (userId : UUID) (personaId : Option UUID) : Prop :=
  ∀ id, personaId = some id → ∃ p ∈ store.personas, p.id = id ∧ p.userId = userId

def DefaultsCleared (store : Store) (userId : UUID) (rows : List Persona) : Prop :=
  rows = store.personas ∨ ∃ except, rows = clearDefault userId except store.personas

inductive ServiceEffect (store : Store) (userId : UUID) : Store → Prop
  | addConversation (c : Conversation) (howner : c.userId = userId)
      (hfresh : c.id ∉ store.conversations.map Conversation.id)
      (hpersona : PersonaOwned store userId c.personaId) :
      ServiceEffect store userId { store with conversations := store.conversations ++ [c] }
  | changeConversation (id : UUID) (change : Conversation → Conversation) (c : Conversation)
      (howned : getOwnedConversation store.conversations id userId = some c)
      (hkey : ∀ row, (change row).id = row.id ∧ (change row).userId = row.userId)
      (hpersona : ∀ row, (change row).personaId = row.personaId ∨
        PersonaOwned store userId (change row).personaId) :
      ServiceEffect store userId
        { store with conversations := updateConversationRow id change store.conversations }
  | addCharacter (c : Character) (howner : c.userId = userId)
      (hfresh : c.id ∉ store.characters.map Character.id) :
      ServiceEffect store userId { store with characters := store.characters ++ [c] }
  | changeCharacter (id : UUID) (change : Character → Character) (c : Character)
      (howned : getOwnedCharacterAny store.characters id userId = some c)
      (hkey : ∀ row, (change row).id = row.id ∧ (change row).userId = row.userId) :
      ServiceEffect store userId
        { store with characters := updateCharacterRow id change store.characters }
  | addPersona (p : Persona) (cleared : List Persona) (howner : p.userId = userId)
      (hcleared : DefaultsCleared store userId cleared)
      (hfresh : p.id ∉ cleared.map Persona.id) :
      ServiceEffect store userId { store with personas := cleared ++ [p] }
  | changePersona (id : UUID) (change : Persona → Persona) (cleared : List Persona) (p : Persona)
      (howned : getOwnedPersona store.personas id userId = some p)
      (hcleared : DefaultsCleared store userId cleared)
      (hkey : ∀ row, (change row).id = row.id ∧ (change row).userId = row.userId) :
      ServiceEffect store userId
        { store with personas := updateWhere (fun p => p.id == id) change cleared }
  | deletePersona (id : UUID) (p : Persona)
      (howned : getOwnedPersona store.personas id userId = some p) :
      ServiceEffect store userId
        { store with
          personas := store.personas.filter fun p => p.id != id
          conversations :=
            updateWhere (fun c => c.personaId == some id) (fun c => { c with personaId := none })
              store.conversations }
  | addMemory (m : Memory) (howner : m.userId = userId)
      (hfresh : m.id ∉ store.memories.map Memory.id) :
      ServiceEffect store userId { store with memories := store.memories ++ [m] }
  | changeMemory (id : UUID) (change : Memory → Memory) (m : Memory)
      (howned : getOwnedMemory store.memories id userId = some m)
      (hkey : ∀ row, (change row).id = row.id ∧ (change row).userId = row.userId) :
      ServiceEffect store userId
        { store with memories := updateWhere (fun m => m.id == id) change store.memories }
  | addSource (s : KnowledgeSource) (chunks : List KnowledgeChunk) (howner : s.userId = userId)
      (hfresh : s.id ∉ store.sources.map KnowledgeSource.id)
      (hchunks : ∀ chunk ∈ chunks, chunk.userId = userId ∧ chunk.sourceId = s.id) :
      ServiceEffect store userId
        { store with sources := store.sources ++ [s], chunks := store.chunks ++ chunks }
  | changeSource (id : UUID) (change : KnowledgeSource → KnowledgeSource) (s : KnowledgeSource)
      (howned : getSourceOwned store.sources id userId = some s)
      (hkey : ∀ row, (change row).id = row.id ∧ (change row).userId = row.userId) :
      ServiceEffect store userId
        { store with sources := updateWhere (fun s => s.id == id) change store.sources }

section Checks

variable {store : Store} {userId : UUID}

theorem checkPersona_ok {personaId : Option UUID}
    (h : checkPersona store userId personaId = .ok ()) :
    PersonaOwned store userId personaId := by
  rintro id rfl
  simp only [checkPersona] at h
  split at h
  · cases h
  · rename_i p hp
    exact ⟨p, getOwnedPersona_mem hp⟩

theorem snd_map_eq_ok {α : Type} {x : Except Exn (α × Store)} {store' : Store}
    (h : Prod.snd <$> x = .ok store') : ∃ a, x = .ok (a, store') := by
  cases x with
  | error e => cases h
  | ok r =>
      cases h
      exact ⟨r.1, rfl⟩

theorem validateContextReferences_ok {characterId personaId : Option UUID}
    (h : validateContextReferences store userId characterId personaId = .ok ()) :
    PersonaOwned store userId personaId := by
  obtain ⟨_, -, hpersona⟩ := bind_eq_ok h
  exact checkPersona_ok hpersona

end Checks

section Operations

variable {config : AppConfig} {store store' : Store} {userId : UUID}

theorem createConversation_effect {request : ConversationCreateRequest} {id : UUID}
    {now : Timestamp} {c : Conversation}
    (h : createConversation config store userId request id now = .ok (c, store')) :
    ServiceEffect store userId store' := by
  obtain ⟨_, -, h⟩ := bind_eq_ok h
  obtain ⟨_, hrefs, h⟩ := bind_eq_ok h
  obtain ⟨rows, hadd, h⟩ := bind_eq_ok h
  obtain ⟨hfresh, rfl⟩ := addRow_eq_ok.mp hadd
  simp only [Except.ok.injEq, Prod.mk.injEq] at h
  rw [← h.2]
  exact .addConversation _ rfl hfresh (validateContextReferences_ok hrefs)

theorem updateConversation_effect {conversationId : UUID} {request : ConversationUpdateRequest}
    {now : Timestamp} {c : Conversation}
    (h : updateConversation config store userId conversationId request now = .ok (c, store')) :
    ServiceEffect store userId store' := by
  unfold updateConversation at h
  split at h
  · cases h
  · rename_i conversation howned
    obtain ⟨_, hrefs, h⟩ := bind_eq_ok h
    obtain ⟨_, -, h⟩ := bind_eq_ok h
    simp only [Except.ok.injEq, Prod.mk.injEq] at h
    rw [← h.2]
    refine .changeConversation _ _ conversation howned (fun _ => ⟨rfl, rfl⟩) ?_
    intro row
    cases hpersona : request.personaId with
    | none => exact Or.inl (by simp [applyConversationUpdate, hpersona])
    | some personaId =>
        right
        simp only [checkUpdatedReferences, hpersona, Option.isSome_some, Bool.or_true, if_true,
          Option.getD_some] at hrefs
        simpa [applyConversationUpdate, hpersona] using validateContextReferences_ok hrefs

theorem archiveConversation_effect {conversationId : UUID} {now : Timestamp}
    (h : archiveConversation store userId conversationId now = .ok store') :
    ServiceEffect store userId store' := by
  unfold archiveConversation at h
  split at h
  · cases h
  · rename_i c howned
    cases h
    exact .changeConversation _ _ c howned (fun _ => ⟨rfl, rfl⟩) (fun _ => Or.inl rfl)

theorem createCharacter_effect {request : CharacterCreateRequest} {id : UUID} {c : Character}
    (h : createCharacter store userId request id = .ok (c, store')) :
    ServiceEffect store userId store' := by
  obtain ⟨rows, hadd, h⟩ := bind_eq_ok h
  obtain ⟨hfresh, rfl⟩ := addRow_eq_ok.mp hadd
  simp only [Except.ok.injEq, Prod.mk.injEq] at h
  rw [← h.2]
  exact .addCharacter _ rfl hfresh

theorem updateCharacter_effect {characterId : UUID} {request : CharacterUpdateRequest}
    {c : Character} (h : updateCharacter store userId characterId request = .ok (c, store')) :
    ServiceEffect store userId store' := by
  unfold updateCharacter at h
  split at h
  · cases h
  · rename_i character howned
    split at h
    · cases h
    · cases h
      exact .changeCharacter _ _ character howned fun _ => ⟨rfl, rfl⟩

theorem archiveCharacter_effect {characterId : UUID}
    (h : archiveCharacter store userId characterId = .ok store') :
    ServiceEffect store userId store' := by
  unfold archiveCharacter at h
  split at h
  · cases h
  · rename_i c howned
    cases h
    exact .changeCharacter _ _ c howned fun _ => ⟨rfl, rfl⟩

theorem createPersona_effect {request : PersonaCreateRequest} {id : UUID} {p : Persona}
    (h : createPersona store userId request id = .ok (p, store')) :
    ServiceEffect store userId store' := by
  obtain ⟨rows, hadd, h⟩ := bind_eq_ok h
  obtain ⟨hfresh, rfl⟩ := addRow_eq_ok.mp hadd
  simp only [Except.ok.injEq, Prod.mk.injEq] at h
  rw [← h.2]
  refine .addPersona _ _ rfl ?_ hfresh
  split
  · exact Or.inr ⟨_, rfl⟩
  · exact Or.inl rfl

theorem updatePersona_effect {personaId : UUID} {request : PersonaUpdateRequest} {p : Persona}
    (h : updatePersona store userId personaId request = .ok (p, store')) :
    ServiceEffect store userId store' := by
  unfold updatePersona at h
  split at h
  · cases h
  · rename_i persona howned
    split at h
    · cases h
    · cases h
      refine .changePersona _ _ _ persona howned ?_ fun _ => ⟨rfl, rfl⟩
      split
      · exact Or.inr ⟨_, rfl⟩
      · exact Or.inl rfl

theorem deletePersona_effect {personaId : UUID}
    (h : deletePersona store userId personaId = .ok store') :
    ServiceEffect store userId store' := by
  unfold deletePersona at h
  split at h
  · cases h
  · rename_i p howned
    cases h
    exact .deletePersona _ p howned

theorem createMemory_effect {request : MemoryCreateRequest} {id : UUID} {now : Timestamp}
    {m : Memory} (h : createMemory store userId request id now = .ok (m, store')) :
    ServiceEffect store userId store' := by
  obtain ⟨_, -, h⟩ := bind_eq_ok h
  obtain ⟨_, -, h⟩ := bind_eq_ok h
  obtain ⟨_, -, h⟩ := bind_eq_ok h
  obtain ⟨_, -, h⟩ := bind_eq_ok h
  obtain ⟨rows, hadd, h⟩ := bind_eq_ok h
  obtain ⟨hfresh, rfl⟩ := addRow_eq_ok.mp hadd
  simp only [Except.ok.injEq, Prod.mk.injEq] at h
  rw [← h.2]
  exact .addMemory _ rfl hfresh

theorem archiveMemory_effect {memoryId : UUID} {now : Timestamp}
    (h : archiveMemory store userId memoryId now = .ok store') :
    ServiceEffect store userId store' := by
  unfold archiveMemory at h
  split at h
  · cases h
  · rename_i m howned
    cases h
    exact .changeMemory _ _ m howned fun _ => ⟨rfl, rfl⟩

theorem addChunks_eq_ok {chunks rows rows' : List KnowledgeChunk}
    (h : addChunks chunks rows = .ok rows') : rows' = rows ++ chunks := by
  induction chunks generalizing rows with
  | nil =>
      cases h
      simp
  | cons chunk chunks ih =>
      obtain ⟨rows₁, hadd, h⟩ := bind_eq_ok h
      obtain ⟨-, rfl⟩ := addRow_eq_ok.mp hadd
      simpa using ih h

theorem createSource_effect {request : KnowledgeSourceCreateRequest} {id : UUID}
    {chunkIds : Nat → UUID} {s : KnowledgeSource}
    (h : createSource config store userId request id chunkIds = .ok (s, store')) :
    ServiceEffect store userId store' := by
  obtain ⟨chunks, -, h⟩ := bind_eq_ok h
  obtain ⟨sources, hadd, h⟩ := bind_eq_ok h
  obtain ⟨rows, hchunks, h⟩ := bind_eq_ok h
  obtain ⟨hfresh, rfl⟩ := addRow_eq_ok.mp hadd
  have hrows := addChunks_eq_ok hchunks
  subst hrows
  simp only [Except.ok.injEq, Prod.mk.injEq] at h
  rw [← h.2]
  refine .addSource _ _ rfl hfresh ?_
  intro chunk hchunk
  obtain ⟨text, -, rfl⟩ := List.mem_map.mp hchunk
  exact ⟨rfl, rfl⟩

theorem archiveSource_effect {sourceId : UUID}
    (h : archiveSource store userId sourceId = .ok store') :
    ServiceEffect store userId store' := by
  unfold archiveSource at h
  split at h
  · cases h
  · rename_i s howned
    cases h
    exact .changeSource _ _ s howned fun _ => ⟨rfl, rfl⟩

theorem runService_effect {action : ServiceAction}
    (h : runService config store userId action = .ok store') :
    ServiceEffect store userId store' := by
  cases action with
  | createConversation request id now =>
      exact createConversation_effect (snd_map_eq_ok h).choose_spec
  | updateConversation conversationId request now =>
      exact updateConversation_effect (snd_map_eq_ok h).choose_spec
  | archiveConversation conversationId now => exact archiveConversation_effect h
  | createCharacter request id => exact createCharacter_effect (snd_map_eq_ok h).choose_spec
  | updateCharacter characterId request =>
      exact updateCharacter_effect (snd_map_eq_ok h).choose_spec
  | archiveCharacter characterId => exact archiveCharacter_effect h
  | createPersona request id => exact createPersona_effect (snd_map_eq_ok h).choose_spec
  | updatePersona personaId request => exact updatePersona_effect (snd_map_eq_ok h).choose_spec
  | deletePersona personaId => exact deletePersona_effect h
  | createMemory request id now => exact createMemory_effect (snd_map_eq_ok h).choose_spec
  | archiveMemory memoryId now => exact archiveMemory_effect h
  | createSource request id chunkIds => exact createSource_effect (snd_map_eq_ok h).choose_spec
  | archiveSource sourceId => exact archiveSource_effect h

/-- An operation either fails and leaves the store alone, or has one of the effects. -/
theorem applyService_cases (config : AppConfig) (store : Store) (userId : UUID)
    (action : ServiceAction) :
    applyService config store userId action = store ∨
      ServiceEffect store userId (applyService config store userId action) := by
  unfold applyService
  split
  · exact Or.inr (runService_effect ‹_›)
  · exact Or.inl rfl

theorem applyService_messages (config : AppConfig) (store : Store) (userId : UUID)
    (action : ServiceAction) :
    (applyService config store userId action).messages = store.messages := by
  rcases applyService_cases config store userId action with h | h
  · rw [h]
  · generalize applyService config store userId action = store' at h
    cases h <;> rfl

end Operations

end Astra.Services
