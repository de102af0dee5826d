import Astra.LLM.Providers
import Astra.Persistence.Queries
import Astra.Platform.Config

/-!
# Conversation service

`ConversationService.create`, `update` and `archive`.  Each operation is one
transaction on the store; the rows it returns are the response fields.
-/

namespace Astra.Services

open Astra.Foundation Astra.Platform Astra.Persistence Astra.LLM

def orDefault (value : Option String) (default : String) : String :=
  match value with
  | none => default
  | some text => if text = "" then default else text

def conversationNotFound : Exn :=
  notFoundException "Conversation was not found." .conversationNotFound

def validateProvider (provider : String) : Except Exn Unit :=
  match LLMProviderName.parse? provider with
  | none => .error (validationException ("Unsupported LLM provider '" ++ provider ++ "'."))
  | some _ => .ok ()

def checkCharacter (store : Store) (userId : UUID) : Option UUID → Except Exn Unit
  | none => .ok ()
  | some id =>
      match getOwnedCharacter store.characters id userId with
      | none => .error (validationException "Character does not belong to this user.")
      | some _ => .ok ()

def checkPersona (store : Store) (userId : UUID) : Option UUID → Except Exn Unit
  | none => .ok ()
  | some id =>
      match getOwnedPersona store.personas id userId with
      | none => .error (validationException "Persona does not belong to this user.")
      | some _ => .ok ()

def validateContextReferences (store : Store) (userId : UUID)
    (characterId personaId : Option UUID) : Except Exn Unit := do
  checkCharacter store userId characterId
  checkPersona store userId personaId

structure ConversationCreateRequest where
  title : Option String := none
  provider : Option String := none
  model : Option String := none
  systemPrompt : Option String := none
  characterId : Option UUID := none
  personaId : Option UUID := none
  metadata : Dict := []

def createConversation (config : AppConfig) (store : Store) (userId : UUID)
    (request : ConversationCreateRequest) (id : UUID) (now : Timestamp) :
    Except Exn (Conversation × Store) := do
  let provider := orDefault request.provider config.defaultLlmProvider
  validateProvider provider
  validateContextReferences store userId request.characterId request.personaId
  let conversation : Conversation :=
    { id := id
      userId := userId
      title := request.title
      provider := some provider
      model := some (orDefault request.model config.defaultLlmModel)
      systemPrompt := request.systemPrompt
      characterId := request.characterId
      personaId := request.personaId
      lastMessageAt := none
      archivedAt := none
      createdAt := now
      updatedAt := now
      conversationMetadata := request.metadata }
  let rows ← addRow Conversation.id conversation store.conversations
  .ok (conversation, { store with conversations := rows })

/-- `none` for a field that is not in `model_fields_set`. -/
structure ConversationUpdateRequest where
  title : Option (Option String) := none
  provider : Option (Option String) := none
  model : Option (Option String) := none
  systemPrompt : Option (Option String) := none
  characterId : Option (Option UUID) := none
  personaId : Option (Option UUID) := none

def applyConversationUpdate (config : AppConfig) (request : ConversationUpdateRequest)
    (now : Timestamp) (c : Conversation) : Conversation :=
  { c with
    title := request.title.getD c.title
    systemPrompt := request.systemPrompt.getD c.systemPrompt
    characterId := request.characterId.getD c.characterId
    personaId := request.personaId.getD c.personaId
    provider :=
      match request.provider with
      | none => c.provider
      | some provider => some (orDefault provider config.defaultLlmProvider)
    model :=
      match request.model with
      | none => c.model
      | some model => some (orDefault model config.defaultLlmModel)
    updatedAt := now }

def updateConversationRow (id : UUID) (change : Conversation → Conversation)
    (rows : List Conversation) : List Conversation :=
  updateWhere (fun c => c.id == id) change rows

def checkUpdatedReferences (store : Store) (userId : UUID) (conversation : Conversation)
    (request : ConversationUpdateRequest) : Except Exn Unit :=
  if request.characterId.isSome || request.personaId.isSome then
    validateContextReferences store userId
      (request.characterId.getD conversation.characterId)
      (request.personaId.getD conversation.personaId)
  else .ok ()

def checkUpdatedProvider (config : AppConfig) (request : ConversationUpdateRequest) :
    Except Exn Unit :=
  match request.provider with
  | none => .ok ()
  | some provider => validateProvider (orDefault provider config.defaultLlmProvider)

def updateConversation (config : AppConfig) (store : Store) (userId conversationId : UUID)
    (request : ConversationUpdateRequest) (now : Timestamp) :
    Except Exn (Conversation × Store) :=
  match getOwnedConversation store.conversations conversationId userId with
  | none => .error conversationNotFound
  | some conversation => do
      checkUpdatedReferences store userId conversation request
      checkUpdatedProvider config request
      .ok (applyConversationUpdate config request now conversation,
        { store with
          conversations := updateConversationRow conversationId
            (applyConversationUpdate config request now) store.conversations })

def archiveConversation (store : Store) (userId conversationId : UUID) (now : Timestamp) :
    Except Exn Store :=
  match getOwnedConversation store.conversations conversationId userId with
  | none => .error conversationNotFound
  | some _ =>
      .ok
        { store with
          conversations := updateConversationRow conversationId
            (fun c => { c with archivedAt := some now, updatedAt := now }) store.conversations }

end Astra.Services
