import Astra.Services.Profiles
import Astra.Services.Records

/-!
# Service operations on the store

The requests that the services other than chat answer, as labels of one
transition function.  A request that raises leaves the store unchanged.
-/

namespace Astra.Services

open Astra.Foundation Astra.Platform Astra.Persistence

inductive ServiceAction where
  | createConversation (request : ConversationCreateRequest) (id : UUID) (now : Timestamp)
  | updateConversation (conversationId : UUID) (request : ConversationUpdateRequest)
      (now : Timestamp)
  | archiveConversation (conversationId : UUID) (now : Timestamp)
  | createCharacter (request : CharacterCreateRequest) (id : UUID)
  | updateCharacter (characterId : UUID) (request : CharacterUpdateRequest)
  | archiveCharacter (characterId : UUID)
  | createPersona (request : PersonaCreateRequest) (id : UUID)
  | updatePersona (personaId : UUID) (request : PersonaUpdateRequest)
  | deletePersona (personaId : UUID)
  | createMemory (request : MemoryCreateRequest) (id : UUID) (now : Timestamp)
  | archiveMemory (memoryId : UUID) (now : Timestamp)
  | createSource (request : KnowledgeSourceCreateRequest) (id : UUID) (chunkIds : Nat → UUID)
  | archiveSource (sourceId : UUID)

def runService (config : AppConfig) (store : Store) (userId : UUID) :
    ServiceAction → Except Exn Store
  | .createConversation request id now =>
      Prod.snd <$> createConversation config store userId request id now
  | .updateConversation conversationId request now =>
      Prod.snd <$> updateConversation config store userId conversationId request now
  | .archiveConversation conversationId now =>
      archiveConversation store userId conversationId now
  | .createCharacter request id => Prod.snd <$> createCharacter store userId request id
  | .updateCharacter characterId request =>
      Prod.snd <$> updateCharacter store userId characterId request
  | .archiveCharacter characterId => archiveCharacter store userId characterId
  | .createPersona request id => Prod.snd <$> createPersona store userId request id
  | .updatePersona personaId request => Prod.snd <$> updatePersona store userId personaId request
  | .deletePersona personaId => deletePersona store userId personaId
  | .createMemory request id now => Prod.snd <$> createMemory store userId request id now
  | .archiveMemory memoryId now => archiveMemory store userId memoryId now
  | .createSource request id chunkIds =>
      Prod.snd <$> createSource config store userId request id chunkIds
  | .archiveSource sourceId => archiveSource store userId sourceId

def applyService (config : AppConfig) (store : Store) (userId : UUID) (action : ServiceAction) :
    Store :=
  match runService config store userId action with
  | .ok store => store
  | .error _ => store

end Astra.Services
