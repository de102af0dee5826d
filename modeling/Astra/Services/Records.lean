import Astra.Knowledge.Chunker
import Astra.Persistence.Queries
import Astra.Platform.Config
import Astra.Services.Conversations

/-!
# Memory and knowledge services

`MemoryService.create` and `archive`, `KnowledgeService.create_source` and
`archive`.
-/

namespace Astra.Services

open Astra.Foundation Astra.Platform Astra.Persistence Astra.Knowledge

/-! ## Memories -/

structure MemoryCreateRequest where
  scope : MemoryScope
  kind : MemoryKind := .fact
  content : String
  importance : Rat := 1 / 2
  conversationId : Option UUID := none
  characterId : Option UUID := none
  sourceMessageId : Option UUID := none
  metadata : Dict := []

def MemoryCreateRequest.valid (request : MemoryCreateRequest) : Bool :=
  !(request.scope == .character && request.characterId.isNone) &&
    !(request.scope == .conversation && request.conversationId.isNone) &&
    request.content ≠ "" && decide (request.content.length ≤ 12000) &&
    decide (0 ≤ request.importance) && decide (request.importance ≤ 1)

def MemoryCreateRequest.validate (request : MemoryCreateRequest) : Except Exn Unit :=
  if request.valid then .ok () else .error (validationException "Request validation failed.")

def memoryNotFound : Exn := notFoundException "Memory was not found." .memoryNotFound

def foreignKeyViolation : Exn :=
  .other "IntegrityError" "insert or update violates foreign key constraint"

def checkConversation (store : Store) (userId : UUID) : Option UUID → Except Exn Unit
  | none => .ok ()
  | some id =>
      match getOwnedConversation store.conversations id userId with
      | none => .error (validationException "Conversation does not belong to this user.")
      | some _ => .ok ()

/-- The foreign key of `source_message_id`, which is all that checks it. -/
def checkSourceMessage (store : Store) : Option UUID → Except Exn Unit
  | none => .ok ()
  | some id =>
      if id ∈ store.messages.map Message.id then .ok () else .error foreignKeyViolation

def createMemory (store : Store) (userId : UUID) (request : MemoryCreateRequest)
    (id : UUID) (now : Timestamp) : Except Exn (Memory × Store) := do
  request.validate
  checkCharacter store userId request.characterId
  checkConversation store userId request.conversationId
  checkSourceMessage store request.sourceMessageId
  let memory : Memory :=
    { id := id
      userId := userId
      conversationId := if request.scope = .user then none else request.conversationId
      characterId := if request.scope = .user then none else request.characterId
      sourceMessageId := request.sourceMessageId
      scope := request.scope
      kind := request.kind
      content := strip request.content
      importance := request.importance
      archivedAt := none
      lastAccessedAt := none
      memoryMetadata := request.metadata
      updatedAt := now }
  let rows ← addRow Memory.id memory store.memories
  .ok (memory, { store with memories := rows })

def archiveMemory (store : Store) (userId memoryId : UUID) (now : Timestamp) : Except Exn Store :=
  match getOwnedMemory store.memories memoryId userId with
  | none => .error memoryNotFound
  | some _ =>
      .ok
        { store with
          memories :=
            updateWhere (fun m => m.id == memoryId)
              (fun m => { m with archivedAt := some now, updatedAt := now }) store.memories }

/-! ## Knowledge sources -/

structure KnowledgeSourceCreateRequest where
  name : String
  content : String
  sourceType : KnowledgeSourceType := .text
  metadata : Dict := []

def knowledgeSourceNotFound : Exn :=
  notFoundException "Knowledge source was not found." .knowledgeSourceNotFound

def toKnowledgeChunk (sourceId userId : UUID) (chunkIds : Nat → UUID) (chunk : TextChunk) :
    KnowledgeChunk where
  id := chunkIds chunk.ordinal
  sourceId := sourceId
  userId := userId
  ordinal := chunk.ordinal
  content := chunk.content
  chunkMetadata := []

def addChunks : List KnowledgeChunk → List KnowledgeChunk → Except Exn (List KnowledgeChunk)
  | [], rows => .ok rows
  | chunk :: chunks, rows => do
      let rows ← addRow KnowledgeChunk.id chunk rows
      addChunks chunks rows

def createSource (config : AppConfig) (store : Store) (userId : UUID)
    (request : KnowledgeSourceCreateRequest) (id : UUID) (chunkIds : Nat → UUID) :
    Except Exn (KnowledgeSource × Store) := do
  let source : KnowledgeSource :=
    { id := id
      userId := userId
      name := request.name
      sourceType := request.sourceType
      status := .ready
      sourceMetadata := request.metadata }
  let chunks ← chunkText request.content config.ragChunkSizeChars config.ragChunkOverlapChars
  let sources ← addRow KnowledgeSource.id source store.sources
  let rows ← addChunks (chunks.map (toKnowledgeChunk id userId chunkIds)) store.chunks
  .ok (source, { store with sources := sources, chunks := rows })

def archiveSource (store : Store) (userId sourceId : UUID) : Except Exn Store :=
  match getSourceOwned store.sources sourceId userId with
  | none => .error knowledgeSourceNotFound
  | some _ =>
      .ok
        { store with
          sources :=
            updateWhere (fun s => s.id == sourceId) (fun s => { s with status := .archived })
              store.sources }

end Astra.Services
