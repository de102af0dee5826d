import Astra.Platform.Errors

/-!
# Rows and the store

The columns of the chat tables that the modelled services read or write, under
the names of the SQLAlchemy models, and the store as one list of rows for each
table.
-/

namespace Astra.Persistence

open Astra.Platform

inductive MessageRole where
  | system
  | user
  | assistant
  | tool
  deriving DecidableEq, Repr

def MessageRole.value : MessageRole → String
  | .system => "system"
  | .user => "user"
  | .assistant => "assistant"
  | .tool => "tool"

inductive MessageContentType where
  | text
  | markdown
  deriving DecidableEq, Repr

inductive MessageStatus where
  | pending
  | streaming
  | completed
  | failed
  deriving DecidableEq, Repr

/-- The statuses that `_prepare_exchange` answers with `CHAT_REQUEST_IN_PROGRESS`. -/
def MessageStatus.inProgress : MessageStatus → Bool
  | .pending | .streaming => true
  | .completed | .failed => false

structure Conversation where
  id : UUID
  userId : UUID
  title : Option String
  provider : Option String
  model : Option String
  systemPrompt : Option String
  characterId : Option UUID
  personaId : Option UUID
  lastMessageAt : Option Timestamp
  archivedAt : Option Timestamp
  createdAt : Timestamp
  updatedAt : Timestamp
  conversationMetadata : Dict

structure Message where
  id : UUID
  conversationId : UUID
  parentMessageId : Option UUID
  clientMessageId : Option UUID
  role : MessageRole
  content : String
  contentType : MessageContentType
  status : MessageStatus
  providerMessageId : Option String
  tokenUsage : Option Dict
  messageMetadata : Dict
  createdAt : Timestamp
  updatedAt : Timestamp

structure Character where
  id : UUID
  userId : UUID
  name : String
  tagline : Option String
  description : Option String
  personality : Option String
  scenario : Option String
  systemPrompt : Option String
  greeting : Option String
  avatarUrl : Option String
  isActive : Bool
  characterMetadata : Dict

structure Persona where
  id : UUID
  userId : UUID
  name : String
  description : Option String
  instructions : Option String
  isDefault : Bool
  personaAttributes : Dict

inductive MemoryScope where
  | user
  | character
  | conversation
  deriving DecidableEq, Repr

inductive MemoryKind where
  | fact
  | preference
  | relationship
  | summary
  | note
  deriving DecidableEq, Repr

def MemoryKind.value : MemoryKind → String
  | .fact => "fact"
  | .preference => "preference"
  | .relationship => "relationship"
  | .summary => "summary"
  | .note => "note"

structure Memory where
  id : UUID
  userId : UUID
  conversationId : Option UUID
  characterId : Option UUID
  sourceMessageId : Option UUID
  scope : MemoryScope
  kind : MemoryKind
  content : String
  importance : Rat
  archivedAt : Option Timestamp
  lastAccessedAt : Option Timestamp
  memoryMetadata : Dict
  updatedAt : Timestamp

inductive KnowledgeSourceType where
  | text
  | note
  deriving DecidableEq, Repr

inductive KnowledgeSourceStatus where
  | ready
  | archived
  deriving DecidableEq, Repr

structure KnowledgeSource where
  id : UUID
  userId : UUID
  name : String
  sourceType : KnowledgeSourceType
  status : KnowledgeSourceStatus
  sourceMetadata : Dict

structure KnowledgeChunk where
  id : UUID
  sourceId : UUID
  userId : UUID
  ordinal : Nat
  content : String
  chunkMetadata : Dict

structure Store where
  conversations : List Conversation := []
  messages : List Message := []
  characters : List Character := []
  personas : List Persona := []
  memories : List Memory := []
  sources : List KnowledgeSource := []
  chunks : List KnowledgeChunk := []

/--
`scalar_one_or_none()`: the only row of a result, `none` for an empty result,
and `MultipleResultsFound` otherwise.
-/
def scalarOneOrNone {α : Type} : List α → Except Exn (Option α)
  | [] => .ok none
  | [row] => .ok (some row)
  | _ =>
      .error
        (.other "MultipleResultsFound" "Multiple rows were found when one or none was required")

end Astra.Persistence
