import Astra.Persistence.Rows

/-!
# Tables of the roleplay compatibility migration

The tables `characters` and `memories` before and after revision `20260827_0005`.
After it, the columns that the revised models map are in the store; those that only
the legacy models mapped are kept by primary key, and an `INSERT` of the revised
application leaves them at their defaults.
-/

namespace Astra.Migration

open Astra.Platform Astra.Persistence

/-! ## Column values of the two vocabularies -/

inductive ScopeValue where
  | user
  | character
  | relationship
  | world
  | conversation
  deriving DecidableEq, Repr

namespace ScopeValue

def text : ScopeValue → String
  | user => "user"
  | character => "character"
  | relationship => "relationship"
  | world => "world"
  | conversation => "conversation"

def memoryScope? : ScopeValue → Option MemoryScope
  | user => some .user
  | character => some .character
  | conversation => some .conversation
  | relationship | world => none

end ScopeValue

inductive KindValue where
  | fact
  | preference
  | event
  | promise
  | boundary
  | goal
  | relationship
  | world
  | summary
  | note
  deriving DecidableEq, Repr

namespace KindValue

def text : KindValue → String
  | fact => "fact"
  | preference => "preference"
  | event => "event"
  | promise => "promise"
  | boundary => "boundary"
  | goal => "goal"
  | relationship => "relationship"
  | world => "world"
  | summary => "summary"
  | note => "note"

def memoryKind? : KindValue → Option MemoryKind
  | fact => some .fact
  | preference => some .preference
  | relationship => some .relationship
  | summary => some .summary
  | note => some .note
  | event | promise | boundary | goal | world => none

def isLegacy : KindValue → Bool
  | summary | note => false
  | fact | preference | event | promise | boundary | goal | relationship | world => true

end KindValue

inductive MemoryRowStatus where
  | active
  | superseded
  | archived
  deriving DecidableEq, Repr

/-! ## Rows -/

/-- A row of `memories` at revision `20260723_0004`. -/
structure LegacyMemory where
  id : UUID
  userId : UUID
  conversationId : Option UUID
  characterId : Option UUID
  personaId : Option UUID
  sourceMessageId : Option UUID
  supersededById : Option UUID
  scope : ScopeValue
  kind : KindValue
  status : MemoryRowStatus
  normalizedKey : String
  content : String
  importance : Rat
  confidence : Rat
  lastAccessedAt : Option Timestamp
  accessCount : Int
  expiresAt : Option Timestamp
  metadata : Dict
  updatedAt : Timestamp

structure LegacyMemoryColumns where
  personaId : Option UUID := none
  supersededById : Option UUID := none
  status : Option MemoryRowStatus := none
  normalizedKey : Option String := none
  confidence : Option Rat := none
  accessCount : Option Int := none
  expiresAt : Option Timestamp := none

/-- A row of `memories` with the columns of both schemas. -/
structure MemoryRow extends LegacyMemoryColumns where
  id : UUID
  userId : UUID
  conversationId : Option UUID
  characterId : Option UUID
  sourceMessageId : Option UUID
  scope : ScopeValue
  kind : KindValue
  content : String
  importance : Rat
  archivedAt : Option Timestamp
  lastAccessedAt : Option Timestamp
  metadata : Dict
  updatedAt : Timestamp

structure LegacyCharacter where
  id : UUID
  userId : UUID
  currentVersion : Int
  avatarUrl : Option String
  archivedAt : Option Timestamp
  metadata : Dict

structure CharacterVersion where
  id : UUID
  characterId : UUID
  version : Int
  name : String
  summary : Option String
  personality : Option String
  scenario : Option String
  greeting : Option String
  systemInstructions : Option String

structure LegacyCharacterColumns where
  currentVersion : Int := 1
  archivedAt : Option Timestamp := none

structure CharacterRow extends LegacyCharacterColumns where
  id : UUID
  userId : UUID
  avatarUrl : Option String
  metadata : Dict
  name : Option String := none
  tagline : Option String := none
  description : Option String := none
  personality : Option String := none
  scenario : Option String := none
  systemPrompt : Option String := none
  greeting : Option String := none
  isActive : Bool := true

/-- The columns of `uq_memories_active_identity`, compared with nulls not distinct. -/
structure MemoryIdentity where
  userId : UUID
  scope : ScopeValue
  normalizedKey : Option String
  conversationId : Option UUID
  characterId : Option UUID
  personaId : Option UUID
  deriving DecidableEq

def LegacyMemory.identity (m : LegacyMemory) : MemoryIdentity :=
  ⟨m.userId, m.scope, some m.normalizedKey, m.conversationId, m.characterId, m.personaId⟩

def ActiveIdentities (rows : List LegacyMemory) : Prop :=
  ((rows.filter fun m => m.status == .active).map LegacyMemory.identity).Nodup

instance (rows : List LegacyMemory) : Decidable (ActiveIdentities rows) :=
  inferInstanceAs (Decidable (List.Nodup _))

def MemoryRow.identity (row : MemoryRow) : MemoryIdentity :=
  ⟨row.userId, row.scope, row.normalizedKey, row.conversationId, row.characterId, row.personaId⟩

/-- The index while both schemas are in place. -/
def ActiveRows (rows : List MemoryRow) : Prop :=
  ((rows.filter fun row => row.status == some .active).map MemoryRow.identity).Nodup

instance (rows : List MemoryRow) : Decidable (ActiveRows rows) :=
  inferInstanceAs (Decidable (List.Nodup _))

structure LegacyDatabase where
  conversations : List Conversation := []
  messages : List Message := []
  characters : List LegacyCharacter := []
  versions : List CharacterVersion := []
  memories : List LegacyMemory := []

structure LegacyDatabase.Constraints (legacy : LegacyDatabase) : Prop where
  conversationIds : (legacy.conversations.map Conversation.id).Nodup
  characterIds : (legacy.characters.map LegacyCharacter.id).Nodup
  versions : (legacy.versions.map fun cv => (cv.characterId, cv.version)).Nodup
  memoryIds : (legacy.memories.map LegacyMemory.id).Nodup
  kinds : ∀ m ∈ legacy.memories, m.kind.isLegacy = true
  importance : ∀ m ∈ legacy.memories, 0 ≤ m.importance ∧ m.importance ≤ 1
  confidence : ∀ m ∈ legacy.memories, 0 ≤ m.confidence ∧ m.confidence ≤ 1
  conversation : ∀ m ∈ legacy.memories, ∀ id, m.conversationId = some id →
    id ∈ legacy.conversations.map Conversation.id
  character : ∀ m ∈ legacy.memories, ∀ id, m.characterId = some id →
    id ∈ legacy.characters.map LegacyCharacter.id
  identities : ActiveIdentities legacy.memories

structure Database where
  store : Store
  memoryColumns : UUID → LegacyMemoryColumns
  characterColumns : UUID → LegacyCharacterColumns
  versions : List CharacterVersion

end Astra.Migration
