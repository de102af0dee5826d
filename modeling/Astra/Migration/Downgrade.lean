import Astra.Foundation.Fallible
import Astra.Foundation.Transition
import Astra.Migration.Upgrade
import Astra.Services.Profiles

/-!
# Downgrade

`downgrade()` of revision `20260827_0005`, after a run of the revised application on the
upgraded tables.  A legacy row is active by its `status` or its legacy `archived_at`;
the revised services write neither column.
-/

namespace Astra.Migration

open Astra.Foundation Astra.Platform Astra.Persistence Astra.Services

def checkViolation : Exn := .other "IntegrityError" "check constraint is violated by some row"

def uniqueViolation : Exn := .other "IntegrityError" "could not create unique index"

/-! ## Rows with the columns of both schemas -/

def scopeValue : MemoryScope → ScopeValue
  | .user => .user
  | .character => .character
  | .conversation => .conversation

def kindValue : MemoryKind → KindValue
  | .fact => .fact
  | .preference => .preference
  | .relationship => .relationship
  | .summary => .summary
  | .note => .note

def memoryRow (columns : LegacyMemoryColumns) (m : Memory) : MemoryRow where
  toLegacyMemoryColumns := columns
  id := m.id
  userId := m.userId
  conversationId := m.conversationId
  characterId := m.characterId
  sourceMessageId := m.sourceMessageId
  scope := scopeValue m.scope
  kind := kindValue m.kind
  content := m.content
  importance := m.importance
  archivedAt := m.archivedAt
  lastAccessedAt := m.lastAccessedAt
  metadata := m.memoryMetadata
  updatedAt := m.updatedAt

def characterRow (columns : LegacyCharacterColumns) (c : Character) : CharacterRow where
  toLegacyCharacterColumns := columns
  id := c.id
  userId := c.userId
  avatarUrl := c.avatarUrl
  metadata := c.characterMetadata
  name := some c.name
  tagline := c.tagline
  description := c.description
  personality := c.personality
  scenario := c.scenario
  systemPrompt := c.systemPrompt
  greeting := c.greeting
  isActive := c.isActive

namespace Database

def memoryRows (db : Database) : List MemoryRow :=
  db.store.memories.map fun m => memoryRow (db.memoryColumns m.id) m

def characterRows (db : Database) : List CharacterRow :=
  db.store.characters.map fun c => characterRow (db.characterColumns c.id) c

end Database

/-! ## Memories -/

def fillBookkeeping (py : PyRuntime) (m : MemoryRow) : MemoryRow :=
  { m with
    status := m.status.or (some (if m.archivedAt.isNone then .active else .archived))
    normalizedKey := m.normalizedKey.or (some ("migrated:" ++ py.uuidText m.id))
    confidence := m.confidence.or (some 1)
    accessCount := m.accessCount.or (some 0) }

def hasRevisedKind (m : MemoryRow) : Bool := m.kind == .summary || m.kind == .note

def mapRevisedKind (m : MemoryRow) : MemoryRow :=
  { m with
    metadata := m.metadata.set "revised_kind" (.str m.kind.text)
    kind := .fact }

def narrowMemory (m : MemoryRow) : Except Exn LegacyMemory :=
  match m.status, m.normalizedKey, m.confidence, m.accessCount with
  | some status, some normalizedKey, some confidence, some accessCount =>
      if m.kind.isLegacy then
        .ok
          { id := m.id
            userId := m.userId
            conversationId := m.conversationId
            characterId := m.characterId
            personaId := m.personaId
            sourceMessageId := m.sourceMessageId
            supersededById := m.supersededById
            scope := m.scope
            kind := m.kind
            status := status
            normalizedKey := normalizedKey
            content := m.content
            importance := m.importance
            confidence := confidence
            lastAccessedAt := m.lastAccessedAt
            accessCount := accessCount
            expiresAt := m.expiresAt
            metadata := m.metadata
            updatedAt := m.updatedAt }
      else .error checkViolation
  | _, _, _, _ => .error notNullViolation

def downgradeMemories (py : PyRuntime) (rows : List MemoryRow) :
    Except Exn (List LegacyMemory) := do
  let rows := updateWhere (fun _ => true) (fillBookkeeping py) rows
  let rows := updateWhere hasRevisedKind mapRevisedKind rows
  let rows ← rows.mapM narrowMemory
  if ActiveIdentities rows then .ok rows else .error uniqueViolation

/-! ## Characters -/

def insertedVersion (versionId : UUID) (c : CharacterRow) : CharacterVersion where
  id := versionId
  characterId := c.id
  version := 1
  name := c.name.getD ""
  summary := c.description
  personality := c.personality
  scenario := c.scenario
  greeting := c.greeting
  systemInstructions := c.systemPrompt

def syncVersion (characters : List CharacterRow) (cv : CharacterVersion) : CharacterVersion :=
  match characters.find? fun c => cv.characterId == c.id && cv.version == c.currentVersion with
  | none => cv
  | some c =>
      { cv with
        name := c.name.getD ""
        summary := c.description
        personality := c.personality
        scenario := c.scenario
        greeting := c.greeting
        systemInstructions := c.systemPrompt }

/-- `versionIds` are the results of `gen_random_uuid()`. -/
def downgradeVersions (versionIds : UUID → UUID) (characters : List CharacterRow)
    (versions : List CharacterVersion) : List CharacterVersion :=
  let inserted := (characters.filter fun c => !versions.any fun cv => cv.characterId == c.id).map
    fun c => insertedVersion (versionIds c.id) c
  (versions ++ inserted).map (syncVersion characters)

def narrowCharacter (c : CharacterRow) : LegacyCharacter where
  id := c.id
  userId := c.userId
  currentVersion := c.currentVersion
  avatarUrl := c.avatarUrl
  archivedAt := c.archivedAt
  metadata := c.metadata

def downgrade (py : PyRuntime) (versionIds : UUID → UUID) (db : Database) :
    Except Exn LegacyDatabase := do
  let memories ← downgradeMemories py db.memoryRows
  .ok
    { conversations := db.store.conversations
      messages := db.store.messages
      characters := db.characterRows.map narrowCharacter
      versions := downgradeVersions versionIds db.characterRows db.versions
      memories := memories }

/-! ## What is active after a downgrade -/

/-- Row by row, what is active in the legacy tables was active before. -/
structure NeverResurrects (db : Database) (legacy : LegacyDatabase) : Prop where
  memories : List.Forall₂
    (fun r m => m.id = r.id ∧ (m.status = .active → r.archivedAt = none))
    db.store.memories legacy.memories
  characters : List.Forall₂
    (fun r c => c.id = r.id ∧ (c.archivedAt = none → r.isActive = true))
    db.store.characters legacy.characters

/-- The columns of the two schemas agree where the downgrade reads the legacy ones. -/
structure ArchivalAgrees (db : Database) : Prop where
  memories : ∀ m ∈ db.store.memories, (db.memoryColumns m.id).status = some .active →
    m.archivedAt = none
  characters : ∀ c ∈ db.store.characters, (db.characterColumns c.id).archivedAt = none →
    c.isActive = true

section Rows

variable {py : PyRuntime} {db : Database} {legacy : LegacyDatabase}

private theorem forall₂_iff_of_forall₂ {α β : Type} {R S : α → β → Prop} {P : α → Prop}
    {xs : List α}
    {ys : List β} (h : List.Forall₂ R xs ys) (hiff : ∀ x y, R x y → (S x y ↔ P x)) :
    List.Forall₂ S xs ys ↔ ∀ x ∈ xs, P x := by
  induction h with
  | nil => simp
  | cons hxy _ ih => simp [hiff _ _ hxy, ih]

def restoredStatus (columns : LegacyMemoryColumns) (m : Memory) : MemoryRowStatus :=
  columns.status.getD (if m.archivedAt.isNone then .active else .archived)

private theorem narrowMemory_ok {row : MemoryRow} {m : LegacyMemory}
    (h : narrowMemory row = .ok m) :
    m.id = row.id ∧ row.status = some m.status := by
  unfold narrowMemory at h
  split at h
  · rename_i status normalizedKey confidence accessCount hstatus _ _ _
    split at h
    · cases h
      exact ⟨rfl, hstatus⟩
    · cases h
  · cases h

private theorem mapRevisedKind_keeps (row : MemoryRow) :
    (if hasRevisedKind row then mapRevisedKind row else row).id = row.id ∧
      (if hasRevisedKind row then mapRevisedKind row else row).status = row.status := by
  split <;> exact ⟨rfl, rfl⟩

private theorem fillBookkeeping_status (columns : LegacyMemoryColumns) (m : Memory) :
    (fillBookkeeping py (memoryRow columns m)).status = some (restoredStatus columns m) := by
  cases hstatus : columns.status <;> simp [fillBookkeeping, memoryRow, restoredStatus, hstatus]

private theorem downgradeMemories_ok {memories : List LegacyMemory}
    (h : downgradeMemories py db.memoryRows = .ok memories) :
    List.Forall₂ (fun r m => m.id = r.id ∧ m.status = restoredStatus (db.memoryColumns r.id) r)
      db.store.memories memories := by
  obtain ⟨rows, hrows, h⟩ := bind_eq_ok h
  split at h
  · cases h
    have hall := mapM_eq_ok.mp hrows
    simp only [Database.memoryRows, updateWhere, List.map_map, List.forall₂_map_left_iff] at hall
    refine hall.imp ?_
    intro r m hrow
    obtain ⟨hid, hstatus⟩ := narrowMemory_ok hrow
    have hkeeps := mapRevisedKind_keeps
      (fillBookkeeping py (memoryRow (db.memoryColumns r.id) r))
    refine ⟨hid.trans hkeeps.1, ?_⟩
    have hfilled := hkeeps.2.trans (fillBookkeeping_status (db.memoryColumns r.id) r)
    exact Option.some.inj (hstatus.symm.trans hfilled)
  · cases h

theorem restoredStatus_active_iff {columns : LegacyMemoryColumns} {m : Memory} :
    (restoredStatus columns m = .active → m.archivedAt = none) ↔
      (columns.status = some .active → m.archivedAt = none) := by
  unfold restoredStatus
  cases hstatus : columns.status with
  | none => cases harchived : m.archivedAt <;> simp
  | some status => simp

theorem downgrade_neverResurrects_iff {versionIds : UUID → UUID}
    (h : downgrade py versionIds db = .ok legacy) :
    NeverResurrects db legacy ↔ ArchivalAgrees db := by
  obtain ⟨memories, hmemories, h⟩ := bind_eq_ok h
  cases h
  have hrows := downgradeMemories_ok hmemories
  have hmemoriesIff := forall₂_iff_of_forall₂ hrows
    (S := fun r m => m.id = r.id ∧ (m.status = .active → r.archivedAt = none))
    (P := fun r => (db.memoryColumns r.id).status = some .active → r.archivedAt = none)
    fun r m hrow => by
      rw [hrow.2, restoredStatus_active_iff]
      exact and_iff_right hrow.1
  have hcharactersIff : List.Forall₂
      (fun (r : Character) c => c.id = r.id ∧ (c.archivedAt = none → r.isActive = true))
      db.store.characters (db.characterRows.map narrowCharacter) ↔
        ∀ c ∈ db.store.characters, (db.characterColumns c.id).archivedAt = none →
          c.isActive = true := by
    simp only [Database.characterRows, List.map_map, List.forall₂_map_right_iff, List.forall₂_same]
    simp only [Function.comp_apply, narrowCharacter, characterRow, true_and]
  constructor
  · intro hnever
    exact ⟨hmemoriesIff.mp hnever.memories, hcharactersIff.mp hnever.characters⟩
  · intro hagrees
    exact ⟨hmemoriesIff.mpr hagrees.memories, hcharactersIff.mpr hagrees.characters⟩

end Rows

end Astra.Migration
