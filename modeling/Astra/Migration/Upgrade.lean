import Astra.Foundation.Table
import Astra.Migration.Tables

/-!
# Upgrade

`upgrade()` of revision `20260827_0005`, one `UPDATE` after the other, and what it makes
of one row.  `uq_memories_active_identity` is dropped only behind the statements on
`memories`, so that the one that merges scopes can collide.
-/

namespace Astra.Migration

open Astra.Foundation Astra.Platform Astra.Persistence

/-! ## Characters -/

def leftText (text : String) (count : Nat) : String := String.ofList (text.toList.take count)

def isBlank (text : String) : Bool := text.toList.all fun c => c == ' '

def LegacyCharacter.widen (c : LegacyCharacter) : CharacterRow where
  id := c.id
  userId := c.userId
  currentVersion := c.currentVersion
  avatarUrl := c.avatarUrl
  archivedAt := c.archivedAt
  metadata := c.metadata

/-- The row of `character_versions` that the `UPDATE ... FROM` joins to a character. -/
def currentVersionOf (versions : List CharacterVersion) (c : CharacterRow) :
    Option CharacterVersion :=
  versions.find? fun cv => cv.characterId == c.id && cv.version == c.currentVersion

def projectVersion (versions : List CharacterVersion) (c : CharacterRow) : CharacterRow :=
  match currentVersionOf versions c with
  | none => c
  | some cv =>
      { c with
        name := some cv.name
        tagline := some (leftText (cv.summary.getD "") 255)
        description := cv.summary
        personality := cv.personality
        scenario := cv.scenario
        systemPrompt := cv.systemInstructions
        greeting := cv.greeting
        isActive := c.archivedAt.isNone }

def lacksName (c : CharacterRow) : Bool := (c.name.map isBlank).getD true

def upgradeCharacters (versions : List CharacterVersion) (rows : List LegacyCharacter) :
    List CharacterRow :=
  let rows := (rows.map LegacyCharacter.widen).map (projectVersion versions)
  updateWhere lacksName (fun c => { c with name := some "Character" }) rows

def CharacterRow.character? (c : CharacterRow) : Option Character :=
  c.name.map fun name =>
    { id := c.id
      userId := c.userId
      name := name
      tagline := c.tagline
      description := c.description
      personality := c.personality
      scenario := c.scenario
      systemPrompt := c.systemPrompt
      greeting := c.greeting
      avatarUrl := c.avatarUrl
      isActive := c.isActive
      characterMetadata := c.metadata }

/-! ## Memories -/

def LegacyMemory.widen (m : LegacyMemory) : MemoryRow where
  id := m.id
  userId := m.userId
  conversationId := m.conversationId
  characterId := m.characterId
  personaId := m.personaId
  sourceMessageId := m.sourceMessageId
  supersededById := m.supersededById
  scope := m.scope
  kind := m.kind
  status := some m.status
  normalizedKey := some m.normalizedKey
  content := m.content
  importance := m.importance
  confidence := some m.confidence
  archivedAt := none
  lastAccessedAt := m.lastAccessedAt
  accessCount := some m.accessCount
  expiresAt := m.expiresAt
  metadata := m.metadata
  updatedAt := m.updatedAt

def hasLegacyScope (m : MemoryRow) : Bool := m.scope == .relationship || m.scope == .world

def hasLegacyKind (m : MemoryRow) : Bool :=
  m.kind == .event || m.kind == .promise || m.kind == .boundary || m.kind == .goal ||
    m.kind == .world

def revisedScope (m : MemoryRow) : ScopeValue :=
  if m.scope = .relationship ∧ m.characterId.isSome then .character
  else if m.scope = .relationship ∨ m.scope = .world then .user
  else m.scope

def retiredAt (now : Timestamp) (m : MemoryRow) : Option Timestamp :=
  if m.status = some .archived ∨ m.status = some .superseded then some m.updatedAt
  else
    match m.expiresAt with
    | none => none
    | some expiresAt => if expiresAt ≤ now then some expiresAt else none

def recordScope (m : MemoryRow) : MemoryRow :=
  { m with metadata := m.metadata.set "legacy_scope" (.str m.scope.text) }

def recordKind (m : MemoryRow) : MemoryRow :=
  { m with metadata := m.metadata.set "legacy_kind" (.str m.kind.text) }

def upgradeMemories (now : Timestamp) (rows : List LegacyMemory) :
    Except Exn (List MemoryRow) :=
  let rows := rows.map LegacyMemory.widen
  let rows := updateWhere hasLegacyScope recordScope rows
  let rows := updateWhere hasLegacyScope (fun m => { m with scope := revisedScope m }) rows
  -- no row is moved into a legacy scope, so a collision does not depend on the order of the rows
  if ActiveRows rows then
    let rows := updateWhere hasLegacyKind recordKind rows
    let rows := updateWhere hasLegacyKind (fun m => { m with kind := .note }) rows
    .ok (updateWhere (fun _ => true)
      (fun m => { m with archivedAt := m.archivedAt.or (retiredAt now m) }) rows)
  else .error integrityError

def MemoryRow.memory? (m : MemoryRow) : Option Memory :=
  match m.scope.memoryScope?, m.kind.memoryKind? with
  | some scope, some kind =>
      some
        { id := m.id
          userId := m.userId
          conversationId := m.conversationId
          characterId := m.characterId
          sourceMessageId := m.sourceMessageId
          scope := scope
          kind := kind
          content := m.content
          importance := m.importance
          archivedAt := m.archivedAt
          lastAccessedAt := m.lastAccessedAt
          memoryMetadata := m.metadata
          updatedAt := m.updatedAt }
  | _, _ => none

/-! ## The database -/

/-- The database with these rows in the tables of both schemas. -/
def widenedDatabase (legacy : LegacyDatabase) (characters : List CharacterRow)
    (memories : List MemoryRow) : Database where
  store :=
    { conversations := legacy.conversations
      messages := legacy.messages
      characters := characters.filterMap CharacterRow.character?
      memories := memories.filterMap MemoryRow.memory? }
  memoryColumns := fun id =>
    match memories.find? fun m => m.id == id with
    | none => {}
    | some m => m.toLegacyMemoryColumns
  characterColumns := fun id =>
    match characters.find? fun c => c.id == id with
    | none => {}
    | some c => c.toLegacyCharacterColumns
  versions := legacy.versions

/-- `upgrade()` at the time `now`. -/
def upgrade (now : Timestamp) (legacy : LegacyDatabase) : Except Exn Database := do
  let characters := upgradeCharacters legacy.versions legacy.characters
  let memories ← upgradeMemories now legacy.memories
  .ok (widenedDatabase legacy characters memories)

/-! ## One row -/

def Retired (now : Timestamp) (m : LegacyMemory) : Prop :=
  m.status ≠ .active ∨ ∃ expiresAt, m.expiresAt = some expiresAt ∧ expiresAt ≤ now

structure Upgraded (now : Timestamp) (m : LegacyMemory) (r : Memory) : Prop where
  id : r.id = m.id
  userId : r.userId = m.userId
  conversationId : r.conversationId = m.conversationId
  characterId : r.characterId = m.characterId
  importance : r.importance = m.importance
  archivedAt : r.archivedAt = retiredAt now m.widen
  scope : (revisedScope m.widen).memoryScope? = some r.scope

def rescope (row : MemoryRow) : MemoryRow :=
  let row := if hasLegacyScope row then recordScope row else row
  if hasLegacyScope row then { row with scope := revisedScope row } else row

def rekind (row : MemoryRow) : MemoryRow :=
  let row := if hasLegacyKind row then recordKind row else row
  if hasLegacyKind row then { row with kind := .note } else row

def retire (now : Timestamp) (row : MemoryRow) : MemoryRow :=
  { row with archivedAt := row.archivedAt.or (retiredAt now row) }

def defaultName (row : CharacterRow) : CharacterRow :=
  if lacksName row then { row with name := some "Character" } else row

/-- The row of a memory after the upgrade. -/
def upgradedMemory (now : Timestamp) (m : LegacyMemory) : MemoryRow :=
  retire now (rekind (rescope m.widen))

def projectCharacter (versions : List CharacterVersion) (c : LegacyCharacter) : CharacterRow :=
  defaultName (projectVersion versions c.widen)

def upgradedDatabase (now : Timestamp) (legacy : LegacyDatabase) : Database :=
  widenedDatabase legacy (legacy.characters.map (projectCharacter legacy.versions))
    (legacy.memories.map (upgradedMemory now))

section Rows

variable {now : Timestamp} {m : LegacyMemory}

theorem upgradeMemories_eq (rows : List LegacyMemory) :
    upgradeMemories now rows =
      if ActiveRows (rows.map fun m => rescope m.widen) then .ok (rows.map (upgradedMemory now))
      else .error integrityError := by
  simp only [upgradeMemories, updateWhere, List.map_map]
  rfl

theorem retiredAt_eq_none : retiredAt now m.widen = none ↔ ¬ Retired now m := by
  unfold retiredAt Retired LegacyMemory.widen
  cases hstatus : m.status with
  | active =>
      cases hexpires : m.expiresAt with
      | none => simp
      | some expiresAt => simp
  | superseded => simp
  | archived => simp

private theorem revisedScope_of_not_legacy {row : MemoryRow} (h : hasLegacyScope row = false) :
    revisedScope row = row.scope := by
  simp only [hasLegacyScope, Bool.or_eq_false_iff, beq_eq_false_iff_ne] at h
  rw [revisedScope, if_neg fun hcharacter => h.1 hcharacter.1,
    if_neg fun hlegacy => hlegacy.elim h.1 h.2]

theorem memoryScope?_revisedScope (row : MemoryRow) :
    ∃ scope, (revisedScope row).memoryScope? = some scope := by
  unfold revisedScope
  split
  · exact ⟨_, rfl⟩
  · split
    · exact ⟨_, rfl⟩
    · rename_i hlegacy
      cases hscope : row.scope <;> simp_all [ScopeValue.memoryScope?]

private theorem memoryKind?_of_not_legacy {row : MemoryRow} (h : hasLegacyKind row = false) :
    ∃ kind, row.kind.memoryKind? = some kind := by
  cases hkind : row.kind <;> simp_all [hasLegacyKind, KindValue.memoryKind?]

theorem rescope_eq (row : MemoryRow) :
    ∃ metadata, rescope row = { row with scope := revisedScope row, metadata := metadata } := by
  unfold rescope
  cases h : hasLegacyScope row with
  | true =>
      have hrecorded : hasLegacyScope (recordScope row) = true := h
      exact ⟨(recordScope row).metadata, by simp only [if_true, hrecorded]; rfl⟩
  | false =>
      have hscope := revisedScope_of_not_legacy h
      exact ⟨row.metadata, by simp [h, hscope]⟩

theorem rekind_eq (row : MemoryRow) :
    ∃ metadata kind memoryKind, rekind row = { row with kind := kind, metadata := metadata } ∧
      kind.memoryKind? = some memoryKind := by
  unfold rekind
  cases h : hasLegacyKind row with
  | true =>
      have hrecorded : hasLegacyKind (recordKind row) = true := h
      exact ⟨(recordKind row).metadata, .note, .note, by simp only [if_true, hrecorded]; rfl, rfl⟩
  | false =>
      obtain ⟨kind, hkind⟩ := memoryKind?_of_not_legacy h
      exact ⟨row.metadata, row.kind, kind, by simp [h], hkind⟩

theorem upgraded_memory? (now : Timestamp) (m : LegacyMemory) :
    ∃ r, (upgradedMemory now m).memory? = some r ∧ Upgraded now m r := by
  obtain ⟨metadata, hrescope⟩ := rescope_eq m.widen
  obtain ⟨metadata', kind, memoryKind, hrekind, hkind⟩ := rekind_eq (rescope m.widen)
  obtain ⟨scope, hscope⟩ := memoryScope?_revisedScope m.widen
  rw [upgradedMemory, hrekind, hrescope]
  simp only [MemoryRow.memory?, retire, hscope, hkind]
  exact ⟨_, rfl, rfl, rfl, rfl, rfl, rfl, rfl, hscope⟩

theorem upgradedMemory_keeps (now : Timestamp) (m : LegacyMemory) :
    (upgradedMemory now m).id = m.id ∧ (upgradedMemory now m).status = some m.status := by
  obtain ⟨metadata, hrescope⟩ := rescope_eq m.widen
  obtain ⟨metadata', kind, memoryKind, hrekind, -⟩ := rekind_eq (rescope m.widen)
  rw [upgradedMemory, hrekind, hrescope]
  exact ⟨rfl, rfl⟩

theorem upgradeCharacters_eq (versions : List CharacterVersion) (rows : List LegacyCharacter) :
    upgradeCharacters versions rows = rows.map (projectCharacter versions) := by
  simp only [upgradeCharacters, updateWhere, List.map_map]
  rfl

theorem projectCharacter_keeps (versions : List CharacterVersion) (c : LegacyCharacter) :
    (projectCharacter versions c).id = c.id ∧
      ((projectCharacter versions c).archivedAt = none →
        (projectCharacter versions c).isActive = true) := by
  have hproject : (projectVersion versions c.widen).id = c.id ∧
      ((projectVersion versions c.widen).archivedAt = none →
        (projectVersion versions c.widen).isActive = true) := by
    unfold projectVersion
    split
    · exact ⟨rfl, fun _ => rfl⟩
    · refine ⟨rfl, ?_⟩
      intro hactive
      exact Option.isNone_iff_eq_none.mpr hactive
  unfold projectCharacter defaultName
  split
  · exact hproject
  · exact hproject

variable {legacy : LegacyDatabase}

theorem upgrade_eq :
    upgrade now legacy =
      if ActiveRows (legacy.memories.map fun m => rescope m.widen) then
        .ok (upgradedDatabase now legacy)
      else .error integrityError := by
  rw [upgrade, upgradeMemories_eq, upgradeCharacters_eq]
  split
  · rfl
  · rfl

theorem upgrade_ok {db : Database} (h : upgrade now legacy = .ok db) :
    db = upgradedDatabase now legacy := by
  rw [upgrade_eq] at h
  split at h
  · cases h
    rfl
  · cases h

theorem memoryColumns_upgraded (hids : (legacy.memories.map LegacyMemory.id).Nodup)
    (hm : m ∈ legacy.memories) :
    (upgradedDatabase now legacy).memoryColumns m.id =
      (upgradedMemory now m).toLegacyMemoryColumns := by
  have hrows : ((legacy.memories.map (upgradedMemory now)).map fun row => row.id).Nodup := by
    rw [List.map_map]
    simpa [Function.comp_def, upgradedMemory_keeps] using hids
  have hfind := find?_key hrows (List.mem_map_of_mem hm)
  rw [(upgradedMemory_keeps now m).1] at hfind
  simp only [upgradedDatabase, widenedDatabase, hfind]

theorem characterColumns_upgraded (hids : (legacy.characters.map LegacyCharacter.id).Nodup)
    {c : LegacyCharacter} (hc : c ∈ legacy.characters) :
    (upgradedDatabase now legacy).characterColumns c.id =
      (projectCharacter legacy.versions c).toLegacyCharacterColumns := by
  have hrows : ((legacy.characters.map (projectCharacter legacy.versions)).map
      fun row => row.id).Nodup := by
    rw [List.map_map]
    simpa [Function.comp_def, projectCharacter_keeps] using hids
  have hfind := find?_key hrows (List.mem_map_of_mem hc)
  rw [(projectCharacter_keeps legacy.versions c).1] at hfind
  simp only [upgradedDatabase, widenedDatabase, hfind]

theorem character_of_mem_upgraded {r : Character}
    (hr : r ∈ (upgradedDatabase now legacy).store.characters) :
    ∃ c ∈ legacy.characters, r.id = c.id ∧
      r.isActive = (projectCharacter legacy.versions c).isActive := by
  simp only [upgradedDatabase, widenedDatabase, List.mem_filterMap, List.mem_map] at hr
  obtain ⟨_, ⟨c, hc, rfl⟩, hread⟩ := hr
  obtain ⟨name, -, rfl⟩ := Option.map_eq_some_iff.mp hread
  exact ⟨c, hc, (projectCharacter_keeps legacy.versions c).1, rfl⟩

theorem upgraded_of_mem {r : Memory} (hr : r ∈ (upgradedDatabase now legacy).store.memories) :
    ∃ m ∈ legacy.memories, Upgraded now m r := by
  simp only [upgradedDatabase, widenedDatabase, List.mem_filterMap, List.mem_map] at hr
  obtain ⟨_, ⟨m, hm, rfl⟩, hread⟩ := hr
  obtain ⟨r', hread', hupgraded⟩ := upgraded_memory? now m
  rw [hread, Option.some.injEq] at hread'
  exact ⟨m, hm, hread' ▸ hupgraded⟩

theorem mem_of_upgraded (now : Timestamp) (hm : m ∈ legacy.memories) :
    ∃ r ∈ (upgradedDatabase now legacy).store.memories, Upgraded now m r := by
  obtain ⟨r, hread, hupgraded⟩ := upgraded_memory? now m
  refine ⟨r, ?_, hupgraded⟩
  simp only [upgradedDatabase, widenedDatabase, List.mem_filterMap, List.mem_map]
  exact ⟨_, ⟨m, hm, rfl⟩, hread⟩

end Rows

end Astra.Migration
