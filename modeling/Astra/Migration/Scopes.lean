import Astra.Chat.Context
import Astra.Migration.Upgrade
import Astra.Tenancy.Scopes

/-!
# Scopes across the upgrade

A legacy memory of scope world, relationship or conversation was meant for the
conversation that it carries.  The upgrade gives world memories the scope of the user,
and relationship memories that of their character or, without one, that of the user;
the revised query then recalls them elsewhere.
-/

namespace Astra.Migration

open Astra.Foundation Astra.Platform Astra.Persistence Astra.Chat

/-- The memory was confined to the conversation by its scope. -/
structure ConfinedTo (m : LegacyMemory) (conversationId : UUID) : Prop where
  scope : m.scope = .world ∨ m.scope = .relationship ∨ m.scope = .conversation
  conversation : m.conversationId = some conversationId

/-- `conversation_id` and `character_id` as `MemoryCompactionService.process_task` stores them. -/
def writerTargets (scope : ScopeValue) (taskConversationId : UUID)
    (characterId : Option UUID) : Option UUID × Option UUID :=
  (if scope = .relationship ∨ scope = .world ∨ scope = .conversation then
      some taskConversationId
    else none,
    if scope = .character then characterId else none)

def CharacterOf (legacy : LegacyDatabase) (userId : UUID) (characterId : Option UUID) : Prop :=
  ∀ id, characterId = some id → ∃ c ∈ legacy.characters, c.id = id ∧ c.userId = userId

/-- Whatever is assembled for the user, the memory is selected for the conversation alone. -/
def SelectedOnlyIn (db : Database) (legacy : LegacyDatabase) (m : LegacyMemory)
    (conversationId : UUID) : Prop :=
  ∀ c ∈ legacy.conversations, c.userId = m.userId →
    ∀ characterId, CharacterOf legacy m.userId characterId →
      ∀ limit minImportance,
        ∀ r ∈ listForContext db.store.memories m.userId c.id characterId limit minImportance,
          r.id = m.id → c.id = conversationId

/-- The memory keeps a scope other than the user's, and no character of the user is its target. -/
def StaysApart (legacy : LegacyDatabase) (m : LegacyMemory) : Prop :=
  (m.scope = .conversation ∨ (m.scope = .relationship ∧ m.characterId ≠ none)) ∧
    ∀ c ∈ legacy.characters, c.userId = m.userId → m.characterId ≠ some c.id

/-- No other conversation of the user can be assembled. -/
def OnlyConversation (legacy : LegacyDatabase) (userId conversationId : UUID) : Prop :=
  ∀ c ∈ legacy.conversations, c.userId = userId → c.id = conversationId

section Rows

variable {now : Timestamp} {legacy : LegacyDatabase} {m : LegacyMemory} {r : Memory}
  {conversationId : UUID}

private theorem upgraded_of_id (hids : (legacy.memories.map LegacyMemory.id).Nodup)
    (hm : m ∈ legacy.memories) (hr : r ∈ (upgradedDatabase now legacy).store.memories)
    (hid : r.id = m.id) : Upgraded now m r := by
  obtain ⟨m', hm', h⟩ := upgraded_of_mem hr
  rw [eq_of_key_eq hids hm hm' (hid.symm.trans h.id)]
  exact h

private theorem revisedScope_eq_user {row : MemoryRow} :
    revisedScope row = .user ↔
      row.scope = .user ∨ row.scope = .world ∨
        (row.scope = .relationship ∧ row.characterId = none) := by
  unfold revisedScope
  cases row.scope <;> cases row.characterId <;> simp

theorem ConfinedTo.revisedScope_ne_user (h : ConfinedTo m conversationId) :
    revisedScope m.widen ≠ .user ↔
      m.scope = .conversation ∨ (m.scope = .relationship ∧ m.characterId ≠ none) := by
  rw [Ne, revisedScope_eq_user]
  simp only [LegacyMemory.widen]
  rcases h.scope with hscope | hscope | hscope <;> simp [hscope]

theorem Upgraded.scope_eq_user (h : Upgraded now m r) :
    r.scope = .user ↔ revisedScope m.widen = .user := by
  have hscope := h.scope
  constructor
  · intro huser
    rw [huser] at hscope
    cases hrevised : revisedScope m.widen <;> simp_all [ScopeValue.memoryScope?]
  · intro huser
    rw [huser, ScopeValue.memoryScope?, Option.some.injEq] at hscope
    exact hscope.symm

private theorem selected_of_upgraded (hm : m ∈ legacy.memories) (hactive : ¬ Retired now m)
    {id : UUID} {characterId : Option UUID}
    (htarget : revisedScope m.widen = .user ∨ m.conversationId = some id ∨
      (characterId.isSome = true ∧ m.characterId = characterId)) :
    ∃ limit, ∃ r ∈ listForContext (upgradedDatabase now legacy).store.memories m.userId id
      characterId limit m.importance, r.id = m.id := by
  obtain ⟨r, hr, h⟩ := mem_of_upgraded now hm
  refine ⟨_, r, mem_selectOrdered_of_length_le le_rfl hr ?_, h.id⟩
  rw [Tenancy.memorySelected_iff]
  refine ⟨h.userId, ?_, le_of_eq h.importance.symm, ?_⟩
  · rw [h.archivedAt]
    exact retiredAt_eq_none.mpr hactive
  · rw [h.scope_eq_user, h.conversationId, h.characterId]
    exact htarget

end Rows

/--
A memory that was confined to a conversation is selected for that conversation alone,
after the upgrade, exactly when the upgrade archives it, the user has no other
conversation, or neither its scope nor a character of the user leads elsewhere.
-/
theorem confined_memory_selected_only_in_iff (now : Timestamp) (legacy : LegacyDatabase)
    (hlegacy : legacy.Constraints) (db : Database) (hupgrade : upgrade now legacy = .ok db)
    (m : LegacyMemory) (hm : m ∈ legacy.memories) (conversationId : UUID)
    (hconfined : ConfinedTo m conversationId) :
    SelectedOnlyIn db legacy m conversationId ↔
      Retired now m ∨ OnlyConversation legacy m.userId conversationId ∨ StaysApart legacy m := by
  rw [upgrade_ok hupgrade]
  constructor
  · intro honly
    by_cases hretired : Retired now m
    · exact Or.inl hretired
    right
    by_cases hother : OnlyConversation legacy m.userId conversationId
    · exact Or.inl hother
    right
    simp only [OnlyConversation, not_forall] at hother
    obtain ⟨c, hc, howner, hne⟩ := hother
    have hnowhere (characterId : Option UUID) (howned : CharacterOf legacy m.userId characterId)
        (htarget : revisedScope m.widen = .user ∨ m.conversationId = some c.id ∨
          (characterId.isSome = true ∧ m.characterId = characterId)) : False := by
      obtain ⟨limit, r, hr, hid⟩ := selected_of_upgraded hm hretired htarget
      exact hne (honly c hc howner characterId howned limit m.importance r hr hid)
    constructor
    · rw [← hconfined.revisedScope_ne_user]
      intro huser
      exact hnowhere none (by simp [CharacterOf]) (Or.inl huser)
    · intro character hcharacter hcharacterOwner htarget
      refine hnowhere (some character.id) ?_ (Or.inr (Or.inr ⟨rfl, htarget⟩))
      rintro id hid
      cases hid
      exact ⟨character, hcharacter, rfl, hcharacterOwner⟩
  · rintro hkept c hc howner characterId howned limit minImportance r hr hid
    obtain ⟨hmem, hselected⟩ := mem_of_mem_selectOrdered hr
    have h := upgraded_of_id hlegacy.memoryIds hm hmem hid
    rw [Tenancy.memorySelected_iff] at hselected
    obtain ⟨-, hactive, -, htarget⟩ := hselected
    rcases hkept with hretired | honly | ⟨hscope, hcharacters⟩
    · rw [h.archivedAt, retiredAt_eq_none] at hactive
      exact absurd hretired hactive
    · exact honly c hc howner
    · rw [h.scope_eq_user, h.conversationId, h.characterId, hconfined.conversation] at htarget
      rcases htarget with huser | hconversation | ⟨hsome, hcharacter⟩
      · exact absurd huser (hconfined.revisedScope_ne_user.mpr hscope)
      · exact (Option.some.inj hconversation).symm
      · obtain ⟨id, rfl⟩ := Option.isSome_iff_exists.mp hsome
        obtain ⟨character, hmem, rfl, hcharacterOwner⟩ := howned id rfl
        exact absurd hcharacter (hcharacters character hmem hcharacterOwner)

theorem staysApart_of_written {legacy : LegacyDatabase} {m : LegacyMemory}
    {conversationId : UUID} {characterId : Option UUID}
    (hwritten : (m.conversationId, m.characterId) =
      writerTargets m.scope conversationId characterId)
    (hconfined : ConfinedTo m conversationId) :
    StaysApart legacy m ↔ m.scope = .conversation := by
  have hcharacter : m.characterId = none := by
    have htarget : m.characterId = if m.scope = .character then characterId else none :=
      congrArg Prod.snd hwritten
    rw [htarget, if_neg]
    intro hscope
    rcases hconfined.scope with h | h | h <;> rw [hscope] at h <;> cases h
  constructor
  · rintro ⟨hconversation | ⟨-, hsome⟩, -⟩
    · exact hconversation
    · exact absurd hcharacter hsome
  · intro hscope
    refine ⟨Or.inl hscope, ?_⟩
    simp [hcharacter]

def legacyConversation (id : UUID) : Conversation where
  id := id
  userId := 1
  title := none
  provider := some "mock"
  model := none
  systemPrompt := none
  characterId := some 40
  personaId := none
  lastMessageAt := none
  archivedAt := none
  createdAt := 0
  updatedAt := 0
  conversationMetadata := []

def legacyMemory (id : UUID) (scope : ScopeValue) (content : String) : LegacyMemory where
  id := id
  userId := 1
  conversationId := (writerTargets scope 10 (some 40)).1
  characterId := (writerTargets scope 10 (some 40)).2
  personaId := none
  sourceMessageId := none
  supersededById := none
  scope := scope
  kind := .fact
  status := .active
  normalizedKey := content
  content := content
  importance := 1 / 2
  confidence := 1
  lastAccessedAt := none
  accessCount := 0
  expiresAt := none
  metadata := [("source", .str "automatic")]
  updatedAt := 5

def legacyScene : LegacyDatabase where
  conversations := [legacyConversation 10, legacyConversation 11]
  characters := [⟨40, 1, 1, none, none, []⟩]
  versions := [⟨50, 40, 1, "Mira", none, none, none, none, none⟩]
  memories := [legacyMemory 1 .world "the king is dead", legacyMemory 2 .conversation "it rains"]

theorem legacyScene_constraints : legacyScene.Constraints := by
  constructor <;> decide +kernel

theorem upgrade_legacyScene :
    upgrade 100 legacyScene = .ok (upgradedDatabase 100 legacyScene) := by
  rw [upgrade_eq, if_pos (by decide +kernel)]

theorem confined_memory_selected_only_in_iff_scene :
    ∃ db, upgrade 100 legacyScene = .ok db ∧
      SelectedOnlyIn db legacyScene (legacyMemory 2 .conversation "it rains") 10 := by
  refine ⟨_, upgrade_legacyScene, (confined_memory_selected_only_in_iff 100 legacyScene
    legacyScene_constraints _ upgrade_legacyScene (legacyMemory 2 .conversation "it rains")
    (by simp [legacyScene]) 10 ⟨Or.inr (Or.inr rfl), rfl⟩).mpr (Or.inr (Or.inr ?_))⟩
  exact ⟨Or.inl rfl, by intro c _ _ h; cases h⟩

/-- The world of conversation 10 is recalled in conversation 11. -/
theorem world_memory_reaches_other_conversation :
    legacyScene.Constraints ∧ legacyMemory 1 .world "the king is dead" ∈ legacyScene.memories ∧
      ConfinedTo (legacyMemory 1 .world "the king is dead") 10 ∧
      ∃ db, upgrade 100 legacyScene = .ok db ∧
        ¬ SelectedOnlyIn db legacyScene (legacyMemory 1 .world "the king is dead") 10 := by
  refine ⟨legacyScene_constraints, by simp [legacyScene], ⟨Or.inl rfl, rfl⟩, _,
    upgrade_legacyScene, ?_⟩
  intro honly
  have hrow : ∃ r ∈ listForContext (upgradedDatabase 100 legacyScene).store.memories 1 11 none 1 0,
      r.id = 1 := by
    decide +kernel
  obtain ⟨r, hr, hid⟩ := hrow
  have hsame := honly (legacyConversation 11) (by simp [legacyScene]) rfl none
    (by simp [CharacterOf]) 1 0 r hr hid
  exact absurd hsame (by decide)

end Astra.Migration
