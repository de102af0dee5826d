import Astra.Tenancy.Owners

/-!
# Partial updates of a conversation

`ConversationService.update` checks the character and the persona together, each as the
request names it or else as the conversation has it.  A character that the conversation
has may have been archived since, and then a request that names the persona alone fails.
-/

namespace Astra.Tenancy

open Astra.Foundation Astra.Platform Astra.Persistence Astra.LLM Astra.Services Astra.Chat

def CharacterUsable (store : Store) (userId : UUID) (characterId : Option UUID) : Prop :=
  ∀ id ∈ characterId, ∃ c ∈ store.characters, c.id = id ∧ c.userId = userId ∧ c.isActive = true

def ProviderValid (config : AppConfig) (provider : Option String) : Prop :=
  (LLMProviderName.parse? (orDefault provider config.defaultLlmProvider)).isSome = true

structure NamesValid (config : AppConfig) (store : Store) (userId : UUID)
    (request : ConversationUpdateRequest) : Prop where
  character : ∀ characterId ∈ request.characterId, CharacterUsable store userId characterId
  persona : ∀ personaId ∈ request.personaId, PersonaOwned store userId personaId
  provider : ∀ provider ∈ request.provider, ProviderValid config provider

/-- No field but those that the request names, and the time of the update, is different. -/
structure OnlyNamed (request : ConversationUpdateRequest) (before after : Conversation) :
    Prop where
  title : request.title = none → after.title = before.title
  provider : request.provider = none → after.provider = before.provider
  model : request.model = none → after.model = before.model
  systemPrompt : request.systemPrompt = none → after.systemPrompt = before.systemPrompt
  characterId : request.characterId = none → after.characterId = before.characterId
  personaId : request.personaId = none → after.personaId = before.personaId
  others : after =
    { before with
      title := after.title
      provider := after.provider
      model := after.model
      systemPrompt := after.systemPrompt
      characterId := after.characterId
      personaId := after.personaId
      updatedAt := after.updatedAt }

/-- The update goes by what the request names, and raises without any effect otherwise. -/
structure DependsOnNamed (config : AppConfig) (store : Store) (userId conversationId : UUID)
    (before : Conversation) (request : ConversationUpdateRequest) (now : Timestamp) : Prop where
  succeeds : NamesValid config store userId request → ∃ after,
    updateConversation config store userId conversationId request now =
        .ok (after,
          { store with
            conversations := store.conversations.map fun c =>
              if c.id = conversationId then after else c }) ∧
      OnlyNamed request before after
  raises : ¬ NamesValid config store userId request →
    (∃ e, updateConversation config store userId conversationId request now = .error e) ∧
      applyService config store userId (.updateConversation conversationId request now) = store

section Checks

variable {config : AppConfig} {store : Store} {userId : UUID} {request : ConversationUpdateRequest}
  {before : Conversation}

theorem checkCharacter_eq_ok {characterId : Option UUID} :
    checkCharacter store userId characterId = .ok () ↔
      CharacterUsable store userId characterId := by
  cases characterId with
  | none => simp [checkCharacter, CharacterUsable]
  | some id =>
      have hfound : CharacterUsable store userId (some id) ↔
          (getOwnedCharacter store.characters id userId).isSome = true := by
        simp [CharacterUsable, getOwnedCharacter, List.find?_isSome, and_assoc]
      rw [hfound, checkCharacter]
      cases getOwnedCharacter store.characters id userId <;> simp

theorem checkPersona_eq_ok {personaId : Option UUID} :
    checkPersona store userId personaId = .ok () ↔ PersonaOwned store userId personaId := by
  refine ⟨checkPersona_ok, fun h => ?_⟩
  cases personaId with
  | none => rfl
  | some id =>
      obtain ⟨p, hp, hid, howner⟩ := h id rfl
      have hfound : (getOwnedPersona store.personas id userId).isSome = true := by
        rw [getOwnedPersona, List.find?_isSome]
        exact ⟨p, hp, by simp [hid, howner]⟩
      obtain ⟨found, hfound⟩ := Option.isSome_iff_exists.mp hfound
      rw [checkPersona, hfound]

theorem validateProvider_eq_ok {provider : Option String} :
    validateProvider (orDefault provider config.defaultLlmProvider) = .ok () ↔
      ProviderValid config provider := by
  unfold validateProvider ProviderValid
  split <;> simp [*]

theorem validateContextReferences_eq_ok {characterId personaId : Option UUID} :
    validateContextReferences store userId characterId personaId = .ok () ↔
      CharacterUsable store userId characterId ∧ PersonaOwned store userId personaId := by
  rw [← checkCharacter_eq_ok, ← checkPersona_eq_ok]
  constructor
  · intro h
    obtain ⟨_, hcharacter, hpersona⟩ := bind_eq_ok h
    exact ⟨hcharacter, hpersona⟩
  · rintro ⟨hcharacter, hpersona⟩
    rw [validateContextReferences, hcharacter]
    exact hpersona

theorem checkUpdatedProvider_eq_ok :
    checkUpdatedProvider config request = .ok () ↔
      ∀ provider ∈ request.provider, ProviderValid config provider := by
  unfold checkUpdatedProvider
  cases request.provider with
  | none => simp
  | some provider => simpa using validateProvider_eq_ok

theorem checkUpdatedReferences_eq_ok :
    checkUpdatedReferences store userId before request = .ok () ↔
      (request.characterId.isSome = true ∨ request.personaId.isSome = true →
        CharacterUsable store userId (request.characterId.getD before.characterId) ∧
          PersonaOwned store userId (request.personaId.getD before.personaId)) := by
  unfold checkUpdatedReferences
  split_ifs with hnamed
  · rw [validateContextReferences_eq_ok]
    rw [Bool.or_eq_true] at hnamed
    exact ⟨fun h _ => h, fun h => h hnamed⟩
  · rw [Bool.or_eq_true] at hnamed
    exact ⟨fun _ h => absurd h hnamed, fun _ => rfl⟩

theorem checks_eq_ok (hpersona : PersonaOwned store userId before.personaId) :
    checkUpdatedReferences store userId before request = .ok () ∧
        checkUpdatedProvider config request = .ok () ↔
      NamesValid config store userId request ∧
        (request.personaId.isSome = true → request.characterId = none →
          CharacterUsable store userId before.characterId) := by
  rw [checkUpdatedReferences_eq_ok, checkUpdatedProvider_eq_ok]
  constructor
  · rintro ⟨hrefs, hprovider⟩
    refine ⟨⟨?_, ?_, hprovider⟩, ?_⟩
    · intro characterId hnamed
      have hchecked := (hrefs (Or.inl (Option.isSome_of_mem hnamed))).1
      rwa [Option.mem_def.mp hnamed] at hchecked
    · intro personaId hnamed
      have hchecked := (hrefs (Or.inr (Option.isSome_of_mem hnamed))).2
      rwa [Option.mem_def.mp hnamed] at hchecked
    · intro hnamed hother
      have hchecked := (hrefs (Or.inr hnamed)).1
      rwa [hother] at hchecked
  · rintro ⟨hvalid, hstored⟩
    refine ⟨fun hnamed => ⟨?_, ?_⟩, hvalid.provider⟩
    · cases hcharacter : request.characterId with
      | none =>
          rw [hcharacter] at hnamed
          exact hstored (hnamed.resolve_left (by simp)) hcharacter
      | some characterId => exact hvalid.character characterId hcharacter
    · cases hrequested : request.personaId with
      | none => exact hpersona
      | some personaId => exact hvalid.persona personaId hrequested

end Checks

section Outcomes

variable {config : AppConfig} {store : Store} {userId conversationId : UUID}
  {request : ConversationUpdateRequest} {before : Conversation} {now : Timestamp}

private theorem applyConversationUpdate_onlyNamed (config : AppConfig)
    (request : ConversationUpdateRequest) (now : Timestamp) (before : Conversation) :
    OnlyNamed request before (applyConversationUpdate config request now before) where
  title h := by simp [applyConversationUpdate, h]
  provider h := by simp [applyConversationUpdate, h]
  model h := by simp [applyConversationUpdate, h]
  systemPrompt h := by simp [applyConversationUpdate, h]
  characterId h := by simp [applyConversationUpdate, h]
  personaId h := by simp [applyConversationUpdate, h]
  others := rfl

private theorem updateConversationRow_eq (hids : (store.conversations.map Conversation.id).Nodup)
    (howned : getOwnedConversation store.conversations conversationId userId = some before)
    (change : Conversation → Conversation) :
    updateConversationRow conversationId change store.conversations =
      store.conversations.map fun c => if c.id = conversationId then change before else c := by
  obtain ⟨hmem, hid, -⟩ := getOwnedConversation_mem howned
  refine List.map_congr_left fun c hc => ?_
  simp only [beq_iff_eq]
  split_ifs with hselected
  · rw [eq_of_key_eq hids hc hmem (hselected.trans hid.symm)]
  · rfl

private theorem updateConversation_of_checks
    (howned : getOwnedConversation store.conversations conversationId userId = some before)
    (hchecks : checkUpdatedReferences store userId before request = .ok () ∧
      checkUpdatedProvider config request = .ok ()) :
    updateConversation config store userId conversationId request now =
      .ok (applyConversationUpdate config request now before,
        { store with
          conversations := updateConversationRow conversationId
            (applyConversationUpdate config request now) store.conversations }) := by
  unfold updateConversation
  rw [howned]
  dsimp only
  rw [hchecks.1, hchecks.2]
  rfl

private theorem updateConversation_error
    (howned : getOwnedConversation store.conversations conversationId userId = some before)
    (hchecks : ¬ (checkUpdatedReferences store userId before request = .ok () ∧
      checkUpdatedProvider config request = .ok ())) :
    ∃ e, updateConversation config store userId conversationId request now = .error e := by
  cases hresult : updateConversation config store userId conversationId request now with
  | error e => exact ⟨e, rfl⟩
  | ok r =>
      unfold updateConversation at hresult
      rw [howned] at hresult
      obtain ⟨_, hrefs, hresult⟩ := bind_eq_ok hresult
      obtain ⟨_, hprovider, -⟩ := bind_eq_ok hresult
      exact absurd ⟨hrefs, hprovider⟩ hchecks

private theorem applyService_of_error {action : ServiceAction} {e : Exn}
    (h : runService config store userId action = .error e) :
    applyService config store userId action = store := by
  unfold applyService
  rw [h]

end Outcomes

/--
An update goes by the fields that it names, unless it names a persona and no character
and the character of the conversation is no longer active.
-/
theorem partial_update_iff (d : Deployment) {store : Store} (hreach : Reachable d store)
    (userId conversationId : UUID) {before : Conversation}
    (howned : getOwnedConversation store.conversations conversationId userId = some before)
    (request : ConversationUpdateRequest) (now : Timestamp) :
    DependsOnNamed d.config store userId conversationId before request now ↔
      (NamesValid d.config store userId request → request.personaId.isSome = true →
        request.characterId = none → CharacterUsable store userId before.characterId) := by
  obtain ⟨labels, s, hrun, rfl⟩ := hreach
  have hrows := (run_owned hrun).rows
  obtain ⟨hmem, -, howner⟩ := getOwnedConversation_mem howned
  have hpersona : PersonaOwned s.store userId before.personaId := by
    rw [← howner]
    exact hrows.personaOwner before hmem
  have hchecks : checkUpdatedReferences s.store userId before request = .ok () ∧
        checkUpdatedProvider d.config request = .ok () ↔
      NamesValid d.config s.store userId request ∧
        (request.personaId.isSome = true → request.characterId = none →
          CharacterUsable s.store userId before.characterId) := checks_eq_ok hpersona
  have herror (hfails : ¬ (checkUpdatedReferences s.store userId before request = .ok () ∧
      checkUpdatedProvider d.config request = .ok ())) :
      ∃ e, updateConversation d.config s.store userId conversationId request now = .error e :=
    updateConversation_error howned hfails
  constructor
  · intro hdepends hvalid
    obtain ⟨after, hok, -⟩ := hdepends.succeeds hvalid
    by_contra hstored
    obtain ⟨e, he⟩ := herror (mt hchecks.mp fun h => hstored h.2)
    rw [he] at hok
    cases hok
  · intro hstored
    constructor
    · intro hvalid
      refine ⟨applyConversationUpdate d.config request now before, ?_,
        applyConversationUpdate_onlyNamed d.config request now before⟩
      rw [updateConversation_of_checks howned (hchecks.mpr ⟨hvalid, hstored hvalid⟩),
        updateConversationRow_eq hrows.conversationIds howned]
    · intro hinvalid
      obtain ⟨e, he⟩ := herror (mt hchecks.mp fun h => hinvalid h.1)
      refine ⟨⟨e, he⟩, applyService_of_error (e := e) ?_⟩
      show Prod.snd <$> _ = _
      rw [he]
      rfl

/-! ## An archived companion -/

def archivedCompanion : List ChatLabel :=
  [.service 1 (.createCharacter { name := "Mira" } 40),
    .service 1 (.createPersona { name := "Traveller" } 60),
    .service 1 (.createConversation { characterId := some 40 } 10 0),
    .service 1 (.archiveCharacter 40)]

theorem partial_update_iff_title :
    ∃ s c, exec (ChatState.step defaultDeployment) {} archivedCompanion = some s ∧
      getOwnedConversation s.store.conversations 10 1 = some c ∧
      DependsOnNamed defaultConfig s.store 1 10 c { title := some (some "Harbor") } 1 := by
  have hview : ((exec (ChatState.step defaultDeployment) {} archivedCompanion).map fun s =>
      (getOwnedConversation s.store.conversations 10 1).isSome) = some true := by decide +kernel
  obtain ⟨s, hs, hview⟩ := Option.map_eq_some_iff.mp hview
  obtain ⟨c, hc⟩ := Option.isSome_iff_exists.mp hview
  refine ⟨s, c, hs, hc, ?_⟩
  refine (partial_update_iff defaultDeployment ⟨archivedCompanion, s, hs, rfl⟩ 1 10 hc
    { title := some (some "Harbor") } 1).mpr ?_
  intro _ hnamed
  cases hnamed

/-- The persona is the user's, and `update` rejects it for the character. -/
theorem archived_character_blocks_persona :
    ∃ s c, exec (ChatState.step defaultDeployment) {} archivedCompanion = some s ∧
      getOwnedConversation s.store.conversations 10 1 = some c ∧
      ¬ DependsOnNamed defaultConfig s.store 1 10 c { personaId := some (some 60) } 1 := by
  have hview : ((exec (ChatState.step defaultDeployment) {} archivedCompanion).map fun s =>
      ((getOwnedConversation s.store.conversations 10 1).isSome,
        decide (∃ p ∈ s.store.personas, p.id = 60 ∧ p.userId = 1),
        (updateConversation defaultConfig s.store 1 10 { personaId := some (some 60) } 1).isOk)) =
          some (true, true, false) := by decide +kernel
  obtain ⟨s, hs, hview⟩ := Option.map_eq_some_iff.mp hview
  simp only [Prod.mk.injEq] at hview
  obtain ⟨hfound, hpersona, hfails⟩ := hview
  obtain ⟨c, hc⟩ := Option.isSome_iff_exists.mp hfound
  refine ⟨s, c, hs, hc, ?_⟩
  intro hdepends
  have hvalid : NamesValid defaultConfig s.store 1 { personaId := some (some 60) } := by
    refine ⟨by simp, ?_, by simp⟩
    rintro personaId ⟨⟩ id ⟨⟩
    exact of_decide_eq_true hpersona
  obtain ⟨after, hok, -⟩ := hdepends.succeeds hvalid
  rw [hok] at hfails
  cases hfails

end Astra.Tenancy
