import Astra.Chat.Messages
import Astra.Services.Effects
import Astra.Tools.Search

/-!
# The rows of one user

`view` keeps the rows that a user owns, and every query of the chat services
and of the search tools on behalf of that user is answered by the view.
-/

namespace Astra.Tenancy

open Astra.Foundation Astra.Platform Astra.Persistence Astra.Services Astra.Knowledge
  Astra.Chat Astra.Tools

def ownsConversation (store : Store) (userId conversationId : UUID) : Bool :=
  store.conversations.any fun c => c.id == conversationId && c.userId == userId

def ownsMessage (store : Store) (userId : UUID) (m : Message) : Bool :=
  ownsConversation store userId m.conversationId

/-- What the store says about one user, and nothing else. -/
def view (userId : UUID) (store : Store) : Store where
  conversations := store.conversations.filter fun c => c.userId == userId
  messages := store.messages.filter (ownsMessage store userId)
  characters := store.characters.filter fun c => c.userId == userId
  personas := store.personas.filter fun p => p.userId == userId
  memories := store.memories.filter fun m => m.userId == userId
  sources := store.sources.filter fun s => s.userId == userId
  chunks := store.chunks.filter fun c => c.userId == userId

structure KnowledgeOwned (store : Store) : Prop where
  sourceIds : (store.sources.map KnowledgeSource.id).Nodup
  chunkOwner : ∀ chunk ∈ store.chunks,
    ∃ source ∈ store.sources, source.id = chunk.sourceId ∧ source.userId = chunk.userId

/-- What the services keep true of the references between rows. -/
structure WellOwned (store : Store) : Prop where
  messages : WellFormed store.messages
  knowledge : KnowledgeOwned store

/-! ## Owner-scoped lookups -/

section Lookups

variable {store : Store} {userId : UUID}

theorem getOwnedConversation_view (id : UUID) :
    getOwnedConversation (view userId store).conversations id userId =
      getOwnedConversation store.conversations id userId := by
  apply find?_of_imp
  intro c _ h
  simp only [Bool.and_eq_true] at h
  exact h.1.2

theorem getOwnedCharacter_view (id : UUID) :
    getOwnedCharacter (view userId store).characters id userId =
      getOwnedCharacter store.characters id userId := by
  apply find?_of_imp
  intro c _ h
  simp only [Bool.and_eq_true] at h
  exact h.1.2

theorem getOwnedPersona_view (id : UUID) :
    getOwnedPersona (view userId store).personas id userId =
      getOwnedPersona store.personas id userId := by
  apply find?_of_imp
  intro p _ h
  simp only [Bool.and_eq_true] at h
  exact h.2

theorem listForContext_view (conversationId : UUID) (characterId : Option UUID) (limit : Nat)
    (minImportance : Rat) :
    listForContext (view userId store).memories userId conversationId characterId limit
        minImportance =
      listForContext store.memories userId conversationId characterId limit minImportance := by
  apply selectOrdered_of_imp
  intro m _ h
  simp only [memorySelected, Bool.and_eq_true] at h
  exact h.1.1.1

theorem ownsConversation_of_getOwned {id : UUID} {c : Conversation}
    (h : getOwnedConversation store.conversations id userId = some c) :
    ownsConversation store userId id = true := by
  obtain ⟨hmem, hid, howner⟩ := getOwnedConversation_mem h
  rw [ownsConversation, List.any_eq_true]
  exact ⟨c, hmem, by simp [hid, howner]⟩

theorem listContext_filter {rows : List Message} {owned : Message → Bool} {conversationId : UUID}
    (howned : ∀ m, m.conversationId = conversationId → owned m = true) (limit : Nat) :
    listContext (rows.filter owned) conversationId limit =
      listContext rows conversationId limit := by
  unfold listContext
  rw [selectOrdered_of_imp]
  intro m _ h
  simp only [inContext, Bool.and_eq_true, beq_iff_eq] at h
  exact howned m h.1.1

end Lookups

/-! ## The search tools -/

section Search

variable {store : Store} {userId : UUID}

theorem searchConversation_view (py : PyRuntime) (arguments : Dict) {context : ToolContext}
    (huser : context.userId = userId) :
    searchConversation py (view userId store) arguments context =
      searchConversation py store arguments context := by
  unfold searchConversation
  cases hconversation : context.conversationId with
  | none => rfl
  | some conversationId =>
      simp only [huser, getOwnedConversation_view]
      cases howned : getOwnedConversation store.conversations conversationId userId with
      | none => rfl
      | some c =>
          have hview : listContext (view userId store).messages conversationId 200 =
              listContext store.messages conversationId 200 := by
            apply listContext_filter
            intro m hm
            rw [ownsMessage, hm]
            exact ownsConversation_of_getOwned howned
          simp only [hview]

theorem joinSources_view (h : KnowledgeOwned store) :
    joinSources (view userId store).chunks (view userId store).sources =
      (joinSources store.chunks store.sources).filter fun row => row.1.userId == userId := by
  apply joinOn_filter
  intro chunk hchunk howner source hsource hid
  obtain ⟨source', hsource', hid', howner'⟩ := h.chunkOwner chunk hchunk
  rw [beq_iff_eq] at hid
  rw [eq_of_key_eq h.sourceIds hsource hsource' (hid.trans hid'.symm), howner']
  exact howner

theorem searchKnowledge_view (h : KnowledgeOwned store) (text : FullText) {query : RetrievalQuery}
    (huser : query.userId = userId) :
    searchKnowledge text (view userId store) query = searchKnowledge text store query := by
  unfold searchKnowledge
  rw [joinSources_view h, selectOrdered_of_imp]
  intro row _ hselected
  simp only [chunkSelected, Bool.and_eq_true, huser] at hselected
  exact hselected.1.1.1

theorem searchKnowledgeBase_view (h : KnowledgeOwned store) (py : PyRuntime) (text : FullText)
    (arguments : Dict) {context : ToolContext} (huser : context.userId = userId) :
    searchKnowledgeBase py text (view userId store) arguments context =
      searchKnowledgeBase py text store arguments context := by
  unfold searchKnowledgeBase
  cases hquery : retrievalQuery py arguments context with
  | error e => rfl
  | ok query =>
      have howner := (retrievalQuery_userId hquery).trans huser
      simp only [bind, Except.bind, searchKnowledge_view h text howner]

end Search

end Astra.Tenancy
