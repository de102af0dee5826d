import Astra.Chat.Invariants
import Astra.Tenancy.View

/-!
# Owners in every reachable store

Ids are unique, a conversation refers to a persona of its own user, and chunks are
written together with their source and for the same user.  No service moves a row to
another owner.
-/

namespace Astra.Tenancy

open Astra.Foundation Astra.Platform Astra.Persistence Astra.Services Astra.Chat

structure RowsOwned (store : Store) : Prop where
  conversationIds : (store.conversations.map Conversation.id).Nodup
  characterIds : (store.characters.map Character.id).Nodup
  personaIds : (store.personas.map Persona.id).Nodup
  memoryIds : (store.memories.map Memory.id).Nodup
  personaOwner : ∀ c ∈ store.conversations, PersonaOwned store c.userId c.personaId
  knowledge : KnowledgeOwned store

theorem RowsOwned.initial : RowsOwned {} := by
  refine ⟨by simp, by simp, by simp, by simp, by simp, ⟨by simp, by simp⟩⟩

/-! ## What the chat services keep -/

structure KeepsOwners (store store' : Store) : Prop where
  conversations : store'.conversations.map (fun c => (c.id, c.userId, c.personaId)) =
    store.conversations.map fun c => (c.id, c.userId, c.personaId)
  characters : store'.characters = store.characters
  personas : store'.personas = store.personas
  memories : store'.memories.map Memory.id = store.memories.map Memory.id
  sources : store'.sources = store.sources
  chunks : store'.chunks = store.chunks

theorem KeepsOwners.refl (store : Store) : KeepsOwners store store := ⟨rfl, rfl, rfl, rfl, rfl, rfl⟩

section Keep

variable {store store' : Store}

theorem KnowledgeOwned.congr (h : KnowledgeOwned store) (hsources : store'.sources = store.sources)
    (hchunks : store'.chunks = store.chunks) : KnowledgeOwned store' where
  sourceIds := by
    rw [hsources]
    exact h.sourceIds
  chunkOwner := by
    rw [hsources, hchunks]
    exact h.chunkOwner

theorem KeepsOwners.rowsOwned (hkeep : KeepsOwners store store') (h : RowsOwned store) :
    RowsOwned store' where
  conversationIds := by
    have hids := congrArg (List.map Prod.fst) hkeep.conversations
    simp only [List.map_map] at hids
    have hsame : store'.conversations.map Conversation.id =
        store.conversations.map Conversation.id := hids
    rw [hsame]
    exact h.conversationIds
  characterIds := by
    rw [hkeep.characters]
    exact h.characterIds
  personaIds := by
    rw [hkeep.personas]
    exact h.personaIds
  memoryIds := by
    rw [hkeep.memories]
    exact h.memoryIds
  personaOwner := by
    intro c hc
    have hkey := List.mem_map_of_mem (f := fun c => (c.id, c.userId, c.personaId)) hc
    rw [hkeep.conversations] at hkey
    obtain ⟨c', hc', heq⟩ := List.mem_map.mp hkey
    simp only [Prod.mk.injEq] at heq
    have howned := h.personaOwner c' hc'
    unfold PersonaOwned at howned ⊢
    rw [hkeep.personas, ← heq.2.1, ← heq.2.2]
    exact howned
  knowledge := h.knowledge.congr hkeep.sources hkeep.chunks

theorem keepsOwners_conversations (store : Store) {id : UUID}
    {change : Conversation → Conversation}
    (hkey : ∀ c, (change c).id = c.id ∧ (change c).userId = c.userId ∧
      (change c).personaId = c.personaId) :
    (updateConversationRow id change store.conversations).map
        (fun c => (c.id, c.userId, c.personaId)) =
      store.conversations.map fun c => (c.id, c.userId, c.personaId) := by
  apply map_updateWhere
  intro c _ _
  rw [(hkey c).1, (hkey c).2.1, (hkey c).2.2]

private theorem prepareExchange_keepsOwners (py : PyRuntime) (config : AppConfig) (store : Store)
    (userId conversationId : UUID) (request : MessageSendRequest) (streaming : Bool)
    (gen : Generated) :
    KeepsOwners store
      (prepareExchange py config store userId conversationId request streaming gen).2 := by
  have htouch : ∀ selected : List Memory,
      (touchMemories selected gen.now store.memories).map Memory.id =
        store.memories.map Memory.id := by
    intro selected
    apply map_updateWhere
    intro m _ _
    rfl
  unfold prepareExchange
  split_ifs
  · exact KeepsOwners.refl store
  split
  · exact KeepsOwners.refl store
  split
  · exact KeepsOwners.refl store
  split_ifs
  · dsimp only
    split
    · exact ⟨rfl, rfl, rfl, htouch _, rfl, rfl⟩
    · refine ⟨?_, rfl, rfl, htouch _, rfl, rfl⟩
      apply keepsOwners_conversations
      intro c
      exact ⟨rfl, rfl, rfl⟩
  · exact KeepsOwners.refl store

theorem prepare_keepsOwners (d : Deployment) (a : Arrival) (store : Store) :
    KeepsOwners store (a.prepare d store).2 := by
  have h := prepareExchange_keepsOwners d.py d.config store a.userId a.conversationId a.request
    a.streaming a.gen
  unfold Arrival.prepare awaitPrepare
  cases a.awaits with
  | completed => exact h
  | raisedBeforeAssembly e => exact KeepsOwners.refl store
  | raisedBeforeCommit e => exact ⟨rfl, rfl, rfl, h.memories, rfl, rfl⟩
  | raisedAfterCommit e => exact h

theorem storeWrite_keepsOwners {p : PreparedExchange} {now : Timestamp}
    (h : StoreWrite p now store store') : KeepsOwners store store' := by
  cases h with
  | unchanged => exact KeepsOwners.refl store
  | success reply =>
      unfold finalizeSuccess
      split
      · exact KeepsOwners.refl store
      · refine ⟨?_, rfl, rfl, rfl, rfl, rfl⟩
        apply keepsOwners_conversations
        intro c
        exact ⟨rfl, rfl, rfl⟩
  | failure content e => exact ⟨rfl, rfl, rfl, rfl, rfl, rfl⟩

end Keep

/-! ## What the other services keep -/

section Effects

variable {store store' : Store} {userId : UUID}

theorem KnowledgeOwned.addSource (h : KnowledgeOwned store) {source : KnowledgeSource}
    {chunks : List KnowledgeChunk} (howner : source.userId = userId)
    (hfresh : source.id ∉ store.sources.map KnowledgeSource.id)
    (hchunks : ∀ chunk ∈ chunks, chunk.userId = userId ∧ chunk.sourceId = source.id) :
    KnowledgeOwned { store with
      sources := store.sources ++ [source], chunks := store.chunks ++ chunks } where
  sourceIds := nodup_append_row h.sourceIds hfresh
  chunkOwner := by
    intro chunk hchunk
    rcases List.mem_append.mp hchunk with hchunk | hchunk
    · obtain ⟨found, hfound, hmatch⟩ := h.chunkOwner chunk hchunk
      exact ⟨found, List.mem_append_left _ hfound, hmatch⟩
    · obtain ⟨hchunkOwner, hsource⟩ := hchunks chunk hchunk
      exact ⟨source, List.mem_append_right _ (List.mem_singleton_self source), hsource.symm,
        howner.trans hchunkOwner.symm⟩

theorem KnowledgeOwned.changeSource (h : KnowledgeOwned store) {id : UUID}
    {change : KnowledgeSource → KnowledgeSource}
    (hkey : ∀ row, (change row).id = row.id ∧ (change row).userId = row.userId) :
    KnowledgeOwned { store with
      sources := updateWhere (fun s => s.id == id) change store.sources } where
  sourceIds := updateWhere_nodup h.sourceIds fun row => (hkey row).1
  chunkOwner := by
    intro chunk hchunk
    obtain ⟨source, hsource, hid, howner⟩ := h.chunkOwner chunk hchunk
    cases hselected : source.id == id with
    | true =>
        refine ⟨change source, mem_updateWhere.mpr (Or.inl ⟨source, hsource, hselected, rfl⟩), ?_⟩
        rw [(hkey source).1, (hkey source).2]
        exact ⟨hid, howner⟩
    | false =>
        exact ⟨source, mem_updateWhere.mpr (Or.inr ⟨hsource, hselected⟩), hid, howner⟩

theorem personaOwned_mono {personaId : Option UUID} (h : PersonaOwned store userId personaId)
    (hkeep : ∀ p ∈ store.personas, personaId = some p.id →
      ∃ p' ∈ store'.personas, p'.id = p.id ∧ p'.userId = p.userId) :
    PersonaOwned store' userId personaId := by
  intro id hid
  obtain ⟨p, hp, hpid, howner⟩ := h id hid
  obtain ⟨p', hp', hpid', howner'⟩ := hkeep p hp (by rw [hid, hpid])
  exact ⟨p', hp', hpid'.trans hpid, howner'.trans howner⟩

theorem defaultsCleared_keys {rows : List Persona} (h : DefaultsCleared store userId rows) :
    rows.map (fun p => (p.id, p.userId)) = store.personas.map fun p => (p.id, p.userId) := by
  rcases h with rfl | ⟨except, rfl⟩
  · rfl
  · apply map_updateWhere
    intro p _ _
    rfl

theorem mem_of_keys {rows rows' : List Persona}
    (h : rows'.map (fun p => (p.id, p.userId)) = rows.map fun p => (p.id, p.userId))
    {p : Persona} (hp : p ∈ rows) : ∃ p' ∈ rows', p'.id = p.id ∧ p'.userId = p.userId := by
  have hkey := List.mem_map_of_mem (f := fun p => (p.id, p.userId)) hp
  rw [← h] at hkey
  obtain ⟨p', hp', heq⟩ := List.mem_map.mp hkey
  simp only [Prod.mk.injEq] at heq
  exact ⟨p', hp', heq⟩

theorem ids_of_keys {rows rows' : List Persona}
    (h : rows'.map (fun p => (p.id, p.userId)) = rows.map fun p => (p.id, p.userId)) :
    rows'.map Persona.id = rows.map Persona.id := by
  have hids := congrArg (List.map Prod.fst) h
  rw [List.map_map, List.map_map] at hids
  exact hids

private theorem RowsOwned.changed_personaOwner (h : RowsOwned store) {id : UUID}
    {change : Conversation → Conversation} {c : Conversation}
    (howned : getOwnedConversation store.conversations id userId = some c)
    (howner : ∀ row, (change row).userId = row.userId)
    (hpersona : ∀ row, (change row).personaId = row.personaId ∨
      PersonaOwned store userId (change row).personaId) :
    ∀ c' ∈ updateConversationRow id change store.conversations,
      PersonaOwned store c'.userId c'.personaId := by
  intro c' hc'
  rcases mem_updateWhere.mp hc' with ⟨row, hrow, hselected, rfl⟩ | ⟨hrow, _⟩
  · rw [howner row]
    rcases hpersona row with hsame | hchecked
    · rw [hsame]
      exact h.personaOwner row hrow
    · rw [getOwnedConversation_owner h.conversationIds howned hrow (beq_iff_eq.mp hselected)]
      exact hchecked
  · exact h.personaOwner c' hrow

private theorem RowsOwned.deleted_personaOwner (h : RowsOwned store) {id : UUID}
    {personas : List Persona}
    (hpersonas : personas = store.personas.filter fun p => p.id != id) :
    ∀ c ∈ updateWhere (fun c => c.personaId == some id)
        (fun c => { c with personaId := none }) store.conversations,
      PersonaOwned { store with personas } c.userId c.personaId := by
  intro c hc
  rcases mem_updateWhere.mp hc with ⟨row, hrow, _, rfl⟩ | ⟨hrow, hother⟩
  · intro id' hid'
    cases hid'
  · apply personaOwned_mono (h.personaOwner c hrow)
    intro q hq hqid
    rw [hqid] at hother
    subst hpersonas
    refine ⟨q, List.mem_filter.mpr ⟨hq, ?_⟩, rfl, rfl⟩
    simpa using hother

theorem RowsOwned.service (h : RowsOwned store) (heffect : ServiceEffect store userId store') :
    RowsOwned store' := by
  cases heffect with
  | addConversation c howner hfresh hpersona =>
      refine { h with
        conversationIds := nodup_append_row h.conversationIds hfresh
        personaOwner := ?_
        knowledge := h.knowledge.congr rfl rfl }
      intro c' hc'
      rcases List.mem_append.mp hc' with hc' | hc'
      · exact h.personaOwner c' hc'
      · rw [List.mem_singleton.mp hc', howner]
        exact hpersona
  | changeConversation id change c howned hkey hpersona =>
      exact { h with
        conversationIds := updateWhere_nodup h.conversationIds fun row => (hkey row).1
        personaOwner := h.changed_personaOwner howned (fun row => (hkey row).2) hpersona
        knowledge := h.knowledge.congr rfl rfl }
  | addCharacter c howner hfresh =>
      exact { h with
        characterIds := nodup_append_row h.characterIds hfresh
        knowledge := h.knowledge.congr rfl rfl }
  | changeCharacter id change c howned hkey =>
      exact { h with
        characterIds := updateWhere_nodup h.characterIds fun row => (hkey row).1
        knowledge := h.knowledge.congr rfl rfl }
  | addPersona p cleared howner hcleared hfresh =>
      refine { h with
        personaIds := nodup_append_row ?_ hfresh
        personaOwner := ?_
        knowledge := h.knowledge.congr rfl rfl }
      · rw [ids_of_keys (defaultsCleared_keys hcleared)]
        exact h.personaIds
      · intro c hc
        apply personaOwned_mono (h.personaOwner c hc)
        intro q hq _
        obtain ⟨q', hq', hkey⟩ := mem_of_keys (defaultsCleared_keys hcleared) hq
        exact ⟨q', List.mem_append_left _ hq', hkey⟩
  | changePersona id change cleared p howned hcleared hkey =>
      have hkeys : (updateWhere (fun p => p.id == id) change cleared).map
          (fun p => (p.id, p.userId)) = store.personas.map fun p => (p.id, p.userId) := by
        rw [← (defaultsCleared_keys hcleared)]
        apply map_updateWhere
        intro row _ _
        rw [(hkey row).1, (hkey row).2]
      refine { h with
        personaIds := ?_
        personaOwner := ?_
        knowledge := h.knowledge.congr rfl rfl }
      · show ((updateWhere _ change cleared).map Persona.id).Nodup
        rw [ids_of_keys hkeys]
        exact h.personaIds
      · intro c hc
        apply personaOwned_mono (h.personaOwner c hc)
        intro q hq _
        exact mem_of_keys hkeys hq
  | deletePersona id p howned =>
      exact { h with
        conversationIds := updateWhere_nodup h.conversationIds fun row => rfl
        personaIds := h.personaIds.sublist (List.filter_sublist.map _)
        personaOwner := h.deleted_personaOwner rfl
        knowledge := h.knowledge.congr rfl rfl }
  | addMemory m howner hfresh =>
      exact { h with
        memoryIds := nodup_append_row h.memoryIds hfresh
        knowledge := h.knowledge.congr rfl rfl }
  | changeMemory id change m howned hkey =>
      exact { h with
        memoryIds := updateWhere_nodup h.memoryIds fun row => (hkey row).1
        knowledge := h.knowledge.congr rfl rfl }
  | addSource source chunks howner hfresh hchunks =>
      exact { h with knowledge := h.knowledge.addSource howner hfresh hchunks }
  | changeSource id change source howned hkey =>
      exact { h with knowledge := h.knowledge.changeSource hkey }

end Effects

section Run

variable {d : Deployment} {s t : ChatState} {label : ChatLabel}

private theorem step_rowsOwned (h : RowsOwned s.store) (hstep : s.step d label = some t) :
    RowsOwned t.store := by
  cases label with
  | arrive i a =>
      obtain ⟨-, -, rfl⟩ := ChatState.step_arrive hstep
      exact (prepare_keepsOwners d a s.store).rowsOwned h
  | resume i input now =>
      obtain ⟨phase, store, hresume, rfl⟩ := ChatState.step_resume hstep
      obtain ⟨p, _, _, hwrite⟩ := resume_writes hresume
      exact (storeWrite_keepsOwners hwrite).rowsOwned h
  | service userId action =>
      obtain rfl := ChatState.step_service hstep
      rcases applyService_cases d.config s.store userId action with hsame | heffect
      · rw [hsame]
        exact h
      · exact h.service heffect

structure OwnedState (s : ChatState) : Prop where
  rows : RowsOwned s.store
  table : TableInvariant s

theorem OwnedState.step (h : OwnedState s) (hstep : s.step d label = some t) : OwnedState t :=
  ⟨step_rowsOwned h.rows hstep, step_table h.table hstep⟩

theorem run_owned {labels : List ChatLabel}
    (hrun : exec (ChatState.step d) {} labels = some s) : OwnedState s :=
  exec_invariant' (fun _ _ _ h hstep => OwnedState.step h hstep)
    ⟨RowsOwned.initial, TableInvariant.initial⟩ hrun

/-- A store that the services have reached from the empty one. -/
def Reachable (d : Deployment) (store : Store) : Prop :=
  ∃ labels s, exec (ChatState.step d) {} labels = some s ∧ s.store = store

def IdleFromSome (phases : Nat → Phase) : Prop := ∃ n, ∀ i, n ≤ i → phases i = .idle

theorem IdleFromSome.update {phases : Nat → Phase} (h : IdleFromSome phases) (i : Nat)
    (phase : Phase) : IdleFromSome (Function.update phases i phase) := by
  obtain ⟨n, hn⟩ := h
  refine ⟨max n (i + 1), fun j hj => ?_⟩
  rw [Function.update_of_ne (by omega)]
  exact hn j (by omega)

private theorem step_idle (h : IdleFromSome s.phases) (hstep : s.step d label = some t) :
    IdleFromSome t.phases := by
  cases label with
  | arrive i a =>
      obtain ⟨-, -, rfl⟩ := ChatState.step_arrive hstep
      exact h.update i _
  | resume i input now =>
      obtain ⟨phase, store, _, rfl⟩ := ChatState.step_resume hstep
      exact h.update i _
  | service userId action =>
      obtain rfl := ChatState.step_service hstep
      exact h

theorem run_idle {labels : List ChatLabel} (hrun : exec (ChatState.step d) {} labels = some s) :
    IdleFromSome s.phases := by
  have hinitial : IdleFromSome (({} : ChatState).phases) := ⟨0, fun _ _ => rfl⟩
  exact exec_invariant' (fun _ _ _ h hstep => step_idle h hstep) hinitial hrun

theorem Reachable.prepare {store : Store} (h : Reachable d store) (a : Arrival)
    (hawaits : a.awaits = .completed) : Reachable d (a.prepare d store).2 := by
  obtain ⟨labels, s, hrun, rfl⟩ := h
  obtain ⟨i, hidle⟩ := run_idle hrun
  have hstep : s.step d (.arrive i a) = some
      { store := (a.prepare d s.store).2
        phases := Function.update s.phases i
          (start d a.streaming a.service (a.prepare d s.store).1) } := by
    simp [ChatState.step, hidle i (Nat.le_refl i), hawaits, PrepareAwaits.deliverable]
  exact ⟨labels ++ [.arrive i a], _,
    exec_append.mpr ⟨s, hrun, exec_cons.mpr ⟨_, hstep, rfl⟩⟩, rfl⟩

theorem Reachable.wellOwned {store : Store} (h : Reachable d store) : WellOwned store := by
  obtain ⟨labels, s, hrun, rfl⟩ := h
  exact ⟨(run_owned hrun).table.messages, (run_owned hrun).rows.knowledge⟩

end Run

end Astra.Tenancy
