import Astra.Knowledge.Coverage
import Astra.Tenancy.Owners

/-!
# The knowledge base over whole runs

What the rows of a source are after any run of the system: the source as its owner
created it, and the chunks that `chunk_text` cut from its text.
-/

namespace Astra.Knowledge

open Astra.Foundation Astra.Platform Astra.Persistence Astra.Services Astra.Chat Astra.Tenancy

/-! ## What an operation does to sources and chunks -/

def newSource (userId : UUID) (request : KnowledgeSourceCreateRequest) (id : UUID) :
    KnowledgeSource where
  id := id
  userId := userId
  name := request.name
  sourceType := request.sourceType
  status := .ready
  sourceMetadata := request.metadata

def archivedAs (sourceId : UUID) (sources : List KnowledgeSource) : List KnowledgeSource :=
  updateWhere (fun s => s.id == sourceId) (fun s => { s with status := .archived }) sources

inductive KnowledgeEffect (config : AppConfig) (store : Store) (userId : UUID)
    (action : ServiceAction) (store' : Store) : Prop
  | keeps (hsources : store'.sources = store.sources) (hchunks : store'.chunks = store.chunks)
  | creates (request : KnowledgeSourceCreateRequest) (id : UUID) (chunkIds : Nat → UUID)
      (pieces : List TextChunk) (haction : action = .createSource request id chunkIds)
      (hpieces : chunkText request.content config.ragChunkSizeChars config.ragChunkOverlapChars =
        .ok pieces)
      (hfresh : id ∉ store.sources.map KnowledgeSource.id)
      (hsources : store'.sources = store.sources ++ [newSource userId request id])
      (hchunks : store'.chunks = store.chunks ++ pieces.map (toKnowledgeChunk id userId chunkIds))
      (hchunkIds : (store.chunks.map KnowledgeChunk.id).Nodup →
        (store'.chunks.map KnowledgeChunk.id).Nodup)
  | archives (sourceId : UUID) (source : KnowledgeSource)
      (haction : action = .archiveSource sourceId)
      (howned : getSourceOwned store.sources sourceId userId = some source)
      (hsources : store'.sources = archivedAs sourceId store.sources)
      (hchunks : store'.chunks = store.chunks)

section Operations

variable {config : AppConfig} {store store' : Store} {userId : UUID} {action : ServiceAction}

private theorem addChunks_nodup {chunks rows rows' : List KnowledgeChunk}
    (h : addChunks chunks rows = .ok rows') (hrows : (rows.map KnowledgeChunk.id).Nodup) :
    (rows'.map KnowledgeChunk.id).Nodup := by
  induction chunks generalizing rows with
  | nil =>
      cases h
      exact hrows
  | cons chunk chunks ih =>
      obtain ⟨rows₁, hadd, h⟩ := bind_eq_ok h
      obtain ⟨hfresh, rfl⟩ := addRow_eq_ok.mp hadd
      exact ih h (nodup_append_row hrows hfresh)

private theorem createSource_ok {request : KnowledgeSourceCreateRequest} {id : UUID}
    {chunkIds : Nat → UUID} {source : KnowledgeSource}
    (h : createSource config store userId request id chunkIds = .ok (source, store')) :
    KnowledgeEffect config store userId (.createSource request id chunkIds) store' := by
  obtain ⟨pieces, hpieces, h⟩ := bind_eq_ok h
  obtain ⟨sources, hadd, h⟩ := bind_eq_ok h
  obtain ⟨rows, hchunks, h⟩ := bind_eq_ok h
  obtain ⟨hfresh, rfl⟩ := addRow_eq_ok.mp hadd
  simp only [Except.ok.injEq, Prod.mk.injEq] at h
  rw [← h.2]
  exact .creates request id chunkIds pieces rfl hpieces hfresh rfl (addChunks_eq_ok hchunks)
    (addChunks_nodup hchunks)

private theorem archiveSource_ok {sourceId : UUID}
    (h : archiveSource store userId sourceId = .ok store') :
    KnowledgeEffect config store userId (.archiveSource sourceId) store' := by
  unfold archiveSource at h
  split at h
  · cases h
  · rename_i source howned
    cases h
    exact .archives sourceId source rfl howned rfl rfl

private theorem runService_knowledge (h : runService config store userId action = .ok store') :
    KnowledgeEffect config store userId action store' := by
  cases action with
  | createSource request id chunkIds => exact createSource_ok (snd_map_eq_ok h).choose_spec
  | archiveSource sourceId => exact archiveSource_ok h
  | createConversation request id now =>
      obtain ⟨c, h⟩ := snd_map_eq_ok h
      obtain ⟨_, -, h⟩ := bind_eq_ok h
      obtain ⟨_, -, h⟩ := bind_eq_ok h
      obtain ⟨rows, -, h⟩ := bind_eq_ok h
      cases h
      exact .keeps rfl rfl
  | updateConversation conversationId request now =>
      obtain ⟨c, h⟩ := snd_map_eq_ok h
      unfold updateConversation at h
      split at h
      · cases h
      · obtain ⟨_, -, h⟩ := bind_eq_ok h
        obtain ⟨_, -, h⟩ := bind_eq_ok h
        cases h
        exact .keeps rfl rfl
  | createCharacter request id =>
      obtain ⟨c, h⟩ := snd_map_eq_ok h
      obtain ⟨rows, -, h⟩ := bind_eq_ok h
      cases h
      exact .keeps rfl rfl
  | createPersona request id =>
      obtain ⟨p, h⟩ := snd_map_eq_ok h
      obtain ⟨rows, -, h⟩ := bind_eq_ok h
      cases h
      exact .keeps rfl rfl
  | createMemory request id now =>
      obtain ⟨m, h⟩ := snd_map_eq_ok h
      obtain ⟨_, -, h⟩ := bind_eq_ok h
      obtain ⟨_, -, h⟩ := bind_eq_ok h
      obtain ⟨_, -, h⟩ := bind_eq_ok h
      obtain ⟨_, -, h⟩ := bind_eq_ok h
      obtain ⟨rows, -, h⟩ := bind_eq_ok h
      cases h
      exact .keeps rfl rfl
  | updateCharacter characterId request =>
      obtain ⟨c, h⟩ := snd_map_eq_ok h
      unfold updateCharacter at h
      split at h
      · cases h
      · split at h
        · cases h
        · cases h
          exact .keeps rfl rfl
  | updatePersona personaId request =>
      obtain ⟨p, h⟩ := snd_map_eq_ok h
      unfold updatePersona at h
      split at h
      · cases h
      · split at h
        · cases h
        · cases h
          exact .keeps rfl rfl
  | archiveConversation conversationId now =>
      change archiveConversation store userId conversationId now = .ok store' at h
      unfold archiveConversation at h
      split at h
      · cases h
      · cases h
        exact .keeps rfl rfl
  | archiveCharacter characterId =>
      change archiveCharacter store userId characterId = .ok store' at h
      unfold archiveCharacter at h
      split at h
      · cases h
      · cases h
        exact .keeps rfl rfl
  | deletePersona personaId =>
      change deletePersona store userId personaId = .ok store' at h
      unfold deletePersona at h
      split at h
      · cases h
      · cases h
        exact .keeps rfl rfl
  | archiveMemory memoryId now =>
      change archiveMemory store userId memoryId now = .ok store' at h
      unfold archiveMemory at h
      split at h
      · cases h
      · cases h
        exact .keeps rfl rfl

/-- A label of the system either leaves the knowledge base alone or is one of its operations. -/
theorem step_knowledge {d : Deployment} {s t : ChatState} {label : ChatLabel}
    (h : s.step d label = some t) :
    (t.store.sources = s.store.sources ∧ t.store.chunks = s.store.chunks) ∨
      ∃ userId action, label = .service userId action ∧
        KnowledgeEffect d.config s.store userId action t.store := by
  cases label with
  | arrive i a =>
      obtain ⟨-, -, rfl⟩ := ChatState.step_arrive h
      have hkeeps := prepare_keepsOwners d a s.store
      exact Or.inl ⟨hkeeps.sources, hkeeps.chunks⟩
  | resume i input now =>
      obtain ⟨phase, store, hresume, rfl⟩ := ChatState.step_resume h
      obtain ⟨p, -, -, hwrite⟩ := resume_writes hresume
      have hkeeps := storeWrite_keepsOwners hwrite
      exact Or.inl ⟨hkeeps.sources, hkeeps.chunks⟩
  | service userId action =>
      obtain rfl := ChatState.step_service h
      right
      refine ⟨userId, action, rfl, ?_⟩
      unfold applyService
      split
      · exact runService_knowledge ‹_›
      · exact .keeps rfl rfl

end Operations

/-! ## The catalogue -/

def chunksOf (chunks : List KnowledgeChunk) (sourceId : UUID) : List KnowledgeChunk :=
  chunks.filter fun chunk => chunk.sourceId == sourceId

/-- The rows of a source are what its owner's request made of them. -/
structure CutFrom (config : AppConfig) (chunks : List KnowledgeChunk) (source : KnowledgeSource)
    (request : KnowledgeSourceCreateRequest) (chunkIds : Nat → UUID) : Prop where
  name : source.name = request.name
  sourceType : source.sourceType = request.sourceType
  metadata : source.sourceMetadata = request.metadata
  rows : ∃ pieces,
    chunkText request.content config.ragChunkSizeChars config.ragChunkOverlapChars = .ok pieces ∧
      chunksOf chunks source.id =
        pieces.map (toKnowledgeChunk source.id source.userId chunkIds)

/-- The invariant of the two tables, over the labels of the run so far. -/
structure Catalogue (config : AppConfig) (history : List ChatLabel) (store : Store) : Prop where
  owned : KnowledgeOwned store
  chunkIds : (store.chunks.map KnowledgeChunk.id).Nodup
  created : ∀ source ∈ store.sources, ∃ request chunkIds,
    .service source.userId (.createSource request source.id chunkIds) ∈ history ∧
      CutFrom config store.chunks source request chunkIds

section Chunking

theorem chunkText_bounds {text : String} {size overlap : Int} {pieces : List TextChunk}
    (h : chunkText text size overlap = .ok pieces) : 0 < size ∧ 0 ≤ overlap ∧ overlap < size := by
  unfold chunkText at h
  split at h
  · cases h
  · split at h
    · cases h
    · omega

private theorem chunkText_ordinals {text : String} {size overlap : Int} {pieces : List TextChunk}
    (h : chunkText text size overlap = .ok pieces) :
    pieces.map TextChunk.ordinal = List.range pieces.length := by
  obtain ⟨hsize, hoverlap, hlt⟩ := chunkText_bounds h
  rw [chunkText_eq hsize hoverlap hlt] at h
  simp only [Except.ok.injEq] at h
  have hordinals := numbered_ordinals
    ((textWindows text hsize overlap).map (windowText (collapse text).toList))
  rw [h] at hordinals
  rw [hordinals, ← h]
  simp [numbered]

end Chunking

section Steps

variable {config : AppConfig} {history : List ChatLabel} {store store' : Store} {userId : UUID}

theorem Catalogue.initial : Catalogue config history {} := by
  refine ⟨⟨by simp, by simp⟩, by simp, by simp⟩

theorem Catalogue.keeps (h : Catalogue config history store)
    (hsources : store'.sources = store.sources) (hchunks : store'.chunks = store.chunks) :
    Catalogue config history store' where
  owned := h.owned.congr hsources hchunks
  chunkIds := by
    rw [hchunks]
    exact h.chunkIds
  created := by
    rw [hsources, hchunks]
    exact h.created

theorem Catalogue.chunksOf_fresh (h : Catalogue config history store) {id : UUID}
    (hfresh : id ∉ store.sources.map KnowledgeSource.id) : chunksOf store.chunks id = [] := by
  unfold chunksOf
  rw [List.filter_eq_nil_iff]
  intro chunk hchunk hid
  obtain ⟨source, hsource, hsourceId, -⟩ := h.owned.chunkOwner chunk hchunk
  rw [beq_iff_eq] at hid
  exact hfresh (List.mem_map.mpr ⟨source, hsource, hsourceId.trans hid⟩)

private theorem chunksOf_append_other {chunks : List KnowledgeChunk} {id other owner : UUID}
    {chunkIds : Nat → UUID} {pieces : List TextChunk} (hne : id ≠ other) :
    chunksOf (chunks ++ pieces.map (toKnowledgeChunk other owner chunkIds)) id =
      chunksOf chunks id := by
  unfold chunksOf
  have hnone : (pieces.map (toKnowledgeChunk other owner chunkIds)).filter
      (fun chunk => chunk.sourceId == id) = [] := by
    rw [List.filter_eq_nil_iff]
    intro chunk hchunk hid
    obtain ⟨piece, -, rfl⟩ := List.mem_map.mp hchunk
    rw [beq_iff_eq] at hid
    exact hne hid.symm
  rw [List.filter_append, hnone, List.append_nil]

theorem Catalogue.creates (h : Catalogue config history store)
    {request : KnowledgeSourceCreateRequest} {id : UUID} {chunkIds : Nat → UUID}
    {pieces : List TextChunk}
    (hlabel : .service userId (.createSource request id chunkIds) ∈ history)
    (hpieces : chunkText request.content config.ragChunkSizeChars config.ragChunkOverlapChars =
      .ok pieces)
    (hfresh : id ∉ store.sources.map KnowledgeSource.id)
    (hsources : store'.sources = store.sources ++ [newSource userId request id])
    (hchunks : store'.chunks = store.chunks ++ pieces.map (toKnowledgeChunk id userId chunkIds))
    (hchunkIds : (store'.chunks.map KnowledgeChunk.id).Nodup) :
    Catalogue config history store' where
  owned := by
    have hadded : ∀ chunk ∈ pieces.map (toKnowledgeChunk id userId chunkIds),
        chunk.userId = userId ∧ chunk.sourceId = (newSource userId request id).id := by
      intro chunk hchunk
      obtain ⟨piece, -, rfl⟩ := List.mem_map.mp hchunk
      exact ⟨rfl, rfl⟩
    exact (h.owned.addSource rfl hfresh hadded).congr hsources hchunks
  chunkIds := hchunkIds
  created := by
    intro source hsource
    rw [hsources] at hsource
    rw [hchunks]
    rcases List.mem_append.mp hsource with hold | hnew
    · obtain ⟨request', chunkIds', hin, hcut⟩ := h.created source hold
      have hne : source.id ≠ id := fun heq => hfresh (heq ▸ List.mem_map_of_mem hold)
      refine ⟨request', chunkIds', hin, hcut.name, hcut.sourceType, hcut.metadata, ?_⟩
      rw [chunksOf_append_other hne]
      exact hcut.rows
    · obtain rfl := List.mem_singleton.mp hnew
      refine ⟨request, chunkIds, hlabel, rfl, rfl, rfl, pieces, hpieces, ?_⟩
      have hnone := h.chunksOf_fresh hfresh
      unfold chunksOf at hnone ⊢
      rw [List.filter_append]
      change store.chunks.filter (fun chunk => chunk.sourceId == id) ++ _ = _
      rw [hnone, List.nil_append]
      refine List.filter_eq_self.mpr ?_
      intro chunk hchunk
      obtain ⟨piece, -, rfl⟩ := List.mem_map.mp hchunk
      exact beq_self_eq_true _

theorem Catalogue.archives (h : Catalogue config history store) {sourceId : UUID}
    (hsources : store'.sources = archivedAs sourceId store.sources)
    (hchunks : store'.chunks = store.chunks) : Catalogue config history store' where
  owned := by
    have hchanged : KnowledgeOwned { store with sources := archivedAs sourceId store.sources } :=
      h.owned.changeSource fun _ => ⟨rfl, rfl⟩
    exact hchanged.congr hsources hchunks
  chunkIds := by
    rw [hchunks]
    exact h.chunkIds
  created := by
    intro source hsource
    rw [hsources] at hsource
    rw [hchunks]
    rcases mem_updateWhere.mp hsource with ⟨old, hold, -, rfl⟩ | ⟨hold, -⟩
    · obtain ⟨request, chunkIds, hin, hcut⟩ := h.created old hold
      exact ⟨request, chunkIds, hin, hcut.name, hcut.sourceType, hcut.metadata, hcut.rows⟩
    · exact h.created source hold

theorem Catalogue.step {d : Deployment} {s t : ChatState} {label : ChatLabel}
    (h : Catalogue d.config history s.store) (hin : label ∈ history)
    (hstep : s.step d label = some t) : Catalogue d.config history t.store := by
  rcases step_knowledge hstep with ⟨hsources, hchunks⟩ | ⟨userId, action, rfl, heffect⟩
  · exact h.keeps hsources hchunks
  · cases heffect with
    | keeps hsources hchunks => exact h.keeps hsources hchunks
    | creates request id chunkIds pieces haction hpieces hfresh hsources hchunks hchunkIds =>
        subst haction
        exact h.creates hin hpieces hfresh hsources hchunks (hchunkIds h.chunkIds)
    | archives sourceId source haction howned hsources hchunks => exact h.archives hsources hchunks

theorem run_catalogue {d : Deployment} {s : ChatState}
    (hrun : exec (ChatState.step d) {} history = some s) :
    Catalogue d.config history s.store := by
  have hall : AllSteps (fun _ label => label ∈ history) (ChatState.step d) {} history :=
    AllSteps.of_forall (fun _ hlabel _ => hlabel) _
  exact exec_invariant (fun _ _ _ h hin hstep => Catalogue.step h hin hstep) .initial hall hrun

private theorem CutFrom.ordinals {chunks : List KnowledgeChunk} {source : KnowledgeSource}
    {request : KnowledgeSourceCreateRequest} {chunkIds : Nat → UUID}
    (h : CutFrom config chunks source request chunkIds) :
    (chunksOf chunks source.id).map KnowledgeChunk.ordinal =
      List.range (chunksOf chunks source.id).length := by
  obtain ⟨pieces, hpieces, hrows⟩ := h.rows
  rw [hrows, List.map_map, List.length_map]
  exact chunkText_ordinals hpieces

/--
In every run each source keeps the fields of the request that created it and exactly the
chunks that `chunk_text` cuts from its text, whatever happens to the other rows; every chunk
belongs to a source of its own user; and no two chunks share a source and an ordinal, so that
`uq_knowledge_chunks_source_ordinal` is never violated.
-/
theorem sources_keep_their_chunks (d : Deployment) {labels : List ChatLabel} {s : ChatState}
    (hrun : exec (ChatState.step d) {} labels = some s) :
    Catalogue d.config labels s.store ∧
      (s.store.chunks.map fun chunk => (chunk.sourceId, chunk.ordinal)).Nodup := by
  have h := run_catalogue hrun
  refine ⟨h, nodup_pairs _ _ fun sourceId => ?_⟩
  by_cases hknown : sourceId ∈ s.store.sources.map KnowledgeSource.id
  · obtain ⟨source, hsource, rfl⟩ := List.mem_map.mp hknown
    obtain ⟨request, chunkIds, -, hcut⟩ := h.created source hsource
    have hordinals := hcut.ordinals
    unfold chunksOf at hordinals
    rw [hordinals]
    exact List.nodup_range
  · have hnone := h.chunksOf_fresh hknown
    unfold chunksOf at hnone
    rw [hnone]
    exact List.nodup_nil

def bridgeNote : List ChatLabel :=
  [.service 1
      (.createSource { name := "Lore", content := "The  silver bridge" } 30 fun n => 31 + n),
    .service 2 (.createSource { name := "Mine", content := "Another bridge" } 30 fun n => 41 + n),
    .service 1 (.archiveSource 30)]

theorem sources_keep_their_chunks_bridge :
    ∃ s, exec (ChatState.step defaultDeployment) {} bridgeNote = some s ∧
      s.store.sources.map KnowledgeSource.status = [.archived] ∧
      s.store.chunks.map KnowledgeChunk.content = ["The silver bridge"] ∧
      Catalogue defaultDeployment.config bridgeNote s.store ∧
      (s.store.chunks.map fun chunk => (chunk.sourceId, chunk.ordinal)).Nodup := by
  refine ⟨_, rfl, ?_, ?_, sources_keep_their_chunks defaultDeployment rfl⟩
  · decide +kernel
  · decide +kernel

end Steps

end Astra.Knowledge
