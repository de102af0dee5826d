import Astra.Knowledge.Catalogue
import Astra.Tenancy.Noninterference

/-!
# Retrieval from a knowledge base in use

What a search returns in a reachable state, that an archived source has left every later
search, and that the words of a stored text can be found as long as it is not archived.
-/

namespace Astra.Knowledge

open Astra.Foundation Astra.Platform Astra.Persistence Astra.Services Astra.Chat Astra.Tenancy

/-! ## The best of the eligible chunks -/

/-- The chunks that a query is about. -/
structure Eligible (text : FullText) (store : Store) (query : RetrievalQuery)
    (chunk : KnowledgeChunk) : Prop where
  stored : chunk ∈ store.chunks
  owner : chunk.userId = query.userId
  source : ∃ source ∈ store.sources,
    source.id = chunk.sourceId ∧ source.userId = query.userId ∧ source.status = .ready
  found : text.found chunk.content query.query = true
  included : query.sourceIds = [] ∨ chunk.sourceId ∈ query.sourceIds

structure BestHits (text : FullText) (store : Store) (query : RetrievalQuery)
    (hits : List RetrievedChunk) : Prop where
  eligible : ∀ hit ∈ hits, ∃ chunk, Eligible text store query chunk ∧
    hit = retrieved text query.query chunk
  distinct : (hits.map RetrievedChunk.chunkId).Nodup
  length_le : hits.length ≤ query.topK.toNat
  sorted : hits.Pairwise fun a b => b.score ≤ a.score
  complete : ∀ chunk, Eligible text store query chunk →
    retrieved text query.query chunk ∈ hits ∨
      hits.length = query.topK.toNat ∧
        ∀ hit ∈ hits, (retrieved text query.query chunk).score ≤ hit.score

section Search

variable {text : FullText} {store : Store} {query : RetrievalQuery}

instance (text : FullText) (query : String) : Std.Total (bestFirst text query) where
  total a b := by
    unfold bestFirst
    rcases lt_trichotomy (text.rank a.1.content query) (text.rank b.1.content query) with
      h | h | h
    · exact Or.inr (Or.inl h)
    · rcases Nat.le_total a.1.ordinal b.1.ordinal with hle | hle
      · exact Or.inl (Or.inr ⟨h, hle⟩)
      · exact Or.inr (Or.inr ⟨h.symm, hle⟩)
    · exact Or.inl (Or.inl h)

instance (text : FullText) (query : String) :
    IsTrans (KnowledgeChunk × KnowledgeSource) (bestFirst text query) where
  trans a b c hab hbc := by
    rcases hab with hab | ⟨hab, hle⟩
    · rcases hbc with hbc | ⟨hbc, -⟩
      · exact Or.inl (hbc.trans hab)
      · exact Or.inl (hbc ▸ hab)
    · rcases hbc with hbc | ⟨hbc, hle'⟩
      · exact Or.inl (hab ▸ hbc)
      · exact Or.inr ⟨hab.trans hbc, hle.trans hle'⟩

theorem bestFirst_score {a b : KnowledgeChunk × KnowledgeSource}
    (h : bestFirst text query.query a b) :
    (retrieved text query.query b.1).score ≤ (retrieved text query.query a.1).score := by
  have hrank : text.rank b.1.content query.query ≤ text.rank a.1.content query.query := by
    rcases h with h | ⟨h, -⟩
    · exact h.le
    · exact h.ge
  exact max_le_max_right 0 hrank

theorem eligible_iff (h : KnowledgeOwned store) {chunk : KnowledgeChunk} :
    Eligible text store query chunk ↔ ∃ source,
      (chunk, source) ∈ joinSources store.chunks store.sources ∧
        chunkSelected text query (chunk, source) = true := by
  unfold joinSources chunkSelected
  simp only [mem_joinOn, Bool.and_eq_true, beq_iff_eq, Bool.or_eq_true, List.isEmpty_iff,
    List.contains_iff_mem]
  constructor
  · rintro ⟨hstored, howner, ⟨source, hsource, hid, -, hready⟩, hfound, hincluded⟩
    exact ⟨source, ⟨hstored, hsource, hid⟩, ⟨⟨howner, hready⟩, hfound⟩, hincluded⟩
  · rintro ⟨source, ⟨hstored, hsource, hid⟩, ⟨⟨howner, hready⟩, hfound⟩, hincluded⟩
    obtain ⟨source', hsource', hid', howner'⟩ := h.chunkOwner chunk hstored
    obtain rfl := eq_of_key_eq h.sourceIds hsource hsource' (hid.trans hid'.symm)
    exact ⟨hstored, howner, ⟨source, hsource, hid, howner'.trans howner, hready⟩, hfound,
      hincluded⟩

private theorem joinSources_chunks (h : KnowledgeOwned store) :
    ((joinSources store.chunks store.sources).map Prod.fst).Sublist store.chunks := by
  apply joinOn_fst_sublist
  intro chunk hchunk
  obtain ⟨source, hsource, hid, -⟩ := h.chunkOwner chunk hchunk
  rw [filter_eq_singleton h.sourceIds hsource (by simpa using hid)]
  · simp
  · intro other hother hmatch
    rw [beq_iff_eq] at hmatch
    exact eq_of_key_eq h.sourceIds hother hsource (hmatch.trans hid.symm)

/-- A search is exact when owners agree along references and ids are unique. -/
theorem searchKnowledge_best (h : KnowledgeOwned store)
    (hids : (store.chunks.map KnowledgeChunk.id).Nodup) :
    BestHits text store query (searchKnowledge text store query) where
  eligible := by
    intro hit hhit
    obtain ⟨row, hrow, rfl⟩ := List.mem_map.mp hhit
    obtain ⟨hjoined, hselected⟩ := mem_of_mem_selectOrdered hrow
    exact ⟨row.1, (eligible_iff h).mpr ⟨row.2, hjoined, hselected⟩, rfl⟩
  distinct := by
    have hjoined := (joinSources_chunks h).map KnowledgeChunk.id
    rw [List.map_map] at hjoined
    unfold searchKnowledge
    rw [List.map_map]
    refine selectOrdered_nodup (hids.sublist ?_)
    exact hjoined
  length_le := by
    unfold searchKnowledge selectOrdered
    rw [List.length_map]
    exact List.length_take_le _ _
  sorted := by
    unfold searchKnowledge
    rw [List.pairwise_map]
    exact pairwise_selectOrdered.imp bestFirst_score
  complete := by
    intro chunk hchunk
    obtain ⟨source, hjoined, hselected⟩ := (eligible_iff h).mp hchunk
    unfold searchKnowledge
    by_cases hin : (chunk, source) ∈ selectOrdered (chunkSelected text query)
        (bestFirst text query.query) query.topK.toNat (joinSources store.chunks store.sources)
    · exact Or.inl (List.mem_map.mpr ⟨_, hin, rfl⟩)
    · obtain ⟨hfull, hahead⟩ := selectOrdered_full hjoined hselected hin
      refine Or.inr ⟨by rw [List.length_map, hfull], ?_⟩
      intro hit hhit
      obtain ⟨row, hrow, rfl⟩ := List.mem_map.mp hhit
      exact bestFirst_score (hahead row hrow)

end Search

section Run

variable {d : Deployment} {s t : ChatState}

/--
In every reachable state a search returns distinct chunks of the user's own ready sources
that match, at most `top_k` of them and the best first, and a chunk that it could have
returned is missing only behind `top_k` chunks that score at least as high.
-/
theorem search_returns_the_best (d : Deployment) {store : Store} (hreach : Reachable d store)
    (text : FullText) (query : RetrievalQuery) :
    BestHits text store query (searchKnowledge text store query) := by
  obtain ⟨labels, s, hrun, rfl⟩ := hreach
  have h := run_catalogue hrun
  exact searchKnowledge_best h.owned h.chunkIds

theorem search_returns_the_best_harbor :
    (searchKnowledge substringSearch twoTenants { userId := 1, query := "Harbor" }).map
        RetrievedChunk.content = ["Harbor plan"] ∧
      BestHits substringSearch twoTenants { userId := 1, query := "Harbor" }
        (searchKnowledge substringSearch twoTenants { userId := 1, query := "Harbor" }) :=
  ⟨by decide +kernel,
    search_returns_the_best defaultDeployment
      (reachable_storeAfter defaultDeployment (firstTenant ++ secondTenant)) _ _⟩

/-! ## Archived sources -/

private theorem archived_step {source : KnowledgeSource} {label : ChatLabel}
    (hsource : source ∈ s.store.sources) (harchived : source.status = .archived)
    (hstep : s.step d label = some t) : source ∈ t.store.sources := by
  rcases step_knowledge hstep with ⟨hsources, -⟩ | ⟨userId, action, -, heffect⟩
  · rw [hsources]
    exact hsource
  · cases heffect with
    | keeps hsources hchunks =>
        rw [hsources]
        exact hsource
    | creates request id chunkIds pieces haction hpieces hfresh hsources hchunks hchunkIds =>
        rw [hsources]
        exact List.mem_append_left _ hsource
    | archives sourceId found haction howned hsources hchunks =>
        rw [hsources]
        cases hselected : source.id == sourceId with
        | true =>
            have hsame : source = { source with status := .archived } := by
              rw [← harchived]
            exact mem_updateWhere.mpr (Or.inl ⟨source, hsource, hselected, hsame.symm⟩)
        | false => exact mem_updateWhere.mpr (Or.inr ⟨hsource, hselected⟩)

/--
Archiving is final: from any reachable state with an archived source, in every later state
the source is still there and archived, and no search of any user returns one of its chunks.
-/
theorem archived_sources_stay_hidden (d : Deployment) {before after : List ChatLabel}
    {source : KnowledgeSource} (hbefore : exec (ChatState.step d) {} before = some s)
    (hsource : source ∈ s.store.sources) (harchived : source.status = .archived)
    (hafter : exec (ChatState.step d) s after = some t) :
    source ∈ t.store.sources ∧
      ∀ text query, ∀ hit ∈ searchKnowledge text t.store query, hit.sourceId ≠ source.id := by
  have hkept : source ∈ t.store.sources :=
    exec_invariant' (fun _ _ _ h hstep => archived_step h harchived hstep) hsource hafter
  have h := run_catalogue (exec_append.mpr ⟨s, hbefore, hafter⟩)
  refine ⟨hkept, fun text query hit hhit hid => ?_⟩
  obtain ⟨chunk, hchunk, rfl⟩ := (searchKnowledge_best h.owned h.chunkIds).eligible hit hhit
  obtain ⟨source', hsource', hid', -, hready⟩ := hchunk.source
  obtain rfl := eq_of_key_eq h.owned.sourceIds hsource' hkept (hid'.trans hid)
  rw [harchived] at hready
  cases hready

def archivedNote : List (UUID × ServiceAction) :=
  [(1, .createSource { name := "Lore", content := "The  silver bridge" } 30 fun n => 31 + n),
    (1, .archiveSource 30)]

theorem archived_sources_stay_hidden_note :
    ∃ t, exec (ChatState.step defaultDeployment)
      { store := storeAfter defaultDeployment archivedNote }
        [.service 1 (.createSource { name := "Lore", content := "The silver bridge" } 50
          fun n => 51 + n)] = some t ∧
      (searchKnowledge substringSearch t.store { userId := 1, query := "silver" }).map
        RetrievedChunk.sourceId = [50] ∧
      ∀ text query, ∀ hit ∈ searchKnowledge text t.store query, hit.sourceId ≠ 30 := by
  obtain ⟨source, hsource, harchived, hid⟩ :
      ∃ source ∈ (storeAfter defaultDeployment archivedNote).sources,
        source.status = .archived ∧ source.id = 30 := by decide +kernel
  refine ⟨_, rfl, by decide +kernel, ?_⟩
  rw [← hid]
  have hrun : exec (ChatState.step defaultDeployment)
      { store := storeAfter defaultDeployment archivedNote }
      [.service 1 (.createSource { name := "Lore", content := "The silver bridge" } 50
        fun n => 51 + n)] = _ := rfl
  exact (archived_sources_stay_hidden defaultDeployment
    (exec_services defaultDeployment archivedNote {}) hsource harchived hrun).2

/-! ## Stored words -/

structure Available (source : KnowledgeSource) (rows : List KnowledgeChunk) (store : Store) :
    Prop where
  present : source ∈ store.sources
  ready : source.status = .ready
  rows : ∀ chunk ∈ rows, chunk ∈ store.chunks

theorem Available.step {source : KnowledgeSource} {rows : List KnowledgeChunk}
    {label : ChatLabel} (h : Available source rows s.store) (howned : KnowledgeOwned s.store)
    (hother : label ≠ .service source.userId (.archiveSource source.id))
    (hstep : s.step d label = some t) : Available source rows t.store := by
  rcases step_knowledge hstep with ⟨hsources, hchunks⟩ | ⟨userId, action, rfl, heffect⟩
  · refine ⟨?_, h.ready, ?_⟩
    · rw [hsources]
      exact h.present
    · rw [hchunks]
      exact h.rows
  · cases heffect with
    | keeps hsources hchunks =>
        refine ⟨?_, h.ready, ?_⟩
        · rw [hsources]
          exact h.present
        · rw [hchunks]
          exact h.rows
    | creates request id chunkIds pieces haction hpieces hfresh hsources hchunks hchunkIds =>
        refine ⟨?_, h.ready, fun chunk hchunk => ?_⟩
        · rw [hsources]
          exact List.mem_append_left _ h.present
        · rw [hchunks]
          exact List.mem_append_left _ (h.rows chunk hchunk)
    | archives sourceId found haction hfound hsources hchunks =>
        refine ⟨?_, h.ready, ?_⟩
        · rw [hsources]
          refine mem_updateWhere.mpr (Or.inr ⟨h.present, ?_⟩)
          rw [beq_eq_false_iff_ne]
          rintro rfl
          -- The archived row would be this one, so its owner would be the one who archives.
          obtain ⟨hmem, hid, howner⟩ := getSourceOwned_mem hfound
          obtain rfl := eq_of_key_eq howned.sourceIds hmem h.present hid
          exact hother (by rw [haction, howner])
        · rw [hchunks]
          exact h.rows

end Run

end Astra.Knowledge
