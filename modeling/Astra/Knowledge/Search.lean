import Astra.Foundation.Table
import Astra.Persistence.Rows
import Mathlib.Algebra.Order.Ring.Unbundled.Rat

/-!
# Searching the knowledge base

`SQLAlchemyKnowledgeRepository.search` behind `PostgresKeywordRetriever`.  Of
PostgreSQL's text search it is only known that the match and the rank of a chunk are
those of its content against the query.
-/

namespace Astra.Knowledge

open Astra.Foundation Astra.Platform Astra.Persistence

/-- `to_tsvector('simple', content) @@ websearch_to_tsquery('simple', query)`, and `ts_rank_cd`. -/
structure FullText where
  found : String → String → Bool
  rank : String → String → Rat

structure RetrievalQuery where
  userId : UUID
  query : String
  topK : Int := 5
  sourceIds : List UUID := []

def RetrievalQuery.valid (query : RetrievalQuery) : Bool :=
  1 ≤ query.query.length && query.query.length ≤ 4000 && 1 ≤ query.topK && query.topK ≤ 50

structure RetrievedChunk where
  sourceId : UUID
  chunkId : UUID
  content : String
  score : Rat
  metadata : Dict

def joinSources (chunks : List KnowledgeChunk) (sources : List KnowledgeSource) :
    List (KnowledgeChunk × KnowledgeSource) :=
  joinOn (fun chunk source => source.id == chunk.sourceId) chunks sources

def chunkSelected (text : FullText) (query : RetrievalQuery)
    (row : KnowledgeChunk × KnowledgeSource) : Bool :=
  row.1.userId == query.userId && row.2.status == .ready &&
    text.found row.1.content query.query &&
    (query.sourceIds.isEmpty || query.sourceIds.contains row.1.sourceId)

/-- `ORDER BY score DESC, ordinal`. -/
def bestFirst (text : FullText) (query : String) (a b : KnowledgeChunk × KnowledgeSource) : Prop :=
  text.rank b.1.content query < text.rank a.1.content query ∨
    (text.rank a.1.content query = text.rank b.1.content query ∧ a.1.ordinal ≤ b.1.ordinal)

instance (text : FullText) (query : String) : DecidableRel (bestFirst text query) :=
  fun _ _ => inferInstanceAs (Decidable (_ ∨ _))

def retrieved (text : FullText) (query : String) (chunk : KnowledgeChunk) : RetrievedChunk where
  sourceId := chunk.sourceId
  chunkId := chunk.id
  content := chunk.content
  score := max (text.rank chunk.content query) 0
  metadata := chunk.chunkMetadata

def searchKnowledge (text : FullText) (store : Store) (query : RetrievalQuery) :
    List RetrievedChunk :=
  (selectOrdered (chunkSelected text query) (bestFirst text query.query) query.topK.toNat
    (joinSources store.chunks store.sources)).map fun row => retrieved text query.query row.1

end Astra.Knowledge
