import Astra.Chat.Context
import Astra.Knowledge.Search
import Astra.Tools.Registry

/-!
# The search tools

`tools/builtins`: `search_conversation` and `search_knowledge`, each as its
`definition` and as what `execute` computes from the store.
-/

namespace Astra.Tools

open Astra.Platform Astra.Persistence Astra.Knowledge Astra.Chat

def querySchema (properties : Dict) : Dict :=
  [("type", .str "object"),
    ("properties",
      .obj (("query", .obj [("type", .str "string"), ("minLength", .int 1)]) :: properties)),
    ("required", .arr [.str "query"]),
    ("additionalProperties", .bool false)]

def queryArgument (py : PyRuntime) (arguments : Dict) : String :=
  match arguments.get? "query" with
  | none => ""
  | some value => if value.truthy then strip (py.str value) else ""

def queryRequired : Exn := valueError "query is required"

/-! ## search_conversation -/

def searchConversationDefinition : ToolDefinition where
  name := "search_conversation"
  description := "Search recent messages in the active conversation."
  inputSchema := querySchema []

def conversationResult (content : String) (data : Dict) : ToolExecutionResult where
  toolName := "search_conversation"
  content := content
  data := data

def renderMatches (items : List Message) : String :=
  "\n".intercalate ((items.drop (items.length - 20)).map fun item =>
    item.role.value ++ ": " ++ item.content)

def searchConversation (py : PyRuntime) (store : Store) (arguments : Dict)
    (context : ToolContext) : Except Exn ToolExecutionResult :=
  match context.conversationId with
  | none => .ok (conversationResult "No active conversation was supplied." [])
  | some conversationId =>
      let query := py.casefold (queryArgument py arguments)
      if query = "" then .error queryRequired
      else
        match getOwnedConversation store.conversations conversationId context.userId with
        | none => .ok (conversationResult "The conversation is unavailable." [])
        | some _ =>
            let found := (listContext store.messages conversationId 200).filter fun item =>
              containsText query (py.casefold item.content)
            let content := renderMatches found
            .ok (conversationResult
              (if content = "" then "No matching conversation messages were found." else content)
              [("match_count", .int found.length)])

/-! ## search_knowledge -/

def searchKnowledgeDefinition : ToolDefinition where
  name := "search_knowledge"
  description := "Search the current user's Astra knowledge base for relevant passages."
  inputSchema := querySchema
    [("top_k", .obj [("type", .str "integer"), ("minimum", .int 1), ("maximum", .int 20)])]

def intFailure : Json → Exn
  | .null | .arr _ | .obj _ => .other "TypeError" "int() argument must be a string or a number"
  | _ => valueError "invalid literal for int()"

def topKArgument (py : PyRuntime) (arguments : Dict) : Except Exn Int :=
  let value := (arguments.get? "top_k").getD (.int 5)
  match py.int? value with
  | none => .error (intFailure value)
  | some n => .ok (min (max n 1) 20)

def hitDump (py : PyRuntime) (hit : RetrievedChunk) : Json :=
  .obj
    [("source_id", .str (py.uuidText hit.sourceId)),
      ("chunk_id", .str (py.uuidText hit.chunkId)),
      ("content", .str hit.content),
      ("score", .float hit.score),
      ("metadata", .obj hit.metadata)]

def renderHits (hits : List RetrievedChunk) : String :=
  "\n\n".intercalate ((hits.zipIdx 1).map fun hit =>
    "[" ++ toString hit.2 ++ "] " ++ hit.1.content)

def retrievalQuery (py : PyRuntime) (arguments : Dict) (context : ToolContext) :
    Except Exn RetrievalQuery :=
  let text := queryArgument py arguments
  if text = "" then .error queryRequired
  else
    match topKArgument py arguments with
    | .error e => .error e
    | .ok topK =>
        let query : RetrievalQuery := { userId := context.userId, query := text, topK := topK }
        if query.valid then .ok query
        else .error (.other "ValidationError" "1 validation error for RetrievalQuery")

def knowledgeResult (py : PyRuntime) (hits : List RetrievedChunk) : ToolExecutionResult where
  toolName := "search_knowledge"
  content :=
    if renderHits hits = "" then "No matching knowledge was found." else renderHits hits
  data := [("hits", .arr (hits.map (hitDump py)))]

def searchKnowledgeBase (py : PyRuntime) (text : FullText) (store : Store) (arguments : Dict)
    (context : ToolContext) : Except Exn ToolExecutionResult := do
  let query ← retrievalQuery py arguments context
  return knowledgeResult py (searchKnowledge text store query)

theorem retrievalQuery_userId {py : PyRuntime} {arguments : Dict} {context : ToolContext}
    {query : RetrievalQuery} (h : retrievalQuery py arguments context = .ok query) :
    query.userId = context.userId := by
  unfold retrievalQuery at h
  simp only [] at h
  split_ifs at h with hempty
  split at h
  · cases h
  · split_ifs at h with hvalid
    cases h
    rfl

end Astra.Tools
