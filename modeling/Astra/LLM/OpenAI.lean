import Astra.Foundation.Fallible
import Astra.LLM.Json
import Astra.Platform.Words

/-!
# The OpenAI adapter

`llm/providers/openai.py` around the SDK: the parameters of a completion, the response
made of one, and what becomes of the argument texts of its tool calls.
-/

namespace Astra.LLM

open Astra.Foundation Astra.Platform

/-! ## What the SDK takes and gives -/

structure ToolCallParam where
  id : String
  name : String
  arguments : String

structure MessageParam where
  role : LLMMessageRole
  content : String
  name : Option String
  toolCallId : Option String
  toolCalls : List ToolCallParam

structure CompletionKwargs where
  model : String
  messages : List MessageParam
  stream : Bool
  tools : Option (List LLMToolDefinition)
  toolChoice : Option String
  maxCompletionTokens : Option Nat
  maxTokens : Option Nat
  temperature : Option Rat

structure FunctionToolCall where
  id : String
  name : String
  arguments : String

structure CompletionMessage where
  content : Option String
  toolCalls : Option (List FunctionToolCall)

structure Choice where
  message : CompletionMessage
  finishReason : Option String

structure CompletionUsage where
  promptTokens : Nat
  completionTokens : Nat
  totalTokens : Nat

structure ChatCompletion where
  id : String
  model : String
  choices : List Choice
  usage : Option CompletionUsage

inductive SdkError where
  | openai (message : Option String) (text : String)
  | other (e : Exn)

abbrev CreateCompletion := CompletionKwargs → Except SdkError ChatCompletion

/-! ## The adapter -/

def nonEmpty (text : Option String) : Option String := text.filter fun text => text ≠ ""

def toolCallParam (json : JsonModule) (call : LLMToolCall) : Except Exn ToolCallParam := do
  let arguments ← json.dumps (.obj call.arguments)
  .ok { id := call.id, name := call.name, arguments := arguments }

def messageParam (json : JsonModule) (message : LLMMessage) : Except Exn MessageParam := do
  let toolCalls ← message.toolCalls.mapM (toolCallParam json)
  .ok
    { role := message.role
      content := message.content
      name := nonEmpty message.name
      toolCallId := nonEmpty message.toolCallId
      toolCalls := toolCalls }

def buildMessages (json : JsonModule) (request : LLMRequest) : Except Exn (List MessageParam) :=
  request.messages.mapM (messageParam json)

def isReasoningModel (model : String) : Bool :=
  let normalized := model.toList.map Char.toLower
  ["gpt-5", "o1", "o3", "o4"].any fun family => family.toList.isPrefixOf normalized

def completionKwargs (request : LLMRequest) (model : String) (messages : List MessageParam)
    (stream : Bool) : CompletionKwargs where
  model := model
  messages := messages
  stream := stream
  tools := if request.tools.isEmpty then none else some request.tools
  toolChoice := nonEmpty request.toolChoice
  maxCompletionTokens := if isReasoningModel model then request.maxTokens else none
  maxTokens := if isReasoningModel model then none else request.maxTokens
  temperature := if isReasoningModel model then none else request.temperature

def providerError (model : String) (streaming : Bool) (message : Option String) (text : String) :
    Exn :=
  .app .llmProviderError
    (if streaming then "OpenAI streaming request failed." else "OpenAI request failed.") 502
    (.obj [("provider", .str "openai"), ("model", .str model),
      ("provider_message",
        .str (String.ofList ((collapse (orText message text)).toList.take 500)))])

/-- The arguments of a tool call, as `chat` decodes them. -/
def decodeArguments (json : JsonModule) (arguments : String) : Except Exn Json :=
  match json.loads (orText (some arguments) "\x7b\x7d") with
  | .ok value => .ok value
  | .error e =>
      if isJsonDecodeError e then .ok (.obj [("_raw", .str arguments)]) else .error e

def readToolCall (json : JsonModule) (item : FunctionToolCall) : Except Exn LLMToolCall := do
  let arguments ← decodeArguments json item.arguments
  LLMToolCall.validate item.id item.name arguments

def readUsage (usage : CompletionUsage) : LLMUsage where
  inputTokens := some usage.promptTokens
  outputTokens := some usage.completionTokens
  totalTokens := some usage.totalTokens

def readCompletion (json : JsonModule) (completion : ChatCompletion) : Except Exn LLMResponse :=
  match completion.choices with
  | [] => .error (.other "IndexError" "list index out of range")
  | choice :: _ => do
      let toolCalls ← (choice.message.toolCalls.getD []).mapM (readToolCall json)
      .ok
        { content := choice.message.content.getD ""
          model := completion.model
          provider := "openai"
          finishReason := choice.finishReason
          usage := completion.usage.map readUsage
          providerResponseId := some completion.id
          toolCalls := toolCalls }

def openAIChat (json : JsonModule) (create : CreateCompletion) (defaultModel : String)
    (request : LLMRequest) : Except Exn LLMResponse := do
  let model := orText request.model defaultModel
  let messages ← buildMessages json request
  match create (completionKwargs request model messages false) with
  | .error (.openai message text) => .error (providerError model false message text)
  | .error (.other e) => .error e
  | .ok completion => readCompletion json completion

/-! ## Argument texts -/

/-- The text is empty, a JSON object, or no JSON text at all. -/
def Readable (json : JsonModule) (arguments : String) : Prop :=
  arguments = "" ∨ (∃ fields, json.loads arguments = .ok (.obj fields)) ∨
    ∃ e, json.loads arguments = .error e ∧ isJsonDecodeError e = true

/-- The call that an adapter should make of a function call. -/
structure Decodes (json : JsonModule) (item : FunctionToolCall) (call : LLMToolCall) : Prop where
  id : call.id = item.id
  name : call.name = item.name
  empty : item.arguments = "" → call.arguments = []
  object : ∀ fields, json.loads item.arguments = .ok (.obj fields) → item.arguments ≠ "" →
    call.arguments = fields
  wrapped : (∀ fields, json.loads item.arguments ≠ .ok (.obj fields)) → item.arguments ≠ "" →
    ∃ key, call.arguments = [(key, .str item.arguments)]

section Arguments

variable {json : JsonModule} {item : FunctionToolCall} {call : LLMToolCall} {arguments : String}

theorem readToolCall_eq_ok : readToolCall json item = .ok call ↔
    ∃ fields, decodeArguments json item.arguments = .ok (.obj fields) ∧
      call = { id := item.id, name := item.name, arguments := fields } := by
  unfold readToolCall
  constructor
  · intro h
    obtain ⟨value, hvalue, h⟩ := bind_eq_ok h
    obtain ⟨fields, rfl, hcall⟩ := LLMToolCall.validate_eq_ok.mp h
    exact ⟨fields, hvalue, hcall⟩
  · rintro ⟨fields, hvalue, rfl⟩
    rw [hvalue]
    rfl

theorem decodeArguments_empty : decodeArguments json "" = .ok (.obj []) := by
  simp [decodeArguments, orText, json.loads_empty]

theorem decodeArguments_of_ne (h : arguments ≠ "") :
    decodeArguments json arguments =
      match json.loads arguments with
      | .ok value => .ok value
      | .error e =>
          if isJsonDecodeError e then .ok (.obj [("_raw", .str arguments)]) else .error e := by
  simp [decodeArguments, orText, h]

theorem readToolCall_isOk_iff :
    (∃ call, readToolCall json item = .ok call) ↔ Readable json item.arguments := by
  unfold Readable
  simp only [readToolCall_eq_ok]
  by_cases hempty : item.arguments = ""
  · rw [hempty, decodeArguments_empty]
    simp
  · rw [decodeArguments_of_ne hempty]
    cases hloads : json.loads item.arguments with
    | ok value => simp [hempty]
    | error e => cases hdecode : isJsonDecodeError e <;> simp [hempty, hdecode]

private theorem readToolCall_decodes (h : readToolCall json item = .ok call) :
    Decodes json item call := by
  obtain ⟨fields, hfields, rfl⟩ := readToolCall_eq_ok.mp h
  refine ⟨rfl, rfl, ?_, ?_, ?_⟩
  · intro hempty
    rw [hempty, decodeArguments_empty] at hfields
    cases hfields
    rfl
  · intro fields' hloads hne
    rw [decodeArguments_of_ne hne, hloads] at hfields
    cases hfields
    rfl
  · intro hloads hne
    rw [decodeArguments_of_ne hne] at hfields
    split at hfields
    · rename_i value hvalue
      cases hfields
      exact absurd hvalue (hloads fields)
    · split_ifs at hfields
      cases hfields
      exact ⟨"_raw", rfl⟩

private theorem toolCallParam_readToolCall (h : readToolCall json item = .ok call) :
    ∃ param, toolCallParam json call = .ok param := by
  obtain ⟨fields, hfields, rfl⟩ := readToolCall_eq_ok.mp h
  have hdumps : ∃ dumped, json.dumps (.obj fields) = .ok dumped := by
    unfold decodeArguments at hfields
    split at hfields
    · cases hfields
      exact json.dumps_loaded _ _ ‹_›
    · split_ifs at hfields
      cases hfields
      exact json.dumps_text _ _
  obtain ⟨dumped, hdumped⟩ := hdumps
  unfold toolCallParam
  rw [hdumped]
  exact ⟨_, rfl⟩

end Arguments

/-! ## Completions -/

/-- A response with the calls of a completion, which every later request can send again. -/
def ChatDecodes (json : JsonModule) (items : List FunctionToolCall)
    (result : Except Exn LLMResponse) : Prop :=
  ∃ response, result = .ok response ∧ List.Forall₂ (Decodes json) items response.toolCalls ∧
    ∀ request : LLMRequest,
      (∀ m ∈ request.messages, ∀ call ∈ m.toolCalls, call ∈ response.toolCalls) →
        ∃ messages, buildMessages json request = .ok messages

section Completions

variable {json : JsonModule} {items : List FunctionToolCall} {calls : List LLMToolCall}

private theorem buildMessages_isOk {request : LLMRequest}
    (h : ∀ m ∈ request.messages, ∀ call ∈ m.toolCalls,
      ∃ param, toolCallParam json call = .ok param) :
    ∃ messages, buildMessages json request = .ok messages := by
  unfold buildMessages
  rw [mapM_isOk_iff]
  intro m hm
  obtain ⟨params, hparams⟩ := mapM_isOk_iff.mpr (h m hm)
  unfold messageParam
  rw [hparams]
  exact ⟨_, rfl⟩

private theorem readToolCalls_sendable (h : items.mapM (readToolCall json) = .ok calls) :
    ∀ call ∈ calls, ∃ param, toolCallParam json call = .ok param := by
  rw [mapM_eq_ok] at h
  induction h with
  | nil => simp
  | cons hcall _ ih => exact List.forall_mem_cons.mpr ⟨toolCallParam_readToolCall hcall, ih⟩

theorem readCompletion_decodes_iff {completion : ChatCompletion} {choice : Choice}
    {others : List Choice} (hchoice : completion.choices = choice :: others)
    (hitems : choice.message.toolCalls.getD [] = items) :
    ChatDecodes json items (readCompletion json completion) ↔
      ∀ item ∈ items, Readable json item.arguments := by
  simp only [← readToolCall_isOk_iff]
  rw [← mapM_isOk_iff]
  unfold ChatDecodes readCompletion
  rw [hchoice]
  simp only [hitems]
  constructor
  · rintro ⟨response, hresponse, -⟩
    obtain ⟨calls, hcalls, -⟩ := bind_eq_ok hresponse
    exact ⟨calls, hcalls⟩
  · rintro ⟨calls, hcalls⟩
    rw [hcalls]
    refine ⟨_, rfl, ?_, fun request hrequest => buildMessages_isOk fun m hm call hcall => ?_⟩
    · exact (mapM_eq_ok.mp hcalls).imp fun _ _ => readToolCall_decodes
    · exact readToolCalls_sendable hcalls call (hrequest m hm call hcall)

end Completions

/--
For a completion with any tool calls, `chat` returns them with decoded arguments exactly
when each argument text is empty, a JSON object or no JSON text; `LLMToolCall` takes
objects only.
-/
theorem openAIChat_decodes_iff (json : JsonModule) {create : CreateCompletion}
    {defaultModel : String} {request : LLMRequest} {messages : List MessageParam}
    {completion : ChatCompletion} {choice : Choice} {others : List Choice}
    (hmessages : buildMessages json request = .ok messages)
    (hcreate :
      create (completionKwargs request (orText request.model defaultModel) messages false) =
      .ok completion)
    (hchoice : completion.choices = choice :: others) :
    (ChatDecodes json (choice.message.toolCalls.getD [])
        (openAIChat json create defaultModel request) ↔
      ∀ item ∈ choice.message.toolCalls.getD [], Readable json item.arguments) ∧
      ∀ id name value, (∃ call, LLMToolCall.validate id name value = .ok call) ↔
        ∃ fields, value = .obj fields := by
  constructor
  · have hchat : openAIChat json create defaultModel request = readCompletion json completion := by
      unfold openAIChat
      rw [hmessages]
      show (match create _ with
        | .error (.openai _ _) => _ | .error (.other _) => _ | .ok _ => _) = _
      rw [hcreate]
    rw [hchat]
    exact readCompletion_decodes_iff hchoice rfl
  · intro id name value
    simp only [LLMToolCall.validate_eq_ok]
    exact ⟨fun ⟨_, fields, hfields, _⟩ => ⟨fields, hfields⟩, fun ⟨fields, hfields⟩ =>
      ⟨_, fields, hfields, rfl⟩⟩

/-! ## Two completions -/

def harborArguments : String := "\x7b\"query\": \"Astra Harbor\"\x7d"

def harborJson : JsonModule :=
  .table [(harborArguments, .obj [("query", .str "Astra Harbor")]), ("[1]", .arr [.int 1])]

def loreRequest : LLMRequest where
  messages := [{ role := .user, content := "Where is the harbor?" }]

def searchCall (arguments : String) : FunctionToolCall where
  id := "call-1"
  name := "search_lore"
  arguments := arguments

def searchChoice (arguments : List String) : Choice where
  message := { content := none, toolCalls := some (arguments.map searchCall) }
  finishReason := some "tool_calls"

def searchCompletion (arguments : List String) : ChatCompletion where
  id := "chatcmpl-1"
  model := "gpt-5"
  choices := [searchChoice arguments]
  usage := none

theorem openAIChat_decodes_harbor :
    ChatDecodes harborJson ([harborArguments, "", "the harbor"].map searchCall)
      (openAIChat harborJson (fun _ => .ok (searchCompletion [harborArguments, "", "the harbor"]))
        "gpt-5" loreRequest) := by
  have hmessages : buildMessages harborJson loreRequest =
      .ok [{ role := .user, content := "Where is the harbor?", name := none, toolCallId := none,
             toolCalls := [] }] := rfl
  have hchoice : (searchCompletion [harborArguments, "", "the harbor"]).choices =
      searchChoice [harborArguments, "", "the harbor"] :: [] := rfl
  refine (openAIChat_decodes_iff harborJson hmessages rfl hchoice).1.mpr ?_
  intro item hitem
  obtain ⟨arguments, harguments, rfl⟩ := List.mem_map.mp hitem
  simp only [List.mem_cons, List.not_mem_nil, or_false] at harguments
  obtain rfl | rfl | rfl := harguments
  · exact .inr (.inl ⟨_, rfl⟩)
  · exact .inl rfl
  · exact .inr (.inr ⟨_, rfl, rfl⟩)

/-- A JSON text that is no object passes the decoder and fails the contract. -/
theorem openAIChat_rejects_array :
    harborJson.loads "[1]" = .ok (.arr [.int 1]) ∧
      openAIChat harborJson (fun _ => .ok (searchCompletion ["[1]"])) "gpt-5" loreRequest =
        .error (validationError "LLMToolCall") ∧
      ¬ ChatDecodes harborJson (["[1]"].map searchCall)
        (openAIChat harborJson (fun _ => .ok (searchCompletion ["[1]"])) "gpt-5" loreRequest) := by
  refine ⟨rfl, rfl, ?_⟩
  rintro ⟨response, hresponse, -⟩
  cases hresponse

end Astra.LLM
