import Astra.Chat.Context
import Astra.Services.Conversations

/-!
# Preparing an exchange

`ChatApplicationService._prepare_exchange` as one transaction on the store.  The
two inserted ids and the clock reading are arguments; an id that is already taken
violates the primary key at the flush.  An exception leaves the rows of the
conversation and of its messages as they were.
-/

namespace Astra.Chat

open Astra.Foundation Astra.Platform Astra.Persistence Astra.LLM Astra.Services

inductive ChatExecutionMode where
  | direct
  | agent
  deriving DecidableEq, Repr

def ChatExecutionMode.value : ChatExecutionMode → String
  | .direct => "direct"
  | .agent => "agent"

structure MessageSendRequest where
  content : String
  clientMessageId : UUID
  temperature : Option Rat := none
  maxTokens : Option Nat := none
  executionMode : ChatExecutionMode := .direct
  agentAllowedTools : Option (List String) := none

abbrev MessageResponse := Message

structure PreparedExchange where
  conversationId : UUID
  provider : String
  llmRequest : LLMRequest
  userMessage : MessageResponse
  assistantMessage : MessageResponse
  needsGeneration : Bool
  reused : Bool

structure Generated where
  userMessageId : UUID
  assistantMessageId : UUID
  now : Timestamp

/-! ## The message rows of the exchange -/

def openStatus (streaming : Bool) : MessageStatus := if streaming then .streaming else .pending

def newUserMessage (gen : Generated) (conversationId : UUID) (request : MessageSendRequest) :
    Message where
  id := gen.userMessageId
  conversationId := conversationId
  parentMessageId := none
  clientMessageId := some request.clientMessageId
  role := .user
  content := request.content
  contentType := .markdown
  status := .completed
  providerMessageId := none
  tokenUsage := none
  messageMetadata := []
  createdAt := gen.now
  updatedAt := gen.now

def newAssistantMessage (gen : Generated) (conversationId userMessageId : UUID)
    (streaming : Bool) : Message where
  id := gen.assistantMessageId
  conversationId := conversationId
  parentMessageId := some userMessageId
  clientMessageId := none
  role := .assistant
  content := ""
  contentType := .markdown
  status := openStatus streaming
  providerMessageId := none
  tokenUsage := none
  messageMetadata := []
  createdAt := gen.now + 1
  updatedAt := gen.now + 1

def resetForRetry (streaming : Bool) (now : Timestamp) (m : Message) : Message :=
  { m with
    content := ""
    status := openStatus streaming
    providerMessageId := none
    tokenUsage := none
    messageMetadata := []
    updatedAt := now }

/-- The row belongs to the partial unique index on `client_message_id`. -/
def hasClientId (conversationId : UUID) (clientMessageId : Option UUID) (m : Message) : Bool :=
  clientMessageId.isSome && m.conversationId == conversationId &&
    m.clientMessageId == clientMessageId

def addMessage (m : Message) (rows : List Message) : Except Exn (List Message) :=
  if rows.any (hasClientId m.conversationId m.clientMessageId) then .error integrityError
  else addRow Message.id m rows

def getByClientMessageId (rows : List Message) (conversationId clientMessageId : UUID) :
    Except Exn (Option Message) :=
  scalarOneOrNone (rows.filter (hasClientId conversationId (some clientMessageId)))

def isReplyTo (userMessageId : UUID) (m : Message) : Bool :=
  m.parentMessageId == some userMessageId && m.role == .assistant

def getAssistantReply (rows : List Message) (userMessageId : UUID) :
    Except Exn (Option Message) :=
  scalarOneOrNone (rows.filter (isReplyTo userMessageId))

def updateMessage (id : UUID) (change : Message → Message) (rows : List Message) :
    List Message :=
  updateWhere (fun m => m.id == id) change rows

structure Exchange where
  userMessage : Message
  assistantMessage : Message
  reused : Bool
  needsGeneration : Bool
  rows : List Message

def requestInProgress : Exn :=
  conflictException "This message is already being processed." .chatRequestInProgress

/-- The branch on the stored reply of a known user message. -/
def reuseExchange (rows : List Message) (conversationId : UUID) (userMessage : Message)
    (streaming : Bool) (gen : Generated) : Except Exn Exchange := do
  match ← getAssistantReply rows userMessage.id with
  | none =>
      let assistant := newAssistantMessage gen conversationId userMessage.id streaming
      let rows ← addMessage assistant rows
      .ok ⟨userMessage, assistant, true, true, rows⟩
  | some assistant =>
      match assistant.status with
      | .completed => .ok ⟨userMessage, assistant, true, false, rows⟩
      | .pending | .streaming => .error requestInProgress
      | .failed =>
          let assistant' := resetForRetry streaming gen.now assistant
          .ok ⟨userMessage, assistant', true, true,
            updateMessage assistant.id (resetForRetry streaming gen.now) rows⟩

/-- The message part of `_prepare_exchange`, up to the flush. -/
def locateExchange (rows : List Message) (conversationId : UUID)
    (request : MessageSendRequest) (streaming : Bool) (gen : Generated) :
    Except Exn Exchange := do
  match ← getByClientMessageId rows conversationId request.clientMessageId with
  | none =>
      let user := newUserMessage gen conversationId request
      let assistant := newAssistantMessage gen conversationId user.id streaming
      let rows ← addMessage user rows
      let rows ← addMessage assistant rows
      .ok ⟨user, assistant, false, true, rows⟩
  | some user => reuseExchange rows conversationId user streaming gen

/-! ## The prepared exchange -/

def deriveTitle (content : String) : String :=
  let collapsed := " ".intercalate (splitWords content)
  if collapsed.length ≤ 72 then collapsed
  else rstrip (String.ofList (collapsed.toList.take 69)) ++ "..."

def optUuid (py : PyRuntime) : Option UUID → Json
  | none => .null
  | some id => .str (py.uuidText id)

def requestMetadata (py : PyRuntime) (conversation : Conversation)
    (userMessage assistantMessage : Message) (request : MessageSendRequest)
    (memoryIds : List UUID) : Dict :=
  [("user_id", .str (py.uuidText conversation.userId)),
    ("conversation_id", .str (py.uuidText conversation.id)),
    ("user_message_id", .str (py.uuidText userMessage.id)),
    ("assistant_message_id", .str (py.uuidText assistantMessage.id)),
    ("character_id", optUuid py conversation.characterId),
    ("persona_id", optUuid py conversation.personaId),
    ("memory_ids", .arr (memoryIds.map fun id => .str (py.uuidText id))),
    ("execution_mode", .str request.executionMode.value),
    ("agent_allowed_tools",
      match request.agentAllowedTools with
      | none => .null
      | some names => .arr (names.map .str))]

def buildPreparedFromContext (py : PyRuntime) (config : AppConfig) (conversation : Conversation)
    (userMessage assistantMessage : Message) (request : MessageSendRequest)
    (messages : List LLMMessage) (memoryIds : List UUID) (needsGeneration reused : Bool) :
    Except Exn PreparedExchange :=
  if needsGeneration && messages.isEmpty then
    .error (runtimeError "Context assembler returned no messages for generation.")
  else
    .ok
      { conversationId := conversation.id
        provider := orDefault conversation.provider config.defaultLlmProvider
        llmRequest :=
          { messages :=
              if messages.isEmpty then [{ role := .user, content := userMessage.content }]
              else messages
            model := some (orDefault conversation.model config.defaultLlmModel)
            temperature := some (request.temperature.getD config.chatDefaultTemperature)
            maxTokens := some (request.maxTokens.getD config.chatDefaultMaxTokens)
            metadata :=
              requestMetadata py conversation userMessage assistantMessage request memoryIds }
        userMessage := userMessage
        assistantMessage := assistantMessage
        needsGeneration := needsGeneration
        reused := reused }

def messageTooLong (config : AppConfig) : Exn :=
  validationException ("Message exceeds " ++ toString config.chatMaxMessageLength ++ " characters.")

def openConversation (request : MessageSendRequest) (now : Timestamp) (c : Conversation) :
    Conversation :=
  { c with
    title := some (c.title.getD (deriveTitle request.content))
    lastMessageAt := some now
    updatedAt := now }

/-- `ChatApplicationService._prepare_exchange`. -/
def prepareExchange (py : PyRuntime) (config : AppConfig) (store : Store)
    (userId conversationId : UUID) (request : MessageSendRequest) (streaming : Bool)
    (gen : Generated) : Except Exn PreparedExchange × Store :=
  if config.chatMaxMessageLength < request.content.length then
    (.error (messageTooLong config), store)
  else
    match getOwnedConversation store.conversations conversationId userId with
    | none => (.error conversationNotFound, store)
    | some conversation =>
        match locateExchange store.messages conversationId request streaming gen with
        | .error e => (.error e, store)
        | .ok exchange =>
            if exchange.needsGeneration then
              let opened := openConversation request gen.now conversation
              let history :=
                listContext exchange.rows conversationId config.chatContextMessageLimit
              let assembled := assemble py config store userId opened history gen.now
              -- The assembler has committed its own transaction by now.
              let store := { store with memories := assembled.2 }
              match buildPreparedFromContext py config opened exchange.userMessage
                  exchange.assistantMessage request assembled.1.messages assembled.1.memoryIds
                  true exchange.reused with
              | .error e => (.error e, store)
              | .ok prepared =>
                  (.ok prepared,
                    { store with
                      conversations :=
                        updateConversationRow conversationId (openConversation request gen.now)
                          store.conversations
                      messages := exchange.rows })
            else
              -- `_build_reused_prepared`; the unit of work is closed without a commit.
              (buildPreparedFromContext py config conversation exchange.userMessage
                exchange.assistantMessage request [] [] false true, store)

end Astra.Chat
