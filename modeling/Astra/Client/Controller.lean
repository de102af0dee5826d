import Astra.Chat.Heartbeats
import Astra.Client.Text

/-!
# The chat controller of the client

`ChatMessage`, the stream events as the client reads them, and `_applyEvent` of
`ChatController` with its `_upsertAll`.
-/

namespace Astra.Client

open Astra.Foundation Astra.Platform Astra.Persistence Astra.Chat

/-! ## Data -/

structure ChatMessage where
  id : String
  conversationId : String
  parentMessageId : Option String
  clientMessageId : Option String
  role : MessageRole
  content : String
  status : MessageStatus
  metadata : Dict
  createdAt : Timestamp
  updatedAt : Timestamp

/-- `ChatMessage.fromJson` of a serialised `MessageResponse`. -/
def ChatMessage.ofResponse (py : PyRuntime) (m : MessageResponse) : ChatMessage where
  id := py.uuidText m.id
  conversationId := py.uuidText m.conversationId
  parentMessageId := m.parentMessageId.map py.uuidText
  clientMessageId := m.clientMessageId.map py.uuidText
  role := m.role
  content := m.content
  status := m.status
  metadata := m.messageMetadata
  createdAt := m.createdAt
  updatedAt := m.updatedAt

structure AppException where
  code : String
  message : String
  details : Json

inductive ChatStreamEvent where
  | started (userMessage assistantMessage : ChatMessage) (reused : Bool)
  | delta (messageId : String) (text : String)
  | completed (message : ChatMessage)
  | failed (messageId : String) (error : AppException)

/-- `_mapFrame` of what the server has encoded; a comment frame is no event. -/
def ChatStreamEvent.ofServer (py : PyRuntime) : ChatEvent → Option ChatStreamEvent
  | .created userMessage assistantMessage reused =>
      some (.started (.ofResponse py userMessage) (.ofResponse py assistantMessage) reused)
  | .keepAlive => none
  | .delta messageId text => some (.delta (py.uuidText messageId) text)
  | .completed message => some (.completed (.ofResponse py message))
  | .error messageId code message details =>
      some (.failed (py.uuidText messageId) { code, message, details })

structure ChatState where
  messages : List ChatMessage
  nextCursor : Option String := none
  isLoadingOlder : Bool := false
  isSending : Bool := false
  executionMode : ChatExecutionMode := .direct
  streamError : Option AppException := none

/-! ## Operations -/

def compareText (left right : String) : Int :=
  if left = right then 0
  else if (utf16 left).map UInt16.toNat < (utf16 right).map UInt16.toNat then -1
  else 1

def compareMessages (left right : ChatMessage) : Int :=
  if left.createdAt < right.createdAt then -1
  else if right.createdAt < left.createdAt then 1
  else if right.parentMessageId = some left.id then -1
  else if left.parentMessageId = some right.id then 1
  else compareText left.id right.id

/--
`List.sort`.  The comparison above is no total order on messages of one time, so that
nothing is said about the order of the result.
-/
structure DartSort where
  sort : (ChatMessage → ChatMessage → Int) → List ChatMessage → List ChatMessage
  perm : ∀ compare messages, (sort compare messages).Perm messages

/-- The entries of the map in insertion order; `byId[item.id] = item` keeps a present place. -/
def byId (entries items : List ChatMessage) : List ChatMessage :=
  items.foldl (fun entries item => putRow ChatMessage.id item entries) entries

def upsertAll (dart : DartSort) (current incoming : List ChatMessage) : List ChatMessage :=
  dart.sort compareMessages (byId (byId [] current) incoming)

def changeMessage (id : String) (change : ChatMessage → ChatMessage) (messages : List ChatMessage) :
    List ChatMessage :=
  messages.map fun message => if message.id = id then change message else message

def appendDelta (text : String) (message : ChatMessage) : ChatMessage :=
  { message with content := message.content ++ text, status := .streaming }

def markFailed (message : ChatMessage) : ChatMessage := { message with status := .failed }

def ChatState.applyEvent (dart : DartSort) (current : ChatState) : ChatStreamEvent → ChatState
  | .started userMessage assistantMessage _ =>
      { current with messages := upsertAll dart current.messages [userMessage, assistantMessage] }
  | .delta messageId text =>
      { current with messages := changeMessage messageId (appendDelta text) current.messages }
  | .completed message =>
      { current with messages := upsertAll dart current.messages [message] }
  | .failed messageId error =>
      { current with
        messages := changeMessage messageId markFailed current.messages
        streamError := some error }

def ChatState.beginSend (current : ChatState) : ChatState :=
  { current with isSending := true, streamError := none }

def ChatState.receive (py : PyRuntime) (dart : DartSort) (current : ChatState)
    (events : List ChatEvent) : ChatState :=
  (events.filterMap (ChatStreamEvent.ofServer py)).foldl (ChatState.applyEvent dart) current

end Astra.Client
