import Astra.Chat.Requests
import Astra.Chat.Sse
import Astra.Platform.JsonText

/-!
# Responses and events as JSON

`model_dump(mode="json")` of the response schemas, the frames of the event iterator, the
envelope of `ApiResponse` and what `global_exception_handler` answers.
-/

namespace Astra.Persistence

def MessageStatus.value : MessageStatus → String
  | .pending => "pending"
  | .streaming => "streaming"
  | .completed => "completed"
  | .failed => "failed"

def MessageContentType.value : MessageContentType → String
  | .text => "text"
  | .markdown => "markdown"

end Astra.Persistence

namespace Astra.Chat

open Astra.Platform Astra.Persistence

/-- The Python runtime with the texts that `mode="json"` gives to clock readings and floats. -/
structure WireRuntime extends PyRuntime where
  floats : FloatText
  isoText : Timestamp → String

/-! ## The printer -/

def compactJson (floats : FloatText) : JsonDumps where
  dumps data := compactDumps floats (.obj data)
  no_lf data hc := by
    rw [compactDumps, String.toList_ofList] at hc
    exact absurd (plain_dumpsChars _ _ hc) (by decide)
  no_cr data hc := by
    rw [compactDumps, String.toList_ofList] at hc
    exact absurd (plain_dumpsChars _ _ hc) (by decide)
  opens data := by
    rw [compactDumps, String.toList_ofList]
    cases data <;> exact ⟨_, rfl⟩

variable (rt : WireRuntime)

/-! ## Response schemas -/

def dumpId (id : Option UUID) : Json := optStr (id.map rt.uuidText)

def dumpTime (timestamp : Option Timestamp) : Json := optStr (timestamp.map rt.isoText)

def dumpDict : Option Dict → Json
  | none => .null
  | some fields => .obj fields

def messageDump (m : MessageResponse) : Dict :=
  [("id", .str (rt.uuidText m.id)), ("conversation_id", .str (rt.uuidText m.conversationId)),
    ("parent_message_id", dumpId rt m.parentMessageId),
    ("client_message_id", dumpId rt m.clientMessageId), ("role", .str m.role.value),
    ("content", .str m.content), ("content_type", .str m.contentType.value),
    ("status", .str m.status.value), ("provider_message_id", optStr m.providerMessageId),
    ("token_usage", dumpDict m.tokenUsage), ("metadata", .obj m.messageMetadata),
    ("created_at", .str (rt.isoText m.createdAt)), ("updated_at", .str (rt.isoText m.updatedAt))]

def conversationDump (c : Conversation) : Dict :=
  [("id", .str (rt.uuidText c.id)), ("title", optStr c.title), ("provider", optStr c.provider),
    ("model", optStr c.model), ("system_prompt", optStr c.systemPrompt),
    ("character_id", dumpId rt c.characterId), ("persona_id", dumpId rt c.personaId),
    ("metadata", .obj c.conversationMetadata), ("last_message_at", dumpTime rt c.lastMessageAt),
    ("archived_at", dumpTime rt c.archivedAt), ("created_at", .str (rt.isoText c.createdAt)),
    ("updated_at", .str (rt.isoText c.updatedAt))]

def pageDump (items : List Dict) (nextCursor : Option String) : Dict :=
  [("items", .arr (items.map .obj)), ("next_cursor", optStr nextCursor)]

/-! ## Stream events -/

def startedDump (userMessage assistantMessage : MessageResponse) (reused : Bool) : Dict :=
  [("user_message", .obj (messageDump rt userMessage)),
    ("assistant_message", .obj (messageDump rt assistantMessage)), ("reused", .bool reused)]

def deltaDump (messageId : UUID) (delta : String) : Dict :=
  [("message_id", .str (rt.uuidText messageId)), ("delta", .str delta)]

def completedDump (message : MessageResponse) : Dict := [("message", .obj (messageDump rt message))]

def streamErrorDump (messageId : UUID) (code message : String) (details : Json) : Dict :=
  [("message_id", .str (rt.uuidText messageId)), ("code", .str code), ("message", .str message),
    ("details", details)]

/-- The piece of text that `_stream_events` yields. -/
def ChatEvent.frame : ChatEvent → ServerFrame
  | .created userMessage assistantMessage reused =>
      .event .messageCreated (startedDump rt userMessage assistantMessage reused)
  | .keepAlive => .keepAlive
  | .delta messageId text => .event .messageDelta (deltaDump rt messageId text)
  | .completed message => .event .messageCompleted (completedDump rt message)
  | .error messageId code message details =>
      .event .error (streamErrorDump rt messageId code message details)

/-! ## Replies -/

def okBody (data : Json) : Dict := [("success", .bool true), ("data", data), ("error", .null)]

def failBody (code message : String) (details : Json) : Dict :=
  [("success", .bool false), ("data", .null),
    ("error", .obj [("code", .str code), ("message", .str message), ("details", details)])]

structure JsonReply where
  statusCode : Nat
  headers : List (String × String) := []
  content : Dict

/-- The `ctx` of an error: the values of a constraint, or the exception of a validator. -/
inductive ErrorContext where
  | values (fields : Dict)
  | raised (message : String)

structure ErrorDetails where
  type : String
  loc : List Json
  msg : String
  input : Json
  ctx : Option ErrorContext := none

def serializationError : Exn :=
  .other "PydanticSerializationError" "Unable to serialize unknown type: <class 'ValueError'>"

/-- `jsonable_encoder`, which has no JSON for an exception. -/
def ErrorDetails.encode (e : ErrorDetails) : Except Exn Json :=
  let fields : Dict :=
    [("type", .str e.type), ("loc", .arr e.loc), ("msg", .str e.msg), ("input", e.input)]
  match e.ctx with
  | none => .ok (.obj fields)
  | some (.values ctx) => .ok (.obj (fields ++ [("ctx", .obj ctx)]))
  | some (.raised _) => .error serializationError

/-- What reaches `global_exception_handler`. -/
inductive HandlerExn where
  | raised (e : Exn)
  | validation (errors : List ErrorDetails)
  | http (statusCode : Nat) (detail : String) (headers : List (String × String))

def internalErrorReply : JsonReply where
  statusCode := 500
  content := failBody ErrorCode.internalError.value "An unexpected error occurred." .null

def globalExceptionHandler : HandlerExn → Except Exn JsonReply
  | .raised (.app code message statusCode details) =>
      .ok
        { statusCode
          headers := if statusCode = 401 then [("WWW-Authenticate", "Bearer")] else []
          content := failBody code.value message details }
  | .raised _ => .ok internalErrorReply
  | .validation errors => do
      let details ← errors.mapM ErrorDetails.encode
      .ok
        { statusCode := 422
          content := failBody ErrorCode.validationError.value "Request validation failed."
            (.arr details) }
  | .http statusCode detail headers =>
      .ok
        { statusCode, headers
          content := failBody
            (if statusCode = 404 then ErrorCode.notFound.value else ErrorCode.internalError.value)
            detail .null }

/-- The reply of the application; what the handler raises comes back to it as an `Exception`. -/
def exceptionReply (e : HandlerExn) : JsonReply :=
  match globalExceptionHandler e with
  | .ok reply => reply
  | .error _ => internalErrorReply

def JsonReply.body (floats : FloatText) (reply : JsonReply) : String :=
  compactDumps floats (.obj reply.content)

end Astra.Chat
