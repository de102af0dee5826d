import Astra.Client.ConversationList
import Astra.Client.Envelope
import Astra.Client.LoadOlder
import Astra.Client.SseDecoder

/-!
# Chat data over the wire

`ChatRemoteDataSource`: the entities that it reads from JSON objects, `_mapFrame`, and the
loop of `streamMessage` over the chunks of a response.
-/

namespace Astra.Client

open Astra.Foundation Astra.Platform Astra.Persistence Astra.Chat

variable (rt : ClientRuntime)

/-! ## Entities -/

def requiredText (json : Dict) (key : String) : Except DartError String :=
  match json.get? key with
  | some (.str value) => .ok value
  | other => .error (.type (rt.castError other))

def optionalText (json : Dict) (key : String) : Except DartError (Option String) :=
  match json.get? key with
  | none | some .null => .ok none
  | some (.str value) => .ok (some value)
  | other => .error (.type (rt.castError other))

def requiredDate (json : Dict) (key : String) : Except DartError Timestamp := do
  let value ← requiredText rt json key
  match rt.parseDate value with
  | some timestamp => .ok timestamp
  | none => .error (.format "Invalid date format")

def requiredName {α : Type} (values : List α) (name : α → String) (json : Dict) (key : String) :
    Except DartError α := do
  let value ← requiredText rt json key
  match values.find? fun entry => name entry = value with
  | some entry => .ok entry
  | none => .error (.argument value)

def roles : List MessageRole := [.system, .user, .assistant, .tool]

def statuses : List MessageStatus := [.pending, .streaming, .completed, .failed]

def ChatMessage.fromJson (json : Dict) : Except DartError ChatMessage := do
  let id ← requiredText rt json "id"
  let conversationId ← requiredText rt json "conversation_id"
  let parentMessageId ← optionalText rt json "parent_message_id"
  let clientMessageId ← optionalText rt json "client_message_id"
  let role ← requiredName rt roles MessageRole.value json "role"
  let content ← optionalText rt json "content"
  let status ← requiredName rt statuses MessageStatus.value json "status"
  let metadata :=
    match json.get? "metadata" with
    | some (.obj fields) => fields
    | _ => []
  let createdAt ← requiredDate rt json "created_at"
  let updatedAt ← requiredDate rt json "updated_at"
  .ok { id, conversationId, parentMessageId, clientMessageId, role, status, metadata, createdAt
        updatedAt, content := content.getD "" }

def optionalDate (json : Dict) (key : String) : Option Timestamp :=
  match json.get? key with
  | some (.str value) => rt.parseDate value
  | _ => none

def Conversation.fromJson (json : Dict) : Except DartError Conversation := do
  let id ← requiredText rt json "id"
  let title ← optionalText rt json "title"
  let provider ← optionalText rt json "provider"
  let model ← optionalText rt json "model"
  let systemPrompt ← optionalText rt json "system_prompt"
  let characterId ← optionalText rt json "character_id"
  let personaId ← optionalText rt json "persona_id"
  let lastMessageAt := optionalDate rt json "last_message_at"
  let createdAt ← requiredDate rt json "created_at"
  let updatedAt ← requiredDate rt json "updated_at"
  .ok { id, title, systemPrompt, characterId, personaId, lastMessageAt, createdAt, updatedAt
        provider := provider.getD "ollama", model := model.getD "roleplay-engine" }

def mapOf : Option Json → Except DartError Dict
  | some (.obj fields) => .ok fields
  | _ => .error (.format "Expected a JSON object.")

/-! ## The event stream -/

def decodeData (text : DartString) : Except DartError Dict :=
  match jsonDecode rt.floats text with
  | none => .error (.format (rt.jsonError text))
  | some (.obj data) => .ok data
  | some _ => .error (.format "Streaming event must contain a JSON object.")

def mapMessage (data : Dict) (key : String) : Except DartError ChatMessage := do
  let fields ← mapOf (data.get? key)
  ChatMessage.fromJson rt fields

def isReused (data : Dict) : Bool :=
  match data.get? "reused" with
  | some (.bool reused) => reused
  | _ => false

def mapFrame (frame : SseFrame) : Except DartError ChatStreamEvent := do
  let data ← decodeData rt frame.data
  if frame.event = utf16 "message.created" then
    let userMessage ← mapMessage rt data "user_message"
    let assistantMessage ← mapMessage rt data "assistant_message"
    .ok (.started userMessage assistantMessage (isReused data))
  else if frame.event = utf16 "message.delta" then
    let messageId ← requiredText rt data "message_id"
    let delta ← requiredText rt data "delta"
    .ok (.delta messageId delta)
  else if frame.event = utf16 "message.completed" then
    let message ← mapMessage rt data "message"
    .ok (.completed message)
  else if frame.event = utf16 "error" then
    let messageId ← requiredText rt data "message_id"
    let code ← optionalText rt data "code"
    let message ← optionalText rt data "message"
    .ok (.failed messageId
      { code := code.getD "CHAT_STREAM_FAILED"
        message := message.getD "Phản hồi AI đã bị gián đoạn."
        details := (data.get? "details").getD .null })
  else .error (.format ("Unknown SSE event: " ++ String.ofList (ofCodeUnits frame.event)))

def mapFrames : List SseFrame → List ChatStreamEvent × Option DartError
  | [] => ([], none)
  | frame :: frames =>
      match mapFrame rt frame with
      | .error e => ([], some e)
      | .ok event => (event :: (mapFrames frames).1, (mapFrames frames).2)

/--
The loop of `streamMessage` over what `utf8.decoder` makes of the body: the events that it
yields, and what it throws.  The body is done or ends in an error, which may be one of the
connection or a sequence that is broken off.
-/
def readStream (ending : Option DartError) (decoder : SseDecoder) :
    List DartString → List ChatStreamEvent × Option DartError
  | [] => ([], ending)
  | chunk :: chunks =>
      let now := decoder.add chunk
      match mapFrames rt now.2 with
      | (events, some e) => (events, some e)
      | (events, none) =>
          let later := readStream ending now.1 chunks
          (events ++ later.1, later.2)

/-- The `on` clauses of the requests. -/
def caught : DartError → DartError
  | .dio e => .app (e.map rt)
  | .format message | .type message =>
      .app { code := "INVALID_SERVER_RESPONSE"
             message := "Dữ liệu Chat từ máy chủ không hợp lệ.", details := .str message }
  | other => other

def streamMessage (chunks : List DartString) (ending : Option DartError) :
    List ChatStreamEvent × Option DartError :=
  ((readStream rt ending {} chunks).1, (readStream rt ending {} chunks).2.map (caught rt))

/-! ## Pages -/

def readItems {α : Type} (data : Dict) (parser : Dict → Except DartError α) :
    Except DartError (List α) :=
  match data.get? "items" with
  | some (.arr rawItems) => rawItems.mapM fun item => (mapOf (some item)).bind parser
  | _ => .error (.format "Missing paginated items.")

def readConversationPage (body : Option Json) : Except DartError ConversationPageData := do
  let data ← ApiEnvelope.requireDataMap rt body
  let items ← readItems data (Conversation.fromJson rt)
  let nextCursor ← optionalText rt data "next_cursor"
  .ok { items, nextCursor }

def readMessagePage (body : Option Json) : Except DartError MessagePageData := do
  let data ← ApiEnvelope.requireDataMap rt body
  let items ← readItems data (ChatMessage.fromJson rt)
  let nextCursor ← optionalText rt data "next_cursor"
  .ok { items, nextCursor }

def Conversation.ofResponse (c : Persistence.Conversation) : Conversation where
  id := rt.uuidText c.id
  title := c.title
  provider := c.provider.getD "ollama"
  model := c.model.getD "roleplay-engine"
  systemPrompt := c.systemPrompt
  characterId := c.characterId.map rt.uuidText
  personaId := c.personaId.map rt.uuidText
  lastMessageAt := c.lastMessageAt
  createdAt := c.createdAt
  updatedAt := c.updatedAt

/-! ## Entities come back -/

section Entities

variable {rt : ClientRuntime}

theorem requiredText_of_get {json : Dict} {key value : String}
    (h : json.get? key = some (.str value)) : requiredText rt json key = .ok value := by
  simp only [requiredText, h]

theorem optionalText_of_get {json : Dict} {key : String} {value : Option String}
    (h : json.get? key = some (optStr value)) : optionalText rt json key = .ok value := by
  cases value <;> simp only [optionalText, h, optStr]

theorem requiredDate_of_get {json : Dict} {key : String} {timestamp : Timestamp}
    (h : json.get? key = some (.str (rt.isoText timestamp))) :
    requiredDate rt json key = .ok timestamp := by
  simp only [requiredDate, requiredText_of_get h, bind, Except.bind, rt.parseDate_isoText]

theorem requiredName_of_get {α : Type} {values : List α} {name : α → String} {json : Dict}
    {key : String} {value : α} (h : json.get? key = some (.str (name value)))
    (hname : values.find? (fun entry => name entry = name value) = some value) :
    requiredName rt values name json key = .ok value := by
  simp only [requiredName, requiredText_of_get h, bind, Except.bind, hname]

private theorem find?_role (role : MessageRole) :
    roles.find? (fun entry => entry.value = role.value) = some role := by
  cases role <;> decide

private theorem find?_status (status : MessageStatus) :
    statuses.find? (fun entry => entry.value = status.value) = some status := by
  cases status <;> decide

theorem fromJson_messageDump (m : MessageResponse) :
    ChatMessage.fromJson rt (messageDump rt.toWireRuntime m) =
      .ok (.ofResponse rt.toPyRuntime m) := by
  have hid : requiredText rt (messageDump rt.toWireRuntime m) "id" = .ok _ :=
    requiredText_of_get rfl
  have hconversation : requiredText rt (messageDump rt.toWireRuntime m) "conversation_id" = .ok _ :=
    requiredText_of_get rfl
  have hparent : optionalText rt (messageDump rt.toWireRuntime m) "parent_message_id" = .ok _ :=
    optionalText_of_get rfl
  have hclient : optionalText rt (messageDump rt.toWireRuntime m) "client_message_id" = .ok _ :=
    optionalText_of_get rfl
  have hrole : requiredName rt roles MessageRole.value (messageDump rt.toWireRuntime m) "role" =
      .ok m.role := requiredName_of_get rfl (find?_role m.role)
  have hcontent : optionalText rt (messageDump rt.toWireRuntime m) "content" =
      .ok (some m.content) := optionalText_of_get rfl
  have hstatus : requiredName rt statuses MessageStatus.value
      (messageDump rt.toWireRuntime m) "status" = .ok m.status :=
    requiredName_of_get rfl (find?_status m.status)
  have hmetadata : Dict.get? (messageDump rt.toWireRuntime m) "metadata" =
      some (.obj m.messageMetadata) := rfl
  have hcreated : requiredDate rt (messageDump rt.toWireRuntime m) "created_at" = .ok m.createdAt :=
    requiredDate_of_get rfl
  have hupdated : requiredDate rt (messageDump rt.toWireRuntime m) "updated_at" = .ok m.updatedAt :=
    requiredDate_of_get rfl
  simp only [ChatMessage.fromJson, hid, hconversation, hparent, hclient, hrole, hcontent, hstatus,
    hmetadata, hcreated, hupdated, bind, Except.bind]
  rfl

theorem optionalDate_of_get {json : Dict} {key : String} {timestamp : Option Timestamp}
    (h : json.get? key = some (dumpTime rt.toWireRuntime timestamp)) :
    optionalDate rt json key = timestamp := by
  cases timestamp with
  | none => simp only [optionalDate, h, dumpTime, Option.map_none, optStr]
  | some timestamp =>
      simp only [optionalDate, h, dumpTime, Option.map_some, optStr, rt.parseDate_isoText]

theorem fromJson_conversationDump (c : Persistence.Conversation) :
    Conversation.fromJson rt (conversationDump rt.toWireRuntime c) = .ok (.ofResponse rt c) := by
  have hid : requiredText rt (conversationDump rt.toWireRuntime c) "id" = .ok _ :=
    requiredText_of_get rfl
  have htitle : optionalText rt (conversationDump rt.toWireRuntime c) "title" = .ok _ :=
    optionalText_of_get rfl
  have hprovider : optionalText rt (conversationDump rt.toWireRuntime c) "provider" = .ok _ :=
    optionalText_of_get rfl
  have hmodel : optionalText rt (conversationDump rt.toWireRuntime c) "model" = .ok _ :=
    optionalText_of_get rfl
  have hprompt : optionalText rt (conversationDump rt.toWireRuntime c) "system_prompt" = .ok _ :=
    optionalText_of_get rfl
  have hcharacter : optionalText rt (conversationDump rt.toWireRuntime c) "character_id" = .ok _ :=
    optionalText_of_get rfl
  have hpersona : optionalText rt (conversationDump rt.toWireRuntime c) "persona_id" = .ok _ :=
    optionalText_of_get rfl
  have hlast : optionalDate rt (conversationDump rt.toWireRuntime c) "last_message_at" =
      c.lastMessageAt := optionalDate_of_get rfl
  have hcreated : requiredDate rt (conversationDump rt.toWireRuntime c) "created_at" =
      .ok c.createdAt := requiredDate_of_get rfl
  have hupdated : requiredDate rt (conversationDump rt.toWireRuntime c) "updated_at" =
      .ok c.updatedAt := requiredDate_of_get rfl
  simp only [Conversation.fromJson, hid, htitle, hprovider, hmodel, hprompt, hcharacter, hpersona,
    hlast, hcreated, hupdated, bind, Except.bind]
  rfl

end Entities

/-! ## Portable data -/

section PortableData

variable {rt : WireRuntime}

theorem portable_optStr (value : Option String) : Portable rt.floats (optStr value) := by
  cases value
  · exact .null
  · exact .str _

/-- The JSON columns of a row hold nothing that the client represents otherwise. -/
structure PortableMessage (floats : FloatText) (m : MessageResponse) : Prop where
  metadata : Portable floats (.obj m.messageMetadata)
  usage : ∀ usage ∈ m.tokenUsage, Portable floats (.obj usage)

def PortableEvent (floats : FloatText) : ChatEvent → Prop
  | .created userMessage assistantMessage _ =>
      PortableMessage floats userMessage ∧ PortableMessage floats assistantMessage
  | .completed message => PortableMessage floats message
  | .error _ _ _ details => Portable floats details
  | .keepAlive | .delta .. => True

theorem portable_messageDump {m : MessageResponse} (h : PortableMessage rt.floats m) :
    Portable rt.floats (.obj (messageDump rt m)) := by
  have husage : Portable rt.floats (dumpDict m.tokenUsage) := by
    cases husage : m.tokenUsage with
    | none => exact .null
    | some usage => exact h.usage usage husage
  refine .obj _ (show List.Nodup ["id", "conversation_id", "parent_message_id",
    "client_message_id", "role", "content", "content_type", "status", "provider_message_id",
    "token_usage", "metadata", "created_at", "updated_at"] by decide) ?_
  simp only [messageDump, List.forall_mem_cons, List.not_mem_nil, false_imp_iff, implies_true,
    and_true]
  exact ⟨.str _, .str _, portable_optStr _, portable_optStr _, .str _, .str _, .str _, .str _,
    portable_optStr _, husage, h.metadata, .str _, .str _⟩

theorem portable_conversationDump {c : Persistence.Conversation}
    (h : Portable rt.floats (.obj c.conversationMetadata)) :
    Portable rt.floats (.obj (conversationDump rt c)) := by
  refine .obj _ (show List.Nodup ["id", "title", "provider", "model", "system_prompt",
    "character_id", "persona_id", "metadata", "last_message_at", "archived_at", "created_at",
    "updated_at"] by decide) ?_
  simp only [conversationDump, List.forall_mem_cons, List.not_mem_nil, false_imp_iff, implies_true,
    and_true]
  exact ⟨.str _, portable_optStr _, portable_optStr _, portable_optStr _, portable_optStr _,
    portable_optStr _, portable_optStr _, h, portable_optStr _, portable_optStr _, .str _, .str _⟩

private theorem portable_startedDump {userMessage assistantMessage : MessageResponse}
    (huser : PortableMessage rt.floats userMessage)
    (hassistant : PortableMessage rt.floats assistantMessage) (reused : Bool) :
    Portable rt.floats (.obj (startedDump rt userMessage assistantMessage reused)) := by
  refine .obj _ (show ["user_message", "assistant_message", "reused"].Nodup by decide) ?_
  simp only [startedDump, List.forall_mem_cons, List.not_mem_nil, false_imp_iff, implies_true,
    and_true]
  exact ⟨portable_messageDump huser, portable_messageDump hassistant, .bool _⟩

private theorem portable_deltaDump (messageId : UUID) (delta : String) :
    Portable rt.floats (.obj (deltaDump rt messageId delta)) := by
  refine .obj _ (show ["message_id", "delta"].Nodup by decide) ?_
  simp only [deltaDump, List.forall_mem_cons, List.not_mem_nil, false_imp_iff, implies_true,
    and_true]
  exact ⟨.str _, .str _⟩

private theorem portable_completedDump {message : MessageResponse}
    (h : PortableMessage rt.floats message) :
    Portable rt.floats (.obj (completedDump rt message)) := by
  refine .obj _ (show ["message"].Nodup by decide) ?_
  simp only [completedDump, List.forall_mem_cons, List.not_mem_nil, false_imp_iff, implies_true,
    and_true]
  exact portable_messageDump h

private theorem portable_streamErrorDump {details : Json} (h : Portable rt.floats details)
    (messageId : UUID) (code message : String) :
    Portable rt.floats (.obj (streamErrorDump rt messageId code message details)) := by
  refine .obj _ (show ["message_id", "code", "message", "details"].Nodup by decide) ?_
  simp only [streamErrorDump, List.forall_mem_cons, List.not_mem_nil, false_imp_iff, implies_true,
    and_true]
  exact ⟨.str _, .str _, .str _, h⟩

end PortableData

/-! ## The events that arrive -/

section Stream

variable {rt : ClientRuntime}

private theorem mapFrames_append (before after : List SseFrame) :
    mapFrames rt (before ++ after) =
      match mapFrames rt before with
      | (events, some e) => (events, some e)
      | (events, none) => (events ++ (mapFrames rt after).1, (mapFrames rt after).2) := by
  induction before with
  | nil => rfl
  | cons frame before ih =>
      rw [List.cons_append, mapFrames, mapFrames]
      cases mapFrame rt frame with
      | error e => rfl
      | ok event =>
          rw [ih]
          rcases mapFrames rt before with ⟨events, _ | e⟩ <;> rfl

private theorem readStream_eq (ending : Option DartError) (decoder : SseDecoder)
    (chunks : List DartString) :
    readStream rt ending decoder chunks =
      match mapFrames rt (decoder.addAll chunks).2 with
      | (events, some e) => (events, some e)
      | (events, none) => (events, ending) := by
  induction chunks generalizing decoder with
  | nil => rfl
  | cons chunk chunks ih =>
      rw [SseDecoder.addAll, mapFrames_append, readStream]
      rcases mapFrames rt (decoder.add chunk).2 with ⟨events, _ | e⟩
      · simp only [ih]
        rcases mapFrames rt ((decoder.add chunk).1.addAll chunks).2 with ⟨later, _ | e⟩
        · rfl
        · rfl
      · rfl

theorem mapMessage_dump {data : Dict} {key : String} {m : MessageResponse}
    (h : data.get? key = some (.obj (messageDump rt.toWireRuntime m))) :
    mapMessage rt data key = .ok (.ofResponse rt.toPyRuntime m) := by
  simp only [mapMessage, h, mapOf, bind, Except.bind, fromJson_messageDump]

theorem decodeData_dumps {data : Dict} (h : Portable rt.floats (.obj data)) :
    decodeData rt (utf16 ((compactJson rt.floats).dumps data)) = .ok data := by
  have hdecode : jsonDecode rt.floats (utf16 ((compactJson rt.floats).dumps data)) =
      some (.obj data) := jsonDecode_compactDumps h
  simp only [decodeData, hdecode]

def eventFrame (rt : ClientRuntime) (e : ChatEvent) : Option SseFrame :=
  decoded (compactJson rt.floats) (e.frame rt.toWireRuntime)

/-- The frame of an event is mapped to what the client should see of it. -/
theorem mapFrame_event {e : ChatEvent} (h : PortableEvent rt.floats e) {frame : SseFrame}
    (hframe : eventFrame rt e = some frame) :
    ∃ event, ChatStreamEvent.ofServer rt.toPyRuntime e = some event ∧
      mapFrame rt frame = .ok event := by
  cases e with
  | created userMessage assistantMessage reused =>
      obtain rfl := Option.some.inj hframe
      have huser : mapMessage rt (startedDump rt.toWireRuntime userMessage assistantMessage reused)
          "user_message" = .ok _ := mapMessage_dump rfl
      have hassistant : mapMessage rt
          (startedDump rt.toWireRuntime userMessage assistantMessage reused)
          "assistant_message" = .ok _ := mapMessage_dump rfl
      refine ⟨_, rfl, ?_⟩
      rw [mapFrame, decodeData_dumps (portable_startedDump h.1 h.2 reused)]
      simp only [bind, Except.bind, huser, hassistant]
      rfl
  | keepAlive => cases hframe
  | delta messageId text =>
      obtain rfl := Option.some.inj hframe
      refine ⟨_, rfl, ?_⟩
      rw [mapFrame, decodeData_dumps (portable_deltaDump messageId text)]
      rfl
  | completed message =>
      obtain rfl := Option.some.inj hframe
      have hmessage : mapMessage rt (completedDump rt.toWireRuntime message) "message" = .ok _ :=
        mapMessage_dump rfl
      refine ⟨_, rfl, ?_⟩
      rw [mapFrame, decodeData_dumps (portable_completedDump h)]
      simp only [bind, Except.bind, hmessage]
      rfl
  | error messageId code message details =>
      obtain rfl := Option.some.inj hframe
      refine ⟨_, rfl, ?_⟩
      rw [mapFrame, decodeData_dumps (portable_streamErrorDump h messageId code message)]
      rfl

private theorem mapFrames_events {events : List ChatEvent}
    (h : ∀ e ∈ events, PortableEvent rt.floats e) :
    mapFrames rt (events.filterMap (eventFrame rt)) =
      (events.filterMap (ChatStreamEvent.ofServer rt.toPyRuntime), none) := by
  induction events with
  | nil => rfl
  | cons e events ih =>
      obtain ⟨he, hevents⟩ := List.forall_mem_cons.mp h
      cases hframe : eventFrame rt e with
      | none =>
          have hcomment : ChatStreamEvent.ofServer rt.toPyRuntime e = none := by
            cases e <;> first | rfl | cases hframe
          rw [List.filterMap_cons_none hframe, List.filterMap_cons_none hcomment, ih hevents]
      | some frame =>
          obtain ⟨event, hevent, hmap⟩ := mapFrame_event he hframe
          rw [List.filterMap_cons_some hframe, List.filterMap_cons_some hevent]
          simp only [mapFrames, hmap, ih hevents]

end Stream

/--
However the text of a stream is cut, and wherever it ends, the client yields exactly the
events whose text has arrived whole, as the server has meant them, and throws nothing but
the error that it ends in.
-/
theorem streamed_events_arrive (rt : ClientRuntime) {events : List ChatEvent}
    (hportable : ∀ e ∈ events, PortableEvent rt.floats e) {chunks : List DartString}
    (hchunks : chunks.flatten <+: streamText (compactJson rt.floats)
      (events.map (ChatEvent.frame rt.toWireRuntime))) (ending : Option DartError) :
    ∃ arrived tail, arrived <+: events ∧
      chunks.flatten = streamText (compactJson rt.floats)
        (arrived.map (ChatEvent.frame rt.toWireRuntime)) ++ tail ∧
      cutAt blankLine.text tail = none ∧
      streamMessage rt chunks ending =
        (arrived.filterMap (ChatStreamEvent.ofServer rt.toPyRuntime), ending.map (caught rt)) := by
  have hplain : ∀ chunk ∈ chunks, cr ∉ chunk := by
    intro chunk hchunk hcr
    have hmem := hchunks.mem (List.mem_flatten.mpr ⟨chunk, hchunk, hcr⟩)
    obtain ⟨frame, -, hframe⟩ := List.mem_flatMap.mp hmem
    exact cr_not_mem_frame _ frame hframe
  have htext (events : List ChatEvent) : streamText (compactJson rt.floats)
      (events.map (ChatEvent.frame rt.toWireRuntime)) =
        events.flatMap fun e => frameBlock (compactJson rt.floats) (e.frame rt.toWireRuntime) ++
          blankLine.text := by
    simp only [streamText, List.flatMap_map, utf16_frame]
  rw [htext] at hchunks
  obtain ⟨arrived, tail, harrived, hflatten, htail, hblocks⟩ := blocks_prefix
    (fun e : ChatEvent => cutAt_frameBlock (compactJson rt.floats) (e.frame rt.toWireRuntime))
    hchunks
  refine ⟨arrived, tail, harrived, ?_, htail, ?_⟩
  · rw [htext]
    exact hflatten
  · have hparse : (arrived.map fun e => frameBlock (compactJson rt.floats)
        (e.frame rt.toWireRuntime)).filterMap parseBlock = arrived.filterMap (eventFrame rt) := by
      rw [List.filterMap_map]
      refine List.filterMap_congr fun e _ => ?_
      exact parseBlock_frameBlock (compactJson rt.floats) (e.frame rt.toWireRuntime)
    have hread : readStream rt ending {} chunks =
        (arrived.filterMap (ChatStreamEvent.ofServer rt.toPyRuntime), ending) := by
      rw [readStream_eq, addAll_eq [] hplain, blocksOf_eq blocks_nil, List.nil_append, hblocks,
        hparse, mapFrames_events fun e he => hportable e (harrived.mem he)]
    rw [streamMessage, hread]

def greetingEvents : List ChatEvent := [.keepAlive, .delta 1 "Xin", .delta 1 " chào"]

def greetingText : DartString :=
  streamText (compactJson FloatText.whole)
    (greetingEvents.map (ChatEvent.frame ClientRuntime.sample.toWireRuntime))

def connectionClosed : DartError := .other "Connection closed while receiving data"

theorem streamed_events_arrive_broken :
    ∃ arrived tail, arrived <+: greetingEvents ∧
      greetingText.dropLast = streamText (compactJson FloatText.whole)
        (arrived.map (ChatEvent.frame ClientRuntime.sample.toWireRuntime)) ++ tail ∧
      cutAt blankLine.text tail = none ∧
      streamMessage .sample [greetingText.take 150, greetingText.dropLast.drop 150]
          (some connectionClosed) =
        (arrived.filterMap (ChatStreamEvent.ofServer ClientRuntime.sample.toPyRuntime),
          some connectionClosed) := by
  have hportable : ∀ e ∈ greetingEvents, PortableEvent FloatText.whole e := by
    simp [greetingEvents, PortableEvent]
  have htext : [greetingText.take 150, greetingText.dropLast.drop 150].flatten =
      greetingText.dropLast := by decide +kernel
  have hchunks : [greetingText.take 150, greetingText.dropLast.drop 150].flatten <+:
      greetingText := by
    rw [htext]
    exact List.dropLast_prefix _
  have harrive := streamed_events_arrive .sample hportable hchunks (some connectionClosed)
  rwa [htext] at harrive

end Astra.Client
