import Astra.Chat.Events
import Astra.Client.JsonDecode
import Astra.Client.LoadOlder
import Astra.Services.Pages

/-!
# The client beside the server

`ChatController` on one conversation while the server handles any requests, with all its
procedures but `loadOlder`, which overwrites what the streams have brought.  A connection
carries the events of its request in order; it may end or break at any time, and what is
still on the way is lost.
-/

namespace Astra.Client

open Astra.Foundation Astra.Platform Astra.Persistence Astra.Chat Astra.Services

/-! ## The system -/

/-- The signed-in user in the conversation that is open. -/
structure ChatSite where
  deployment : Deployment
  dart : DartSort
  userId : UUID
  conversationId : UUID

/-- The stream of a `_sendInternal` under way. -/
structure Connection where
  content : DartString
  clientMessageId : String
  executionMode : ChatExecutionMode
  request : Option Nat := none
  inFlight : List ChatEvent := []
  receivedTerminalEvent : Bool := false

structure ChatWorld where
  server : Chat.ChatState
  client : ChatState
  connection : Option Connection := none

inductive WorldLabel where
  | server (label : ChatLabel)
  | setExecutionMode (mode : ChatExecutionMode)
  | send (content : String) (clientMessageId : String)
  | retry (failedAssistant : ChatMessage)
  | arrive (i : Nat) (arrival : Arrival)
  | read
  | closed
  | broken (error : StreamError)

/-- A step of the request puts the event of its next `yield` on the way. -/
def Connection.observe (connection : Connection) (label : ChatLabel) (server : Chat.ChatState) :
    Connection :=
  match label with
  | .resume i _ _ =>
      if connection.request = some i then
        { connection with inFlight := connection.inFlight ++ (server.phases i).event.toList }
      else connection
  | .arrive .. | .service .. => connection

def ChatState.applyServerEvent (py : PyRuntime) (dart : DartSort) (current : ChatState)
    (event : ChatEvent) : ChatState :=
  match ChatStreamEvent.ofServer py event with
  | none => current
  | some event => current.applyEvent dart event

/-- The arrival is the request of `streamMessage`, with its body validated. -/
def Connection.Carries (site : ChatSite) (connection : Connection) (arrival : Arrival) : Prop :=
  arrival.streaming = true ∧ arrival.userId = site.userId ∧
    arrival.conversationId = site.conversationId ∧
    arrival.request =
      { content := strip (String.ofList (ofCodeUnits connection.content))
        clientMessageId := arrival.request.clientMessageId
        executionMode := connection.executionMode } ∧
    site.deployment.py.uuidText arrival.request.clientMessageId = connection.clientMessageId

deriving instance DecidableEq for MessageSendRequest

instance (site : ChatSite) (connection : Connection) (arrival : Arrival) :
    Decidable (connection.Carries site arrival) :=
  inferInstanceAs (Decidable (_ ∧ _))

namespace ChatWorld

def sendInternal (w : ChatWorld) (content clientMessageId : String) : ChatWorld :=
  if (trim (utf16 content)).isEmpty || w.client.isSending then w
  else
    { w with
      client := w.client.beginSend
      connection := some
        { content := trim (utf16 content)
          clientMessageId := clientMessageId
          executionMode := w.client.executionMode } }

def setExecutionMode (w : ChatWorld) (mode : ChatExecutionMode) : ChatWorld :=
  if w.client.isSending || w.client.executionMode == mode then w
  else { w with client := { w.client with executionMode := mode } }

def retry (w : ChatWorld) (failedAssistant : ChatMessage) : ChatWorld :=
  match failedAssistant.parentMessageId with
  | none => w
  | some parentMessageId =>
      match w.client.messages.find? fun message => message.id == parentMessageId with
      | none => w
      | some userMessage =>
          match userMessage.clientMessageId with
          | none => w
          | some clientMessageId => w.sendInternal userMessage.content clientMessageId

def endStream (w : ChatWorld) (error : Option AppException) : ChatWorld :=
  match error with
  | none => { w with client := { w.client with isSending := false }, connection := none }
  | some error =>
      { w with
        client := { w.client.recordFailure error with isSending := false }
        connection := none }

def step (site : ChatSite) (w : ChatWorld) : WorldLabel → Option ChatWorld
  | .server label =>
      (w.server.step site.deployment label).map fun server =>
        { w with
          server := server
          connection := w.connection.map fun connection => connection.observe label server }
  | .setExecutionMode mode => some (w.setExecutionMode mode)
  | .send content clientMessageId => some (w.sendInternal content clientMessageId)
  | .retry failedAssistant => some (w.retry failedAssistant)
  | .arrive i arrival =>
      match w.connection with
      | none => none
      | some connection =>
          if connection.request = none ∧ connection.Carries site arrival then
            (w.server.step site.deployment (.arrive i arrival)).map fun server =>
              { w with
                server := server
                connection := some { connection with request := some i } }
          else none
  | .read =>
      match w.connection with
      | none => none
      | some connection =>
          match connection.inFlight with
          | [] => none
          | event :: rest =>
              some { w with
                client := w.client.applyServerEvent site.deployment.py site.dart event
                connection := some { connection with
                  inFlight := rest
                  receivedTerminalEvent :=
                    match ChatStreamEvent.ofServer site.deployment.py event with
                    | none => connection.receivedTerminalEvent
                    | some event => event.isTerminal } }
  | .closed =>
      match w.connection with
      | none => none
      | some connection =>
          some (w.endStream (if connection.receivedTerminalEvent then none
            else some streamIncomplete))
  | .broken error =>
      match w.connection with
      | none => none
      | some _ => some (w.endStream (some error.exception))

/-- The success transaction of a stream is not interrupted once its commit took effect. -/
def Undisturbed (w : ChatWorld) : WorldLabel → Prop
  | .server label => ReturnsOnceCommitted w.server label
  | _ => True

def opened (site : ChatSite) (server : Chat.ChatState) (page : Page Message) : ChatWorld where
  server := server
  client :=
    { messages := page.items.map (ChatMessage.ofResponse site.deployment.py)
      nextCursor := page.nextCursor }

end ChatWorld

/-! ## What the client shows -/

/-- The shown message is that row, up to what a generation changes. -/
structure Depicts (py : PyRuntime) (m : ChatMessage) (row : Message) : Prop where
  id : m.id = py.uuidText row.id
  conversationId : m.conversationId = py.uuidText row.conversationId
  parentMessageId : m.parentMessageId = row.parentMessageId.map py.uuidText
  clientMessageId : m.clientMessageId = row.clientMessageId.map py.uuidText
  role : m.role = row.role

/--
Each message is shown once and is a row of the conversation, and a completed message is
shown as it is stored.
-/
structure Faithful (py : PyRuntime) (conversationId : UUID) (rows : List Message)
    (messages : List ChatMessage) : Prop where
  ids : (messages.map ChatMessage.id).Nodup
  stored : ∀ m ∈ messages, ∃ row ∈ rows, row.conversationId = conversationId ∧ Depicts py m row ∧
    (m.status = .completed → m = .ofResponse py row)

def ShownOpen (py : PyRuntime) (messages : List ChatMessage) (a : UUID) : Prop :=
  ∀ m ∈ messages, m.id = py.uuidText a → m.status ≠ .completed

def Introduced (py : PyRuntime) (clientMessageId : String) (messages : List ChatMessage)
    (events : List ChatEvent) (userMessageId : UUID) : Prop :=
  (∃ m ∈ messages, m.id = py.uuidText userMessageId ∧ m.clientMessageId = some clientMessageId ∧
      m.status = .completed) ∨
    ∃ user assistant reused, .created user assistant reused ∈ events ∧ user.id = userMessageId ∧
      user.clientMessageId.map py.uuidText = some clientMessageId

def Answered (clientMessageId : String) (messages : List ChatMessage) : Prop :=
  ∃ user ∈ messages, ∃ reply ∈ messages, user.clientMessageId = some clientMessageId ∧
    user.status = .completed ∧ reply.role = .assistant ∧ reply.parentMessageId = some user.id ∧
    reply.status = .completed

section Shown

variable {py : PyRuntime} {dart : DartSort} {conversationId a : UUID} {rows rows' : List Message}
  {messages : List ChatMessage} {client : ChatState} {e : ChatEvent} {row : Message}

theorem depicts_ofResponse (py : PyRuntime) (row : Message) :
    Depicts py (.ofResponse py row) row := ⟨rfl, rfl, rfl, rfl, rfl⟩

theorem Depicts.of_key {m : ChatMessage} {row' : Message} (h : Depicts py m row)
    (hkey : messageKey row' = messageKey row) : Depicts py m row' := by
  have hid : row'.id = row.id := congrArg MessageKey.id hkey
  have hconversation : row'.conversationId = row.conversationId :=
    congrArg MessageKey.conversationId hkey
  have hparent : row'.parentMessageId = row.parentMessageId :=
    congrArg MessageKey.parentMessageId hkey
  have hclient : row'.clientMessageId = row.clientMessageId :=
    congrArg MessageKey.clientMessageId hkey
  have hrole : row'.role = row.role := congrArg MessageKey.role hkey
  refine ⟨?_, ?_, ?_, ?_, ?_⟩
  · rw [hid, h.id]
  · rw [hconversation, h.conversationId]
  · rw [hparent, h.parentMessageId]
  · rw [hclient, h.clientMessageId]
  · rw [hrole, h.role]

theorem faithful_of_rows {listed : List Message} (hids : (listed.map Message.id).Nodup)
    (hlisted : ∀ m ∈ listed, m.conversationId = conversationId ∧
      messageKey m ∈ rows.map messageKey ∧ (m.status = .completed → m ∈ rows)) :
    Faithful py conversationId rows (listed.map (ChatMessage.ofResponse py)) := by
  constructor
  · have hshown : ChatMessage.id ∘ ChatMessage.ofResponse py = py.uuidText ∘ Message.id := rfl
    rw [List.map_map, hshown, ← List.map_map]
    exact hids.map fun _ _ htext => uuidText_injective py htext
  · intro m hm
    obtain ⟨row, hrow, rfl⟩ := List.mem_map.mp hm
    obtain ⟨hconversation, hkey, hcompleted⟩ := hlisted row hrow
    by_cases hstatus : row.status = .completed
    · exact ⟨row, hcompleted hstatus, hconversation, depicts_ofResponse py row, fun _ => rfl⟩
    · obtain ⟨row', hrow', hsame⟩ := List.mem_map.mp hkey
      refine ⟨row', hrow', ?_, (depicts_ofResponse py row).of_key hsame,
        fun hdone => absurd hdone hstatus⟩
      rw [← hconversation]
      exact congrArg MessageKey.conversationId hsame

theorem Faithful.grows (h : Faithful py conversationId rows messages) (hrows : Grows rows rows') :
    Faithful py conversationId rows' messages := by
  refine ⟨h.ids, fun m hm => ?_⟩
  obtain ⟨row, hrow, hconversation, hdepicts, hcompleted⟩ := h.stored m hm
  by_cases hstatus : m.status = .completed
  · have hsame := hcompleted hstatus
    have hrowstatus : row.status = .completed := by
      rw [hsame] at hstatus
      exact hstatus
    exact ⟨row, hrows.completed row hrow hrowstatus, hconversation, hdepicts, hcompleted⟩
  · obtain ⟨row', hrow', hkey⟩ := List.mem_map.mp (hrows.keys _ (List.mem_map_of_mem hrow))
    refine ⟨row', hrow', ?_, hdepicts.of_key hkey, fun hdone => absurd hdone hstatus⟩
    rw [← hconversation]
    exact congrArg MessageKey.conversationId hkey

theorem Faithful.eq_stored (h : Faithful py conversationId rows messages)
    (hrows : WellFormed rows) {m : ChatMessage} (hm : m ∈ messages)
    (hstatus : m.status = .completed) (hrow : row ∈ rows) (hid : m.id = py.uuidText row.id) :
    m = .ofResponse py row ∧ row.status = .completed := by
  obtain ⟨row', hrow', -, hdepicts, hcompleted⟩ := h.stored m hm
  have hsame : row' = row :=
    hrows.eq_of_id_eq hrow' hrow (uuidText_injective py (hdepicts.id.symm.trans hid))
  subst hsame
  have hshown := hcompleted hstatus
  refine ⟨hshown, ?_⟩
  rw [hshown] at hstatus
  exact hstatus

theorem Faithful.shownOpen (h : Faithful py conversationId rows messages)
    (hrows : WellFormed rows) (hrow : row ∈ rows) (hstatus : row.status ≠ .completed) :
    ShownOpen py messages row.id :=
  fun _ hm hid hcompleted => hstatus (h.eq_stored hrows hm hcompleted hrow hid).2

private theorem mem_byId_cases {entries items : List ChatMessage} {m : ChatMessage}
    (h : (entries.map ChatMessage.id).Nodup) (hm : m ∈ byId entries items) :
    (m ∈ entries ∧ m.id ∉ items.map ChatMessage.id) ∨ m ∈ items := by
  induction items generalizing entries with
  | nil => exact Or.inl ⟨hm, List.not_mem_nil⟩
  | cons item items ih =>
      rcases ih (putRow_nodup h) hm with ⟨hput, hid⟩ | hitem
      · rcases (mem_putRow h).mp hput with ⟨hold, hne⟩ | rfl
        · refine Or.inl ⟨hold, ?_⟩
          rw [List.map_cons, List.mem_cons, not_or]
          exact ⟨hne, hid⟩
        · exact Or.inr List.mem_cons_self
      · exact Or.inr (List.mem_cons_of_mem _ hitem)

theorem mem_upsertAll_cases {current incoming : List ChatMessage} {m : ChatMessage}
    (h : (current.map ChatMessage.id).Nodup) (hm : m ∈ upsertAll dart current incoming) :
    (m ∈ current ∧ m.id ∉ incoming.map ChatMessage.id) ∨ m ∈ incoming := by
  have hempty : (([] : List ChatMessage).map ChatMessage.id).Nodup := List.nodup_nil
  have hload : (byId [] current).Perm current := byId_perm hempty h
  have hnodup : ((byId [] current).map ChatMessage.id).Nodup :=
    (hload.map ChatMessage.id).nodup_iff.mpr h
  have hmerged := (dart.perm compareMessages (byId (byId [] current) incoming)).mem_iff.mp hm
  rcases mem_byId_cases hnodup hmerged with ⟨hold, hid⟩ | hnew
  · exact Or.inl ⟨hload.mem_iff.mp hold, hid⟩
  · exact Or.inr hnew

theorem mem_upsertAll_incoming {current incoming : List ChatMessage} {m : ChatMessage}
    (h : (current.map ChatMessage.id).Nodup) (hincoming : (incoming.map ChatMessage.id).Nodup)
    (hm : m ∈ incoming) : m ∈ upsertAll dart current incoming :=
  (upsertAll_perm dart h hincoming).mem_iff.mpr (List.mem_append_right _ hm)

theorem mem_applyServerEvent {m : ChatMessage} (h : (client.messages.map ChatMessage.id).Nodup)
    (hm : m ∈ (client.applyServerEvent py dart e).messages) :
    m ∈ client.messages ∨
      (∃ old ∈ client.messages, m.id = old.id ∧ m.conversationId = old.conversationId ∧
        m.parentMessageId = old.parentMessageId ∧ m.clientMessageId = old.clientMessageId ∧
        m.role = old.role ∧ m.status ≠ .completed) ∨
      (∃ user assistant reused, e = .created user assistant reused ∧
        (m = .ofResponse py user ∨ m = .ofResponse py assistant)) ∨
      ∃ message, e = .completed message ∧ m = .ofResponse py message := by
  cases e with
  | created user assistant reused =>
      rcases mem_upsertAll_cases h hm with ⟨hold, -⟩ | hnew
      · exact Or.inl hold
      · simp only [List.mem_cons, List.not_mem_nil, or_false] at hnew
        exact Or.inr (Or.inr (Or.inl ⟨user, assistant, reused, rfl, hnew⟩))
  | completed message =>
      rcases mem_upsertAll_cases h hm with ⟨hold, -⟩ | hnew
      · exact Or.inl hold
      · exact Or.inr (Or.inr (Or.inr ⟨message, rfl, List.mem_singleton.mp hnew⟩))
  | keepAlive => exact Or.inl hm
  | delta messageId text =>
      obtain ⟨old, hold, rfl⟩ := List.mem_map.mp hm
      split
      · exact Or.inr (Or.inl ⟨old, hold, rfl, rfl, rfl, rfl, rfl, by simp [appendDelta]⟩)
      · exact Or.inl hold
  | error messageId code text details =>
      obtain ⟨old, hold, rfl⟩ := List.mem_map.mp hm
      split
      · exact Or.inr (Or.inl ⟨old, hold, rfl, rfl, rfl, rfl, rfl, by simp [markFailed]⟩)
      · exact Or.inl hold

private theorem applyServerEvent_nodup (h : (client.messages.map ChatMessage.id).Nodup) :
    ((client.applyServerEvent py dart e).messages.map ChatMessage.id).Nodup := by
  unfold ChatState.applyServerEvent
  split
  · exact h
  · exact (applyEvent_leaves dart h _).nodup

theorem Faithful.read (h : Faithful py conversationId rows client.messages)
    (htrue : e.TrueIn rows conversationId) :
    Faithful py conversationId rows (client.applyServerEvent py dart e).messages := by
  refine ⟨applyServerEvent_nodup h.ids, fun m hm => ?_⟩
  rcases mem_applyServerEvent h.ids hm with hold | ⟨old, hold, hid, hconv, hparent, hclient, hrole,
    hopen⟩ | ⟨user, assistant, reused, rfl, hnew⟩ | ⟨message, rfl, rfl⟩
  · exact h.stored m hold
  · obtain ⟨row, hrow, hconversation, hdepicts, -⟩ := h.stored old hold
    refine ⟨row, hrow, hconversation, ⟨?_, ?_, ?_, ?_, ?_⟩, fun hdone => absurd hdone hopen⟩
    · rw [hid, hdepicts.id]
    · rw [hconv, hdepicts.conversationId]
    · rw [hparent, hdepicts.parentMessageId]
    · rw [hclient, hdepicts.clientMessageId]
    · rw [hrole, hdepicts.role]
  · obtain ⟨huser, -, hconversation, hkey, hconversation', hreply, -⟩ := htrue
    rcases hnew with rfl | rfl
    · exact ⟨user, huser, hconversation, depicts_ofResponse py user, fun _ => rfl⟩
    · obtain ⟨row, hrow, hrowkey⟩ := List.mem_map.mp hkey
      by_cases hstatus : assistant.status = .completed
      · exact ⟨assistant, hreply hstatus, hconversation', depicts_ofResponse py assistant,
          fun _ => rfl⟩
      · refine ⟨row, hrow, ?_, (depicts_ofResponse py assistant).of_key hrowkey,
          fun hdone => absurd hdone hstatus⟩
        rw [← hconversation']
        exact congrArg MessageKey.conversationId hrowkey
  · obtain ⟨hmem, -, hconversation⟩ := htrue
    exact ⟨message, hmem, hconversation, depicts_ofResponse py message, fun _ => rfl⟩

theorem ShownOpen.read (h : ShownOpen py client.messages a)
    (hids : (client.messages.map ChatMessage.id).Nodup) (hsettles : a ∉ e.settles) :
    ShownOpen py (client.applyServerEvent py dart e).messages a := by
  intro m hm hid hcompleted
  rcases mem_applyServerEvent hids hm with hold | ⟨old, -, -, -, -, -, -, hopen⟩ |
    ⟨user, assistant, reused, rfl, rfl | rfl⟩ | ⟨message, rfl, rfl⟩
  · exact h m hold hid hcompleted
  · exact hopen hcompleted
  · refine hsettles ?_
    rw [← uuidText_injective py hid]
    exact List.mem_cons_self
  · refine hsettles ?_
    have hstatus : assistant.status = .completed := hcompleted
    rw [← uuidText_injective py hid, ChatEvent.settles, if_pos hstatus]
    exact List.mem_cons_of_mem _ List.mem_cons_self
  · refine hsettles ?_
    rw [← uuidText_injective py hid]
    exact List.mem_cons_self

theorem created_nodup {user assistant : Message} {reused : Bool}
    (htrue : (ChatEvent.created user assistant reused).TrueIn rows conversationId) :
    ([ChatMessage.ofResponse py user, .ofResponse py assistant].map ChatMessage.id).Nodup := by
  have htext : py.uuidText user.id ≠ py.uuidText assistant.id :=
    fun heq => htrue.2.2.2.2.2.2 (uuidText_injective py heq)
  simpa [ChatMessage.ofResponse] using htext

private theorem mem_created {user assistant : Message} {reused : Bool}
    (h : (client.messages.map ChatMessage.id).Nodup)
    (htrue : (ChatEvent.created user assistant reused).TrueIn rows conversationId) :
    .ofResponse py user ∈
      (client.applyServerEvent py dart (.created user assistant reused)).messages :=
  mem_upsertAll_incoming h (created_nodup htrue) List.mem_cons_self

theorem read_keeps (h : Faithful py conversationId rows client.messages) (hrows : WellFormed rows)
    (htrue : e.TrueIn rows conversationId) {m : ChatMessage} (hm : m ∈ client.messages)
    (hstatus : m.status = .completed)
    (hreopens : ∀ a, e.reopens = some a → ShownOpen py client.messages a) :
    m ∈ (client.applyServerEvent py dart e).messages := by
  have hreopens {a : UUID} (ha : e.reopens = some a) : m.id ≠ py.uuidText a :=
    fun hid => hreopens a ha m hm hid hstatus
  cases e with
  | created user assistant reused =>
      have hincoming : ([ChatMessage.ofResponse py user, .ofResponse py assistant].map
          ChatMessage.id).Nodup := created_nodup htrue
      obtain ⟨huser, -, -, -, -, hreply, hne⟩ := htrue
      by_cases hid : m.id = py.uuidText user.id
      · rw [(h.eq_stored hrows hm hstatus huser hid).1]
        exact mem_upsertAll_incoming h.ids hincoming List.mem_cons_self
      · by_cases hid' : m.id = py.uuidText assistant.id
        · have hsettled : assistant.status = .completed := by
            by_contra hopen
            exact hreopens (if_neg hopen) hid'
          rw [(h.eq_stored hrows hm hstatus (hreply hsettled) hid').1]
          exact mem_upsertAll_incoming h.ids hincoming (List.mem_cons_of_mem _ List.mem_cons_self)
        · refine (upsertAll_leaves dart h.ids _).others m hm ?_
          simp [ChatMessage.ofResponse, hid, hid']
  | completed message =>
      obtain ⟨hmem, -, -⟩ := htrue
      by_cases hid : m.id = py.uuidText message.id
      · rw [(h.eq_stored hrows hm hstatus hmem hid).1]
        exact mem_upsertAll_incoming h.ids (by simp) List.mem_cons_self
      · refine (upsertAll_leaves dart h.ids _).others m hm ?_
        simp [ChatMessage.ofResponse, hid]
  | keepAlive => exact hm
  | delta messageId text =>
      have hleaves : Leaves [py.uuidText messageId] client.messages
          (changeMessage (py.uuidText messageId) (appendDelta text) client.messages) :=
        changeMessage_leaves h.ids fun _ => rfl
      exact hleaves.others m hm (by simpa using hreopens rfl)
  | error messageId code text details =>
      have hleaves : Leaves [py.uuidText messageId] client.messages
          (changeMessage (py.uuidText messageId) markFailed client.messages) :=
        changeMessage_leaves h.ids fun _ => rfl
      exact hleaves.others m hm (by simpa using hreopens rfl)

theorem Introduced.append {clientMessageId : String} {events : List ChatEvent}
    (h : Introduced py clientMessageId messages events a) (more : List ChatEvent) :
    Introduced py clientMessageId messages (events ++ more) a := by
  rcases h with hshown | ⟨user, assistant, reused, hevent, hid, hclient⟩
  · exact Or.inl hshown
  · exact Or.inr ⟨user, assistant, reused, List.mem_append_left more hevent, hid, hclient⟩

theorem Introduced.read {clientMessageId : String} {events : List ChatEvent}
    (hintroduced : Introduced py clientMessageId client.messages (e :: events) a)
    (h : Faithful py conversationId rows client.messages) (hrows : WellFormed rows)
    (htrue : e.TrueIn rows conversationId)
    (hreopens : ∀ a, e.reopens = some a → ShownOpen py client.messages a) :
    Introduced py clientMessageId (client.applyServerEvent py dart e).messages events a := by
  rcases hintroduced with ⟨m, hm, hid, hclient, hstatus⟩ |
    ⟨user, assistant, reused, hevent, hid, hclient⟩
  · exact Or.inl ⟨m, read_keeps h hrows htrue hm hstatus hreopens, hid, hclient, hstatus⟩
  · rcases List.mem_cons.mp hevent with rfl | hlater
    · refine Or.inl ⟨.ofResponse py user, mem_created h.ids htrue, ?_, hclient, htrue.2.1⟩
      rw [← hid]
      rfl
    · exact Or.inr ⟨user, assistant, reused, hlater, hid, hclient⟩

private theorem mem_recordFailure {error : AppException} {m : ChatMessage}
    (hm : m ∈ (client.recordFailure error).messages) :
    m ∈ client.messages ∨ ∃ old ∈ client.messages, m = markFailed old := by
  obtain ⟨old, hold, rfl⟩ := List.mem_map.mp hm
  split
  · exact Or.inr ⟨old, hold, rfl⟩
  · exact Or.inl hold

theorem Faithful.recordFailure (h : Faithful py conversationId rows client.messages)
    (error : AppException) :
    Faithful py conversationId rows (client.recordFailure error).messages := by
  refine ⟨(recordFailure_leaves h.ids error).nodup, fun m hm => ?_⟩
  rcases mem_recordFailure hm with hold | ⟨old, hold, rfl⟩
  · exact h.stored m hold
  · obtain ⟨row, hrow, hconversation, hdepicts, -⟩ := h.stored old hold
    refine ⟨row, hrow, hconversation, ⟨?_, ?_, ?_, ?_, ?_⟩, ?_⟩
    · exact hdepicts.id
    · exact hdepicts.conversationId
    · exact hdepicts.parentMessageId
    · exact hdepicts.clientMessageId
    · exact hdepicts.role
    · rintro ⟨⟩

theorem recordFailure_keeps (error : AppException) {m : ChatMessage} (hm : m ∈ client.messages)
    (hstatus : m.status = .completed) : m ∈ (client.recordFailure error).messages := by
  refine List.mem_map.mpr ⟨m, hm, if_neg ?_⟩
  simp [ChatMessage.isOpenReply, hstatus]

end Shown

end Astra.Client
