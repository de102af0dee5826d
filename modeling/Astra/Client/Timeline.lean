import Astra.Client.Controller

/-!
# The timeline follows the stored exchange

What the client shows while it applies the events of one stream.  The timeline is
described up to its order: the other messages, the user message, and the reply.
-/

namespace Astra.Client

open Astra.Foundation Astra.Platform Astra.Persistence Astra.Chat

/-! ## The operations up to order -/

section Operations

variable {dart : DartSort} {current incoming messages others : List ChatMessage}
  {user assistant message : ChatMessage}

theorem byId_perm {entries items : List ChatMessage} (hentries : (entries.map ChatMessage.id).Nodup)
    (hitems : (items.map ChatMessage.id).Nodup) :
    (byId entries items).Perm
      (entries.filter (fun entry => entry.id ∉ items.map ChatMessage.id) ++ items) := by
  induction items generalizing entries with
  | nil => simp [byId]
  | cons item items ih =>
      rw [List.map_cons, List.nodup_cons] at hitems
      have hput : (putRow ChatMessage.id item entries).Perm
          (entries.filter (fun entry => entry.id ≠ item.id) ++ [item]) := putRow_perm hentries
      have hnodup : ((putRow ChatMessage.id item entries).map ChatMessage.id).Nodup :=
        putRow_nodup hentries
      have hrest := ih hnodup hitems.2
      have hfilter : ((entries.filter (fun entry => entry.id ≠ item.id) ++ [item]).filter
          fun entry => entry.id ∉ items.map ChatMessage.id) =
            entries.filter (fun entry => entry.id ∉ (item :: items).map ChatMessage.id) ++
              [item] := by
        rw [List.filter_append, List.filter_filter, List.filter_singleton]
        simp only [hitems.1, not_false_iff, decide_true]
        congr 1
        apply List.filter_congr
        intro entry _
        rw [List.map_cons, ← Bool.decide_and, decide_eq_decide, List.mem_cons, not_or, and_comm]
      have hperm := hrest.trans ((hput.filter _).append_right items)
      rw [hfilter, List.append_assoc] at hperm
      exact hperm

theorem upsertAll_perm (dart : DartSort) (hcurrent : (current.map ChatMessage.id).Nodup)
    (hincoming : (incoming.map ChatMessage.id).Nodup) :
    (upsertAll dart current incoming).Perm
      (current.filter (fun message => message.id ∉ incoming.map ChatMessage.id) ++ incoming) := by
  have hempty : (([] : List ChatMessage).map ChatMessage.id).Nodup := by simp
  have hload : (byId [] current).Perm current := byId_perm hempty hcurrent
  have hnodup : ((byId [] current).map ChatMessage.id).Nodup :=
    (hload.map ChatMessage.id).nodup_iff.mpr hcurrent
  have hmerge := byId_perm hnodup hincoming
  exact (dart.perm _ _).trans (hmerge.trans ((hload.filter _).append_right incoming))

theorem changeMessage_perm (h : messages.Perm (others ++ [user, assistant]))
    (hothers : ∀ message ∈ others, message.id ≠ assistant.id) (huser : user.id ≠ assistant.id)
    (change : ChatMessage → ChatMessage) :
    (changeMessage assistant.id change messages).Perm (others ++ [user, change assistant]) := by
  have hsame : others.map (fun message =>
      if message.id = assistant.id then change message else message) = others :=
    (List.map_congr_left fun message hmessage => if_neg (hothers message hmessage)).trans
      (List.map_id' others)
  have hmap := h.map fun message =>
    if message.id = assistant.id then change message else message
  rw [List.map_append, hsame] at hmap
  simpa [changeMessage, huser] using hmap

theorem upsertAll_reply_perm (h : messages.Perm (others ++ [user, assistant]))
    (hmessages : (messages.map ChatMessage.id).Nodup)
    (hothers : ∀ message ∈ others, message.id ≠ assistant.id) (huser : user.id ≠ assistant.id)
    (hid : message.id = assistant.id) :
    (upsertAll dart messages [message]).Perm (others ++ [user, message]) := by
  have hkept : others.filter (fun other => other.id ∉ [message].map ChatMessage.id) = others := by
    rw [List.filter_eq_self]
    intro other hother
    simpa [hid] using hothers other hother
  have hsingle : ([message].map ChatMessage.id).Nodup := by simp
  have hperm := (upsertAll_perm dart hmessages hsingle).trans ((h.filter _).append_right [message])
  rw [List.filter_append, hkept, List.append_assoc] at hperm
  simpa [hid, huser] using hperm

end Operations

/-! ## The timeline during a stream -/

section Stream

variable (py : PyRuntime) (p : PreparedExchange)

def userShown : ChatMessage := .ofResponse py p.userMessage

def ofOthers (message : ChatMessage) : Bool :=
  message.id ≠ py.uuidText p.userMessage.id ∧ message.id ≠ py.uuidText p.assistantMessage.id

/-- The other messages, the user message of the exchange, and its reply. -/
def Shows (others messages : List ChatMessage) (reply : ChatMessage) : Prop :=
  messages.Perm (others ++ [userShown py p, reply]) ∧
    reply.id = py.uuidText p.assistantMessage.id

structure Others (others : List ChatMessage) : Prop where
  exchange : p.userMessage.id ≠ p.assistantMessage.id
  distinct : (others.map ChatMessage.id).Nodup
  apart : ∀ message ∈ others, message.id ≠ py.uuidText p.userMessage.id ∧
    message.id ≠ py.uuidText p.assistantMessage.id

end Stream

section Stream

variable {py : PyRuntime} {dart : DartSort} {p : PreparedExchange} {others : List ChatMessage}
  {reply : ChatMessage} {s : ChatState}

theorem uuidText_injective (py : PyRuntime) {a b : UUID} (h : py.uuidText a = py.uuidText b) :
    a = b := by
  have hparse := py.uuidParse_text a
  rw [h, py.uuidParse_text] at hparse
  exact (Option.some.inj hparse).symm

private theorem others_filter (hexchange : p.userMessage.id ≠ p.assistantMessage.id)
    {messages : List ChatMessage} (hmessages : (messages.map ChatMessage.id).Nodup) :
    Others py p (messages.filter (ofOthers py p)) := by
  refine ⟨hexchange, List.Nodup.sublist (List.filter_sublist.map _) hmessages, ?_⟩
  intro message hmessage
  simpa [ofOthers] using (List.mem_filter.mp hmessage).2

theorem Others.user_ne (h : Others py p others) :
    py.uuidText p.userMessage.id ≠ py.uuidText p.assistantMessage.id :=
  fun heq => h.exchange (uuidText_injective py heq)

theorem Shows.distinct {messages : List ChatMessage} (h : Shows py p others messages reply)
    (hothers : Others py p others) : (messages.map ChatMessage.id).Nodup := by
  refine (h.1.map ChatMessage.id).nodup_iff.mpr ?_
  have hfirst : ((others ++ [userShown py p]).map ChatMessage.id).Nodup := by
    apply nodup_append_row hothers.distinct
    intro hmem
    obtain ⟨message, hmessage, hid⟩ := List.mem_map.mp hmem
    exact (hothers.apart message hmessage).1 hid
  have hfresh : reply.id ∉ (others ++ [userShown py p]).map ChatMessage.id := by
    rw [List.map_append, List.mem_append, not_or]
    constructor
    · intro hmem
      obtain ⟨message, hmessage, hid⟩ := List.mem_map.mp hmem
      exact (hothers.apart message hmessage).2 (hid.trans h.2)
    · simpa [userShown, ChatMessage.ofResponse, h.2] using hothers.user_ne.symm
  have hboth := nodup_append_row hfirst hfresh
  simpa using hboth

private theorem applyEvent_started (hothers : Others py p (s.messages.filter (ofOthers py p)))
    (hmessages : (s.messages.map ChatMessage.id).Nodup) (reused : Bool) :
    Shows py p (s.messages.filter (ofOthers py p))
      (s.applyEvent dart
        (.started (userShown py p) (.ofResponse py p.assistantMessage) reused)).messages
      (.ofResponse py p.assistantMessage) := by
  refine ⟨?_, rfl⟩
  have hincoming : ([userShown py p, .ofResponse py p.assistantMessage].map
      ChatMessage.id).Nodup := by
    simpa [userShown, ChatMessage.ofResponse] using hothers.user_ne
  have hperm := upsertAll_perm dart hmessages hincoming
  have hfilter : s.messages.filter (fun message => message.id ∉
      [userShown py p, .ofResponse py p.assistantMessage].map ChatMessage.id) =
        s.messages.filter (ofOthers py p) := by
    apply List.filter_congr
    intro message _
    simp [ofOthers, userShown, ChatMessage.ofResponse]
  rw [hfilter] at hperm
  exact hperm

theorem Shows.change (h : Shows py p others s.messages reply) (hothers : Others py p others)
    (change : ChatMessage → ChatMessage) (hid : (change reply).id = reply.id) :
    Shows py p others
      (changeMessage (py.uuidText p.assistantMessage.id) change s.messages) (change reply) := by
  refine ⟨?_, hid.trans h.2⟩
  rw [← h.2]
  refine changeMessage_perm h.1 ?_ ?_ change
  · intro message hmessage
    rw [h.2]
    exact (hothers.apart message hmessage).2
  · rw [h.2]
    exact hothers.user_ne

theorem Shows.completed (h : Shows py p others s.messages reply) (hothers : Others py p others)
    {row : Message} (hid : row.id = p.assistantMessage.id) :
    Shows py p others (upsertAll dart s.messages [.ofResponse py row]) (.ofResponse py row) := by
  have hrow : (ChatMessage.ofResponse py row).id = reply.id := by
    rw [h.2, ← hid]
    rfl
  refine ⟨upsertAll_reply_perm h.1 (h.distinct hothers) ?_ ?_ hrow, hrow.trans h.2⟩
  · intro message hmessage
    rw [h.2]
    exact (hothers.apart message hmessage).2
  · rw [h.2]
    exact hothers.user_ne

private theorem Shows.interim (h : Shows py p others s.messages reply)
    (hothers : Others py p others)
    {events : List ChatEvent} (hevents : ∀ e ∈ events, e.Interim p) :
    ∃ reply', Shows py p others (s.receive py dart events).messages reply' ∧
      reply'.content = reply.content ++ String.join (deltas events) := by
  induction events generalizing s reply with
  | nil => exact ⟨reply, h, by simp [deltas]⟩
  | cons e events ih =>
      have htail : ∀ e ∈ events, e.Interim p := fun e he => hevents e (by simp [he])
      rcases hevents e (by simp) with rfl | ⟨text, rfl⟩
      · exact ih h htail
      · obtain ⟨reply', hshows, hcontent⟩ := ih (s := s.applyEvent dart
          (.delta (py.uuidText p.assistantMessage.id) text))
          (h.change hothers (appendDelta text) rfl) htail
        refine ⟨reply', hshows, hcontent.trans ?_⟩
        simp [appendDelta, deltas, ChatEvent.deltaText, String.append_assoc]

theorem Shows.terminal (h : Shows py p others s.messages reply) (dart : DartSort)
    (hothers : Others py p others) {store : Store} {terminal : ChatEvent}
    (htells : Tells p reply.content store terminal) :
    ∃ row reply', getMessage store.messages p.assistantMessage.id = some row ∧
      Shows py p others (s.receive py dart [terminal]).messages reply' ∧
      reply'.content = reply.content ∧
      ((∃ message, terminal = .completed message) → reply' = .ofResponse py row) ∧
      ((∃ messageId code message details, terminal = .error messageId code message details) →
        reply'.status = .failed ∧ reply'.content = row.content) := by
  cases htells with
  | completed row hrow hstatus hcontent =>
      refine ⟨row, _, hrow, h.completed hothers (getMessage_mem hrow).2, hcontent,
        fun _ => rfl, ?_⟩
      rintro ⟨messageId, code, message, details, heq⟩
      cases heq
  | failed e row hrow hstatus hcontent =>
      have hshows : Shows py p others (s.receive py dart
          [streamError p.assistantMessage.id e]).messages (markFailed reply) := by
        cases e <;> exact h.change hothers markFailed rfl
      refine ⟨row, _, hrow, hshows, rfl, ?_, fun _ => ⟨rfl, hcontent.symm⟩⟩
      rintro ⟨message, heq⟩
      cases e <;> cases heq

theorem Shows.contains {messages : List ChatMessage} (h : Shows py p others messages reply)
    (hothers : Others py p others) :
    (messages.map ChatMessage.id).count (py.uuidText p.userMessage.id) = 1 ∧
      (messages.map ChatMessage.id).count (py.uuidText p.assistantMessage.id) = 1 ∧
      reply ∈ messages ∧ (messages.filter (ofOthers py p)).Perm others := by
  have hnodup := h.distinct hothers
  have hreply : reply ∈ messages := h.1.mem_iff.mpr (by simp)
  have huser : userShown py p ∈ messages := h.1.mem_iff.mpr (by simp)
  refine ⟨?_, ?_, hreply, ?_⟩
  · exact List.count_eq_one_of_mem hnodup (List.mem_map_of_mem huser)
  · rw [← h.2]
    exact List.count_eq_one_of_mem hnodup (List.mem_map_of_mem hreply)
  · have hkept : others.filter (ofOthers py p) = others := by
      rw [List.filter_eq_self]
      intro message hmessage
      simpa [ofOthers] using hothers.apart message hmessage
    have hperm := h.1.filter (ofOthers py p)
    rw [List.filter_append, hkept] at hperm
    simpa [ofOthers, userShown, ChatMessage.ofResponse, h.2] using hperm

end Stream

/-! ## Whole streams -/

section Streams

variable {py : PyRuntime} {dart : DartSort} {p : PreparedExchange} {t : WireState}

private theorem receive_append (s : ChatState) (before after : List ChatEvent) :
    s.receive py dart (before ++ after) = (s.receive py dart before).receive py dart after := by
  simp [ChatState.receive]

private theorem prefix_cases {events middle : List ChatEvent} {first terminal : ChatEvent}
    (h : events <+: first :: (middle ++ [terminal])) :
    events = [] ∨ (∃ part, part <+: middle ∧ events = first :: part) ∨
      events = first :: (middle ++ [terminal]) := by
  cases events with
  | nil => exact Or.inl rfl
  | cons e part =>
      obtain ⟨rfl, hpart⟩ := List.cons_prefix_cons.mp h
      rcases List.prefix_concat_iff.mp hpart with rfl | hpart
      · exact Or.inr (Or.inr rfl)
      · exact Or.inr (Or.inl ⟨part, hpart, rfl⟩)

theorem receive_part (dart : DartSort) {s : ChatState}
    (hothers : Others py p (s.messages.filter (ofOthers py p)))
    (hmessages : (s.messages.map ChatMessage.id).Nodup) {part : List ChatEvent}
    (hpart : ∀ e ∈ part, e.Interim p) :
    ∃ reply, Shows py p (s.messages.filter (ofOthers py p))
        (s.receive py dart
          (.created p.userMessage p.assistantMessage p.reused :: part)).messages reply ∧
      reply.content = p.assistantMessage.content ++ String.join (deltas part) :=
  (applyEvent_started hothers hmessages p.reused).interim hothers hpart

private theorem receive_all (dart : DartSort) {s : ChatState}
    (hothers : Others py p (s.messages.filter (ofOthers py p)))
    (hmessages : (s.messages.map ChatMessage.id).Nodup) {middle : List ChatEvent}
    {terminal : ChatEvent} {store : Store} (hmiddle : ∀ e ∈ middle, e.Interim p)
    (htells : Tells p (p.assistantMessage.content ++ String.join (deltas middle)) store terminal) :
    ∃ row reply, getMessage store.messages p.assistantMessage.id = some row ∧
      Shows py p (s.messages.filter (ofOthers py p))
        (s.receive py dart (.created p.userMessage p.assistantMessage p.reused ::
          (middle ++ [terminal]))).messages reply ∧
      reply.content = p.assistantMessage.content ++ String.join (deltas middle) ∧
      ((∃ message, terminal = .completed message) → reply = .ofResponse py row) ∧
      ((∃ messageId code message details, terminal = .error messageId code message details) →
        reply.status = .failed ∧ reply.content = row.content) := by
  obtain ⟨reply, hshows, hcontent⟩ := receive_part dart hothers hmessages hmiddle
  rw [← hcontent] at htells
  obtain ⟨row, reply', hrow, hshows', hcontent', hends⟩ :=
    hshows.terminal dart hothers htells
  rw [← receive_append, List.cons_append] at hshows'
  exact ⟨row, reply', hrow, hshows', hcontent'.trans hcontent, hends⟩

private theorem deltas_terminal {content : String} {store : Store} {terminal : ChatEvent}
    (h : Tells p content store terminal) (middle : List ChatEvent) :
    deltas (.created p.userMessage p.assistantMessage p.reused :: (middle ++ [terminal])) =
      deltas middle := by
  have hlast : deltas [terminal] = [] := by
    cases h with
    | completed => rfl
    | failed e => cases e <;> rfl
  show deltas (middle ++ [terminal]) = deltas middle
  unfold deltas at hlast ⊢
  rw [List.filterMap_append, hlast, List.append_nil]

private theorem eq_terminal_of_mem {middle : List ChatEvent} {e terminal : ChatEvent}
    (hmiddle : ∀ e ∈ middle, e.Interim p)
    (he : e ∈ .created p.userMessage p.assistantMessage p.reused :: (middle ++ [terminal]))
    (hkind : (∃ message, e = .completed message) ∨
      (∃ messageId code message details, e = .error messageId code message details)) :
    e = terminal := by
  rw [List.mem_cons, List.mem_append, List.mem_singleton] at he
  rcases he with rfl | he | rfl
  · simp at hkind
  · rcases hmiddle e he with rfl | ⟨text, rfl⟩ <;> simp at hkind
  · rfl

end Streams

/--
The client while it applies the events of a stream, to any timeline without repeated ids:
the reply follows the deltas and ends as the stored row, and nothing else changes.
-/
theorem timeline_follows_row (d : Deployment) {labels : List ChatLabel} {s : Chat.ChatState}
    (hrun : exec (Chat.ChatState.step d) {} labels = some s) {userId conversationId : UUID}
    {request : MessageSendRequest} {gen : Generated} {p : PreparedExchange} {store : Store}
    (hprepare : prepareExchange d.py d.config s.store userId conversationId request true gen =
      (.ok p, store))
    {source : ChunkSource} {wire : List WireLabel} {t : WireState}
    (hexec : exec WireState.step (WireState.start p store source) wire = some t)
    (hend : t.phase.terminalSent = true) (dart : DartSort) {client : ChatState}
    (hclient : (client.messages.map ChatMessage.id).Nodup) :
    (∀ events, events <+: t.emitted →
      let shown := (client.beginSend.receive d.py dart events).messages
      (shown.filter (ofOthers d.py p)).Perm (client.messages.filter (ofOthers d.py p)) ∧
        (events ≠ [] →
          (shown.map ChatMessage.id).count (d.py.uuidText p.userMessage.id) = 1 ∧
            (shown.map ChatMessage.id).count (d.py.uuidText p.assistantMessage.id) = 1 ∧
            ∃ reply ∈ shown, reply.id = d.py.uuidText p.assistantMessage.id ∧
              reply.content =
                if p.needsGeneration then String.join (deltas events)
                else p.assistantMessage.content)) ∧
      ∃ row, getMessage t.store.messages p.assistantMessage.id = some row ∧
        ∃ reply ∈ (client.beginSend.receive d.py dart t.emitted).messages,
          reply.id = d.py.uuidText p.assistantMessage.id ∧
            ((∃ message, .completed message ∈ t.emitted) → reply = .ofResponse d.py row) ∧
            ((∃ messageId code message details,
                .error messageId code message details ∈ t.emitted) →
              reply.status = .failed ∧ reply.content = row.content) := by
  have hprepared := prepareExchange_prepared hrun hprepare
  obtain ⟨middle, terminal, hemitted, hmiddle, hreplay, htells⟩ :=
    stream_finished hrun hprepare hexec hend
  have hothers : Others d.py p (client.beginSend.messages.filter (ofOthers d.py p)) :=
    others_filter hprepared.distinct hclient
  obtain ⟨row, reply, hrow, hshows, hcontent, hcompleted, hfailed⟩ :=
    receive_all dart hothers hclient hmiddle htells
  have hfilled (part : List ChatEvent) (hpart : part <+: middle) :
      p.assistantMessage.content ++ String.join (deltas part) =
        if p.needsGeneration then String.join (deltas part) else p.assistantMessage.content := by
    cases hneeds : p.needsGeneration with
    | true => simp [hprepared.blank hneeds]
    | false =>
        rw [hreplay hneeds] at hpart
        rw [List.prefix_nil.mp hpart]
        exact String.append_empty
  constructor
  · intro events hevents
    rw [hemitted] at hevents
    rcases prefix_cases hevents with rfl | ⟨part, hpart, rfl⟩ | rfl
    · exact ⟨List.Perm.refl _, fun hne => absurd rfl hne⟩
    · obtain ⟨reply, hshows, hcontent⟩ :=
        receive_part dart hothers hclient fun e he => hmiddle e (hpart.subset he)
      obtain ⟨huser, hassistant, hmem, hkept⟩ := hshows.contains hothers
      exact ⟨hkept, fun _ => ⟨huser, hassistant, reply, hmem, hshows.2,
        hcontent.trans (hfilled part hpart)⟩⟩
    · obtain ⟨huser, hassistant, hmem, hkept⟩ := hshows.contains hothers
      refine ⟨hkept, fun _ => ⟨huser, hassistant, reply, hmem, hshows.2, ?_⟩⟩
      rw [deltas_terminal htells]
      exact hcontent.trans (hfilled middle (List.prefix_refl middle))
  · have hlast {e : ChatEvent} (he : e ∈ t.emitted) :=
      eq_terminal_of_mem hmiddle (hemitted ▸ he)
    rw [← hemitted] at hshows
    refine ⟨row, hrow, reply, (hshows.contains hothers).2.2.1, hshows.2, ?_, ?_⟩
    · rintro ⟨message, hmem⟩
      exact hcompleted ⟨message, (hlast hmem (Or.inl ⟨_, rfl⟩)).symm⟩
    · rintro ⟨messageId, code, message, details, hmem⟩
      exact hfailed ⟨messageId, code, message, details,
        (hlast hmem (Or.inr ⟨_, _, _, _, rfl⟩)).symm⟩

/-! ## A timeline with an older message -/

def DartSort.insertion : DartSort where
  sort compare messages := messages.insertionSort fun left right => compare left right ≤ 0
  perm _ messages := List.perm_insertionSort _ messages

def loadedClient : ChatState where
  messages :=
    [{ id := "5", conversationId := "10", parentMessageId := none, clientMessageId := some "6",
       role := .user, content := "Earlier", status := .completed, metadata := [], createdAt := 50,
       updatedAt := 50 }]

theorem timeline_follows_row_slow :
    ∃ s p store t row,
      exec (Chat.ChatState.step defaultDeployment) {} [openConversation10 (some "ollama")] =
        some s ∧
        prepareExchange defaultDeployment.py defaultDeployment.config s.store 1 10 helloRequest
          true ⟨20, 21, 100⟩ = (.ok p, store) ∧
        exec WireState.step (WireState.start p store slowSource) slowRead = some t ∧
        getMessage t.store.messages p.assistantMessage.id = some row ∧
        ∃ reply ∈
            (loadedClient.beginSend.receive defaultDeployment.py .insertion t.emitted).messages,
          reply.id = defaultDeployment.py.uuidText p.assistantMessage.id ∧
            ((∃ message, .completed message ∈ t.emitted) →
              reply = .ofResponse defaultDeployment.py row) := by
  have hrun : ∃ s,
      exec (Chat.ChatState.step defaultDeployment) {} [openConversation10 (some "ollama")] =
        some s ∧
        ∃ p store, prepareExchange defaultDeployment.py defaultDeployment.config s.store 1 10
            helloRequest true ⟨20, 21, 100⟩ = (.ok p, store) ∧
          ∃ t, exec WireState.step (WireState.start p store slowSource) slowRead = some t ∧
            t.phase.terminalSent = true :=
    ⟨_, rfl, _, _, rfl, _, rfl, rfl⟩
  have hloaded : (loadedClient.messages.map ChatMessage.id).Nodup := by decide
  obtain ⟨s, hs, p, store, hprepare, t, hexec, hend⟩ := hrun
  obtain ⟨-, row, hrow, reply, hreply, hid, hcompleted, -⟩ :=
    timeline_follows_row defaultDeployment hs hprepare hexec hend .insertion hloaded
  exact ⟨s, p, store, t, row, hs, hprepare, hexec, hrow, reply, hreply, hid, hcompleted⟩

end Astra.Client
