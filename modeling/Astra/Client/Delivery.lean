import Astra.Client.World

/-!
# What the client shows is what the server stored

The invariant of the client beside the server: the events on the way are true of the
message table and reopen nothing that is settled by the time they are read.
-/

namespace Astra.Client

open Astra.Foundation Astra.Platform Astra.Persistence Astra.Chat Astra.Services

/-! ## The invariant -/

/-- What is on the way is true, and reopens nothing that is settled by then. -/
structure ConnectionSound (site : ChatSite) (server : Chat.ChatState) (messages : List ChatMessage)
    (c : Connection) : Prop where
  truth : ∀ e ∈ c.inFlight, e.TrueIn server.store.messages site.conversationId
  apart : c.inFlight.Pairwise fun e e' => ∀ a, e'.reopens = some a → a ∉ e.settles
  shownOpen : ∀ e ∈ c.inFlight, ∀ a, e.reopens = some a →
    ShownOpen site.deployment.py messages a
  waiting : c.request = none → c.inFlight = []
  taken : ∀ i, c.request = some i → server.phases i ≠ .idle
  asked : ∀ i, c.request = some i → ∀ p, (server.phases i).exchange = some p →
    p.userMessage.conversationId = site.conversationId ∧
      p.userMessage.clientMessageId.map site.deployment.py.uuidText = some c.clientMessageId
  unfinished : ∀ i, c.request = some i → ∀ a, (server.phases i).unfinished = some a →
    ShownOpen site.deployment.py messages a ∧ ∀ e ∈ c.inFlight, a ∉ e.settles
  announced : ∀ i, c.request = some i → ∀ p, (server.phases i).announced = some p →
    Introduced site.deployment.py c.clientMessageId messages c.inFlight p.userMessage.id
  answers : ∀ n m, c.inFlight[n]? = some (.completed m) → m.role = .assistant ∧
    ∃ userMessageId, m.parentMessageId = some userMessageId ∧
      Introduced site.deployment.py c.clientMessageId messages (c.inFlight.take n) userMessageId

structure WorldInvariant (site : ChatSite) (w : ChatWorld) : Prop where
  server : ChatInvariant w.server
  backed : ∀ i, (w.server.phases i).Backed w.server.store.messages
  faithful : Faithful site.deployment.py site.conversationId w.server.store.messages
    w.client.messages
  sending : w.client.isSending = w.connection.isSome
  connection : ∀ c, w.connection = some c → ConnectionSound site w.server w.client.messages c
  delivered : ∀ c, w.connection = some c → c.receivedTerminalEvent = true →
    w.client.streamError = none → Answered c.clientMessageId w.client.messages

/-- A message shown as completed is shown from then on. -/
def KeepsShown (w w' : ChatWorld) : Prop :=
  ∀ m ∈ w.client.messages, m.status = .completed → m ∈ w'.client.messages

@[simp] theorem Connection.observe_clientMessageId (connection : Connection) (label : ChatLabel)
    (server : Chat.ChatState) :
    (connection.observe label server).clientMessageId = connection.clientMessageId := by
  cases label with
  | resume i input now => simp only [observe]; split <;> rfl
  | _ => rfl

@[simp] theorem Connection.observe_receivedTerminalEvent (connection : Connection)
    (label : ChatLabel) (server : Chat.ChatState) :
    (connection.observe label server).receivedTerminalEvent =
      connection.receivedTerminalEvent := by
  cases label with
  | resume i input now => simp only [observe]; split <;> rfl
  | _ => rfl

section Connections

variable {site : ChatSite} {s t : Chat.ChatState} {client : ChatState}
  {messages : List ChatMessage} {c : Connection} {i : Nat} {label : ChatLabel}

theorem ConnectionSound.same (h : ConnectionSound site s messages c)
    (hrows : Grows s.store.messages t.store.messages)
    (hphase : ∀ i, c.request = some i → t.phases i = s.phases i) :
    ConnectionSound site t messages c where
  truth e he := (h.truth e he).grows hrows
  apart := h.apart
  shownOpen := h.shownOpen
  waiting := h.waiting
  taken i hi := by
    rw [hphase i hi]
    exact h.taken i hi
  asked i hi := by
    rw [hphase i hi]
    exact h.asked i hi
  unfinished i hi := by
    rw [hphase i hi]
    exact h.unfinished i hi
  announced i hi := by
    rw [hphase i hi]
    exact h.announced i hi
  answers := h.answers

theorem ConnectionSound.emits (h : ConnectionSound site s messages c) (hs : ChatInvariant s)
    (ht : ChatInvariant t) (hrows : Grows s.store.messages t.store.messages)
    (hbacked : (t.phases i).Backed t.store.messages) (hi : c.request = some i) {input : Input}
    {now : Timestamp}
    (hresume : resume s.store (s.phases i) input now = some (t.phases i, t.store)) :
    ConnectionSound site t messages
      { c with inFlight := c.inFlight ++ (t.phases i).event.toList } := by
  have hcases := resume_cases (hs.sound i) (hs.table.row i) hresume
  have honly {j : Nat} (hj : c.request = some j) : j = i := by
    rw [hi, Option.some.injEq] at hj
    exact hj.symm
  have hasked : ∀ p, (t.phases i).exchange = some p →
      p.userMessage.conversationId = site.conversationId ∧
        p.userMessage.clientMessageId.map site.deployment.py.uuidText =
          some c.clientMessageId := by
    intro p hp
    obtain ⟨p', hp', hkeeps, -⟩ := resume_writes hresume
    rcases hkeeps with hsame | ⟨outcome, hexited⟩
    · obtain rfl := Option.some.inj (hsame.symm.trans hp)
      exact h.asked i hi _ hp'
    · rw [hexited] at hp
      cases hp
  have hannounced {p : PreparedExchange} (hp : (t.phases i).announced = some p) :
      Introduced site.deployment.py c.clientMessageId messages c.inFlight p.userMessage.id ∨
        (t.phases i).event = some (.created p.userMessage p.assistantMessage p.reused) :=
    (resume_announced (hs.sound i) (hs.table.row i) hresume hp).imp_left (h.announced i hi p)
  have hunfinished {a : UUID} (ha : (t.phases i).unfinished = some a) :=
    h.unfinished i hi a (hcases.unfinished ha)
  have hreopens {e : ChatEvent} {a : UUID} (he : (t.phases i).event = some e)
      (ha : e.reopens = some a) : (t.phases i).unfinished = some a :=
    event_reopens (ht.sound i) hbacked he ha
  refine ⟨?_, ?_, ?_, ?_, ?_, ?_, ?_, ?_, ?_⟩
  · intro e he
    rcases List.mem_append.mp he with hold | hnew
    · exact (h.truth e hold).grows hrows
    · exact event_trueIn ht.messages hbacked (fun p hp => (hasked p hp).1)
        (Option.mem_toList.mp hnew)
  · refine List.pairwise_append.mpr ⟨h.apart, ?_, ?_⟩
    · cases (t.phases i).event with
      | none => exact List.Pairwise.nil
      | some e => exact List.pairwise_singleton _ e
    · intro e he e' he' a ha
      exact (hunfinished (hreopens (Option.mem_toList.mp he') ha)).2 e he
  · intro e he a ha
    rcases List.mem_append.mp he with hold | hnew
    · exact h.shownOpen e hold a ha
    · exact (hunfinished (hreopens (Option.mem_toList.mp hnew) ha)).1
  · intro hnone
    rw [hi] at hnone
    cases hnone
  · intro j hj
    rw [honly hj]
    exact resume_ne_idle hresume
  · intro j hj
    rw [honly hj]
    exact hasked
  · intro j hj a ha
    rw [honly hj] at ha
    refine ⟨(hunfinished ha).1, fun e he => ?_⟩
    rcases List.mem_append.mp he with hold | hnew
    · exact (hunfinished ha).2 e hold
    · exact event_settles ht.messages hbacked (Option.mem_toList.mp hnew) ha
  · intro j hj p hp
    rw [honly hj] at hp
    rcases hannounced hp with hold | hevent
    · exact hold.append _
    · refine Or.inr ⟨_, _, _, List.mem_append_right _ (Option.mem_toList.mpr hevent), rfl, ?_⟩
      exact (hasked p (Phase.exchange_of_announced hp)).2
  · intro n m hn
    rcases Nat.lt_or_ge n c.inFlight.length with hlt | hge
    · rw [List.getElem?_append_left hlt] at hn
      rw [List.take_append_of_le_length (Nat.le_of_lt hlt)]
      exact h.answers n m hn
    · rw [List.getElem?_append_right hge] at hn
      have hevent : (t.phases i).event = some (.completed m) :=
        Option.mem_toList.mp (List.mem_of_getElem? hn)
      obtain ⟨p, hp, hrole, hparent⟩ := event_answers ht.messages hbacked hevent
      refine ⟨hrole, p.userMessage.id, hparent, ?_⟩
      rcases hannounced hp with hold | hcreated
      · rw [List.take_append, List.take_of_length_le hge]
        exact hold.append _
      · rw [hevent] at hcreated
        cases hcreated

theorem ConnectionSound.server (h : ConnectionSound site s messages c) (hs : ChatInvariant s)
    (hok : ReturnsOnceCommitted s label)
    (hbacked : ∀ i, (s.phases i).Backed s.store.messages)
    (hstep : s.step site.deployment label = some t) :
    ConnectionSound site t messages (c.observe label t) := by
  have hrows := step_grows hs hok hstep
  have ht := (step_invariant hs hok hstep).1
  have hbacked' := step_backed hs hok hbacked hstep
  cases label with
  | arrive j arrival =>
      refine h.same hrows fun i hi => ?_
      obtain ⟨hidle, -, rfl⟩ := ChatState.step_arrive hstep
      refine Function.update_of_ne ?_ _ _
      rintro rfl
      exact h.taken i hi hidle
  | resume j input now =>
      obtain ⟨phase, store, hresume, hafter⟩ := ChatState.step_resume hstep
      by_cases hj : c.request = some j
      · rw [Connection.observe, if_pos hj]
        have hmoved : Chat.resume s.store (s.phases j) input now =
            some (t.phases j, t.store) := by
          subst hafter
          show _ = some (Function.update s.phases j phase j, store)
          rw [hresume, Function.update_self]
        exact h.emits hs ht hrows (hbacked' j) hj hmoved
      · rw [Connection.observe, if_neg hj]
        refine h.same hrows fun i hi => ?_
        rw [hafter]
        refine Function.update_of_ne ?_ _ _
        rintro rfl
        exact hj hi
  | service userId action =>
      refine h.same hrows fun i hi => ?_
      obtain rfl := ChatState.step_service hstep
      rfl

theorem ConnectionSound.read (h : ConnectionSound site s client.messages c)
    (hs : ChatInvariant s)
    (hfaithful : Faithful site.deployment.py site.conversationId s.store.messages client.messages)
    {e : ChatEvent} {rest : List ChatEvent} (hflight : c.inFlight = e :: rest)
    (terminal : Bool) :
    ConnectionSound site s
      (client.applyServerEvent site.deployment.py site.dart e).messages
      { c with inFlight := rest, receivedTerminalEvent := terminal } := by
  have hfirst : e ∈ c.inFlight := by
    rw [hflight]
    exact List.mem_cons_self
  have hrest {e' : ChatEvent} (he : e' ∈ rest) : e' ∈ c.inFlight := by
    rw [hflight]
    exact List.mem_cons_of_mem _ he
  have hapart := h.apart
  rw [hflight, List.pairwise_cons] at hapart
  have hintroduced {events : List ChatEvent} {a : UUID}
      (ha : Introduced site.deployment.py c.clientMessageId client.messages (e :: events) a) :
      Introduced site.deployment.py c.clientMessageId
        (client.applyServerEvent site.deployment.py site.dart e).messages events a :=
    ha.read hfaithful hs.messages (h.truth e hfirst) (h.shownOpen e hfirst)
  refine ⟨?_, hapart.2, ?_, ?_, h.taken, h.asked, ?_, ?_, ?_⟩
  · exact fun e' he => h.truth e' (hrest he)
  · intro e' he a ha
    exact (h.shownOpen e' (hrest he) a ha).read hfaithful.ids (hapart.1 e' he a ha)
  · intro hnone
    have hempty := h.waiting hnone
    rw [hflight] at hempty
    cases hempty
  · intro i hi a ha
    obtain ⟨hopen, hsettles⟩ := h.unfinished i hi a ha
    exact ⟨hopen.read hfaithful.ids (hsettles e hfirst),
      fun e' he => hsettles e' (hrest he)⟩
  · intro i hi p hp
    have hannounced := h.announced i hi p hp
    rw [hflight] at hannounced
    exact hintroduced hannounced
  · intro n m hn
    have hanswers := h.answers (n + 1) m
    rw [hflight, List.getElem?_cons_succ, List.take_succ_cons] at hanswers
    obtain ⟨hrole, a, hparent, ha⟩ := hanswers hn
    exact ⟨hrole, a, hparent, hintroduced ha⟩

theorem ConnectionSound.answered (h : ConnectionSound site s client.messages c)
    (hs : ChatInvariant s)
    (hfaithful : Faithful site.deployment.py site.conversationId s.store.messages client.messages)
    {m : MessageResponse} {rest : List ChatEvent} (hflight : c.inFlight = .completed m :: rest) :
    Answered c.clientMessageId
      (client.applyServerEvent site.deployment.py site.dart (.completed m)).messages := by
  have hfirst : .completed m ∈ c.inFlight := by
    rw [hflight]
    exact List.mem_cons_self
  obtain ⟨hrole, a, hparent, hintroduced⟩ := h.answers 0 m (by rw [hflight]; rfl)
  rcases hintroduced with ⟨user, huser, hid, hclient, hstatus⟩ | ⟨_, _, _, hevent, -⟩
  · refine ⟨user, read_keeps hfaithful hs.messages (h.truth _ hfirst) huser hstatus
      (h.shownOpen _ hfirst), .ofResponse site.deployment.py m,
      mem_upsertAll_incoming hfaithful.ids (by simp) List.mem_cons_self, hclient, hstatus, hrole,
      ?_, (h.truth _ hfirst).2.1⟩
    rw [hid, ← Option.map_some, ← hparent]
    rfl
  · cases hevent

theorem ConnectionSound.arrive (h : ConnectionSound site s messages c) (hnone : c.request = none)
    (hs : ChatInvariant s) {arrival : Arrival} (hcarries : c.Carries site arrival)
    (hfaithful : Faithful site.deployment.py site.conversationId t.store.messages messages)
    (ht : ChatInvariant t) (hstep : s.step site.deployment (.arrive i arrival) = some t) :
    ConnectionSound site t messages { c with request := some i } := by
  have hphase := arrive_phase hstep
  have hempty := h.waiting hnone
  have honly {j : Nat} (hj : some i = some j) : j = i := (Option.some.inj hj).symm
  obtain ⟨-, hunannounced, hunfinished⟩ := start_quiet site.deployment arrival.streaming
    arrival.service (arrival.prepare site.deployment s.store).1
  refine ⟨?_, ?_, ?_, ?_, ?_, ?_, ?_, ?_, ?_⟩
  · simp [hempty]
  · simp [hempty]
  · simp [hempty]
  · rintro ⟨⟩
  · intro j hj
    rw [honly hj, hphase]
    exact start_ne_idle
  · intro j hj p hp
    rw [honly hj, hphase] at hp
    obtain ⟨-, -, hconversation, -, hclient⟩ := hcarries
    obtain ⟨-, hasked, hasked'⟩ := Arrival.prepare_inTable hs.messages (start_exchange hp)
    refine ⟨hasked.trans hconversation, ?_⟩
    rw [hasked', Option.map_some, hclient]
  · intro j hj a ha
    refine ⟨?_, by simp [hempty]⟩
    have hwrites : (t.phases i).writes = some a := by
      rw [honly hj, hphase, hunfinished] at ha
      rw [hphase, ha]
    obtain ⟨row, hrow, rfl, -, hprogress⟩ := ht.owned i a hwrites
    refine hfaithful.shownOpen ht.messages hrow fun hcompleted => ?_
    rw [hcompleted] at hprogress
    cases hprogress
  · intro j hj p hp
    rw [honly hj, hphase, hunannounced] at hp
    cases hp
  · simp [hempty]

end Connections

section Worlds

variable {site : ChatSite} {w w' : ChatWorld} {label : WorldLabel}

theorem WorldInvariant.send (h : WorldInvariant site w) (content clientMessageId : String) :
    WorldInvariant site (w.sendInternal content clientMessageId) ∧
      KeepsShown w (w.sendInternal content clientMessageId) := by
  unfold ChatWorld.sendInternal
  split
  · exact ⟨h, fun m hm _ => hm⟩
  · refine ⟨⟨h.server, h.backed, h.faithful, rfl, ?_, ?_⟩, fun m hm _ => hm⟩
    · rintro c ⟨⟩
      constructor <;> simp
    · rintro c ⟨⟩ ⟨⟩

theorem WorldInvariant.setExecutionMode (h : WorldInvariant site w) (mode : ChatExecutionMode) :
    WorldInvariant site (w.setExecutionMode mode) ∧ KeepsShown w (w.setExecutionMode mode) := by
  unfold ChatWorld.setExecutionMode
  split
  · exact ⟨h, fun m hm _ => hm⟩
  · exact ⟨⟨h.server, h.backed, h.faithful, h.sending, h.connection, h.delivered⟩,
      fun m hm _ => hm⟩

theorem WorldInvariant.retry (h : WorldInvariant site w) (failedAssistant : ChatMessage) :
    WorldInvariant site (w.retry failedAssistant) ∧ KeepsShown w (w.retry failedAssistant) := by
  unfold ChatWorld.retry
  split
  · exact ⟨h, fun m hm _ => hm⟩
  · split
    · exact ⟨h, fun m hm _ => hm⟩
    · split
      · exact ⟨h, fun m hm _ => hm⟩
      · exact h.send _ _

theorem WorldInvariant.endStream (h : WorldInvariant site w) (error : Option AppException) :
    WorldInvariant site (w.endStream error) ∧ KeepsShown w (w.endStream error) := by
  cases error with
  | none =>
      refine ⟨⟨h.server, h.backed, h.faithful, rfl, ?_, ?_⟩, fun m hm _ => hm⟩ <;> rintro c ⟨⟩
  | some error =>
      refine ⟨⟨h.server, h.backed, h.faithful.recordFailure error, rfl, ?_, ?_⟩,
        fun m hm hstatus => recordFailure_keeps error hm hstatus⟩ <;> rintro c ⟨⟩

private theorem applyServerEvent_isSending (py : PyRuntime) (dart : DartSort) (client : ChatState)
    (e : ChatEvent) : (client.applyServerEvent py dart e).isSending = client.isSending := by
  cases e <;> rfl

theorem WorldInvariant.step (h : WorldInvariant site w) (hok : w.Undisturbed label)
    (hstep : w.step site label = some w') : WorldInvariant site w' ∧ KeepsShown w w' := by
  cases label with
  | server label =>
      obtain ⟨server, hserver, rfl⟩ := Option.map_eq_some_iff.mp hstep
      refine ⟨⟨(step_invariant h.server hok hserver).1, step_backed h.server hok h.backed hserver,
        h.faithful.grows (step_grows h.server hok hserver), ?_, ?_, ?_⟩, fun m hm _ => hm⟩
      · rw [Option.isSome_map]
        exact h.sending
      · intro c hc
        obtain ⟨old, hold, rfl⟩ := Option.map_eq_some_iff.mp hc
        exact (h.connection old hold).server h.server hok h.backed hserver
      · intro c hc
        obtain ⟨old, hold, rfl⟩ := Option.map_eq_some_iff.mp hc
        rw [Connection.observe_clientMessageId, Connection.observe_receivedTerminalEvent]
        exact h.delivered old hold
  | setExecutionMode mode =>
      obtain rfl := Option.some.inj hstep
      exact h.setExecutionMode mode
  | send content clientMessageId =>
      obtain rfl := Option.some.inj hstep
      exact h.send content clientMessageId
  | retry failedAssistant =>
      obtain rfl := Option.some.inj hstep
      exact h.retry failedAssistant
  | arrive i arrival =>
      simp only [ChatWorld.step] at hstep
      split at hstep
      · cases hstep
      · rename_i c hc
        obtain ⟨⟨hnone, hcarries⟩, hstep⟩ := Option.ite_none_right_eq_some.mp hstep
        obtain ⟨server, hserver, rfl⟩ := Option.map_eq_some_iff.mp hstep
        have harrive : ReturnsOnceCommitted w.server (.arrive i arrival) := trivial
        have hinv := (step_invariant h.server harrive hserver).1
        have hfaithful := h.faithful.grows (step_grows h.server harrive hserver)
        refine ⟨⟨hinv, step_backed h.server harrive h.backed hserver, hfaithful, ?_, ?_, ?_⟩,
          fun m hm _ => hm⟩
        · rw [h.sending, hc]
          rfl
        · rintro c' ⟨⟩
          exact (h.connection c hc).arrive hnone h.server hcarries hfaithful hinv hserver
        · rintro c' ⟨⟩
          exact h.delivered c hc
  | read =>
      simp only [ChatWorld.step] at hstep
      split at hstep
      · cases hstep
      · rename_i c hc
        split at hstep
        · cases hstep
        · rename_i e rest hflight
          obtain rfl := Option.some.inj hstep
          have hsound := h.connection c hc
          have hfirst : e ∈ c.inFlight := by
            rw [hflight]
            exact List.mem_cons_self
          have htrue := hsound.truth e hfirst
          refine ⟨⟨h.server, h.backed, h.faithful.read htrue, ?_, ?_, ?_⟩, ?_⟩
          · rw [applyServerEvent_isSending, h.sending, hc]
            rfl
          · rintro c' ⟨⟩
            exact hsound.read h.server h.faithful hflight _
          · rintro c' ⟨⟩ hterminal herror
            cases e with
            | created user assistant reused => cases hterminal
            | keepAlive => exact h.delivered c hc hterminal herror
            | delta messageId text => cases hterminal
            | completed message => exact hsound.answered h.server h.faithful hflight
            | error messageId code text details => cases herror
          · intro m hm hstatus
            exact read_keeps h.faithful h.server.messages htrue hm hstatus
              (hsound.shownOpen e hfirst)
  | closed =>
      simp only [ChatWorld.step] at hstep
      split at hstep
      · cases hstep
      · obtain rfl := Option.some.inj hstep
        exact h.endStream _
  | broken error =>
      simp only [ChatWorld.step] at hstep
      split at hstep
      · cases hstep
      · obtain rfl := Option.some.inj hstep
        exact h.endStream _

theorem WorldInvariant.exec {labels : List WorldLabel} (h : WorldInvariant site w)
    (hok : AllSteps ChatWorld.Undisturbed (ChatWorld.step site) w labels)
    (hexec : exec (ChatWorld.step site) w labels = some w') :
    WorldInvariant site w' ∧ KeepsShown w w' := by
  refine ⟨exec_invariant (fun _ _ _ h hok hstep => (h.step hok hstep).1) h hok hexec, ?_⟩
  exact exec_relation (fun _ _ hm _ => hm)
    (fun _ _ _ h₁ h₂ m hm hstatus => h₂ m (h₁ m hm hstatus) hstatus)
    (fun _ _ _ h hok hstep => (WorldInvariant.step h hok hstep).1)
    (fun _ _ _ h hok hstep => (WorldInvariant.step h hok hstep).2) h hok hexec

end Worlds

/-! ## The guarantee -/

section Guarantee

variable {site : ChatSite} {w : ChatWorld} {page : Page Message} {rt : CursorRuntime}
  {settings : PageSettings} {limit : Nat} {cursor : Option String}

private theorem listMessages_faithful (py : PyRuntime) {userId conversationId : UUID}
    {store : Store}
    (hrows : WellFormed store.messages)
    (hpage : listMessages rt settings userId conversationId store limit cursor = .ok page) :
    Faithful py conversationId store.messages (page.items.map (ChatMessage.ofResponse py)) := by
  obtain ⟨position, -, hpage⟩ := bind_eq_ok hpage
  split at hpage
  · cases hpage
  · obtain rfl := Except.ok.inj hpage
    refine faithful_of_rows ?_ ?_
    · have hids : ((listPage store.messages conversationId
          (min limit settings.conversationPageSizeMax + 1) position).map Message.id).Nodup :=
        selectOrdered_nodup hrows.ids
      rw [List.map_reverse, List.nodup_reverse]
      exact hids.sublist ((List.take_sublist _ _).map Message.id)
    · intro m hm
      obtain ⟨hmem, hselected⟩ :=
        mem_of_mem_selectOrdered (List.mem_of_mem_take (List.mem_reverse.mp hm))
      rw [Bool.and_eq_true, beq_iff_eq] at hselected
      exact ⟨hselected.1, List.mem_map_of_mem hmem, fun _ => hmem⟩

theorem WorldInvariant.opened {server : Chat.ChatState} (hserver : ChatInvariant server)
    (hbacked : ∀ i, (server.phases i).Backed server.store.messages)
    (hpage : listMessages rt settings site.userId site.conversationId server.store limit cursor =
      .ok page) : WorldInvariant site (.opened site server page) where
  server := hserver
  backed := hbacked
  faithful := listMessages_faithful site.deployment.py hserver.messages hpage
  sending := rfl
  connection := by rintro c ⟨⟩
  delivered := by rintro c ⟨⟩

theorem WorldInvariant.closed {w' : ChatWorld} (h : WorldInvariant site w) {c : Connection}
    (hc : w.connection = some c) (hstep : w.step site .closed = some w')
    (herror : w'.client.streamError = none) :
    Answered c.clientMessageId w'.client.messages := by
  simp only [ChatWorld.step, hc, Option.some.injEq] at hstep
  subst hstep
  cases hterminal : c.receivedTerminalEvent with
  | false =>
      rw [hterminal] at herror
      cases herror
  | true =>
      rw [hterminal] at herror
      exact h.delivered c hc hterminal herror

end Guarantee

def WorldLabel.quiet : WorldLabel → Bool
  | .server label => label.quiet
  | _ => true

theorem WorldLabel.undisturbed {label : WorldLabel} (h : label.quiet = true) (w : ChatWorld) :
    w.Undisturbed label := by
  cases label with
  | server label => exact ChatLabel.returnsOnceCommitted h w.server
  | _ => trivial

end Astra.Client
