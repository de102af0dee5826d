import Astra.Chat.Invariants

/-!
# What the events say

The events of a stream as statements about the message table, for requests in any
interleaving: a message that an event brings as completed is a row of the table and stays
one.
-/

namespace Astra.Chat

open Astra.Foundation Astra.Platform Astra.Persistence Astra.LLM Astra.Services

/-! ## The table -/

def datedKey (m : Message) : MessageKey × Timestamp := (messageKey m, m.createdAt)

/-- Rows keep their keys, and completed rows stay as they are. -/
structure Grows (rows rows' : List Message) : Prop where
  dated : ∀ k ∈ rows.map datedKey, k ∈ rows'.map datedKey
  completed : ∀ m ∈ rows, m.status = .completed → m ∈ rows'

structure InTable (rows : List Message) (p : PreparedExchange) : Prop where
  user : p.userMessage ∈ rows
  userRole : p.userMessage.role = .user
  userCompleted : p.userMessage.status = .completed
  reply : messageKey p.assistantMessage ∈ rows.map messageKey
  replyRole : p.assistantMessage.role = .assistant
  replyParent : p.assistantMessage.parentMessageId = some p.userMessage.id
  replyConversation : p.assistantMessage.conversationId = p.userMessage.conversationId
  opened : p.needsGeneration = true → p.assistantMessage.status ≠ .completed
  replayed : p.needsGeneration = false →
    p.assistantMessage ∈ rows ∧ p.assistantMessage.status = .completed

section Table

variable {d : Deployment} {s t : ChatState} {label : ChatLabel} {rows rows' : List Message}
  {p : PreparedExchange}

theorem Grows.keys (h : Grows rows rows') :
    ∀ k ∈ rows.map messageKey, k ∈ rows'.map messageKey := by
  intro k hk
  obtain ⟨m, hm, rfl⟩ := List.mem_map.mp hk
  obtain ⟨m', hm', hkey⟩ := List.mem_map.mp (h.dated _ (List.mem_map_of_mem hm))
  exact List.mem_map.mpr ⟨m', hm', congrArg Prod.fst hkey⟩

private theorem Located.datedKey_mem {conversationId : UUID} {request : MessageSendRequest}
    {streaming : Bool} {gen : Generated} {ex : Exchange}
    (hloc : Located rows conversationId request streaming gen ex) {k : MessageKey × Timestamp}
    (hk : k ∈ rows.map datedKey) : k ∈ ex.rows.map datedKey := by
  cases hloc with
  | new hclient huser hassistant hne =>
      rw [List.map_append, List.map_append]
      exact List.mem_append_left _ (List.mem_append_left _ hk)
  | unanswered user huser hclient hreply hassistant =>
      rw [List.map_append]
      exact List.mem_append_left _ hk
  | replay user assistant huser hclient hassistant hreply hcompleted => exact hk
  | retry user assistant huser hclient hassistant hreply hfailed =>
      have hkeep : (updateMessage assistant.id (resetForRetry streaming gen.now) rows).map
          datedKey = rows.map datedKey := map_updateWhere datedKey fun _ _ _ => rfl
      exact hkeep.symm ▸ hk

private theorem StoreWrite.map_datedKey {now : Timestamp} {store store' : Store}
    (h : StoreWrite p now store store') :
    store'.messages.map datedKey = store.messages.map datedKey := by
  cases h with
  | unchanged => rfl
  | success reply =>
      cases hrow : getMessage store.messages p.assistantMessage.id with
      | none => simp only [finalizeSuccess, hrow]
      | some m =>
          rw [finalizeSuccess_messages reply now hrow]
          exact map_updateWhere datedKey fun _ _ _ => rfl
  | failure content e => exact map_updateWhere datedKey fun _ _ _ => rfl

private theorem step_datedKeys (hstep : s.step d label = some t) {k : MessageKey × Timestamp}
    (hk : k ∈ s.store.messages.map datedKey) : k ∈ t.store.messages.map datedKey := by
  cases label with
  | arrive i a =>
      obtain ⟨-, -, rfl⟩ := ChatState.step_arrive hstep
      rcases a.prepare_messages (d := d) s.store with ⟨hmessages, -⟩ | ⟨ex, hloc, hmessages, -⟩
      · exact hmessages ▸ hk
      · exact hmessages ▸ hloc.datedKey_mem hk
  | resume i input now =>
      obtain ⟨phase, store, hresume, rfl⟩ := ChatState.step_resume hstep
      obtain ⟨p, -, -, hwrite⟩ := resume_writes hresume
      exact hwrite.map_datedKey ▸ hk
  | service userId action =>
      obtain rfl := ChatState.step_service hstep
      rw [applyService_messages]
      exact hk

theorem step_grows (h : ChatInvariant s) (hok : ReturnsOnceCommitted s label)
    (hstep : s.step d label = some t) : Grows s.store.messages t.store.messages :=
  ⟨fun _ hk => step_datedKeys hstep hk, (step_invariant h hok hstep).2⟩

theorem InTable.grows (h : InTable rows p) (hrows : Grows rows rows') : InTable rows' p where
  user := hrows.completed _ h.user h.userCompleted
  userRole := h.userRole
  userCompleted := h.userCompleted
  reply := hrows.keys _ h.reply
  replyRole := h.replyRole
  replyParent := h.replyParent
  replyConversation := h.replyConversation
  opened := h.opened
  replayed hneeds := ⟨hrows.completed _ (h.replayed hneeds).1 (h.replayed hneeds).2,
    (h.replayed hneeds).2⟩

theorem InTable.distinct (h : InTable rows p) (hrows : WellFormed rows) :
    p.userMessage.id ≠ p.assistantMessage.id := by
  intro hid
  obtain ⟨row, hrow, hkey⟩ := List.mem_map.mp h.reply
  have hsame : p.userMessage = row :=
    hrows.eq_of_id_eq h.user hrow (hid.trans (congrArg MessageKey.id hkey).symm)
  have hrole : p.userMessage.role = p.assistantMessage.role := by
    rw [hsame]
    exact congrArg MessageKey.role hkey
  rw [h.userRole, h.replyRole] at hrole
  cases hrole

private theorem Located.inTable {conversationId : UUID} {request : MessageSendRequest}
    {streaming : Bool}
    {gen : Generated} {ex : Exchange} {conversation : Conversation} {config : AppConfig}
    (h : WellFormed rows) (hloc : Located rows conversationId request streaming gen ex)
    (hdescribes : Describes config conversation ex p) :
    InTable ex.rows p ∧ p.userMessage.conversationId = conversationId ∧
      p.userMessage.clientMessageId = some request.clientMessageId := by
  have hafter := hloc.wellFormed h
  obtain ⟨⟨huser, hclient⟩, hassistant, hreply⟩ := hloc.exchange_mem
  obtain ⟨row, hrow, hkey⟩ := List.mem_map.mp huser
  have hasked := hasClientId_iff.mp hclient
  have hrole : ex.userMessage.role = .user := by
    refine hafter.keys.clientRole _ huser ?_
    simp [messageKey, hasked.2]
  have hmem : ex.userMessage ∈ ex.rows ∧ ex.userMessage.status = .completed := by
    cases hloc with
    | new hnone hfresh hfresh' hne => exact ⟨by simp, rfl⟩
    | unanswered user hold hclient' hnone hfresh =>
        exact ⟨List.mem_append_left _ hold, h.userCompleted _ hold (h.client_role hold hclient')⟩
    | replay user assistant hold hclient' hassistant' hreply' hstatus =>
        exact ⟨hold, h.userCompleted _ hold (h.client_role hold hclient')⟩
    | retry user assistant hold hclient' hassistant' hreply' hstatus =>
        have hcompleted := h.userCompleted _ hold (h.client_role hold hclient')
        refine ⟨mem_updateMessage_of_ne hold ?_, hcompleted⟩
        intro hid
        rw [h.eq_of_id_eq hold hassistant' hid, hstatus] at hcompleted
        cases hcompleted
  refine ⟨⟨?_, ?_, ?_, ?_, ?_, ?_, ?_, ?_, ?_⟩, ?_⟩
  · rw [hdescribes.userMessage]
    exact hmem.1
  · rw [hdescribes.userMessage]
    exact hrole
  · rw [hdescribes.userMessage]
    exact hmem.2
  · rw [hdescribes.assistantMessage]
    exact List.mem_map_of_mem hassistant
  · rw [hdescribes.assistantMessage]
    exact (isReplyTo_iff.mp hreply).2
  · rw [hdescribes.assistantMessage, hdescribes.userMessage]
    exact (isReplyTo_iff.mp hreply).1
  · rw [hdescribes.assistantMessage, hdescribes.userMessage]
    exact hafter.reply_conversation hmem.1 hassistant hreply
  · intro hneeds
    rw [hdescribes.needsGeneration] at hneeds
    rw [hdescribes.assistantMessage, (hloc.opens h hneeds).2.2.1]
    cases streaming <;> simp [openStatus]
  · intro hneeds
    rw [hdescribes.needsGeneration] at hneeds
    rw [hdescribes.assistantMessage]
    cases hloc with
    | replay user assistant hold hclient' hassistant' hreply' hstatus =>
        exact ⟨hassistant', hstatus⟩
    | _ => cases hneeds
  · rw [hdescribes.userMessage]
    exact hasked

theorem Arrival.prepare_inTable (h : WellFormed s.store.messages) {a : Arrival}
    (hp : (a.prepare d s.store).1 = .ok p) :
    InTable (a.prepare d s.store).2.messages p ∧
      p.userMessage.conversationId = a.conversationId ∧
      p.userMessage.clientMessageId = some a.request.clientMessageId := by
  rcases a.prepare_messages (d := d) s.store with ⟨-, herror⟩ | ⟨ex, hloc, hmessages, hok⟩
  · exact (herror p hp).elim
  · obtain ⟨conversation, hdescribes⟩ := hok p hp
    rw [hmessages]
    exact hloc.inTable h hdescribes

end Table

/-! ## The phases -/

/-- The response that the phase will hand out. -/
def Phase.built : Phase → Option MessageResponse
  | .finalizing _ _ _ built _ => built
  | .completedEvent _ message => some message
  | _ => none

def Phase.unfinished : Phase → Option UUID
  | .streaming p _ _ => if p.needsGeneration then some p.assistantMessage.id else none
  | .generating p | .finalizing _ p _ _ _ | .recording _ p _ _ _ _ | .errorEvent p _ =>
      some p.assistantMessage.id
  | .idle | .completedEvent .. | .exited _ => none

def Phase.announced : Phase → Option PreparedExchange
  | .streaming _ _ .notStarted => none
  | .finalizing isStream p _ _ _ | .recording isStream p _ _ _ _ =>
      if isStream then some p else none
  | .streaming p _ _ | .completedEvent p _ | .errorEvent p _ => some p
  | .idle | .generating _ | .exited _ => none

/-- The messages that the phase carries agree with the table. -/
structure Phase.Backed (rows : List Message) (phase : Phase) : Prop where
  exchange : ∀ p, phase.exchange = some p → InTable rows p
  built : ∀ p m, phase.exchange = some p → phase.built = some m →
    m ∈ rows ∧ m.status = .completed ∧ m.id = p.assistantMessage.id

section Phases

variable {d : Deployment} {s t : ChatState} {label : ChatLabel} {rows rows' : List Message}
  {phase phase' : Phase} {store store' : Store} {now : Timestamp} {input : Input}

theorem Phase.Backed.grows (h : phase.Backed rows) (hrows : Grows rows rows') :
    phase.Backed rows' where
  exchange p hp := (h.exchange p hp).grows hrows
  built p m hp hm := by
    obtain ⟨hmem, hcompleted, hid⟩ := h.built p m hp hm
    exact ⟨hrows.completed m hmem hcompleted, hcompleted, hid⟩

theorem Phase.Backed.of_quiet (hexchange : ∀ p, phase.exchange = some p → InTable rows p)
    (hbuilt : phase.built = none) : phase.Backed rows := by
  refine ⟨hexchange, fun p m _ hm => ?_⟩
  rw [hbuilt] at hm
  cases hm

theorem RequestStep.built {p : PreparedExchange} {m : MessageResponse}
    (h : RequestStep store now phase input phase' store') (hbacked : phase.Backed store.messages)
    (hgrows : Grows store.messages store'.messages) (hp : phase'.exchange = some p)
    (hm : phase'.built = some m) :
    m ∈ store'.messages ∧ m.status = .completed ∧ m.id = p.assistantMessage.id := by
  have hcompletes {p : PreparedExchange} (reply : FinalReply) {row : Message}
      (hrow : getMessage store.messages p.assistantMessage.id = some row) :
      completeMessage reply now row ∈
          (finalizeSuccess reply p.assistantMessage.id now store).messages ∧
        (completeMessage reply now row).status = .completed ∧
        (completeMessage reply now row).id = p.assistantMessage.id := by
    obtain ⟨hmem, hid⟩ := getMessage_mem hrow
    rw [finalizeSuccess_messages reply now hrow]
    exact ⟨mem_updateMessage_self hmem hid, rfl, hid⟩
  cases h with
  | streams p' locals point input phase' hstream =>
      cases hstream with
      | replays hneeds hinput =>
          cases hp
          cases hm
          obtain ⟨hmem, hcompleted⟩ := (hbacked.exchange p rfl).replayed hneeds
          exact ⟨hmem, hcompleted, rfl⟩
      | _ => cases hm
  | finalCommits streaming p' reply row hrow =>
      cases hp
      cases hm
      exact hcompletes reply hrow
  | finalCommitsRaising streaming p' reply row hrow e he =>
      cases hp
      cases hm
      exact hcompletes reply hrow
  | finalUnwinds streaming p' reply built result e he =>
      cases hp
      exact hbacked.built p m rfl hm
  | finalReturns streaming p' reply message =>
      cases streaming with
      | false => cases hp
      | true =>
          cases hp
          exact hbacked.built p m rfl hm
  | recordReturns streaming p' content caught handler =>
      cases handler <;> cases streaming <;> cases hm
  | recordRaises streaming p' content caught handler stage result e hbefore =>
      cases handler <;> cases hm
  | _ => cases hm

private theorem resume_backed (hsound : phase.Sound)
    (hrow : ∀ p, phase.exchange = some p → ∃ m, getMessage store.messages p.assistantMessage.id =
      some m)
    (h : resume store phase input now = some (phase', store'))
    (hbacked : phase.Backed store.messages)
    (hgrows : Grows store.messages store'.messages) : phase'.Backed store'.messages := by
  refine ⟨fun p hp => ?_, fun p m hp hm => ?_⟩
  · obtain ⟨p', hp', hkeeps, -⟩ := resume_writes h
    rcases hkeeps with hsame | ⟨outcome, rfl⟩
    · obtain rfl := Option.some.inj (hsame.symm.trans hp)
      exact (hbacked.exchange _ hp').grows hgrows
    · cases hp
  · exact (resume_cases hsound hrow h).built hbacked hgrows hp hm

private theorem start_cases (d : Deployment) (streaming : Bool) (service : ChatExecutionMode)
    (result : Except Exn PreparedExchange) :
    (∃ outcome, start d streaming service result = .exited outcome) ∨
      ∃ p, start d streaming service result = .generating p ∨
        start d streaming service result = .streaming p {} .notStarted := by
  unfold start
  cases result with
  | error e => exact Or.inl ⟨_, rfl⟩
  | ok p =>
      simp only
      split <;> split <;> try split
      all_goals first
        | exact Or.inl ⟨_, rfl⟩
        | exact Or.inr ⟨p, Or.inl rfl⟩
        | exact Or.inr ⟨p, Or.inr rfl⟩

theorem start_quiet (d : Deployment) (streaming : Bool) (service : ChatExecutionMode)
    (result : Except Exn PreparedExchange) :
    (start d streaming service result).built = none ∧
      (start d streaming service result).announced = none ∧
      (start d streaming service result).unfinished =
        (start d streaming service result).writes := by
  rcases start_cases d streaming service result with ⟨outcome, hstart⟩ | ⟨p, hstart | hstart⟩
  all_goals
    rw [hstart]
    exact ⟨rfl, rfl, rfl⟩

theorem step_backed (h : ChatInvariant s) (hok : ReturnsOnceCommitted s label)
    (hbacked : ∀ i, (s.phases i).Backed s.store.messages) (hstep : s.step d label = some t) :
    ∀ i, (t.phases i).Backed t.store.messages := by
  have hgrows := step_grows h hok hstep
  have hothers {i : Nat} {phase : Phase} {store : Store}
      (hrows : Grows s.store.messages store.messages) (hphase : phase.Backed store.messages)
      (j : Nat) : (Function.update s.phases i phase j).Backed store.messages := by
    by_cases hji : j = i
    · subst hji
      rw [Function.update_self]
      exact hphase
    · rw [Function.update_of_ne hji]
      exact (hbacked j).grows hrows
  cases label with
  | arrive i a =>
      obtain ⟨-, -, rfl⟩ := ChatState.step_arrive hstep
      refine hothers hgrows (.of_quiet (fun p hp => ?_) (start_quiet d _ _ _).1)
      exact (Arrival.prepare_inTable h.messages (start_exchange hp)).1
  | resume i input now =>
      obtain ⟨phase, store, hresume, rfl⟩ := ChatState.step_resume hstep
      exact hothers hgrows (resume_backed (h.sound i) (h.table.row i) hresume (hbacked i) hgrows)
  | service userId action =>
      obtain rfl := ChatState.step_service hstep
      exact fun i => (hbacked i).grows hgrows

theorem RequestStep.unfinished {a : UUID} (h : RequestStep store now phase input phase' store')
    (hunfinished : phase'.unfinished = some a) : phase.unfinished = some a := by
  cases h with
  | streams p locals point input phase' hstream =>
      cases hstream with
      | stays locals' point' hsound' hinput => exact hunfinished
      | replays hneeds hinput => cases hunfinished
      | finishes reply hneeds hinput => simpa [Phase.unfinished, hneeds] using hunfinished
      | catches content e handler hneeds he hinput =>
          simpa [Phase.unfinished, hneeds] using hunfinished
      | closes hclose => cases hunfinished
  | finalReturns streaming p reply message => cases streaming <;> cases hunfinished
  | recordReturns streaming p content caught handler =>
      cases handler with
      | plain =>
          cases streaming with
          | false => cases hunfinished
          | true => exact hunfinished
      | _ => cases hunfinished
  | recordRaises streaming p content caught handler stage result e hbefore =>
      cases handler <;> cases hunfinished
  | sendRaises p reply built stage result e hbefore => cases hunfinished
  | ends phase input outcome hevent => cases hunfinished
  | _ => exact hunfinished

private theorem resumeStream_first {p : PreparedExchange} {locals : StreamLocals}
    (h : resumeStream p locals .notStarted input = some phase') :
    phase' = .streaming p locals .created ∨ ∃ outcome, phase' = .exited outcome := by
  cases input <;> simp only [resumeStream, Option.some.injEq, reduceCtorEq] at h
  · exact Or.inl h.symm
  · exact Or.inr ⟨_, h.symm⟩

theorem Phase.exchange_of_announced {p : PreparedExchange} (h : phase.announced = some p) :
    phase.exchange = some p := by
  cases phase with
  | streaming p' locals point => cases point <;> first | exact h | cases h
  | finalizing isStream p' reply built stage => cases isStream <;> first | exact h | cases h
  | recording isStream p' content caught handler stage =>
      cases isStream <;> first | exact h | cases h
  | completedEvent p' message => exact h
  | errorEvent p' caught => exact h
  | _ => cases h

private theorem Phase.announced_streaming {p : PreparedExchange} {locals : StreamLocals}
    {point : StreamPoint} (hpoint : point ≠ .notStarted) :
    (Phase.streaming p locals point).announced = some p := by
  cases point <;> first | rfl | exact absurd rfl hpoint

theorem StreamStep.announced {p q : PreparedExchange} (h : StreamStep p input phase')
    (hannounced : phase'.announced = some q) : q = p := by
  cases h with
  | stays locals point hsound hinput =>
      cases point <;> cases hannounced <;> rfl
  | closes hclose => cases hannounced
  | _ =>
      cases hannounced
      rfl

theorem RequestStep.announced {p : PreparedExchange}
    (h : RequestStep store now phase input phase' store')
    (hstarted : ∀ p locals, phase ≠ .streaming p locals .notStarted)
    (hannounced : phase'.announced = some p) : phase.announced = some p := by
  cases h with
  | streams p' locals point input phase' hstream =>
      rw [hstream.announced hannounced]
      refine Phase.announced_streaming ?_
      rintro rfl
      exact hstarted p' locals rfl
  | finalReturns streaming p' reply message => cases streaming <;> exact hannounced
  | recordReturns streaming p' content caught handler =>
      cases handler <;> cases streaming <;> first | exact hannounced | cases hannounced
  | recordRaises streaming p' content caught handler stage result e hbefore =>
      cases handler <;> cases hannounced
  | ends phase input outcome hevent => cases hannounced
  | _ => exact hannounced

theorem resume_announced {p : PreparedExchange} (hsound : phase.Sound)
    (hrow : ∀ p, phase.exchange = some p → ∃ m, getMessage store.messages p.assistantMessage.id =
      some m)
    (h : resume store phase input now = some (phase', store'))
    (hannounced : phase'.announced = some p) :
    phase.announced = some p ∨
      phase'.event = some (.created p.userMessage p.assistantMessage p.reused) := by
  by_cases hstarted : ∀ p locals, phase ≠ .streaming p locals .notStarted
  · exact Or.inl ((resume_cases hsound hrow h).announced hstarted hannounced)
  · simp only [ne_eq, not_forall, not_not] at hstarted
    obtain ⟨p', locals, rfl⟩ := hstarted
    unfold resume at h
    split at h
    · obtain ⟨phase'', hstream, heq⟩ := Option.map_eq_some_iff.mp h
      cases heq
      rcases resumeStream_first hstream with rfl | ⟨outcome, rfl⟩
      · cases hannounced
        exact Or.inr rfl
      · cases hannounced
    · cases h

end Phases

/-! ## The events -/

/-- The event holds of the table, in which its messages belong to the conversation. -/
def ChatEvent.TrueIn (rows : List Message) (conversationId : UUID) : ChatEvent → Prop
  | .created user assistant _ =>
      user ∈ rows ∧ user.status = .completed ∧ user.conversationId = conversationId ∧
        messageKey assistant ∈ rows.map messageKey ∧ assistant.conversationId = conversationId ∧
        (assistant.status = .completed → assistant ∈ rows) ∧ user.id ≠ assistant.id
  | .completed message =>
      message ∈ rows ∧ message.status = .completed ∧ message.conversationId = conversationId
  | .keepAlive | .delta .. | .error .. => True

def ChatEvent.reopens : ChatEvent → Option UUID
  | .created _ assistant _ => if assistant.status = .completed then none else some assistant.id
  | .delta messageId _ | .error messageId _ _ _ => some messageId
  | .keepAlive | .completed _ => none

def ChatEvent.settles : ChatEvent → List UUID
  | .created user assistant _ =>
      user.id :: if assistant.status = .completed then [assistant.id] else []
  | .completed message => [message.id]
  | .keepAlive | .delta .. | .error .. => []

section Events

variable {rows rows' : List Message} {conversationId a : UUID} {phase : Phase} {e : ChatEvent}

theorem ChatEvent.TrueIn.grows (h : e.TrueIn rows conversationId) (hrows : Grows rows rows') :
    e.TrueIn rows' conversationId := by
  cases e with
  | created user assistant reused =>
      obtain ⟨huser, hcompleted, hconversation, hkey, hconversation', hreply, hne⟩ := h
      exact ⟨hrows.completed _ huser hcompleted, hcompleted, hconversation, hrows.keys _ hkey,
        hconversation', fun hstatus => hrows.completed _ (hreply hstatus) hstatus, hne⟩
  | completed message =>
      obtain ⟨hmem, hcompleted, hconversation⟩ := h
      exact ⟨hrows.completed _ hmem hcompleted, hcompleted, hconversation⟩
  | _ => trivial

theorem Phase.Backed.completed_key {p : PreparedExchange} {m : MessageResponse}
    (h : (Phase.completedEvent p m).Backed rows) (hrows : WellFormed rows) :
    messageKey m = messageKey p.assistantMessage := by
  obtain ⟨hmem, -, hid⟩ := h.built p m rfl rfl
  obtain ⟨row, hrow, hkey⟩ := List.mem_map.mp (h.exchange p rfl).reply
  rw [hrows.eq_of_id_eq hmem hrow (hid.trans (congrArg MessageKey.id hkey).symm)]
  exact hkey

theorem event_trueIn (hrows : WellFormed rows) (hbacked : phase.Backed rows)
    (hconversation : ∀ p, phase.exchange = some p → p.userMessage.conversationId = conversationId)
    (hevent : phase.event = some e) : e.TrueIn rows conversationId := by
  cases phase with
  | streaming p locals point =>
      have htable := hbacked.exchange p rfl
      cases point with
      | created =>
          cases hevent
          refine ⟨htable.user, htable.userCompleted, hconversation p rfl, htable.reply,
            htable.replyConversation.trans (hconversation p rfl), ?_, htable.distinct hrows⟩
          intro hcompleted
          cases hneeds : p.needsGeneration with
          | false => exact (htable.replayed hneeds).1
          | true => exact absurd hcompleted (htable.opened hneeds)
      | keepAlive =>
          cases hevent
          trivial
      | delta text =>
          cases hevent
          trivial
      | _ => cases hevent
  | completedEvent p message =>
      cases hevent
      obtain ⟨hmem, hcompleted, -⟩ := hbacked.built p message rfl rfl
      refine ⟨hmem, hcompleted, ?_⟩
      rw [← hconversation p rfl, ← (hbacked.exchange p rfl).replyConversation]
      exact congrArg MessageKey.conversationId (hbacked.completed_key hrows)
  | errorEvent p caught =>
      cases hevent
      cases caught <;> trivial
  | _ => cases hevent

theorem event_answers {m : MessageResponse} (hrows : WellFormed rows) (hbacked : phase.Backed rows)
    (hevent : phase.event = some (.completed m)) :
    ∃ p, phase.announced = some p ∧ m.role = .assistant ∧
      m.parentMessageId = some p.userMessage.id := by
  cases phase with
  | completedEvent p message =>
      cases hevent
      have hkey := hbacked.completed_key hrows
      refine ⟨p, rfl, ?_, ?_⟩
      · rw [← (hbacked.exchange p rfl).replyRole]
        exact congrArg MessageKey.role hkey
      · rw [← (hbacked.exchange p rfl).replyParent]
        exact congrArg MessageKey.parentMessageId hkey
  | streaming p locals point => cases point <;> cases hevent
  | errorEvent p caught => cases caught <;> cases hevent
  | _ => cases hevent

theorem event_reopens (hsound : phase.Sound) (hbacked : phase.Backed rows)
    (hevent : phase.event = some e) (hreopens : e.reopens = some a) :
    phase.unfinished = some a := by
  cases phase with
  | streaming p locals point =>
      cases point with
      | created =>
          cases hevent
          obtain ⟨hopen, hid⟩ := Option.ite_none_left_eq_some.mp hreopens
          cases hneeds : p.needsGeneration with
          | false => exact absurd ((hbacked.exchange p rfl).replayed hneeds).2 hopen
          | true => simpa [Phase.unfinished, hneeds] using hid
      | delta text =>
          cases hevent
          have hneeds : p.needsGeneration = true := hsound.1 (by simp) (by simp)
          rw [Phase.unfinished, hneeds]
          exact hreopens
      | keepAlive =>
          cases hevent
          cases hreopens
      | _ => cases hevent
  | completedEvent p message =>
      cases hevent
      cases hreopens
  | errorEvent p caught =>
      cases hevent
      cases caught <;> exact hreopens
  | _ => cases hevent

theorem event_settles (hrows : WellFormed rows) (hbacked : phase.Backed rows)
    (hevent : phase.event = some e) (hunfinished : phase.unfinished = some a) :
    a ∉ e.settles := by
  cases phase with
  | streaming p locals point =>
      obtain ⟨hneeds, hid⟩ := Option.ite_none_right_eq_some.mp hunfinished
      have htable := hbacked.exchange p rfl
      cases point with
      | created =>
          cases hevent
          have hne := htable.distinct hrows
          have hopen := htable.opened hneeds
          rw [Option.some.injEq] at hid
          simp only [ChatEvent.settles, if_neg hopen, List.mem_singleton]
          rw [← hid]
          exact hne.symm
      | delta text =>
          cases hevent
          exact List.not_mem_nil
      | keepAlive =>
          cases hevent
          exact List.not_mem_nil
      | _ => cases hevent
  | completedEvent p message => cases hunfinished
  | errorEvent p caught =>
      cases hevent
      cases caught <;> exact List.not_mem_nil
  | _ => cases hevent

end Events

end Astra.Chat
