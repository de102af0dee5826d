import Astra.Chat.Invariants

/-!
# Starting a stream

`start_stream` commits the placeholder and then resolves the provider, outside
any handler.  When it raises in between, the placeholder stays `STREAMING`.
-/

namespace Astra.Chat

open Astra.Foundation Astra.Platform Astra.Persistence Astra.LLM Astra.Services

/-! ## When an exchange is opened -/

/--
The stored exchange leaves a reply to generate: there is no user row, or its
reply is missing or has failed.  The rows to be inserted have ids of their own.
-/
def NeedsReply (rows : List Message) (a : Arrival) : Prop :=
  ((∀ m ∈ rows, hasClientId a.conversationId (some a.request.clientMessageId) m = false) ∧
      a.gen.userMessageId ∉ rows.map Message.id ∧
      a.gen.assistantMessageId ∉ rows.map Message.id ∧
      a.gen.assistantMessageId ≠ a.gen.userMessageId) ∨
    ∃ user ∈ rows, hasClientId a.conversationId (some a.request.clientMessageId) user = true ∧
      (((∀ m ∈ rows, isReplyTo user.id m = false) ∧
          a.gen.assistantMessageId ∉ rows.map Message.id) ∨
        ∃ assistant ∈ rows, isReplyTo user.id assistant = true ∧ assistant.status = .failed)

section Locate

variable {rows : List Message} {a : Arrival}

theorem addMessage_ok {m : Message}
    (hclient : ∀ row ∈ rows, hasClientId m.conversationId m.clientMessageId row = false)
    (hid : m.id ∉ rows.map Message.id) : addMessage m rows = .ok (rows ++ [m]) := by
  have hany : rows.any (hasClientId m.conversationId m.clientMessageId) = false := by
    rw [List.any_eq_false]
    intro row hrow
    simp [hclient row hrow]
  unfold addMessage
  rw [hany]
  exact addRow_eq_ok.mpr ⟨hid, rfl⟩

theorem scalarOneOrNone_of_none {query : Message → Bool} (h : ∀ m ∈ rows, query m = false) :
    scalarOneOrNone (rows.filter query) = .ok none := by
  have hnil : rows.filter query = [] := by
    rw [List.filter_eq_nil_iff]
    intro m hm
    simp [h m hm]
  rw [hnil]
  rfl

theorem hasClientId_none (conversationId : UUID) (m : Message) :
    hasClientId conversationId none m = false := rfl

private theorem locateExchange_of_needsReply (h : WellFormed rows) (hneeds : NeedsReply rows a) :
    ∃ ex, locateExchange rows a.conversationId a.request a.streaming a.gen = .ok ex ∧
      ex.needsGeneration = true := by
  rcases hneeds with ⟨hclient, huser, hassistant, hne⟩ | ⟨user, huser, hclient, hreply⟩
  · have hadd : addMessage (newUserMessage a.gen a.conversationId a.request) rows =
        .ok (rows ++ [newUserMessage a.gen a.conversationId a.request]) :=
      addMessage_ok hclient huser
    have hadd' : addMessage
        (newAssistantMessage a.gen a.conversationId
          (newUserMessage a.gen a.conversationId a.request).id a.streaming)
        (rows ++ [newUserMessage a.gen a.conversationId a.request]) =
          .ok (rows ++ [newUserMessage a.gen a.conversationId a.request] ++
            [newAssistantMessage a.gen a.conversationId a.gen.userMessageId a.streaming]) := by
      refine addMessage_ok (fun row _ => hasClientId_none _ row) ?_
      rw [List.map_append, List.mem_append, not_or]
      exact ⟨hassistant, by simpa [newAssistantMessage, newUserMessage] using hne⟩
    refine ⟨⟨newUserMessage a.gen a.conversationId a.request,
      newAssistantMessage a.gen a.conversationId a.gen.userMessageId a.streaming, false, true,
      rows ++ [newUserMessage a.gen a.conversationId a.request] ++
        [newAssistantMessage a.gen a.conversationId a.gen.userMessageId a.streaming]⟩, ?_, rfl⟩
    simp only [locateExchange, getByClientMessageId, scalarOneOrNone_of_none hclient, bind,
      Except.bind, hadd, hadd']
    rfl
  · rcases hreply with ⟨hnone, hassistant⟩ | ⟨assistant, hassistant, hreply, hstatus⟩
    · have husers : rows.filter (hasClientId a.conversationId (some a.request.clientMessageId)) =
          [user] :=
        filter_eq_singleton h.ids huser hclient fun m hm hm' =>
          h.client_unique huser hm hclient hm'
      have hadd : addMessage (newAssistantMessage a.gen a.conversationId user.id a.streaming)
          rows = .ok (rows ++
            [newAssistantMessage a.gen a.conversationId user.id a.streaming]) :=
        addMessage_ok (fun row _ => hasClientId_none _ row) hassistant
      refine ⟨⟨user, newAssistantMessage a.gen a.conversationId user.id a.streaming, true, true,
        rows ++ [newAssistantMessage a.gen a.conversationId user.id a.streaming]⟩, ?_, rfl⟩
      have hone : scalarOneOrNone [user] = .ok (some user) := rfl
      simp only [locateExchange, getByClientMessageId, husers, hone, bind, Except.bind,
        reuseExchange, getAssistantReply, scalarOneOrNone_of_none hnone, hadd]
    · refine ⟨⟨user, resetForRetry a.streaming a.gen.now assistant, true, true,
        updateMessage assistant.id (resetForRetry a.streaming a.gen.now) rows⟩, ?_, rfl⟩
      rw [h.locate_eq huser hclient hassistant hreply, hstatus]

theorem Located.needsReply {ex : Exchange}
    (hloc : Located rows a.conversationId a.request a.streaming a.gen ex)
    (hneeds : ex.needsGeneration = true) : NeedsReply rows a := by
  cases hloc with
  | new hclient huser hassistant hne => exact Or.inl ⟨hclient, huser, hassistant, hne⟩
  | unanswered user huser hclient hreply hassistant =>
      exact Or.inr ⟨user, huser, hclient, Or.inl ⟨hreply, hassistant⟩⟩
  | replay user assistant huser hclient hassistant hreply hcompleted => cases hneeds
  | retry user assistant huser hclient hassistant hreply hfailed =>
      exact Or.inr ⟨user, huser, hclient, Or.inr ⟨assistant, hassistant, hreply, hfailed⟩⟩

private theorem listContext_ne_nil {conversationId : UUID} {limit : Nat} {m : Message}
    (hlimit : 1 ≤ limit) (hm : m ∈ rows) (hcontext : inContext conversationId m = true) :
    listContext rows conversationId limit ≠ [] := by
  have hmem : m ∈ (rows.filter (inContext conversationId)).insertionSort newestFirst :=
    (List.mem_insertionSort _).mpr (List.mem_filter.mpr ⟨hm, hcontext⟩)
  unfold listContext selectOrdered
  intro hnil
  have htake := List.reverse_eq_nil_iff.mp hnil
  rcases List.take_eq_nil_iff.mp htake with hzero | hempty
  · omega
  · rw [hempty] at hmem
    cases hmem

private theorem Located.history_ne_nil {ex : Exchange} {limit : Nat} (h : WellFormed rows)
    (hloc : Located rows a.conversationId a.request a.streaming a.gen ex) (hlimit : 1 ≤ limit) :
    listContext ex.rows a.conversationId limit ≠ [] := by
  have hwell := hloc.wellFormed h
  obtain ⟨⟨hkey, hclient⟩, -, -⟩ := hloc.exchange_mem
  obtain ⟨user, huser, heq⟩ := List.mem_map.mp hkey
  have hclient' : hasClientId a.conversationId (some a.request.clientMessageId) user = true := by
    rw [hasClientId_iff] at hclient ⊢
    simp only [messageKey, MessageKey.mk.injEq] at heq
    exact ⟨heq.2.1.trans hclient.1, heq.2.2.2.1.trans hclient.2⟩
  have hrole : user.role = .user := hwell.client_role huser hclient'
  refine listContext_ne_nil hlimit huser ?_
  simp [inContext, (hasClientId_iff.mp hclient').1, hrole, hwell.userCompleted user huser hrole]

end Locate

section Prepare

variable {d : Deployment} {store : Store} {a : Arrival}

private theorem prepareExchange_opens (h : WellFormed store.messages)
    (hadmitted : Admitted d store a)
    (hneeds : NeedsReply store.messages a) :
    ∃ p store', prepareExchange d.py d.config store a.userId a.conversationId a.request
        a.streaming a.gen = (.ok p, store') ∧ p.needsGeneration = true := by
  obtain ⟨hlength, c, hc⟩ := hadmitted
  obtain ⟨ex, hlocate, hex⟩ := locateExchange_of_needsReply h hneeds
  have hhistory := (locateExchange_located hlocate).history_ne_nil h
    d.config.chatContextMessageLimit_pos
  simp [prepareExchange, Nat.not_lt.mpr hlength, hc, hlocate, hex, buildPreparedFromContext,
    assemble, historyMessages, hhistory]

private theorem prepareExchange_admitted {p : PreparedExchange} {store' : Store}
    (h : prepareExchange d.py d.config store a.userId a.conversationId a.request a.streaming
      a.gen = (.ok p, store')) : Admitted d store a := by
  unfold prepareExchange at h
  split at h
  · cases h
  · rename_i hlength
    refine ⟨Nat.not_lt.mp hlength, ?_⟩
    split at h
    · cases h
    · exact ⟨_, ‹_›⟩

end Prepare

/-! ## What a raising call leaves behind -/

/-- The call has turned a row `STREAMING` that was not so before. -/
def LeavesStreaming (store store' : Store) : Prop :=
  ∃ m ∈ store'.messages, m.status = .streaming ∧
    ∀ m₀ ∈ store.messages, m₀.id = m.id → m₀.status ≠ .streaming

/-- The provider of the conversation cannot be resolved. -/
def Unresolvable (d : Deployment) (store : Store) (a : Arrival) : Prop :=
  ∃ c e, getOwnedConversation store.conversations a.conversationId a.userId = some c ∧
    resolveProvider d.registry d.settings
      (orDefault c.provider d.config.defaultLlmProvider) = .error e

/-- An exchange is opened, and something raises behind the commit of its placeholder. -/
def RaisesBehindCommit (d : Deployment) (store : Store) (a : Arrival) : Prop :=
  Admitted d store a ∧ NeedsReply store.messages a ∧
    ((∃ e, a.awaits = .raisedAfterCommit e) ∨
      (a.awaits = .completed ∧ a.service = .direct ∧ Unresolvable d store a))

section StartStream

variable {d : Deployment} {store : Store} {a : Arrival}

theorem not_leavesStreaming_of_eq {store' : Store} (h : store'.messages = store.messages) :
    ¬ LeavesStreaming store store' := by
  rintro ⟨m, hm, hstatus, hbefore⟩
  rw [h] at hm
  exact hbefore m hm rfl hstatus

private theorem Located.leavesStreaming {ex : Exchange} {store' : Store}
    (h : WellFormed store.messages)
    (hloc : Located store.messages a.conversationId a.request true a.gen ex)
    (hneeds : ex.needsGeneration = true) (hmessages : store'.messages = ex.rows) :
    LeavesStreaming store store' := by
  obtain ⟨hmem, -, hstatus, hfailed⟩ := hloc.opens h hneeds
  refine ⟨ex.assistantMessage, hmessages ▸ hmem, hstatus, ?_⟩
  intro m hm hid
  rw [hfailed m hm hid]
  simp

private theorem start_stream_of_ok {p : PreparedExchange} {e : Exn}
    (h : start d true a.service (.ok p) = .exited (.raised e)) :
    p.needsGeneration = true ∧ a.service = .direct ∧
      resolveProvider d.registry d.settings p.provider = .error e := by
  unfold start at h
  cases hneeds : p.needsGeneration with
  | false => simp [hneeds] at h
  | true =>
      cases hservice : a.service with
      | agent => simp [hneeds, hservice, openChunks] at h
      | direct =>
          simp only [hneeds, hservice, openChunks, if_true] at h
          cases hresolve : resolveProvider d.registry d.settings p.provider with
          | ok _ => simp [hresolve] at h
          | error e' => simp_all

private theorem raisesBehindCommit_of_leaves {e : Exn}
    (hraises : start d true a.service (a.prepare d store).1 = .exited (.raised e))
    (hleaves : LeavesStreaming store (a.prepare d store).2) : RaisesBehindCommit d store a := by
  unfold Arrival.prepare at hraises hleaves
  cases hresult : prepareExchange d.py d.config store a.userId a.conversationId a.request
    a.streaming a.gen with
  | mk result store' =>
      rw [hresult] at hraises hleaves
      cases result with
      | error e' =>
          have hmessages := prepareExchange_error hresult
          refine absurd hleaves (not_leavesStreaming_of_eq ?_)
          cases a.awaits <;> simp [awaitPrepare, hmessages]
      | ok p =>
          have hadmitted := prepareExchange_admitted hresult
          obtain ⟨c, ex, hc, hloc, hdescribes, hmessages⟩ := prepareExchange_ok hresult
          cases hawaits : a.awaits with
          | completed =>
              rw [hawaits] at hraises
              obtain ⟨hneeds, hdirect, hresolve⟩ := start_stream_of_ok hraises
              rw [hdescribes.provider] at hresolve
              exact ⟨hadmitted, hloc.needsReply (hdescribes.needsGeneration ▸ hneeds),
                Or.inr ⟨hawaits, hdirect, c, e, hc, hresolve⟩⟩
          | raisedAfterCommit e' =>
              rw [hawaits] at hleaves
              refine ⟨hadmitted, ?_, Or.inl ⟨e', hawaits⟩⟩
              cases hneeds : ex.needsGeneration with
              | true => exact hloc.needsReply hneeds
              | false =>
                  refine absurd hleaves (not_leavesStreaming_of_eq ?_)
                  cases hloc with
                  | replay => exact hmessages
                  | _ => cases hneeds
          | raisedBeforeAssembly e' =>
              rw [hawaits] at hleaves
              exact absurd hleaves (not_leavesStreaming_of_eq rfl)
          | raisedBeforeCommit e' =>
              rw [hawaits] at hleaves
              exact absurd hleaves (not_leavesStreaming_of_eq rfl)

private theorem leaves_of_raisesBehindCommit (h : WellFormed store.messages)
    (hstreaming : a.streaming = true) (hbehind : RaisesBehindCommit d store a) :
    ∃ e, start d true a.service (a.prepare d store).1 = .exited (.raised e) ∧
      LeavesStreaming store (a.prepare d store).2 := by
  obtain ⟨hadmitted, hneeds, hcause⟩ := hbehind
  obtain ⟨p, store', hprepare, hgen⟩ := prepareExchange_opens h hadmitted hneeds
  obtain ⟨c, ex, hc, hloc, hdescribes, hmessages⟩ := prepareExchange_ok hprepare
  have hleaves : LeavesStreaming store store' := by
    rw [hstreaming] at hloc
    exact hloc.leavesStreaming h (hdescribes.needsGeneration ▸ hgen) hmessages
  rcases hcause with ⟨e, hawaits⟩ | ⟨hawaits, hdirect, c', e, hc', hresolve⟩
  · refine ⟨e, ?_, ?_⟩
    · simp [Arrival.prepare, hawaits, awaitPrepare, start]
    · simpa [Arrival.prepare, hawaits, awaitPrepare, hprepare] using hleaves
  · rw [hc, Option.some.injEq] at hc'
    subst hc'
    refine ⟨e, ?_, ?_⟩
    · simp [Arrival.prepare, hawaits, awaitPrepare, hprepare, start, hgen, hdirect, openChunks,
        hdescribes.provider, hresolve]
    · simpa [Arrival.prepare, hawaits, awaitPrepare, hprepare] using hleaves

end StartStream

/-- A raising `start_stream` leaves no placeholder unless it raises behind its commit. -/
theorem start_stream_compensates_iff (d : Deployment) {labels : List ChatLabel} {s : ChatState}
    (hrun : exec (ChatState.step d) {} labels = some s) (a : Arrival)
    (hstreaming : a.streaming = true) :
    (∀ e, start d a.streaming a.service (a.prepare d s.store).1 = .exited (.raised e) →
        ¬ LeavesStreaming s.store (a.prepare d s.store).2) ↔
      ¬ RaisesBehindCommit d s.store a := by
  have hwell : WellFormed s.store.messages := (run_table hrun).messages
  rw [hstreaming]
  constructor
  · intro hkeeps hbehind
    obtain ⟨e, hraises, hleaves⟩ := leaves_of_raisesBehindCommit hwell hstreaming hbehind
    exact hkeeps e hraises hleaves
  · intro hnot e hraises hleaves
    exact hnot (raisesBehindCommit_of_leaves hraises hleaves)

def agentArrival : Arrival := { helloArrival true ⟨20, 21, 100⟩ with service := .agent }

theorem start_stream_compensates_iff_agent :
    ∃ s, exec (ChatState.step defaultDeployment) {} [openConversation10 none] = some s ∧
      ∀ e, start defaultDeployment agentArrival.streaming agentArrival.service
          (agentArrival.prepare defaultDeployment s.store).1 = .exited (.raised e) →
        ¬ LeavesStreaming s.store (agentArrival.prepare defaultDeployment s.store).2 := by
  have hrun : ∃ s, exec (ChatState.step defaultDeployment) {} [openConversation10 none] = some s :=
    ⟨_, rfl⟩
  obtain ⟨s, hs⟩ := hrun
  refine ⟨s, hs, (start_stream_compensates_iff defaultDeployment hs agentArrival rfl).mpr ?_⟩
  rintro ⟨-, -, ⟨e, hawaits⟩ | ⟨-, hdirect, -⟩⟩
  · cases hawaits
  · cases hdirect

def streamWithoutKey : List ChatLabel :=
  [openConversation10 none, .arrive 0 (helloArrival true ⟨20, 21, 100⟩),
    .arrive 1 (helloArrival true ⟨30, 31, 200⟩)]

theorem unconfigured_provider_left_streaming :
    ∃ s, exec (ChatState.step defaultDeployment) {} streamWithoutKey = some s ∧
      s.phases 0 = .exited (.raised
        (llmException "OPENAI_API_KEY is not configured." .llmNotConfigured 503)) ∧
      s.rowView 21 = some (.streaming, "") ∧
      s.phases 1 = .exited (.raised requestInProgress) :=
  ⟨_, rfl, rfl, by decide, rfl⟩

end Astra.Chat
