import Astra.Chat.Invariants

/-!
# Idempotent requests

One user row for each client id, one assistant row for each user row, one
generation at a time for each assistant row, and no generation for a reply that
is complete: a later request with its client id is answered from the table.
-/

namespace Astra.Chat

open Astra.Foundation Astra.Platform Astra.Persistence Astra.LLM Astra.Services

/-! ## A request that does not generate -/

section Quiet

variable {d : Deployment} {s t : ChatState} {i : Nat} {labels : List ChatLabel}

/-- The request has arrived and writes no row. -/
def ChatState.Settled (i : Nat) (s : ChatState) : Prop :=
  s.phases i ≠ .idle ∧ (s.phases i).writes = none

theorem resume_settled (h : ChatInvariant s) {input : Input} {now : Timestamp}
    (hok : uninterrupted (s.phases i) input) {phase : Phase} {store : Store}
    (hsettled : s.Settled i)
    (hstep : resume s.store (s.phases i) input now = some (phase, store)) :
    phase ≠ .idle ∧ phase.writes = none := by
  obtain ⟨hidle, hwrites⟩ := hsettled
  have hcases := resume_cases (h.sound i) (h.table.row i) hstep
  obtain ⟨heffect, -⟩ := hcases.effect (h.returning i) hok
  refine ⟨resume_ne_idle hstep, ?_⟩
  cases heffect with
  | quiet hquiet =>
      rcases hquiet with hquiet | hquiet
      · rw [hquiet, hwrites]
      · exact hquiet
  | completes a reply howner hdone => exact hdone
  | fails a content e howner hdone => exact hdone

theorem step_settled (h : ChatInvariant s) {label : ChatLabel} (hok : ReturnsOnceCommitted s label)
    (hsettled : s.Settled i) (hstep : s.step d label = some t) : t.Settled i := by
  cases label with
  | arrive j a =>
      obtain ⟨hidle, -, rfl⟩ := ChatState.step_arrive hstep
      have hij : i ≠ j := by
        rintro rfl
        exact hsettled.1 hidle
      simpa [ChatState.Settled, hij] using hsettled
  | resume j input now =>
      obtain ⟨phase, store, hresume, rfl⟩ := ChatState.step_resume hstep
      by_cases hij : i = j
      · subst hij
        simpa [ChatState.Settled] using resume_settled h hok hsettled hresume
      · simpa [ChatState.Settled, hij] using hsettled
  | service userId action =>
      obtain rfl := ChatState.step_service hstep
      exact hsettled

theorem run_settled (h : ChatInvariant s)
    (hok : AllSteps ReturnsOnceCommitted (ChatState.step d) s labels)
    (hsettled : s.Settled i) (hrun : exec (ChatState.step d) s labels = some t) : t.Settled i := by
  have hstep (s : ChatState) (label : ChatLabel) (t : ChatState)
      (hinv : ChatInvariant s ∧ s.Settled i) (hok : ReturnsOnceCommitted s label)
      (hstep : s.step d label = some t) : ChatInvariant t ∧ t.Settled i :=
    ⟨(step_invariant hinv.1 hok hstep).1, step_settled hinv.1 hok hinv.2 hstep⟩
  exact (exec_invariant hstep ⟨h, hsettled⟩ hok hrun).2

end Quiet

/-! ## Replay of a completed exchange -/

/-- The request is answered with the stored rows and `reused = true`. -/
def Replays (streaming : Bool) (user assistant : Message) (phase : Phase) : Prop :=
  if streaming then
    ∃ p, phase = .streaming p {} .notStarted ∧ p.needsGeneration = false ∧
      p.userMessage = user ∧ p.assistantMessage = assistant ∧ p.reused = true
  else phase = .exited (.returned ⟨user, assistant, true⟩)

theorem Replays.events {user assistant : Message} {phase : Phase}
    (h : Replays true user assistant phase) (store : Store) (now : Timestamp) :
    ∃ created completed, resume store phase .next now = some (created, store) ∧
      created.event = some (.created user assistant true) ∧
      resume store created .next now = some (completed, store) ∧
      completed.event = some (.completed assistant) := by
  simp only [Replays, if_true] at h
  obtain ⟨p, rfl, hneeds, rfl, rfl, hreused⟩ := h
  refine ⟨.streaming p {} .created, .completedEvent p p.assistantMessage, rfl, ?_, ?_, rfl⟩
  · simp [Phase.event, hreused]
  · simp [resume, Input.deliverable, resumeStream, hneeds]

section Replay

variable {d : Deployment} {store : Store} {a : Arrival} {user assistant : Message}

private theorem prepareExchange_replay (h : WellFormed store.messages)
    (hadmitted : Admitted d store a)
    (huser : user ∈ store.messages)
    (hclient : hasClientId a.conversationId (some a.request.clientMessageId) user = true)
    (hassistant : assistant ∈ store.messages) (hreply : isReplyTo user.id assistant = true)
    (hstatus : assistant.status = .completed) :
    ∃ p, prepareExchange d.py d.config store a.userId a.conversationId a.request a.streaming
        a.gen = (.ok p, store) ∧
      p.needsGeneration = false ∧ p.userMessage = user ∧ p.assistantMessage = assistant ∧
      p.reused = true := by
  obtain ⟨hlength, c, hc⟩ := hadmitted
  have hlocate : locateExchange store.messages a.conversationId a.request a.streaming a.gen =
      .ok ⟨user, assistant, true, false, store.messages⟩ := by
    rw [h.locate_eq huser hclient hassistant hreply, hstatus]
  simp [prepareExchange, Nat.not_lt.mpr hlength, hc, hlocate, buildPreparedFromContext]

private theorem start_replays (h : WellFormed store.messages) (hadmitted : Admitted d store a)
    (hawaits : a.awaits = .completed) (huser : user ∈ store.messages)
    (hclient : hasClientId a.conversationId (some a.request.clientMessageId) user = true)
    (hassistant : assistant ∈ store.messages) (hreply : isReplyTo user.id assistant = true)
    (hstatus : assistant.status = .completed) :
    Replays a.streaming user assistant (start d a.streaming a.service (a.prepare d store).1) := by
  obtain ⟨p, hp, hneeds, rfl, rfl, hreused⟩ :=
    prepareExchange_replay h hadmitted huser hclient hassistant hreply hstatus
  simp only [Arrival.prepare, hawaits, awaitPrepare, hp, start, hneeds, Bool.false_eq_true,
    if_false, Replays]
  cases hs : a.streaming
  · simp
  · simpa using ⟨hneeds, hreused⟩

private theorem start_rejects (hadmitted : ¬ Admitted d store a) (hawaits : a.awaits = .completed) :
    start d a.streaming a.service (a.prepare d store).1 =
      .exited (.raised (if d.config.chatMaxMessageLength < a.request.content.length then
        messageTooLong d.config else conversationNotFound)) := by
  simp only [Arrival.prepare, hawaits, awaitPrepare, prepareExchange]
  by_cases hlength : d.config.chatMaxMessageLength < a.request.content.length
  · simp [hlength, start]
  · have hnone : getOwnedConversation store.conversations a.conversationId a.userId = none := by
      cases hc : getOwnedConversation store.conversations a.conversationId a.userId with
      | none => rfl
      | some c => exact absurd ⟨Nat.not_lt.mp hlength, c, hc⟩ hadmitted
    simp [hlength, hnone, start]

theorem start_settled (h : WellFormed store.messages) (huser : user ∈ store.messages)
    (hclient : hasClientId a.conversationId (some a.request.clientMessageId) user = true)
    (hassistant : assistant ∈ store.messages) (hreply : isReplyTo user.id assistant = true)
    (hstatus : assistant.status = .completed) :
    (start d a.streaming a.service (a.prepare d store).1).writes = none := by
  cases hwrites : (start d a.streaming a.service (a.prepare d store).1).writes with
  | none => rfl
  | some b =>
      obtain ⟨p, hp, hneeds, -⟩ := start_writes hwrites
      rcases a.prepare_messages (d := d) store with ⟨-, herror⟩ | ⟨ex, hloc, -, hok⟩
      · exact (herror p hp).elim
      · obtain ⟨c, hdescribes⟩ := hok p hp
        rw [hdescribes.needsGeneration,
          hloc.not_needsGeneration h huser hclient hassistant hreply hstatus] at hneeds
        cases hneeds

end Replay

/-! ## The guarantee -/

/-- A stored exchange with the client id of a request. -/
structure StoredExchange (store : Store) (conversationId clientMessageId : UUID)
    (user assistant : Message) : Prop where
  user_mem : user ∈ store.messages
  client : hasClientId conversationId (some clientMessageId) user = true
  assistant_mem : assistant ∈ store.messages
  reply : isReplyTo user.id assistant = true
  completed : assistant.status = .completed

private theorem StoredExchange.persists {d : Deployment} {s t : ChatState} {labels : List ChatLabel}
    {conversationId clientMessageId : UUID} {user assistant : Message} (hs : ChatInvariant s)
    (hok : AllSteps ReturnsOnceCommitted (ChatState.step d) s labels)
    (hrun : exec (ChatState.step d) s labels = some t)
    (h : StoredExchange s.store conversationId clientMessageId user assistant) :
    StoredExchange t.store conversationId clientMessageId user assistant where
  user_mem := by
    have hrole : user.role = .user := by
      refine hs.messages.keys.clientRole _ (List.mem_map_of_mem h.user_mem) ?_
      simp [messageKey, (hasClientId_iff.mp h.client).2]
    exact run_keepsCompleted hs hok hrun user h.user_mem
      (hs.messages.userCompleted user h.user_mem hrole)
  client := h.client
  assistant_mem := run_keepsCompleted hs hok hrun assistant h.assistant_mem h.completed
  reply := h.reply
  completed := h.completed

theorem requests_idempotent (d : Deployment) {labels : List ChatLabel} {s : ChatState}
    (hrun : exec (ChatState.step d) {} labels = some s)
    (hok : AllSteps ReturnsOnceCommitted (ChatState.step d) {} labels) :
    (∀ conversationId clientMessageId, ∀ m ∈ s.store.messages, ∀ m' ∈ s.store.messages,
        hasClientId conversationId (some clientMessageId) m = true →
        hasClientId conversationId (some clientMessageId) m' = true → m' = m) ∧
      (∀ userMessageId, ∀ m ∈ s.store.messages, ∀ m' ∈ s.store.messages,
        isReplyTo userMessageId m = true → isReplyTo userMessageId m' = true → m' = m) ∧
      (∀ i j a, (s.phases i).inFlight = some a → (s.phases j).inFlight = some a → i = j) ∧
      ∀ conversationId clientMessageId user assistant,
        StoredExchange s.store conversationId clientMessageId user assistant →
        ∀ later t i arrival u, exec (ChatState.step d) s later = some t →
          AllSteps ReturnsOnceCommitted (ChatState.step d) s later →
          arrival.conversationId = conversationId →
          arrival.request.clientMessageId = clientMessageId →
          t.step d (.arrive i arrival) = some u →
            (∀ rest v, exec (ChatState.step d) u rest = some v →
              AllSteps ReturnsOnceCommitted (ChatState.step d) u rest →
              (v.phases i).inFlight = none) ∧
            (arrival.awaits = .completed →
              (Admitted d t.store arrival →
                Replays arrival.streaming user assistant (u.phases i)) ∧
              (¬ Admitted d t.store arrival →
                u.phases i = .exited (.raised
                  (if d.config.chatMaxMessageLength < arrival.request.content.length then
                    messageTooLong d.config else conversationNotFound)))) := by
  have hs : ChatInvariant s := run_invariant ChatInvariant.initial hok hrun
  refine ⟨?_, ?_, ?_, ?_⟩
  · intro conversationId clientMessageId m hm m' hm' hid hid'
    exact hs.messages.client_unique hm hm' hid hid'
  · intro userMessageId m hm m' hm' hid hid'
    exact hs.messages.reply_unique hm hm' hid hid'
  · intro i j a hi hj
    exact hs.unique i j a (Phase.writes_of_inFlight hi) (Phase.writes_of_inFlight hj)
  · rintro _ _ user assistant hstored later t i arrival u hlater hokLater rfl rfl harrive
    have ht : ChatInvariant t := run_invariant hs hokLater hlater
    obtain ⟨huser, hclient, hassistant, hreply, hstatus⟩ := hstored.persists hs hokLater hlater
    have hokArrive : ReturnsOnceCommitted t (.arrive i arrival) := trivial
    have hu : ChatInvariant u := (step_invariant ht hokArrive harrive).1
    have hphase : u.phases i = start d arrival.streaming arrival.service
        (arrival.prepare d t.store).1 := arrive_phase harrive
    refine ⟨?_, ?_⟩
    · intro rest v hrest hokRest
      have hsettled : u.Settled i := by
        rw [ChatState.Settled, hphase]
        exact ⟨start_ne_idle, start_settled ht.messages huser hclient hassistant hreply hstatus⟩
      cases hflight : (v.phases i).inFlight with
      | none => rfl
      | some b =>
          have hwrites := (run_settled hu hokRest hsettled hrest).2
          rw [Phase.writes_of_inFlight hflight] at hwrites
          cases hwrites
    · intro hawaits
      rw [hphase]
      exact ⟨fun hadmitted => start_replays ht.messages hadmitted hawaits huser hclient hassistant
        hreply hstatus, fun hrejected => start_rejects hrejected hawaits⟩

theorem streamToCommit_stored {s : ChatState}
    (hs : exec (ChatState.step defaultDeployment) {} (streamToCommit .done) = some s) :
    ∃ user assistant, StoredExchange s.store 10 5 user assistant ∧ assistant.content = "Hi" := by
  have hview : ((exec (ChatState.step defaultDeployment) {} (streamToCommit .done)).map
      fun s => s.store.messages.map fun m => (messageKey m, m.status, m.content)) =
        some [(⟨20, 10, none, some 5, .user⟩, .completed, "Hello"),
          (⟨21, 10, some 20, none, .assistant⟩, .completed, "Hi")] := by decide
  rw [hs, Option.map_some, Option.some.injEq] at hview
  obtain ⟨user, rest, hrows, huser, hview⟩ := List.map_eq_cons_iff.mp hview
  obtain ⟨assistant, rest', hrest, hassistant, hview⟩ := List.map_eq_cons_iff.mp hview
  simp only [Prod.mk.injEq, messageKey, MessageKey.mk.injEq] at huser hassistant
  refine ⟨user, assistant, ⟨?_, ?_, ?_, ?_, hassistant.2.1⟩, hassistant.2.2⟩
  · simp [hrows]
  · simp [hasClientId_iff, huser]
  · simp [hrows, hrest]
  · simp [isReplyTo_iff, huser, hassistant]

theorem requests_idempotent_replay :
    ∃ s u user assistant,
      exec (ChatState.step defaultDeployment) {} (streamToCommit .done) = some s ∧
        s.step defaultDeployment (.arrive 1 (helloArrival false ⟨30, 31, 200⟩)) = some u ∧
        assistant.content = "Hi" ∧ u.phases 1 = .exited (.returned ⟨user, assistant, true⟩) := by
  have hview : ((exec (ChatState.step defaultDeployment) {} (streamToCommit .done)).bind
      fun s => (s.step defaultDeployment (.arrive 1 (helloArrival false ⟨30, 31, 200⟩))).map
        fun _ => (getOwnedConversation s.store.conversations 10 1).isSome) = some true := by decide
  obtain ⟨s, hs, hstep⟩ := Option.bind_eq_some_iff.mp hview
  obtain ⟨u, hu, howned⟩ := Option.map_eq_some_iff.mp hstep
  obtain ⟨user, assistant, hstored, hcontent⟩ := streamToCommit_stored hs
  have hadmitted : Admitted defaultDeployment s.store (helloArrival false ⟨30, 31, 200⟩) :=
    ⟨by decide, Option.isSome_iff_exists.mp howned⟩
  obtain ⟨-, -, -, hreplay⟩ :=
    requests_idempotent defaultDeployment hs (allSteps_of_quiet (by decide) _)
  have hanswer := (hreplay 10 5 user assistant hstored [] s 1 (helloArrival false ⟨30, 31, 200⟩) u
    (exec_nil s) trivial rfl rfl hu).2 rfl
  exact ⟨s, u, user, assistant, hs, hu, hcontent, hanswer.1 hadmitted⟩

def foreignResend : ChatLabel := .arrive 1 { helloArrival false ⟨30, 31, 200⟩ with userId := 2 }

/-- The completed reply is not returned to another user. -/
theorem foreign_request_not_replayed :
    ∃ s u user assistant,
      exec (ChatState.step defaultDeployment) {} (streamToCommit .done) = some s ∧
        StoredExchange s.store 10 5 user assistant ∧
        s.step defaultDeployment foreignResend = some u ∧
        u.phases 1 = .exited (.raised conversationNotFound) := by
  have hview : ((exec (ChatState.step defaultDeployment) {} (streamToCommit .done)).bind
      fun s => (s.step defaultDeployment foreignResend).map fun u => u.phases 1) =
        some (.exited (.raised conversationNotFound)) := rfl
  obtain ⟨s, hs, hstep⟩ := Option.bind_eq_some_iff.mp hview
  obtain ⟨u, hu, hphase⟩ := Option.map_eq_some_iff.mp hstep
  obtain ⟨user, assistant, hstored, -⟩ := streamToCommit_stored hs
  exact ⟨s, u, user, assistant, hs, hstored, hu, hphase⟩

end Astra.Chat
