import Astra.Chat.Invariants

/-!
# How a request leaves its assistant row

One request on its own: from the prepared exchange to its end, with every input
that can resume it.  The row is settled at the end except where the code leaves
without a finalising transaction: an event iterator that is closed at a `yield`,
and a `send_message` whose success transaction fails.
-/

namespace Astra.Chat

open Astra.Foundation Astra.Platform Astra.Persistence Astra.LLM Astra.Services

/-! ## One request -/

def requestStep (s : Phase × Store) (l : Input × Timestamp) : Option (Phase × Store) :=
  resume s.2 s.1 l.1 l.2

/-- A failure-recording transaction that is attempted commits. -/
def RecordsFailure (s : Phase × Store) (l : Input × Timestamp) : Prop :=
  match s.1, l.1 with
  | .recording _ _ _ _ handler stage, .awaited (.raised e) =>
      stage.beforeCommit = true → (detaches handler (.raised e)).isSome = true
  | _, _ => True

/-- The event iterator is not closed at a `yield` before it finalises. -/
def NotClosedEarly (s : Phase × Store) (l : Input × Timestamp) : Prop :=
  match s.1, l.1 with
  | .streaming .., .aclose => False
  | _, _ => True

/-- The success transaction of `send_message` is not interrupted before its commit. -/
def CommitsReply (s : Phase × Store) (l : Input × Timestamp) : Prop :=
  match s.1, l.1 with
  | .finalizing false _ _ _ stage, .awaited (.raised _) => stage.beforeCommit = false
  | _, _ => True

/-- The row is `COMPLETED` or `FAILED`. -/
def Settled (id : UUID) (store : Store) : Prop :=
  ∃ m, getMessage store.messages id = some m ∧ (m.status = .completed ∨ m.status = .failed)

/-- A request with the client id is not refused as one in progress. -/
def Retryable (store : Store) (conversationId clientMessageId : UUID) : Prop :=
  ∀ request streaming gen, request.clientMessageId = clientMessageId →
    locateExchange store.messages conversationId request streaming gen ≠ .error requestInProgress

theorem inProgress_iff {status : MessageStatus} :
    status.inProgress = true ↔ ¬ (status = .completed ∨ status = .failed) := by
  cases status <;> simp [MessageStatus.inProgress]

/-! ## Phases -/

def Phase.mode : Phase → Option Bool
  | .generating _ => some false
  | .streaming .. | .completedEvent .. | .errorEvent .. => some true
  | .finalizing mode _ _ _ _ | .recording mode _ _ _ _ _ => some mode
  | .idle | .exited _ => none

def Phase.untouched : Phase → Bool
  | .generating _ | .streaming _ _ _ => true
  | .finalizing _ _ _ built _ => built.isNone
  | .idle | .recording .. | .completedEvent .. | .errorEvent .. | .exited _ => false

/-- A finalising transaction of the request is still to commit. -/
def Phase.promises : Phase → Bool
  | .generating _ | .streaming _ _ _ => true
  | .finalizing mode _ _ built stage => if mode then built.isNone else stage.beforeCommit
  | .recording _ _ _ _ _ stage => stage.beforeCommit
  | .idle | .completedEvent .. | .errorEvent .. | .exited _ => false

/-- What holds of a request under way on the exchange `p`, in a table with these keys. -/
structure Attempt (p : PreparedExchange) (streaming : Bool) (keys : List MessageKey)
    (s : Phase × Store) : Prop where
  exchange : s.1.KeepsExchange p
  mode : s.1.mode = some streaming ∨ s.1.mode = none
  sound : s.1.Sound
  messages : WellFormed s.2.messages
  sameKeys : s.2.messages.map messageKey = keys
  assistant : ∃ k ∈ keys, k.id = p.assistantMessage.id ∧ k.role = .assistant
  untouched : s.1.untouched = true → ¬ Settled p.assistantMessage.id s.2

section Steps

variable {p : PreparedExchange} {streaming : Bool} {keys : List MessageKey} {s t : Phase × Store}
  {l : Input × Timestamp}

theorem Attempt.row (h : Attempt p streaming keys s) :
    ∃ m, getMessage s.2.messages p.assistantMessage.id = some m := by
  obtain ⟨k, hk, hid, -⟩ := h.assistant
  rw [← h.sameKeys] at hk
  obtain ⟨m, hm, rfl⟩ := List.mem_map.mp hk
  exact ⟨m, hid ▸ h.messages.getMessage_eq hm⟩

theorem Attempt.cases (h : Attempt p streaming keys s) (hstep : requestStep s l = some t) :
    s.1.exchange = some p ∧ RequestStep s.2 l.2 s.1 l.1 t.1 t.2 := by
  obtain ⟨p', hp', -, -⟩ := resume_writes hstep
  have hexchange : s.1.exchange = some p := by
    rcases h.exchange with hexchange | ⟨outcome, hexited⟩
    · exact hexchange
    · rw [hexited] at hp'
      cases hp'
  refine ⟨hexchange, resume_cases h.sound ?_ hstep⟩
  intro q hq
  rw [hexchange, Option.some.injEq] at hq
  subst hq
  exact h.row

theorem RequestStep.mode {store store' : Store} {phase phase' : Phase} {input : Input}
    {now : Timestamp} (h : RequestStep store now phase input phase' store') :
    phase'.mode = phase.mode ∨ phase'.mode = none := by
  cases h with
  | streams p locals point input phase' hstream => cases hstream <;> simp [Phase.mode]
  | finalReturns streaming p reply message => cases streaming <;> simp [replied, Phase.mode]
  | recordReturns streaming p content caught handler =>
      cases handler <;> cases streaming <;> simp [recorded, Phase.mode]
  | recordRaises streaming p content caught handler stage result e hbefore =>
      cases handler <;> simp [recordingRaised, Phase.mode]
  | _ => simp [Phase.mode]

theorem RequestStep.untouched {store store' : Store} {phase phase' : Phase} {input : Input}
    {now : Timestamp} (h : RequestStep store now phase input phase' store')
    (huntouched : phase'.untouched = true) : phase.untouched = true ∧ store' = store := by
  cases h with
  | finalReturns streaming p reply message =>
      cases streaming <;> simp [replied, Phase.untouched] at huntouched
  | recordReturns streaming p content caught handler =>
      cases handler <;> cases streaming <;> simp [recorded, Phase.untouched] at huntouched
  | recordRaises streaming p content caught handler stage result e hbefore =>
      cases handler <;> simp [recordingRaised, Phase.untouched] at huntouched
  | _ => simp_all [Phase.untouched]

theorem Attempt.step (h : Attempt p streaming keys s) (hstep : requestStep s l = some t) :
    Attempt p streaming keys t := by
  obtain ⟨hexchange, hcases⟩ := h.cases hstep
  obtain ⟨p', hp', hkeeps, hwrite⟩ := resume_writes hstep
  rw [hexchange, Option.some.injEq] at hp'
  subst hp'
  obtain ⟨hmessages, hkeys⟩ := hwrite.wellFormed h.messages (h.sameKeys ▸ h.assistant)
  refine ⟨hkeeps, ?_, hcases.sound h.sound, hmessages, hkeys.trans h.sameKeys, h.assistant, ?_⟩
  · rcases hcases.mode with hmode | hmode
    · rw [hmode]
      exact h.mode
    · exact Or.inr hmode
  · intro huntouched
    obtain ⟨hbefore, hstore⟩ := hcases.untouched huntouched
    rw [hstore]
    exact h.untouched hbefore

theorem getMessage_updateMessage {rows : List Message} {id : UUID} {change : Message → Message}
    (hrows : WellFormed (updateMessage id change rows)) {m : Message}
    (hm : getMessage rows id = some m) (hkey : (change m).id = m.id) :
    getMessage (updateMessage id change rows) id = some (change m) := by
  obtain ⟨hold, hid⟩ := getMessage_mem hm
  have hnew : change m ∈ updateMessage id change rows := mem_updateMessage_self hold hid
  have hfind := hrows.getMessage_eq hnew
  rwa [hkey, hid] at hfind

theorem settled_updateMessage {store store' : Store} {id : UUID} {change : Message → Message}
    (hmessages : WellFormed store'.messages) {m : Message}
    (hm : getMessage store.messages id = some m)
    (hstore : store'.messages = updateMessage id change store.messages)
    (hkey : (change m).id = m.id)
    (hstatus : (change m).status = .completed ∨ (change m).status = .failed) :
    Settled id store' := by
  refine ⟨change m, ?_, hstatus⟩
  rw [hstore] at hmessages ⊢
  exact getMessage_updateMessage hmessages hm hkey

private theorem Attempt.promise_step (h : Attempt p streaming keys s)
    (hneeds : p.needsGeneration = true)
    (hkept : s.1.promises = false → Settled p.assistantMessage.id s.2)
    (hrecords : RecordsFailure s l) (hclosed : NotClosedEarly s l) (hcommits : CommitsReply s l)
    (hstep : requestStep s l = some t) :
    t.1.promises = false → Settled p.assistantMessage.id t.2 := by
  have ht := h.step hstep
  obtain ⟨hexchange, hcases⟩ := h.cases hstep
  obtain ⟨m, hm⟩ := h.row
  obtain ⟨phase, store⟩ := s
  obtain ⟨input, now⟩ := l
  obtain ⟨phase', store'⟩ := t
  simp only at hexchange hkept hm hcases ⊢
  cases hcases with
  | responds p' response => simp [Phase.promises, TxnStage.beforeCommit]
  | fails p' e handler he => simp [Phase.promises, TxnStage.beforeCommit]
  | streams p' locals point input phase' hstream =>
      cases hexchange
      cases hstream with
      | stays locals' point' hsound' hinput => simp [Phase.promises]
      | replays hno hinput => simp [hneeds] at hno
      | finishes reply hneeds' hinput => simp [Phase.promises]
      | catches content e handler hneeds' he hinput => simp [Phase.promises, TxnStage.beforeCommit]
      | closes hclose =>
          subst hclose
          exact hclosed.elim
  | finalAdvances streaming' p' reply stage stage' hbefore hbefore' =>
      cases streaming' <;> simp [Phase.promises, hbefore']
  | finalInterrupted streaming' p' reply stage e hbefore he =>
      cases streaming' with
      | true => simp [Phase.promises]
      | false => simp [CommitsReply, hbefore] at hcommits
  | finalCommits streaming' p' reply m' hrow =>
      cases hexchange
      intro _
      exact settled_updateMessage ht.messages hm (finalizeSuccess_messages reply now hm) rfl
        (Or.inl rfl)
  | finalCommitsRaising streaming' p' reply m' hrow e he =>
      cases hexchange
      intro _
      exact settled_updateMessage ht.messages hm (finalizeSuccess_messages reply now hm) rfl
        (Or.inl rfl)
  | finalUnwinds streaming' p' reply built result e he => exact hkept
  | finalReturns streaming' p' reply message =>
      intro _
      exact hkept (by cases streaming' <;> rfl)
  | sendRaises p' reply built stage result e hbefore =>
      intro _
      exact hkept (by simpa [Phase.promises] using hbefore)
  | streamRecovers p' reply built stage result e handler hbefore he hcause =>
      simp [Phase.promises, TxnStage.beforeCommit]
  | recordDetaches streaming' p' content caught handler stage result e hdetach => exact hkept
  | recordAdvances streaming' p' content caught handler stage stage' hbefore hbefore' =>
      simp [Phase.promises, hbefore']
  | recordInterrupted streaming' p' content caught handler stage e hbefore he hdetach =>
      have hsome := hrecords hbefore
      rw [hdetach] at hsome
      cases hsome
  | recordCommits streaming' p' content caught handler result stage' hsound' hbefore' =>
      cases hexchange
      intro _
      exact settled_updateMessage ht.messages hm rfl rfl (Or.inr rfl)
  | recordUnwinds streaming' p' content caught handler result e he => exact hkept
  | recordReturns streaming' p' content caught handler =>
      intro _
      exact hkept rfl
  | recordRaises streaming' p' content caught handler stage result e hbefore =>
      intro _
      exact hkept (by simpa [Phase.promises] using hbefore)
  | ends _ _ outcome hevent =>
      intro _
      rcases hevent with ⟨q, message, rfl⟩ | ⟨q, e, rfl⟩
      · exact hkept rfl
      · exact hkept rfl

/-- The request has left, or is leaving, without a finalising transaction to come. -/
def Abandoned (p : PreparedExchange) (s : Phase × Store) : Prop :=
  ((∃ outcome, s.1 = .exited outcome) ∨
      ∃ reply stage, s.1 = .finalizing false p reply none stage ∧ stage.beforeCommit = false) ∧
    ¬ Settled p.assistantMessage.id s.2

private theorem Attempt.abandons (h : Attempt p streaming keys s)
    (hbad : ¬ (NotClosedEarly s l ∧ CommitsReply s l)) (hstep : requestStep s l = some t) :
    Abandoned p t := by
  obtain ⟨hexchange, hcases⟩ := h.cases hstep
  have huntouched := h.untouched
  obtain ⟨phase, store⟩ := s
  obtain ⟨input, now⟩ := l
  obtain ⟨phase', store'⟩ := t
  simp only at hexchange huntouched hcases
  cases hcases with
  | streams p' locals point input phase' hstream =>
      cases hexchange
      have hclose : input = .aclose := by
        by_contra hinput
        refine hbad ⟨?_, ?_⟩
        · unfold NotClosedEarly
          split
          · simp_all
          · trivial
        · simp [CommitsReply]
      cases hstream with
      | closes _ => exact ⟨Or.inl ⟨_, rfl⟩, huntouched rfl⟩
      | stays _ _ _ hinput => exact absurd hclose hinput
      | replays _ hinput => exact absurd hclose hinput
      | finishes _ _ hinput => exact absurd hclose hinput
      | catches _ _ _ _ _ hinput => exact absurd hclose hinput
  | finalInterrupted streaming' p' reply stage e hbefore he =>
      cases hexchange
      cases streaming' with
      | true => simp [NotClosedEarly, CommitsReply] at hbad
      | false => exact ⟨Or.inr ⟨reply, _, rfl, rfl⟩, huntouched rfl⟩
  | sendRaises p' reply built stage result e hbefore =>
      cases result <;> simp [NotClosedEarly, CommitsReply, hbefore] at hbad
  | finalUnwinds streaming' p' reply built result e he =>
      cases streaming' <;> cases result <;>
        simp [NotClosedEarly, CommitsReply, TxnStage.beforeCommit] at hbad
  | streamRecovers p' reply built stage result e handler hbefore he hcause =>
      cases result <;> simp [NotClosedEarly, CommitsReply] at hbad
  | ends _ _ outcome hevent =>
      rcases hevent with ⟨q, message, rfl⟩ | ⟨q, e, rfl⟩ <;>
        simp [NotClosedEarly, CommitsReply] at hbad
  | _ => simp [NotClosedEarly, CommitsReply] at hbad

private theorem Attempt.abandoned_step (h : Attempt p streaming keys s) (hgone : Abandoned p s)
    (hstep : requestStep s l = some t) : Abandoned p t := by
  obtain ⟨hexchange, hcases⟩ := h.cases hstep
  obtain ⟨hphase, hsettled⟩ := hgone
  obtain ⟨phase, store⟩ := s
  obtain ⟨input, now⟩ := l
  obtain ⟨phase', store'⟩ := t
  simp only at hexchange hphase hsettled hcases
  rcases hphase with ⟨outcome, rfl⟩ | ⟨reply, stage, rfl, hbefore⟩
  · cases hexchange
  · cases hcases with
    | finalAdvances _ _ _ _ stage' hbefore₁ hbefore' => simp [hbefore] at hbefore₁
    | finalInterrupted _ _ _ _ e hbefore₁ he => simp [hbefore] at hbefore₁
    | finalCommits _ _ _ m hrow => cases hbefore
    | finalCommitsRaising _ _ _ m hrow e he => cases hbefore
    | finalUnwinds _ _ _ _ _ e he => exact ⟨Or.inr ⟨reply, _, rfl, rfl⟩, hsettled⟩
    | sendRaises _ _ _ _ _ e _ => exact ⟨Or.inl ⟨_, rfl⟩, hsettled⟩
    | ends _ _ outcome hevent =>
        rcases hevent with ⟨q, message, heq⟩ | ⟨q, e, heq⟩
        · cases heq
        · cases heq

end Steps

/-! ## Whole requests -/

section Runs

variable {p : PreparedExchange} {streaming : Bool} {keys : List MessageKey} {s t : Phase × Store}
  {inputs : List (Input × Timestamp)}

theorem Attempt.run (h : Attempt p streaming keys s) (hexec : exec requestStep s inputs = some t) :
    Attempt p streaming keys t :=
  exec_invariant' (fun _ _ _ h hstep => h.step hstep) h hexec

/-- A request that leaves has settled its row exactly when no step abandoned it. -/
theorem Attempt.settled_iff (h : Attempt p streaming keys s) (hneeds : p.needsGeneration = true)
    (hpromises : s.1.promises = true) {outcome : Outcome} {store' : Store}
    (hexec : exec requestStep s inputs = some (.exited outcome, store'))
    (hrecords : AllSteps RecordsFailure requestStep s inputs) :
    Settled p.assistantMessage.id store' ↔
      AllSteps (fun s l => NotClosedEarly s l ∧ CommitsReply s l) requestStep s inputs := by
  constructor
  · intro hsettled
    rcases AllSteps.or_violation (fun s l => NotClosedEarly s l ∧ CommitsReply s l) hexec with
      hall | ⟨pre, l, post, u, v, rfl, hpre, -, hbad, hstep, hpost⟩
    · exact hall
    · have hu := h.run hpre
      have hkeep (s : Phase × Store) (l : Input × Timestamp) (t : Phase × Store)
          (hinv : Attempt p streaming keys s ∧ Abandoned p s) (hstep : requestStep s l = some t) :
          Attempt p streaming keys t ∧ Abandoned p t :=
        ⟨hinv.1.step hstep, hinv.1.abandoned_step hinv.2 hstep⟩
      have hgone := exec_invariant' hkeep ⟨hu.step hstep, hu.abandons hbad hstep⟩ hpost
      exact absurd hsettled hgone.2.2
  · intro hkept
    have hstep (s : Phase × Store) (l : Input × Timestamp) (t : Phase × Store)
        (hinv : Attempt p streaming keys s ∧
          (s.1.promises = false → Settled p.assistantMessage.id s.2))
        (hok : RecordsFailure s l ∧ NotClosedEarly s l ∧ CommitsReply s l)
        (hstep : requestStep s l = some t) :
        Attempt p streaming keys t ∧
          (t.1.promises = false → Settled p.assistantMessage.id t.2) :=
      ⟨hinv.1.step hstep,
        hinv.1.promise_step hneeds hinv.2 hok.1 hok.2.1 hok.2.2 hstep⟩
    have hinv := exec_invariant hstep ⟨h, fun hno => by simp [hpromises] at hno⟩
      (hrecords.and hkept) hexec
    exact hinv.2 rfl

end Runs

/-! ## After `_prepare_exchange` -/

section Prepared

variable {d : Deployment} {labels : List ChatLabel} {s : ChatState} {userId conversationId : UUID}
  {request : MessageSendRequest} {streaming : Bool} {gen : Generated} {p : PreparedExchange}
  {store : Store}

structure Opened (p : PreparedExchange) (streaming : Bool) (conversationId clientMessageId : UUID)
    (store : Store) : Prop where
  messages : WellFormed store.messages
  user : ∃ k ∈ store.messages.map messageKey, k.id = p.userMessage.id ∧
    k.conversationId = conversationId ∧ k.clientMessageId = some clientMessageId
  assistant : ∃ k ∈ store.messages.map messageKey, k.id = p.assistantMessage.id ∧
    k.parentMessageId = some p.userMessage.id ∧ k.role = .assistant
  opened : ∃ m, getMessage store.messages p.assistantMessage.id = some m ∧
    m.status = openStatus streaming

theorem prepareExchange_opened (hrun : exec (ChatState.step d) {} labels = some s)
    (hprepare : prepareExchange d.py d.config s.store userId conversationId request streaming gen =
      (.ok p, store)) (hneeds : p.needsGeneration = true) :
    Opened p streaming conversationId request.clientMessageId store := by
  have hwell : WellFormed s.store.messages := (run_table hrun).messages
  obtain ⟨conversation, ex, -, hloc, hdescribes, hmessages⟩ := prepareExchange_ok hprepare
  have hwell' : WellFormed store.messages := hmessages ▸ hloc.wellFormed hwell
  obtain ⟨⟨huser, hclient⟩, hmem, hreply⟩ := hloc.exchange_mem
  obtain ⟨-, -, hstatus, -⟩ := hloc.opens hwell (hdescribes.needsGeneration ▸ hneeds)
  rw [hasClientId_iff] at hclient
  rw [isReplyTo_iff] at hreply
  rw [← hmessages] at huser hmem
  refine ⟨hwell', ?_, ?_, ?_⟩
  · rw [hdescribes.userMessage]
    exact ⟨_, huser, rfl, hclient⟩
  · rw [hdescribes.userMessage, hdescribes.assistantMessage]
    exact ⟨_, List.mem_map_of_mem hmem, rfl, hreply⟩
  · rw [hdescribes.assistantMessage]
    exact ⟨_, hwell'.getMessage_eq hmem, hstatus⟩

theorem Opened.attempt {clientMessageId : UUID} {phase : Phase}
    (h : Opened p streaming conversationId clientMessageId store)
    (hexchange : phase.exchange = some p) (hmode : phase.mode = some streaming)
    (hsound : phase.Sound) :
    Attempt p streaming (store.messages.map messageKey) (phase, store) := by
  obtain ⟨k, hk, hid, -, hrole⟩ := h.assistant
  refine ⟨Or.inl hexchange, Or.inl hmode, hsound, h.messages, rfl, ⟨k, hk, hid, hrole⟩, ?_⟩
  rintro - ⟨m, hm, hstatus⟩
  obtain ⟨m', hm', hopen⟩ := h.opened
  rw [hm, Option.some.injEq] at hm'
  subst hm'
  have hprogress := openStatus_inProgress streaming
  rw [← hopen, inProgress_iff] at hprogress
  exact hprogress hstatus

theorem Opened.retryable_iff {clientMessageId : UUID} {phase : Phase} {store' : Store}
    (h : Opened p streaming conversationId clientMessageId store)
    (hattempt : Attempt p streaming (store.messages.map messageKey) (phase, store')) :
    Retryable store' conversationId clientMessageId ↔ Settled p.assistantMessage.id store' := by
  obtain ⟨ku, hku, huserId, hconversation, hclient⟩ := h.user
  obtain ⟨ka, hka, hassistantId, hparent, hrole⟩ := h.assistant
  have hkeys : store'.messages.map messageKey = store.messages.map messageKey := hattempt.sameKeys
  rw [← hkeys] at hku hka
  obtain ⟨user, huser, rfl⟩ := List.mem_map.mp hku
  obtain ⟨assistant, hassistant, rfl⟩ := List.mem_map.mp hka
  have hfind : getMessage store'.messages p.assistantMessage.id = some assistant :=
    hassistantId ▸ hattempt.messages.getMessage_eq hassistant
  have hrefused (request : MessageSendRequest) (streaming' : Bool) (gen : Generated)
      (hid : request.clientMessageId = clientMessageId) :
      locateExchange store'.messages conversationId request streaming' gen =
          .error requestInProgress ↔ assistant.status.inProgress = true := by
    refine hattempt.messages.locate_refused_iff huser ?_ hassistant ?_
    · exact hasClientId_iff.mpr ⟨hconversation, hid ▸ hclient⟩
    · exact isReplyTo_iff.mpr ⟨hparent.trans (congrArg some huserId.symm), hrole⟩
  constructor
  · intro hretry
    refine ⟨assistant, hfind, ?_⟩
    by_contra hstatus
    rw [← inProgress_iff] at hstatus
    exact hretry { content := "Again", clientMessageId := clientMessageId } false ⟨0, 0, 0⟩ rfl
      ((hrefused _ _ _ rfl).mpr hstatus)
  · rintro ⟨m, hm, hstatus⟩ request streaming' gen hid herror
    rw [hfind, Option.some.injEq] at hm
    subst hm
    exact inProgress_iff.mp ((hrefused request streaming' gen hid).mp herror) hstatus

end Prepared

/-! ## The two entry points -/

private theorem notClosedEarly_of_send {s : Phase × Store}
    (h : s.1.mode = some false ∨ s.1.mode = none)
    (l : Input × Timestamp) : NotClosedEarly s l := by
  unfold NotClosedEarly
  split
  · simp_all [Phase.mode]
  · trivial

private theorem commitsReply_of_stream {s : Phase × Store}
    (h : s.1.mode = some true ∨ s.1.mode = none)
    (l : Input × Timestamp) : CommitsReply s l := by
  unfold CommitsReply
  split
  · simp_all [Phase.mode]
  · trivial

/-- An event iterator settles its row unless it is closed while it streams. -/
theorem stream_settled_iff_not_closed (d : Deployment) {labels : List ChatLabel} {s : ChatState}
    (hrun : exec (ChatState.step d) {} labels = some s) {userId conversationId : UUID}
    {request : MessageSendRequest} {gen : Generated} {p : PreparedExchange} {store : Store}
    (hprepare : prepareExchange d.py d.config s.store userId conversationId request true gen =
      (.ok p, store))
    (hneeds : p.needsGeneration = true) {inputs : List (Input × Timestamp)} {outcome : Outcome}
    {store' : Store}
    (hexec : exec requestStep (.streaming p {} .notStarted, store) inputs =
      some (.exited outcome, store'))
    (hrecords : AllSteps RecordsFailure requestStep (.streaming p {} .notStarted, store) inputs) :
    (Settled p.assistantMessage.id store' ↔
        AllSteps NotClosedEarly requestStep (.streaming p {} .notStarted, store) inputs) ∧
      (Retryable store' conversationId request.clientMessageId ↔
        Settled p.assistantMessage.id store') := by
  have hopened := prepareExchange_opened hrun hprepare hneeds
  have hattempt : Attempt p true (store.messages.map messageKey)
      (.streaming p {} .notStarted, store) :=
    hopened.attempt rfl rfl ⟨by simp, trivial⟩
  refine ⟨(hattempt.settled_iff hneeds rfl hexec hrecords).trans ⟨?_, ?_⟩,
    hopened.retryable_iff (hattempt.run hexec)⟩
  · exact AllSteps.mono fun _ _ hok => hok.1
  · exact AllSteps.of_invariant (fun _ _ _ h hstep => Attempt.step h hstep)
      (fun _ l h hok => ⟨hok, commitsReply_of_stream (Attempt.mode h) l⟩) hattempt

def readToEnd : List (Input × Timestamp) :=
  [(.next, 100), (.next, 100), (.timeout, 115), (.next, 115),
    (.chunk { content := "Hi", model := "m", provider := "ollama" }, 120), (.next, 120),
    (.exhausted, 130), (.awaited .done, 130), (.awaited .done, 130), (.awaited .done, 130),
    (.awaited .done, 130), (.awaited .done, 130), (.awaited .done, 130), (.next, 130)]

def undisturbed (l : Input × Timestamp) : Bool :=
  match l.1 with
  | .aclose | .failed _ | .awaited (.raised _) | .awaited (.raisedAfterCommit _) => false
  | _ => true

private theorem recordsFailure_of_undisturbed {l : Input × Timestamp} (h : undisturbed l = true)
    (s : Phase × Store) : RecordsFailure s l ∧ NotClosedEarly s l ∧ CommitsReply s l := by
  obtain ⟨input, now⟩ := l
  refine ⟨?_, ?_, ?_⟩
  · unfold RecordsFailure
    split <;> simp_all [undisturbed]
  · unfold NotClosedEarly
    split <;> simp_all [undisturbed]
  · unfold CommitsReply
    split <;> simp_all [undisturbed]

theorem allSteps_of_undisturbed {inputs : List (Input × Timestamp)}
    (h : inputs.all undisturbed = true) (s : Phase × Store) :
    AllSteps (fun s l => RecordsFailure s l ∧ NotClosedEarly s l ∧ CommitsReply s l)
      requestStep s inputs :=
  AllSteps.of_forall
    (fun l hl => recordsFailure_of_undisturbed (List.all_eq_true.mp h l hl)) s

theorem stream_settled_iff_not_closed_read :
    ∃ s p store outcome store',
      exec (ChatState.step defaultDeployment) {} [openConversation10 (some "ollama")] = some s ∧
        prepareExchange defaultDeployment.py defaultDeployment.config s.store 1 10 helloRequest
          true ⟨20, 21, 100⟩ = (.ok p, store) ∧
        exec requestStep (.streaming p {} .notStarted, store) readToEnd =
          some (.exited outcome, store') ∧
        Settled p.assistantMessage.id store' := by
  have hrun : ∃ s,
      exec (ChatState.step defaultDeployment) {} [openConversation10 (some "ollama")] = some s ∧
        ∃ p store, prepareExchange defaultDeployment.py defaultDeployment.config s.store 1 10
            helloRequest true ⟨20, 21, 100⟩ = (.ok p, store) ∧ p.needsGeneration = true ∧
          ∃ outcome store', exec requestStep (.streaming p {} .notStarted, store) readToEnd =
            some (.exited outcome, store') :=
    ⟨_, rfl, _, _, rfl, rfl, _, _, rfl⟩
  obtain ⟨s, hs, p, store, hprepare, hneeds, outcome, store', hexec⟩ := hrun
  have hquiet := allSteps_of_undisturbed (by decide : readToEnd.all undisturbed = true)
    (.streaming p {} .notStarted, store)
  have hsettled := stream_settled_iff_not_closed defaultDeployment hs hprepare hneeds hexec
    (hquiet.mono fun _ _ h => h.1)
  exact ⟨s, p, store, outcome, store', hs, hprepare, hexec,
    hsettled.1.mpr (hquiet.mono fun _ _ h => h.2.1)⟩

def disconnectAndResend : List ChatLabel :=
  [openConversation10 (some "ollama"), .arrive 0 (helloArrival true ⟨20, 21, 100⟩),
    .resume 0 .next 100, .resume 0 .aclose 110, .arrive 1 (helloArrival true ⟨30, 31, 200⟩)]

theorem closed_stream_left_streaming :
    ∃ s, exec (ChatState.step defaultDeployment) {} disconnectAndResend = some s ∧
      s.phases 0 = .exited (.raised .generatorExit) ∧
      s.rowView 21 = some (.streaming, "") ∧
      s.phases 1 = .exited (.raised requestInProgress) :=
  ⟨_, rfl, rfl, by decide, rfl⟩

/-- `send_message` settles its row unless its success transaction is interrupted. -/
theorem send_settled_iff_commits (d : Deployment) {labels : List ChatLabel} {s : ChatState}
    (hrun : exec (ChatState.step d) {} labels = some s) {userId conversationId : UUID}
    {request : MessageSendRequest} {gen : Generated} {p : PreparedExchange} {store : Store}
    (hprepare : prepareExchange d.py d.config s.store userId conversationId request false gen =
      (.ok p, store))
    (hneeds : p.needsGeneration = true) {inputs : List (Input × Timestamp)} {outcome : Outcome}
    {store' : Store}
    (hexec : exec requestStep (.generating p, store) inputs = some (.exited outcome, store'))
    (hrecords : AllSteps RecordsFailure requestStep (.generating p, store) inputs) :
    (Settled p.assistantMessage.id store' ↔
        AllSteps CommitsReply requestStep (.generating p, store) inputs) ∧
      (Retryable store' conversationId request.clientMessageId ↔
        Settled p.assistantMessage.id store') := by
  have hopened := prepareExchange_opened hrun hprepare hneeds
  have hattempt : Attempt p false (store.messages.map messageKey) (.generating p, store) :=
    hopened.attempt rfl rfl trivial
  refine ⟨(hattempt.settled_iff hneeds rfl hexec hrecords).trans ⟨?_, ?_⟩,
    hopened.retryable_iff (hattempt.run hexec)⟩
  · exact AllSteps.mono fun _ _ hok => hok.2
  · exact AllSteps.of_invariant (fun _ _ _ h hstep => Attempt.step h hstep)
      (fun _ l h hok => ⟨notClosedEarly_of_send (Attempt.mode h) l, hok⟩) hattempt

def answerAndCommit : List (Input × Timestamp) :=
  [(.response { content := "Hi", model := "m", provider := "ollama" }, 120),
    (.awaited .done, 130), (.awaited .done, 130), (.awaited .done, 130), (.awaited .done, 130),
    (.awaited .done, 130)]

theorem send_settled_iff_commits_answered :
    ∃ s p store outcome store',
      exec (ChatState.step defaultDeployment) {} [openConversation10 (some "ollama")] = some s ∧
        prepareExchange defaultDeployment.py defaultDeployment.config s.store 1 10 helloRequest
          false ⟨20, 21, 100⟩ = (.ok p, store) ∧
        exec requestStep (.generating p, store) answerAndCommit = some (.exited outcome, store') ∧
        Settled p.assistantMessage.id store' := by
  have hrun : ∃ s,
      exec (ChatState.step defaultDeployment) {} [openConversation10 (some "ollama")] = some s ∧
        ∃ p store, prepareExchange defaultDeployment.py defaultDeployment.config s.store 1 10
            helloRequest false ⟨20, 21, 100⟩ = (.ok p, store) ∧ p.needsGeneration = true ∧
          ∃ outcome store', exec requestStep (.generating p, store) answerAndCommit =
            some (.exited outcome, store') :=
    ⟨_, rfl, _, _, rfl, rfl, _, _, rfl⟩
  obtain ⟨s, hs, p, store, hprepare, hneeds, outcome, store', hexec⟩ := hrun
  have hquiet := allSteps_of_undisturbed (by decide : answerAndCommit.all undisturbed = true)
    (.generating p, store)
  have hsettled := send_settled_iff_commits defaultDeployment hs hprepare hneeds hexec
    (hquiet.mono fun _ _ h => h.1)
  exact ⟨s, p, store, outcome, store', hs, hprepare, hexec,
    hsettled.1.mpr (hquiet.mono fun _ _ h => h.2.2)⟩

def loseConnectionAndResend : List ChatLabel :=
  [openConversation10 (some "ollama"), .arrive 0 (helloArrival false ⟨20, 21, 100⟩),
    .resume 0 (.response { content := "Hi", model := "m", provider := "ollama" }) 120,
    .resume 0 (.awaited (.raised (.other "OperationalError" "connection lost"))) 130,
    .resume 0 (.awaited .done) 130, .resume 0 (.awaited .done) 130,
    .arrive 1 (helloArrival false ⟨30, 31, 200⟩)]

theorem interrupted_send_left_pending :
    ∃ s, exec (ChatState.step defaultDeployment) {} loseConnectionAndResend = some s ∧
      s.phases 0 = .exited (.raised (.other "OperationalError" "connection lost")) ∧
      s.rowView 21 = some (.pending, "") ∧
      s.phases 1 = .exited (.raised requestInProgress) :=
  ⟨_, rfl, rfl, by decide, rfl⟩

end Astra.Chat
