import Astra.Chat.Heartbeats

/-!
# The reply that a finished stream holds

`_stream_events` folds its chunks into local variables, and the reply of its success
transaction is read from them.  Here the fold is followed from the source to the row:
a stream that completes has taken every chunk of a source that ended by itself.
-/

namespace Astra.Chat

open Astra.Foundation Astra.Platform Astra.Persistence Astra.LLM

/-! ## A row with its reply -/

def Finalised (p : PreparedExchange) (ok : FinalReply → Prop) (store : Store) (row : Message) :
    Prop :=
  getMessage store.messages p.assistantMessage.id = some row ∧
    ∃ reply now m, ok reply ∧ row = completeMessage reply now m

def Phase.Carries (p : PreparedExchange) (streaming : Bool) (ok : FinalReply → Prop)
    (store : Store) : Phase → Prop
  | .finalizing mode q reply built _ =>
      mode = streaming ∧ q = p ∧ ok reply ∧ ∀ row, built = some row → Finalised p ok store row
  | .completedEvent q row => streaming = true ∧ q = p ∧ Finalised p ok store row
  | .recording mode _ _ _ _ _ => mode = streaming
  | .errorEvent _ _ => streaming = true
  | .exited (.returned response) =>
      streaming = false → Finalised p ok store response.assistantMessage
  | .exited _ => True
  | .idle | .generating _ | .streaming _ _ _ => False

section Carries

variable {p : PreparedExchange} {streaming : Bool} {ok : FinalReply → Prop} {store store' : Store}
  {phase phase' : Phase} {input : Input} {now : Timestamp}

theorem Phase.Carries.of_handle (content : String) (e : Exn) :
    (handle streaming p content e).Carries p streaming ok store := by
  unfold handle
  split_ifs
  · exact rfl
  · exact rfl
  · trivial

theorem Phase.Carries.of_commit {reply : FinalReply} {m : Message} {mode : Bool} {stage : TxnStage}
    (h : (Phase.finalizing mode p reply none .commit).Carries p streaming ok store)
    (hm : getMessage store.messages p.assistantMessage.id = some m)
    (hafter : WellFormed (finalizeSuccess reply p.assistantMessage.id now store).messages) :
    (Phase.finalizing mode p reply (some (completeMessage reply now m)) stage).Carries p streaming
      ok (finalizeSuccess reply p.assistantMessage.id now store) := by
  obtain ⟨hmode, -, hreply, -⟩ := h
  refine ⟨hmode, rfl, hreply, ?_⟩
  rintro row ⟨⟩
  exact ⟨getMessage_finalizeSuccess hm hafter, reply, now, m, hreply, rfl⟩

theorem Phase.Carries.step (h : phase.Carries p streaming ok store)
    (hafter : WellFormed store'.messages)
    (hstep : RequestStep store now phase input phase' store') :
    phase'.Carries p streaming ok store' := by
  cases hstep with
  | responds p' response => exact h.elim
  | fails p' e handler he => exact h.elim
  | streams p' locals point input phase' hstream => exact h.elim
  | finalAdvances mode p' reply stage stage' hbefore hbefore' => exact h
  | finalInterrupted mode p' reply stage e hbefore he => exact h
  | finalCommits mode p' reply m hm =>
      obtain rfl := h.2.1
      exact h.of_commit hm hafter
  | finalCommitsRaising mode p' reply m hm e he =>
      obtain rfl := h.2.1
      exact h.of_commit hm hafter
  | finalUnwinds mode p' reply built result e he => exact h
  | finalReturns mode p' reply message =>
      obtain ⟨rfl, rfl, -, hbuilt⟩ := h
      cases mode with
      | true => exact ⟨rfl, rfl, hbuilt message rfl⟩
      | false => exact fun _ => hbuilt message rfl
  | sendRaises p' reply built stage result e hbefore => trivial
  | streamRecovers p' reply built stage result e handler hbefore he hcause => exact h.1
  | recordDetaches mode p' content caught handler stage result e hdetach => exact h
  | recordAdvances mode p' content caught handler stage stage' hbefore hbefore' => exact h
  | recordInterrupted mode p' content caught handler stage e hbefore he hdetach => exact h
  | recordCommits mode p' content caught handler result stage' hsound hbefore' => exact h
  | recordUnwinds mode p' content caught handler result e he => exact h
  | recordReturns mode p' content caught handler =>
      obtain rfl : mode = streaming := h
      cases handler with
      | shielded => trivial
      | detached e => trivial
      | plain => cases mode <;> trivial
  | recordRaises mode p' content caught handler stage result e hbefore =>
      cases handler <;> trivial
  | ends _ _ outcome hevent =>
      -- an event is out, so that the request streams
      have hstreaming : streaming = true := by
        rcases hevent with ⟨q, message, rfl⟩ | ⟨q, e, rfl⟩
        · exact h.1
        · exact h
      cases outcome with
      | returned response =>
          intro hfalse
          rw [hstreaming] at hfalse
          cases hfalse
      | raised e => trivial
      | streamEnded => trivial

end Carries

/-! ## A request that is answered at once -/

section Send

variable {p : PreparedExchange} {keys : List MessageKey} {r : LLMResponse}

def SendInvariant (p : PreparedExchange) (keys : List MessageKey) (r : LLMResponse)
    (s : Phase × Store) : Prop :=
  Attempt p false keys s ∧ s.1.Carries p false (· = replyOfResponse r) s.2

theorem SendInvariant.step {s t : Phase × Store} {l : Input × Timestamp}
    (h : SendInvariant p keys r s) (hstep : requestStep s l = some t) : SendInvariant p keys r t :=
  have hafter := h.1.step hstep
  ⟨hafter, h.2.step hafter.messages (h.1.cases hstep).2⟩

private theorem send_finalises {store store' : Store} {now : Timestamp}
    {inputs : List (Input × Timestamp)}
    {response : ChatExchangeResponse} (hattempt : Attempt p false keys (.generating p, store))
    (hexec : exec requestStep (.generating p, store) ((.response r, now) :: inputs) =
      some (.exited (.returned response), store')) :
    Finalised p (· = replyOfResponse r) store' response.assistantMessage := by
  obtain ⟨s, hstep, hrest⟩ := Option.bind_eq_some_iff.mp hexec
  have hfirst := hattempt.step hstep
  cases hstep
  have hinv : SendInvariant p keys r (.exited (.returned response), store') :=
    exec_invariant' (fun _ _ _ h hstep => SendInvariant.step h hstep)
      ⟨hfirst, rfl, rfl, rfl, by simp⟩ hrest
  exact hinv.2 rfl

end Send

private theorem requestStep_streaming {p : PreparedExchange} {locals : StreamLocals}
    {point : StreamPoint}
    {store store' : Store} {input : Input} {now : Timestamp} {phase' : Phase}
    (h : requestStep (.streaming p locals point, store) (input, now) = some (phase', store')) :
    resumeStream p locals point input = some phase' ∧ store' = store := by
  unfold requestStep resume at h
  split at h
  · obtain ⟨phase'', hresume, heq⟩ := Option.map_eq_some_iff.mp h
    cases heq
    exact ⟨hresume, rfl⟩
  · cases h

/-! ## The fold over the chunks -/

def aggregate (chunks : List LLMChunk) : StreamLocals := chunks.foldl StreamLocals.feed {}

def Aggregated (p : PreparedExchange) (source : ChunkSource) (reply : FinalReply) : Prop :=
  source.ending = none ∧ reply = replyOfStream p (aggregate source.chunks)

def ChunkFeed.Exhausted (feed : ChunkFeed) : Prop :=
  feed.task = .finished .exhausted → feed.source.chunks = [] ∧ feed.source.ending = none

structure Folds (source : ChunkSource) (feed : ChunkFeed) (locals : StreamLocals)
    (point : StreamPoint) : Prop where
  ending : feed.source.ending = source.ending
  exhausted : feed.Exhausted
  taken : ∃ taken, locals = aggregate taken ∧ taken ++ feed.pending = source.chunks
  released : point = .releasing none → feed.pending = [] ∧ source.ending = none

def WireState.Aggregates (p : PreparedExchange) (source : ChunkSource) (s : WireState) : Prop :=
  match s.phase with
  | .streaming q locals point => q = p ∧ Folds source s.feed locals point
  | phase => phase.Carries p true (Aggregated p source) s.store

section Stream

variable {p : PreparedExchange} {source : ChunkSource} {feed feed' : ChunkFeed}
  {locals : StreamLocals} {point : StreamPoint} {input : Input}

/-- What one step of the iterator does before its success transaction. -/
inductive LoopStep (p : PreparedExchange) (locals : StreamLocals) :
    StreamPoint → Input → Phase → Prop
  | moves (point point' : StreamPoint) (input : Input)
      (hinput : ∀ chunk, input ≠ .chunk chunk)
      (hpoint : point' = .releasing none → point = .reading ∧ input = .exhausted) :
      LoopStep p locals point input (.streaming p locals point')
  | takes (chunk : LLMChunk) (point' : StreamPoint) (hpoint : point' ≠ .releasing none) :
      LoopStep p locals .reading (.chunk chunk) (.streaming p (locals.feed chunk) point')
  | finishes (result : Await) :
      LoopStep p locals (.releasing none) (.awaited result)
        (.finalizing true p (replyOfStream p locals) none .lookup)
  | leaves (point : StreamPoint) (input : Input) (e : Exn) :
      LoopStep p locals point input (handle true p locals.content e)
  | closes (point : StreamPoint) (e : Exn) :
      LoopStep p locals point .aclose (.exited (.raised e))

theorem leaveLoop_step (ending : Option Exn) (result : Await) :
    LoopStep p locals (.releasing ending) (.awaited result) (leaveLoop p locals ending) := by
  cases ending with
  | none => exact .finishes result
  | some e => exact .leaves _ _ e

private theorem resumeStream_cases {phase' : Phase} (hneeds : p.needsGeneration = true)
    (h : resumeStream p locals point input = some phase') :
    LoopStep p locals point input phase' := by
  unfold resumeStream at h
  split at h
  case h_3 =>
    rw [if_pos hneeds] at h
    cases h
    exact .moves _ _ _ (by simp) (by simp)
  case h_10 chunk =>
    cases h
    refine .takes chunk _ ?_
    split_ifs <;> simp
  case h_15 e e' =>
    split_ifs at h
    · cases h
      exact .moves _ _ _ (by simp) (by simp)
    · cases h
      exact .leaves _ _ e'
  case h_17 ending e =>
    split_ifs at h
    · cases h
      exact leaveLoop_step ending _
    · cases h
      exact .leaves _ _ e
  all_goals cases h
  all_goals first
    | exact .moves _ _ _ (by simp) (by simp)
    | exact .leaves _ _ _
    | exact .closes _ _
    | exact leaveLoop_step _ _

theorem aggregate_concat (chunks : List LLMChunk) (chunk : LLMChunk) :
    aggregate (chunks ++ [chunk]) = (aggregate chunks).feed chunk := List.foldl_concat ..

private theorem ChunkFeed.finish_exhausted (h : feed.finish = some feed') :
    feed'.Exhausted ∧ feed'.source.ending = feed.source.ending := by
  obtain ⟨⟨chunks, ending⟩, task⟩ := feed
  cases task with
  | running => cases chunks <;> cases ending <;> cases h <;> simp [Exhausted]
  | taken => cases h
  | finished read => cases h

private theorem ChunkFeed.createTask_source (feed : ChunkFeed) (phase : Phase) :
    (feed.createTask phase).source = feed.source := by
  unfold createTask
  split <;> rfl

theorem ChunkFeed.Exhausted.createTask (h : feed.Exhausted) (phase : Phase) :
    (feed.createTask phase).Exhausted := by
  unfold ChunkFeed.createTask
  split
  · simp [Exhausted]
  · exact h

theorem Folds.createTask (h : Folds source feed locals point) (phase : Phase) :
    Folds source (feed.createTask phase) locals point := by
  obtain ⟨hending, hexhausted, htaken, hreleased⟩ := h
  have hpending := (feed.createTask_pending phase).1
  refine ⟨?_, hexhausted.createTask phase, ?_, ?_⟩
  · rw [ChunkFeed.createTask_source, hending]
  · rwa [hpending]
  · rwa [hpending]

private theorem ChunkFeed.Observed.pending_eq {phase : Phase} (h : feed.Observed phase input feed')
    (hinput : ∀ chunk, input ≠ .chunk chunk) : feed'.pending = feed.pending := by
  cases h with
  | elapses _ _ => rfl
  | collects read heq htask =>
      cases read with
      | chunk chunk => exact absurd heq (hinput chunk)
      | exhausted | failed e => simp [pending, htask]
  | resumes _ => rfl

private theorem ChunkFeed.Observed.source_eq {phase : Phase} (h : feed.Observed phase input feed') :
    feed'.source = feed.source := by
  cases h <;> rfl

theorem ChunkFeed.Observed.exhausted {phase : Phase} (h : feed.Observed phase input feed')
    (hfeed : feed.Exhausted) : feed'.Exhausted := by
  cases h with
  | collects read heq htask => simp [Exhausted]
  | _ => exact hfeed

theorem Folds.moves {point' : StreamPoint} (h : Folds source feed locals point)
    (hobserved : feed.Observed (.streaming p locals point) input feed')
    (hinput : ∀ chunk, input ≠ .chunk chunk)
    (hpoint : point' = .releasing none → point = .reading ∧ input = .exhausted) :
    Folds source feed' locals point' := by
  have hpending := hobserved.pending_eq hinput
  refine ⟨?_, hobserved.exhausted h.exhausted, ?_, ?_⟩
  · rw [hobserved.source_eq, h.ending]
  · rw [hpending]
    exact h.taken
  · intro hreleasing
    obtain ⟨rfl, rfl⟩ := hpoint hreleasing
    obtain ⟨hinput', -⟩ | ⟨read, hread, htask, -⟩ := hobserved.waiting
    · cases hinput'
    · cases read with
      | exhausted =>
          obtain ⟨hchunks, hending⟩ := h.exhausted htask
          rw [hpending, ← h.ending]
          exact ⟨by simp [ChunkFeed.pending, htask, hchunks], hending⟩
      | chunk chunk => cases hread
      | failed e => cases hread

theorem Folds.takes {chunk : LLMChunk} {point' : StreamPoint}
    (h : Folds source feed locals .reading)
    (hobserved : feed.Observed (.streaming p locals .reading) (.chunk chunk) feed')
    (hpoint : point' ≠ .releasing none) : Folds source feed' (locals.feed chunk) point' := by
  obtain ⟨hinput, -⟩ | ⟨read, hread, htask, rfl⟩ := hobserved.waiting
  · cases hinput
  · cases read with
    | chunk chunk' =>
        cases hread
        obtain ⟨taken, rfl, htaken⟩ := h.taken
        refine ⟨h.ending, by simp [ChunkFeed.Exhausted], ⟨taken ++ [chunk], ?_, ?_⟩,
          fun hreleasing => absurd hreleasing hpoint⟩
        · rw [aggregate_concat]
        · rw [← htaken]
          simp [ChunkFeed.pending, htask]
    | exhausted => cases hread
    | failed e => cases hread

theorem Folds.finished (h : Folds source feed locals (.releasing none)) :
    Aggregated p source (replyOfStream p locals) := by
  obtain ⟨hpending, hending⟩ := h.released rfl
  obtain ⟨taken, rfl, htaken⟩ := h.taken
  rw [hpending, List.append_nil] at htaken
  exact ⟨hending, by rw [htaken]⟩

variable {keys : List MessageKey} {s t : WireState} {l : WireLabel}

theorem WireState.Aggregates.of_carries
    (h : s.phase.Carries p true (Aggregated p source) s.store) : s.Aggregates p source := by
  unfold WireState.Aggregates
  split
  · rename_i heq
    rw [heq] at h
    exact h.elim
  · exact h

private theorem WireState.Aggregates.loop_step {store : Store} {emitted emitted' : List ChatEvent}
    {phase' : Phase}
    (h : WireState.Aggregates p source ⟨.streaming p locals point, store, feed, emitted⟩)
    (hobserved : feed.Observed (.streaming p locals point) input feed')
    (hstep : LoopStep p locals point input phase') :
    WireState.Aggregates p source ⟨phase', store, feed'.createTask phase', emitted'⟩ := by
  obtain ⟨-, hfolds⟩ := h
  cases hstep with
  | moves point point' input hinput hpoint =>
      exact ⟨rfl, (hfolds.moves hobserved hinput hpoint).createTask _⟩
  | takes chunk point' hpoint => exact ⟨rfl, (hfolds.takes hobserved hpoint).createTask _⟩
  | finishes result => exact .of_carries ⟨rfl, rfl, hfolds.finished, by simp⟩
  | leaves point input e => exact .of_carries (.of_handle _ _)
  | closes point e => exact .of_carries trivial

theorem WireState.Aggregates.finish (h : s.Aggregates p source)
    (hfeed : s.feed.finish = some feed) :
    WireState.Aggregates p source { s with feed } := by
  obtain ⟨phase, store, feed₀, emitted⟩ := s
  cases phase with
  | streaming q locals point =>
      obtain ⟨hq, hending, -, htaken, hreleased⟩ := h
      obtain ⟨hexhausted, hsource⟩ := ChunkFeed.finish_exhausted hfeed
      have hpending := (ChunkFeed.finish_pending hfeed).1
      refine ⟨hq, hsource.trans hending, hexhausted, ?_, ?_⟩
      · rwa [hpending]
      · rwa [hpending]
  | _ => exact h

theorem WireState.Aggregates.step (hneeds : p.needsGeneration = true)
    (h : Attempt p true keys (s.phase, s.store) ∧ s.Aggregates p source)
    (hstep : s.step l = some t) :
    Attempt p true keys (t.phase, t.store) ∧ t.Aggregates p source := by
  obtain ⟨hattempt, hinv⟩ := h
  rcases WireState.step_cases hstep with ⟨feed, hfeed, rfl⟩ |
    ⟨input, now, feed, hobserved, hrequest, hfeed, -⟩
  · exact ⟨hattempt, hinv.finish hfeed⟩
  · have hattempt' := hattempt.step hrequest
    refine ⟨hattempt', ?_⟩
    obtain ⟨phase, store, sourceFeed, emitted⟩ := s
    obtain ⟨phase', store', feed', emitted'⟩ := t
    simp only at hfeed hrequest hobserved hattempt hattempt'
    subst hfeed
    by_cases hphase : ∃ q locals point, phase = .streaming q locals point
    · obtain ⟨q, locals, point, rfl⟩ := hphase
      obtain rfl := hinv.1
      obtain ⟨hresume, rfl⟩ := requestStep_streaming hrequest
      exact hinv.loop_step hobserved (resumeStream_cases hneeds hresume)
    · refine .of_carries (Phase.Carries.step ?_ hattempt'.messages (hattempt.cases hrequest).2)
      unfold WireState.Aggregates at hinv
      split at hinv
      · exact absurd ⟨_, _, _, ‹_›⟩ hphase
      · exact hinv

theorem WireState.Aggregates.run {labels : List WireLabel} (hneeds : p.needsGeneration = true)
    (h : Attempt p true keys (s.phase, s.store) ∧ s.Aggregates p source)
    (hexec : exec WireState.step s labels = some t) :
    Attempt p true keys (t.phase, t.store) ∧ t.Aggregates p source :=
  exec_invariant' (fun _ _ _ h hstep => WireState.Aggregates.step hneeds h hstep) h hexec

theorem WireState.Aggregates.start (p : PreparedExchange) (store : Store) (source : ChunkSource) :
    (WireState.start p store source).Aggregates p source :=
  ⟨rfl, rfl, by simp [WireState.start, ChunkFeed.Exhausted], ⟨[], rfl, rfl⟩, by simp⟩

end Stream

/-! ## The two entry points -/

section Prepared

variable {d : Deployment} {labels : List ChatLabel} {s : ChatState} {userId conversationId : UUID}
  {request : MessageSendRequest} {gen : Generated} {p : PreparedExchange} {store : Store}

theorem stream_aggregates (hrun : exec (ChatState.step d) {} labels = some s)
    (hprepare : prepareExchange d.py d.config s.store userId conversationId request true gen =
      (.ok p, store))
    (hneeds : p.needsGeneration = true) {source : ChunkSource} {wire : List WireLabel}
    {t : WireState} (hexec : exec WireState.step (WireState.start p store source) wire = some t)
    {q : PreparedExchange} {row : Message} (hcompleted : t.phase = .completedEvent q row) :
    Finalised p (Aggregated p source) t.store row := by
  have hattempt : Attempt p true (store.messages.map messageKey)
      (.streaming p {} .notStarted, store) :=
    (prepareExchange_opened hrun hprepare hneeds).attempt rfl rfl ⟨by simp, trivial⟩
  have hinv := (WireState.Aggregates.run hneeds ⟨hattempt, .start p store source⟩ hexec).2
  unfold WireState.Aggregates at hinv
  rw [hcompleted] at hinv
  exact hinv.2.2

theorem send_answers (hrun : exec (ChatState.step d) {} labels = some s)
    (hprepare : prepareExchange d.py d.config s.store userId conversationId request false gen =
      (.ok p, store))
    (hneeds : p.needsGeneration = true) {r : LLMResponse} {now : Timestamp}
    {inputs : List (Input × Timestamp)} {response : ChatExchangeResponse} {store' : Store}
    (hexec : exec requestStep (.generating p, store) ((.response r, now) :: inputs) =
      some (.exited (.returned response), store')) :
    Finalised p (· = replyOfResponse r) store' response.assistantMessage :=
  send_finalises ((prepareExchange_opened hrun hprepare hneeds).attempt rfl rfl trivial) hexec

end Prepared

end Astra.Chat
