import Astra.Chat.Completion

/-!
# The event iterator over its chunk source

`_with_heartbeats` reads each chunk in a task of its own and waits for it with a
timeout.  The task runs in the background: it can finish at any time, also while the
iterator is suspended at a keep-alive.  Here the reads of the iterator are tied to such
a task, and the events that it yields are collected.
-/

namespace Astra.Chat

open Astra.Foundation Astra.Platform Astra.Persistence Astra.LLM

/-! ## The chunk source and its task -/

inductive ChunkRead where
  | chunk (chunk : LLMChunk)
  | exhausted
  | failed (e : Exn)

def ChunkRead.input : ChunkRead → Input
  | .chunk read => .chunk read
  | .exhausted => .exhausted
  | .failed e => .failed e

/-- The chunks still to come, and the exception that ends them. -/
structure ChunkSource where
  chunks : List LLMChunk
  ending : Option Exn

def ChunkSource.anext (source : ChunkSource) : ChunkRead × ChunkSource :=
  match source.chunks, source.ending with
  | chunk :: chunks, _ => (.chunk chunk, { source with chunks })
  | [], none => (.exhausted, source)
  | [], some e => (.failed e, source)

inductive ReadTask where
  | taken
  | running
  | finished (read : ChunkRead)

structure ChunkFeed where
  source : ChunkSource
  task : ReadTask := .taken

/-- The task reaches the end of `anext(iterator)`. -/
def ChunkFeed.finish (feed : ChunkFeed) : Option ChunkFeed :=
  match feed.task with
  | .running =>
      let (read, source) := feed.source.anext
      some { source, task := .finished read }
  | .taken | .finished _ => none

/-- `create_task(anext(iterator))` before the loop waits with no task of its own. -/
def ChunkFeed.createTask (feed : ChunkFeed) (phase : Phase) : ChunkFeed :=
  match phase, feed.task with
  | .streaming _ _ .reading, .taken => { feed with task := .running }
  | _, _ => feed

/-! ## The iterator with its source -/

structure WireState where
  phase : Phase
  store : Store
  feed : ChunkFeed
  emitted : List ChatEvent := []

inductive WireLabel where
  | finish
  | elapse (now : Timestamp)
  | collect (now : Timestamp)
  | resume (input : Input) (now : Timestamp)

def Phase.awaitsChunk : Phase → Bool
  | .streaming _ _ .reading => true
  | _ => false

def WireState.enter (s : WireState) (feed : ChunkFeed) (after : Phase × Store) : WireState where
  phase := after.1
  store := after.2
  feed := feed.createTask after.1
  emitted := s.emitted ++ after.1.event.toList

def WireState.step (s : WireState) : WireLabel → Option WireState
  | .finish => s.feed.finish.map fun feed => { s with feed }
  | .elapse now =>
      match s.feed.task with
      | .running => (Chat.resume s.store s.phase .timeout now).map (s.enter s.feed)
      | .taken | .finished _ => none
  | .collect now =>
      match s.feed.task with
      | .finished read =>
          (Chat.resume s.store s.phase read.input now).map (s.enter { s.feed with task := .taken })
      | .taken | .running => none
  | .resume input now =>
      if s.phase.awaitsChunk then none
      else (Chat.resume s.store s.phase input now).map (s.enter s.feed)

def WireState.start (p : PreparedExchange) (store : Store) (source : ChunkSource) : WireState where
  phase := .streaming p {} .notStarted
  store := store
  feed := { source }

inductive ChunkFeed.Observed (feed : ChunkFeed) (phase : Phase) (input : Input) : ChunkFeed → Prop
  | elapses (hinput : input = .timeout) (htask : feed.task = .running) :
      Observed feed phase input feed
  | collects (read : ChunkRead) (hinput : input = read.input) (htask : feed.task = .finished read) :
      Observed feed phase input { feed with task := .taken }
  | resumes (hphase : phase.awaitsChunk = false) : Observed feed phase input feed

theorem WireState.step_cases {s t : WireState} {l : WireLabel} (h : s.step l = some t) :
    (∃ feed, s.feed.finish = some feed ∧ t = { s with feed }) ∨
      ∃ input now feed, s.feed.Observed s.phase input feed ∧
        requestStep (s.phase, s.store) (input, now) = some (t.phase, t.store) ∧
        t.feed = feed.createTask t.phase ∧ t.emitted = s.emitted ++ t.phase.event.toList := by
  cases l with
  | finish =>
      obtain ⟨feed, hfeed, rfl⟩ := Option.map_eq_some_iff.mp h
      exact Or.inl ⟨feed, hfeed, rfl⟩
  | elapse now =>
      simp only [WireState.step] at h
      split at h
      · obtain ⟨after, hafter, rfl⟩ := Option.map_eq_some_iff.mp h
        exact Or.inr ⟨_, now, _, .elapses rfl ‹_›, hafter, rfl, rfl⟩
      all_goals cases h
  | collect now =>
      simp only [WireState.step] at h
      split at h
      · obtain ⟨after, hafter, rfl⟩ := Option.map_eq_some_iff.mp h
        exact Or.inr ⟨_, now, _, .collects _ rfl ‹_›, hafter, rfl, rfl⟩
      all_goals cases h
  | resume input now =>
      simp only [WireState.step] at h
      split at h
      · cases h
      · rename_i hphase
        obtain ⟨after, hafter, rfl⟩ := Option.map_eq_some_iff.mp h
        exact Or.inr ⟨input, now, _, (.resumes (by simpa using hphase)), hafter, rfl, rfl⟩

/-! ## What is still to come of the source -/

def deltaTexts (chunks : List LLMChunk) : List String :=
  (chunks.map LLMChunk.content).filter fun content => content ≠ ""

def ChunkFeed.pending (feed : ChunkFeed) : List LLMChunk :=
  match feed.task with
  | .finished (.chunk chunk) => chunk :: feed.source.chunks
  | _ => feed.source.chunks

/-- A read that has reached the end leaves nothing behind. -/
def ChunkFeed.Sound (feed : ChunkFeed) : Prop :=
  match feed.task with
  | .finished .exhausted | .finished (.failed _) => feed.source.chunks = []
  | _ => True

section Feed

variable {feed feed' : ChunkFeed}

theorem ChunkFeed.finish_pending (h : feed.finish = some feed') :
    feed'.pending = feed.pending ∧ feed'.Sound := by
  obtain ⟨⟨chunks, ending⟩, task⟩ := feed
  cases task with
  | running =>
      cases chunks with
      | cons chunk chunks =>
          cases h
          exact ⟨rfl, trivial⟩
      | nil =>
          cases ending <;> cases h <;> exact ⟨rfl, rfl⟩
  | taken => cases h
  | finished read => cases h

theorem ChunkFeed.createTask_pending (feed : ChunkFeed) (phase : Phase) :
    (feed.createTask phase).pending = feed.pending ∧
      (feed.Sound → (feed.createTask phase).Sound) := by
  unfold ChunkFeed.createTask
  split
  · rename_i htask
    unfold ChunkFeed.pending
    rw [htask]
    exact ⟨rfl, fun _ => trivial⟩
  · exact ⟨rfl, id⟩

theorem ChunkRead.input_ne_next (read : ChunkRead) : read.input ≠ .next := by
  cases read <;> simp [ChunkRead.input]

theorem ChunkFeed.Observed.kept {phase : Phase} {input : Input}
    (h : feed.Observed phase input feed') (hinput : ∀ read : ChunkRead, read.input ≠ input) :
    feed' = feed := by
  cases h with
  | elapses _ _ => rfl
  | collects read heq _ => exact absurd heq.symm (hinput read)
  | resumes _ => rfl

theorem ChunkFeed.Observed.waiting {p : PreparedExchange} {locals : StreamLocals} {input : Input}
    (h : feed.Observed (.streaming p locals .reading) input feed') :
    (input = .timeout ∧ feed' = feed) ∨
      ∃ read, input = read.input ∧ feed.task = .finished read ∧
        feed' = { feed with task := .taken } := by
  cases h with
  | elapses hinput _ => exact Or.inl ⟨hinput, rfl⟩
  | collects read hinput htask => exact Or.inr ⟨read, hinput, htask, rfl⟩
  | resumes hphase => cases hphase

theorem StreamLocals.feed_texts (locals : StreamLocals) (chunk : LLMChunk)
    (chunks : List LLMChunk) :
    (locals.feed chunk).contentParts ++ deltaTexts chunks =
      locals.contentParts ++ deltaTexts (chunk :: chunks) := by
  unfold StreamLocals.feed deltaTexts
  by_cases hempty : chunk.content = ""
  · simp [hempty]
  · simp [hempty]

end Feed

/-! ## What has been sent -/

def ChatEvent.deltaText : ChatEvent → Option String
  | .delta _ text => some text
  | _ => none

def deltas (events : List ChatEvent) : List String := events.filterMap ChatEvent.deltaText

def ChatEvent.Interim (p : PreparedExchange) (e : ChatEvent) : Prop :=
  e = .keepAlive ∨ ∃ text, e = .delta p.assistantMessage.id text

/-- `message.created`, then keep-alives and the deltas `texts`, and `rest` at the end. -/
def Sent (p : PreparedExchange) (texts : List String) (rest emitted : List ChatEvent) : Prop :=
  ∃ middle, emitted = .created p.userMessage p.assistantMessage p.reused :: (middle ++ rest) ∧
    (∀ e ∈ middle, e.Interim p) ∧ deltas middle = texts

section Sent

variable {p : PreparedExchange} {texts : List String} {emitted : List ChatEvent}

theorem Sent.created : Sent p [] [] [.created p.userMessage p.assistantMessage p.reused] :=
  ⟨[], rfl, by simp, rfl⟩

theorem Sent.keepAlive (h : Sent p texts [] emitted) :
    Sent p texts [] (emitted ++ [.keepAlive]) := by
  obtain ⟨middle, rfl, hmiddle, htexts⟩ := h
  refine ⟨middle ++ [.keepAlive], by simp, ?_, ?_⟩
  · intro e he
    rcases List.mem_append.mp he with he | he
    · exact hmiddle e he
    · exact Or.inl (List.mem_singleton.mp he)
  · unfold deltas at htexts ⊢
    rw [List.filterMap_append, htexts]
    exact List.append_nil texts

theorem Sent.delta (h : Sent p texts [] emitted) (text : String) :
    Sent p (texts ++ [text]) [] (emitted ++ [.delta p.assistantMessage.id text]) := by
  obtain ⟨middle, rfl, hmiddle, htexts⟩ := h
  refine ⟨middle ++ [.delta p.assistantMessage.id text], by simp, ?_, ?_⟩
  · intro e he
    rcases List.mem_append.mp he with he | he
    · exact hmiddle e he
    · exact Or.inr ⟨text, List.mem_singleton.mp he⟩
  · unfold deltas at htexts ⊢
    rw [List.filterMap_append, htexts]
    rfl

theorem Sent.last (h : Sent p texts [] emitted) (e : ChatEvent) :
    Sent p texts [e] (emitted ++ [e]) := by
  obtain ⟨middle, rfl, hmiddle, htexts⟩ := h
  exact ⟨middle, by simp, hmiddle, htexts⟩

theorem Sent.quiet {rest : List ChatEvent} {phase : Phase} (h : Sent p texts rest emitted)
    (hevent : phase.event = none) : Sent p texts rest (emitted ++ phase.event.toList) := by
  rw [hevent, Option.toList_none, List.append_nil]
  exact h

end Sent

/-- What a terminal event tells about the stored reply. -/
inductive Tells (p : PreparedExchange) (content : String) (store : Store) : ChatEvent → Prop
  | completed (row : Message) (hrow : getMessage store.messages p.assistantMessage.id = some row)
      (hstatus : row.status = .completed) (hcontent : row.content = content) :
      Tells p content store (.completed row)
  | failed (e : Exn) (row : Message)
      (hrow : getMessage store.messages p.assistantMessage.id = some row)
      (hstatus : row.status = .failed) (hcontent : row.content = content) :
      Tells p content store (streamError p.assistantMessage.id e)

def WireState.Told (p : PreparedExchange) (texts : List String) (s : WireState) : Prop :=
  ∃ terminal, Sent p texts [terminal] s.emitted ∧ Tells p (String.join texts) s.store terminal

/-! ## The invariant -/

def SentAt (p : PreparedExchange) (texts : List String) (locals : StreamLocals)
    (emitted : List ChatEvent) : StreamPoint → Prop
  | .notStarted => emitted = [] ∧ locals.contentParts = []
  | .draining _ => False
  | .releasing _ => Sent p texts [] emitted ∧ locals.contentParts = texts
  | .created | .keepAlive | .delta _ | .reading => Sent p locals.contentParts [] emitted

/-- The content parts and the chunks to come make up `texts`, until a transaction holds them. -/
def WireInvariant (p : PreparedExchange) (texts : List String) (s : WireState) : Prop :=
  match s.phase with
  | .streaming q locals point =>
      q = p ∧ s.feed.Sound ∧ locals.contentParts ++ deltaTexts s.feed.pending = texts ∧
        SentAt p texts locals s.emitted point
  | .finalizing streaming q reply built _ =>
      streaming = true ∧ q = p ∧ reply.content = String.join texts ∧ Sent p texts [] s.emitted ∧
        ∀ row, built = some row → getMessage s.store.messages p.assistantMessage.id = some row ∧
          row.status = .completed ∧ row.content = String.join texts
  | .recording streaming q content _ _ stage =>
      streaming = true ∧ q = p ∧ content = String.join texts ∧ Sent p texts [] s.emitted ∧
        (stage = .close none → ∃ row, getMessage s.store.messages p.assistantMessage.id = some row ∧
          row.status = .failed ∧ row.content = String.join texts)
  | .completedEvent .. | .errorEvent .. | .exited .streamEnded => s.Told p texts
  | .exited _ => True
  | .idle | .generating _ => False

section Invariant

variable {p : PreparedExchange} {texts : List String} {keys : List MessageKey} {s t : WireState}
  {feed : ChunkFeed} {locals : StreamLocals}

theorem WireInvariant.of_handle {e : Exn} {emitted : List ChatEvent} {content : String}
    {store : Store} (hcontent : content = String.join texts) (hsent : Sent p texts [] emitted) :
    WireInvariant p texts
      { phase := handle true p content e, store, feed,
        emitted := emitted ++ (handle true p content e).event.toList } := by
  unfold handle
  split_ifs
  · exact ⟨rfl, rfl, hcontent, hsent.quiet rfl, by simp⟩
  · exact ⟨rfl, rfl, hcontent, hsent.quiet rfl, by simp⟩
  · trivial

theorem WireInvariant.of_leaveLoop {ending : Option Exn} {emitted : List ChatEvent}
    {store : Store} (hparts : locals.contentParts = texts) (hsent : Sent p texts [] emitted) :
    WireInvariant p texts
      { phase := leaveLoop p locals ending, store, feed,
        emitted := emitted ++ (leaveLoop p locals ending).event.toList } := by
  have hcontent : locals.content = String.join texts := by rw [StreamLocals.content, hparts]
  cases ending with
  | none => exact ⟨rfl, rfl, hcontent, by simpa [leaveLoop, Phase.event] using hsent, by simp⟩
  | some e => exact WireInvariant.of_handle hcontent hsent

theorem WireInvariant.reading_step {input : Input} {store : Store} {feed' : ChunkFeed}
    {emitted : List ChatEvent} {phase' : Phase} (hsound : feed.Sound)
    (htexts : locals.contentParts ++ deltaTexts feed.pending = texts)
    (hsent : SentAt p texts locals emitted .reading)
    (hobserved : feed.Observed (.streaming p locals .reading) input feed')
    (hstep : resumeStream p locals .reading input = some phase') :
    WireInvariant p texts
      { phase := phase', store, feed := feed'.createTask phase',
        emitted := emitted ++ phase'.event.toList } := by
  rcases hobserved.waiting with ⟨rfl, rfl⟩ | ⟨read, rfl, htask, rfl⟩
  · simp only [resumeStream, Option.some.injEq] at hstep
    subst hstep
    exact ⟨rfl, hsound, htexts, Sent.keepAlive hsent⟩
  · cases read with
    | chunk chunk =>
        have hnext : (locals.feed chunk).contentParts ++ deltaTexts feed.source.chunks = texts := by
          rw [StreamLocals.feed_texts, ← htexts]
          simp only [ChunkFeed.pending, htask]
        simp only [ChunkRead.input, resumeStream, Option.some.injEq] at hstep
        subst hstep
        by_cases hempty : chunk.content = ""
        · simp only [hempty, if_true]
          refine ⟨rfl, trivial, hnext, ?_⟩
          have hparts : (locals.feed chunk).contentParts = locals.contentParts := by
            simp [StreamLocals.feed, hempty]
          simpa [SentAt, Phase.event, hparts] using hsent
        · simp only [hempty, if_false]
          refine ⟨rfl, trivial, hnext, ?_⟩
          have hparts : (locals.feed chunk).contentParts =
              locals.contentParts ++ [chunk.content] := by
            simp [StreamLocals.feed, hempty]
          simpa [SentAt, Phase.event, hparts] using Sent.delta hsent chunk.content
    | exhausted | failed e =>
        have hrest : feed.source.chunks = [] := by
          simpa only [ChunkFeed.Sound, htask] using hsound
        have hparts : locals.contentParts = texts := by
          rw [← htexts]
          simp [ChunkFeed.pending, htask, hrest, deltaTexts]
        have hsent' : Sent p locals.contentParts [] emitted := hsent
        simp only [ChunkRead.input, resumeStream, Option.some.injEq] at hstep
        subst hstep
        refine ⟨rfl, trivial, ?_, ?_, hparts⟩
        · show locals.contentParts ++ deltaTexts feed.source.chunks = texts
          rw [hrest, hparts]
          exact List.append_nil texts
        · simpa [Phase.event, hparts] using hsent'

theorem WireInvariant.stream_step {point : StreamPoint} {input : Input} {store : Store}
    {feed' : ChunkFeed} {emitted : List ChatEvent} {phase' : Phase}
    (hneeds : p.needsGeneration = true) (hsound : feed.Sound)
    (htexts : locals.contentParts ++ deltaTexts feed.pending = texts)
    (hsent : SentAt p texts locals emitted point)
    (hobserved : feed.Observed (.streaming p locals point) input feed')
    (hstep : resumeStream p locals point input = some phase') :
    WireInvariant p texts
      { phase := phase', store, feed := feed'.createTask phase',
        emitted := emitted ++ phase'.event.toList } := by
  have hkept (hinput : ∀ read : ChunkRead, read.input ≠ input) :
      (feed'.createTask phase').Sound ∧
        locals.contentParts ++ deltaTexts (feed'.createTask phase').pending = texts := by
    obtain rfl := hobserved.kept hinput
    obtain ⟨hpending, hsound'⟩ := feed'.createTask_pending phase'
    rw [hpending]
    exact ⟨hsound' hsound, htexts⟩
  cases point with
  | notStarted =>
      obtain ⟨rfl, hparts⟩ := hsent
      cases input <;> simp only [resumeStream, Option.some.injEq, reduceCtorEq] at hstep <;>
        subst hstep
      · obtain ⟨hsound', htexts'⟩ := hkept ChunkRead.input_ne_next
        refine ⟨rfl, hsound', htexts', ?_⟩
        show Sent p locals.contentParts [] _
        rw [hparts]
        exact Sent.created
      · trivial
  | created =>
      cases input <;> simp only [resumeStream, Option.some.injEq, reduceCtorEq] at hstep
      · simp only [hneeds, if_true, Option.some.injEq] at hstep
        subst hstep
        obtain ⟨hsound', htexts'⟩ := hkept ChunkRead.input_ne_next
        exact ⟨rfl, hsound', htexts', by simpa [SentAt, Phase.event] using hsent⟩
      · subst hstep
        trivial
  | keepAlive | delta text =>
      cases input <;> simp only [resumeStream, Option.some.injEq, reduceCtorEq] at hstep <;>
        subst hstep
      · obtain ⟨hsound', htexts'⟩ := hkept ChunkRead.input_ne_next
        exact ⟨rfl, hsound', htexts', by simpa [SentAt, Phase.event] using hsent⟩
      · trivial
  | reading => exact WireInvariant.reading_step hsound htexts hsent hobserved hstep
  | draining e => exact hsent.elim
  | releasing ending =>
      obtain ⟨hsent, hparts⟩ := hsent
      cases input with
      | awaited result =>
          cases result with
          | done =>
              simp only [resumeStream, Option.some.injEq] at hstep
              subst hstep
              exact WireInvariant.of_leaveLoop hparts hsent
          | raised e =>
              have hcontent : locals.content = String.join texts := by
                rw [StreamLocals.content, hparts]
              simp only [resumeStream] at hstep
              split_ifs at hstep <;> simp only [Option.some.injEq] at hstep <;> subst hstep
              · exact WireInvariant.of_leaveLoop hparts hsent
              · exact WireInvariant.of_handle hcontent hsent
          | raisedAfterCommit e => simp [resumeStream] at hstep
      | _ => simp [resumeStream] at hstep

theorem WireInvariant.finish (h : WireInvariant p texts s) (hfeed : s.feed.finish = some feed) :
    WireInvariant p texts { s with feed } := by
  obtain ⟨hpending, hsound⟩ := ChunkFeed.finish_pending hfeed
  obtain ⟨phase, store, _, emitted⟩ := s
  cases phase with
  | streaming q locals point =>
      obtain ⟨hq, -, htexts, hsent⟩ := h
      exact ⟨hq, hsound, by rw [hpending]; exact htexts, hsent⟩
  | exited outcome => cases outcome <;> exact h
  | _ => exact h

theorem getMessage_finalizeSuccess {store : Store} {reply : FinalReply} {now : Timestamp}
    {m : Message} (hm : getMessage store.messages p.assistantMessage.id = some m)
    (hafter : WellFormed (finalizeSuccess reply p.assistantMessage.id now store).messages) :
    getMessage (finalizeSuccess reply p.assistantMessage.id now store).messages
      p.assistantMessage.id = some (completeMessage reply now m) := by
  rw [finalizeSuccess_messages reply now hm] at hafter ⊢
  exact getMessage_updateMessage hafter hm rfl

theorem WireInvariant.request_step {phase phase' : Phase} {store store' : Store} {input : Input}
    {now : Timestamp} {feed' : ChunkFeed} {emitted : List ChatEvent}
    (h : WireInvariant p texts ⟨phase, store, feed, emitted⟩)
    (hrow : ∃ row, getMessage store.messages p.assistantMessage.id = some row)
    (hafter : WellFormed store'.messages)
    (hphase : ∀ q locals point, phase ≠ .streaming q locals point)
    (hstep : RequestStep store now phase input phase' store') :
    WireInvariant p texts ⟨phase', store', feed', emitted ++ phase'.event.toList⟩ := by
  cases hstep with
  | responds p' response => exact h.elim
  | fails p' e handler he => exact h.elim
  | streams p' locals point input phase' hstream => exact absurd rfl (hphase _ _ _)
  | finalAdvances streaming' p' reply stage stage' hbefore hbefore' =>
      obtain ⟨hmode, rfl, hcontent, hsent, hbuilt⟩ := h
      exact ⟨hmode, rfl, hcontent, hsent.quiet rfl, hbuilt⟩
  | finalInterrupted streaming' p' reply stage e hbefore he =>
      obtain ⟨hmode, rfl, hcontent, hsent, hbuilt⟩ := h
      exact ⟨hmode, rfl, hcontent, hsent.quiet rfl, hbuilt⟩
  | finalCommits streaming' p' reply m hm =>
      obtain ⟨hmode, rfl, hcontent, hsent, -⟩ := h
      have hcompleted := getMessage_finalizeSuccess hm hafter
      refine ⟨hmode, rfl, hcontent, hsent.quiet rfl, ?_⟩
      rintro row ⟨⟩
      exact ⟨hcompleted, rfl, hcontent⟩
  | finalCommitsRaising streaming' p' reply m hm e he =>
      obtain ⟨hmode, rfl, hcontent, hsent, -⟩ := h
      have hcompleted := getMessage_finalizeSuccess hm hafter
      refine ⟨hmode, rfl, hcontent, hsent.quiet rfl, ?_⟩
      rintro row ⟨⟩
      exact ⟨hcompleted, rfl, hcontent⟩
  | finalUnwinds streaming' p' reply built result e he =>
      obtain ⟨hmode, rfl, hcontent, hsent, hbuilt⟩ := h
      exact ⟨hmode, rfl, hcontent, hsent.quiet rfl, hbuilt⟩
  | finalReturns streaming' p' reply message =>
      obtain ⟨rfl, rfl, hcontent, hsent, hbuilt⟩ := h
      obtain ⟨hmessage, hstatus, htext⟩ := hbuilt message rfl
      exact ⟨_, hsent.last _, .completed message hmessage hstatus htext⟩
  | sendRaises p' reply built stage result e hbefore => cases h.1
  | streamRecovers p' reply built stage result e handler hbefore he hcause =>
      obtain ⟨hmode, rfl, hcontent, hsent, hbuilt⟩ := h
      exact ⟨rfl, rfl, hcontent, hsent.quiet rfl, by simp⟩
  | recordDetaches streaming' p' content caught handler stage result e hdetach =>
      obtain ⟨hmode, rfl, hcontent, hsent, hfailed⟩ := h
      exact ⟨hmode, rfl, hcontent, hsent.quiet rfl, hfailed⟩
  | recordAdvances streaming' p' content caught handler stage stage' hbefore hbefore' =>
      obtain ⟨hmode, rfl, hcontent, hsent, hfailed⟩ := h
      exact ⟨hmode, rfl, hcontent, hsent.quiet rfl,
        fun hclose => absurd hclose (TxnStage.ne_close_of_beforeCommit hbefore')⟩
  | recordInterrupted streaming' p' content caught handler stage e hbefore he hdetach =>
      obtain ⟨hmode, rfl, hcontent, hsent, hfailed⟩ := h
      exact ⟨hmode, rfl, hcontent, hsent.quiet rfl, by simp⟩
  | recordCommits streaming' p' content caught handler result stage' hsound' hbefore' =>
      obtain ⟨hmode, rfl, hcontent, hsent, -⟩ := h
      obtain ⟨m, hm⟩ := hrow
      refine ⟨hmode, rfl, hcontent, hsent.quiet rfl, fun _ => ?_⟩
      exact ⟨_, getMessage_updateMessage hafter hm rfl, rfl, hcontent⟩
  | recordUnwinds streaming' p' content caught handler result e he =>
      obtain ⟨hmode, rfl, hcontent, hsent, hfailed⟩ := h
      exact ⟨hmode, rfl, hcontent, hsent.quiet rfl, by simp⟩
  | recordReturns streaming' p' content caught handler =>
      obtain ⟨rfl, rfl, hcontent, hsent, hfailed⟩ := h
      obtain ⟨row, hrow, hstatus, htext⟩ := hfailed rfl
      cases handler with
      | shielded => trivial
      | detached e => trivial
      | plain => exact ⟨_, hsent.last _, .failed caught row hrow hstatus htext⟩
  | recordRaises streaming' p' content caught handler stage result e hbefore =>
      cases handler <;> trivial
  | ends _ _ outcome hevent =>
      cases outcome with
      | streamEnded =>
          obtain ⟨terminal, hsent, htells⟩ :
              WireState.Told p texts ⟨phase, store, feed, emitted⟩ := by
            rcases hevent with ⟨q, message, rfl⟩ | ⟨q, e, rfl⟩ <;> exact h
          exact ⟨terminal, hsent.quiet rfl, htells⟩
      | returned response => trivial
      | raised e => trivial

theorem WireInvariant.step {l : WireLabel} (hneeds : p.needsGeneration = true)
    (h : Attempt p true keys (s.phase, s.store) ∧ WireInvariant p texts s)
    (hstep : s.step l = some t) :
    Attempt p true keys (t.phase, t.store) ∧ WireInvariant p texts t := by
  obtain ⟨hattempt, hwire⟩ := h
  rcases WireState.step_cases hstep with ⟨feed, hfeed, rfl⟩ |
    ⟨input, now, feed, hobserved, hrequest, hfeed, hemitted⟩
  · exact ⟨hattempt, hwire.finish hfeed⟩
  · have hattempt' := hattempt.step hrequest
    refine ⟨hattempt', ?_⟩
    obtain ⟨phase, store, sourceFeed, emitted⟩ := s
    obtain ⟨phase', store', feed', emitted'⟩ := t
    simp only at hfeed hemitted hrequest hobserved hattempt hattempt'
    subst hfeed hemitted
    by_cases hphase : ∃ q locals point, phase = .streaming q locals point
    · obtain ⟨q, locals, point, rfl⟩ := hphase
      obtain ⟨rfl, hsound, htexts, hsent⟩ := hwire
      have hstream : ∃ phase'', resumeStream q locals point input = some phase'' ∧
          (phase'', store) = (phase', store') := by
        unfold requestStep resume at hrequest
        split at hrequest
        · exact Option.map_eq_some_iff.mp hrequest
        · cases hrequest
      obtain ⟨phase'', hresume, heq⟩ := hstream
      cases heq
      exact WireInvariant.stream_step hneeds hsound htexts hsent hobserved hresume
    · refine hwire.request_step hattempt.row hattempt'.messages ?_ (hattempt.cases hrequest).2
      rintro q locals point rfl
      exact hphase ⟨q, locals, point, rfl⟩

theorem WireInvariant.run {labels : List WireLabel} (hneeds : p.needsGeneration = true)
    (h : Attempt p true keys (s.phase, s.store) ∧ WireInvariant p texts s)
    (hexec : exec WireState.step s labels = some t) :
    Attempt p true keys (t.phase, t.store) ∧ WireInvariant p texts t :=
  exec_invariant' (fun _ _ _ h hstep => WireInvariant.step hneeds h hstep) h hexec

theorem WireInvariant.start (p : PreparedExchange) (store : Store) (source : ChunkSource) :
    WireInvariant p (deltaTexts source.chunks) (WireState.start p store source) :=
  ⟨rfl, trivial, rfl, rfl, rfl⟩

end Invariant

/-! ## Replayed exchanges -/

def replayEvents (p : PreparedExchange) : List ChatEvent :=
  [.created p.userMessage p.assistantMessage p.reused, .completed p.assistantMessage]

/-- An exchange that needs no generation sends its stored reply and writes nothing. -/
def ReplayInvariant (p : PreparedExchange) (store : Store) (s : WireState) : Prop :=
  s.store = store ∧
    match s.phase with
    | .streaming q _ .notStarted => q = p ∧ s.emitted = []
    | .streaming q _ .created => q = p ∧ s.emitted = (replayEvents p).take 1
    | .completedEvent .. | .exited .streamEnded => s.emitted = replayEvents p
    | .exited _ => True
    | _ => False

section Replay

variable {p : PreparedExchange} {store : Store} {s t : WireState}

theorem ReplayInvariant.request_step {phase phase' : Phase} {store' : Store}
    {feed feed' : ChunkFeed}
    {emitted : List ChatEvent} {l : Input × Timestamp} (hneeds : p.needsGeneration = false)
    (h : ReplayInvariant p store ⟨phase, store, feed, emitted⟩)
    (hstep : requestStep (phase, store) l = some (phase', store')) :
    ReplayInvariant p store ⟨phase', store', feed', emitted ++ phase'.event.toList⟩ := by
  obtain ⟨input, now⟩ := l
  obtain ⟨-, hphase⟩ := h
  unfold requestStep resume at hstep
  split at hstep
  · cases phase with
    | streaming q locals point =>
        obtain ⟨phase'', hstream, heq⟩ := Option.map_eq_some_iff.mp hstep
        cases heq
        cases point with
        | notStarted =>
            obtain ⟨rfl, hemitted⟩ := hphase
            simp only at hemitted
            subst hemitted
            cases input <;> cases hstream
            · exact ⟨rfl, rfl, rfl⟩
            · exact ⟨rfl, trivial⟩
        | created =>
            obtain ⟨rfl, hemitted⟩ := hphase
            simp only at hemitted
            subst hemitted
            cases input <;> simp only [resumeStream, hneeds, reduceCtorEq] at hstream
            · cases hstream
              exact ⟨rfl, rfl⟩
            · cases hstream
              exact ⟨rfl, trivial⟩
        | _ => exact hphase.elim
    | completedEvent q message =>
        cases input <;> cases hstep
        · exact ⟨rfl, by simpa [Phase.event] using hphase⟩
        · exact ⟨rfl, trivial⟩
    | exited outcome => cases hstep
    | _ => exact hphase.elim
  · cases hstep

theorem ReplayInvariant.step {l : WireLabel} (hneeds : p.needsGeneration = false)
    (h : ReplayInvariant p store s) (hstep : s.step l = some t) : ReplayInvariant p store t := by
  rcases WireState.step_cases hstep with ⟨feed, -, rfl⟩ |
    ⟨input, now, feed, -, hrequest, hfeed, hemitted⟩
  · exact h
  · obtain ⟨phase, store', sourceFeed, emitted⟩ := s
    obtain ⟨phase', store'', feed', emitted'⟩ := t
    obtain rfl : store' = store := h.1
    simp only at hfeed hemitted hrequest
    subst hfeed hemitted
    exact ReplayInvariant.request_step hneeds h hrequest

theorem ReplayInvariant.run {labels : List WireLabel} (hneeds : p.needsGeneration = false)
    (h : ReplayInvariant p store s) (hexec : exec WireState.step s labels = some t) :
    ReplayInvariant p store t :=
  exec_invariant' (fun _ _ _ h hstep => ReplayInvariant.step hneeds h hstep) h hexec

end Replay

/-! ## What has been sent at the terminal event -/

def Phase.terminalSent : Phase → Bool
  | .completedEvent .. | .errorEvent .. | .exited .streamEnded => true
  | _ => false

/-- The whole of a stream, and the reply that its row holds then. -/
def WireState.Finished (p : PreparedExchange) (s : WireState) : Prop :=
  ∃ middle terminal,
    s.emitted = .created p.userMessage p.assistantMessage p.reused :: (middle ++ [terminal]) ∧
      (∀ e ∈ middle, e.Interim p) ∧ (p.needsGeneration = false → middle = []) ∧
      Tells p (p.assistantMessage.content ++ String.join (deltas middle)) s.store terminal

structure PreparedFor (p : PreparedExchange) (store : Store) : Prop where
  distinct : p.userMessage.id ≠ p.assistantMessage.id
  blank : p.needsGeneration = true → p.assistantMessage.content = ""
  stored : getMessage store.messages p.assistantMessage.id = some p.assistantMessage
  replayed : p.needsGeneration = false → p.assistantMessage.status = .completed

section Prepared

variable {d : Deployment} {labels : List ChatLabel} {s : ChatState} {userId conversationId : UUID}
  {request : MessageSendRequest} {streaming : Bool} {gen : Generated} {p : PreparedExchange}
  {store : Store}

theorem prepareExchange_prepared (hrun : exec (ChatState.step d) {} labels = some s)
    (hprepare : prepareExchange d.py d.config s.store userId conversationId request streaming gen =
      (.ok p, store)) : PreparedFor p store := by
  have hwell : WellFormed s.store.messages := (run_table hrun).messages
  obtain ⟨conversation, ex, -, hloc, hdescribes, hmessages⟩ := prepareExchange_ok hprepare
  have hwell' : WellFormed store.messages := hmessages ▸ hloc.wellFormed hwell
  obtain ⟨⟨hkey, hclient⟩, hmem, hreply⟩ := hloc.exchange_mem
  rw [← hmessages] at hkey hmem
  obtain ⟨user, huser, heq⟩ := List.mem_map.mp hkey
  simp only [messageKey, MessageKey.mk.injEq] at heq
  have hrole : user.role = .user := by
    apply hwell'.client_role huser
    rw [hasClientId_iff] at hclient ⊢
    exact ⟨heq.2.1.trans hclient.1, heq.2.2.2.1.trans hclient.2⟩
  constructor
  · rw [hdescribes.userMessage, hdescribes.assistantMessage, ← heq.1]
    intro hid
    rw [hwell'.eq_of_id_eq huser hmem hid, (isReplyTo_iff.mp hreply).2] at hrole
    cases hrole
  · rw [hdescribes.needsGeneration, hdescribes.assistantMessage]
    intro hneeds
    cases hloc with
    | replay => cases hneeds
    | _ => rfl
  · rw [hdescribes.assistantMessage]
    exact hwell'.getMessage_eq hmem
  · rw [hdescribes.needsGeneration, hdescribes.assistantMessage]
    intro hneeds
    cases hloc with
    | replay user assistant _ _ _ _ hstatus => exact hstatus
    | _ => cases hneeds

theorem prepareExchange_wire (hrun : exec (ChatState.step d) {} labels = some s)
    (hprepare : prepareExchange d.py d.config s.store userId conversationId request true gen =
      (.ok p, store))
    (hneeds : p.needsGeneration = true) {source : ChunkSource} {wire : List WireLabel}
    {t : WireState} (hexec : exec WireState.step (WireState.start p store source) wire = some t) :
    WireInvariant p (deltaTexts source.chunks) t := by
  have hattempt : Attempt p true (store.messages.map messageKey)
      (.streaming p {} .notStarted, store) :=
    (prepareExchange_opened hrun hprepare hneeds).attempt rfl rfl ⟨by simp, trivial⟩
  exact (WireInvariant.run hneeds ⟨hattempt, WireInvariant.start p store source⟩ hexec).2

theorem stream_finished (hrun : exec (ChatState.step d) {} labels = some s)
    (hprepare : prepareExchange d.py d.config s.store userId conversationId request true gen =
      (.ok p, store))
    {source : ChunkSource} {wire : List WireLabel} {t : WireState}
    (hexec : exec WireState.step (WireState.start p store source) wire = some t)
    (hend : t.phase.terminalSent = true) : t.Finished p := by
  have hprepared := prepareExchange_prepared hrun hprepare
  cases hneeds : p.needsGeneration with
  | true =>
      have hwire := prepareExchange_wire hrun hprepare hneeds hexec
      have htold : t.Told p (deltaTexts source.chunks) := by
        unfold WireInvariant at hwire
        unfold Phase.terminalSent at hend
        split at hend
        · simp_all
        · simp_all
        · simp_all
        · cases hend
      obtain ⟨terminal, ⟨middle, hemitted, hmiddle, hdeltas⟩, htells⟩ := htold
      refine ⟨middle, terminal, hemitted, hmiddle, by simp [hneeds], ?_⟩
      rw [hprepared.blank hneeds, hdeltas, String.empty_append]
      exact htells
  | false =>
      have hreplay := ReplayInvariant.run hneeds
        (show ReplayInvariant p store (WireState.start p store source) from ⟨rfl, rfl, rfl⟩) hexec
      obtain ⟨hstore, hphase⟩ := hreplay
      have hemitted : t.emitted = replayEvents p := by
        unfold Phase.terminalSent at hend
        split at hend
        · simp_all
        · simp_all
        · simp_all
        · cases hend
      refine ⟨[], .completed p.assistantMessage, hemitted, by simp, fun _ => rfl, ?_⟩
      have hrow : getMessage t.store.messages p.assistantMessage.id = some p.assistantMessage := by
        rw [hstore]
        exact hprepared.stored
      exact .completed _ hrow (hprepared.replayed hneeds) (String.append_empty).symm

end Prepared

/-! ## The stream protocol -/

theorem Tells.row {p : PreparedExchange} {content : String} {store : Store} {terminal : ChatEvent}
    (h : Tells p content store terminal) :
    ∃ row, getMessage store.messages p.assistantMessage.id = some row ∧ row.content = content ∧
      ((∃ message, terminal = .completed message) ∧ row.status = .completed ∨
        (∃ code message details,
          terminal = .error p.assistantMessage.id code message details) ∧
        row.status = .failed) := by
  cases h with
  | completed row hrow hstatus hcontent =>
      exact ⟨row, hrow, hcontent, Or.inl ⟨⟨row, rfl⟩, hstatus⟩⟩
  | failed e row hrow hstatus hcontent =>
      refine ⟨row, hrow, hcontent, Or.inr ⟨?_, hstatus⟩⟩
      cases e <;> exact ⟨_, _, _, rfl⟩

/--
The events of a stream that is read to its end, for any chunks, any ending of them and
any timing of the reads: they carry exactly the chunks, and agree with the stored reply.
-/
theorem stream_protocol (d : Deployment) {labels : List ChatLabel} {s : ChatState}
    (hrun : exec (ChatState.step d) {} labels = some s) {userId conversationId : UUID}
    {request : MessageSendRequest} {gen : Generated} {p : PreparedExchange} {store : Store}
    (hprepare : prepareExchange d.py d.config s.store userId conversationId request true gen =
      (.ok p, store))
    (hneeds : p.needsGeneration = true) (source : ChunkSource) {wire : List WireLabel}
    {t : WireState}
    (hexec : exec WireState.step (WireState.start p store source) wire = some t)
    (hend : t.phase = .exited .streamEnded) :
    ∃ middle terminal row,
      t.emitted = .created p.userMessage p.assistantMessage p.reused :: (middle ++ [terminal]) ∧
        (∀ e ∈ middle, e = .keepAlive ∨ ∃ text, e = .delta p.assistantMessage.id text) ∧
        deltas middle = deltaTexts source.chunks ∧
        getMessage t.store.messages p.assistantMessage.id = some row ∧
        row.content = String.join (deltas middle) ∧
        ((∃ message, terminal = .completed message) ∨
          ∃ code message details, terminal = .error p.assistantMessage.id code message details) ∧
        ((∃ message, terminal = .completed message) ↔ row.status = .completed) ∧
        ((∃ code message details, terminal = .error p.assistantMessage.id code message details) ↔
          row.status = .failed) := by
  have hwire := prepareExchange_wire hrun hprepare hneeds hexec
  unfold WireInvariant at hwire
  rw [hend] at hwire
  obtain ⟨terminal, ⟨middle, hemitted, hmiddle, hdeltas⟩, htells⟩ := hwire
  obtain ⟨row, hrow, hcontent, hkind⟩ := htells.row
  refine ⟨middle, terminal, row, hemitted, hmiddle, hdeltas, hrow, by rw [hcontent, hdeltas], ?_⟩
  rcases hkind with ⟨⟨message, rfl⟩, hstatus⟩ | ⟨⟨code, message, details, rfl⟩, hstatus⟩
  · simp [hstatus]
  · simp [hstatus]

def slowRead : List WireLabel :=
  [.resume .next 100, .resume .next 100, .elapse 115, .finish, .resume .next 116, .collect 117,
    .resume .next 118, .finish, .collect 119, .finish, .collect 120, .resume (.awaited .done) 121,
    .resume (.awaited .done) 122, .resume (.awaited .done) 123, .resume (.awaited .done) 124,
    .resume (.awaited .done) 125, .resume (.awaited .done) 126, .resume .next 127]

def slowSource : ChunkSource where
  chunks :=
    [{ content := "Hi", model := "m", provider := "ollama" },
      { content := "", model := "m", provider := "ollama" }]
  ending := none

theorem stream_protocol_slow :
    ∃ s p store t middle terminal row,
      exec (ChatState.step defaultDeployment) {} [openConversation10 (some "ollama")] = some s ∧
        prepareExchange defaultDeployment.py defaultDeployment.config s.store 1 10 helloRequest
          true ⟨20, 21, 100⟩ = (.ok p, store) ∧
        exec WireState.step (WireState.start p store slowSource) slowRead = some t ∧
        t.emitted = .created p.userMessage p.assistantMessage p.reused :: (middle ++ [terminal]) ∧
        deltas middle = ["Hi"] ∧ row.content = String.join (deltas middle) ∧
        getMessage t.store.messages p.assistantMessage.id = some row := by
  have hrun : ∃ s,
      exec (ChatState.step defaultDeployment) {} [openConversation10 (some "ollama")] = some s ∧
        ∃ p store, prepareExchange defaultDeployment.py defaultDeployment.config s.store 1 10
            helloRequest true ⟨20, 21, 100⟩ = (.ok p, store) ∧ p.needsGeneration = true ∧
          ∃ t, exec WireState.step (WireState.start p store slowSource) slowRead = some t ∧
            t.phase = .exited .streamEnded :=
    ⟨_, rfl, _, _, rfl, rfl, _, rfl, rfl⟩
  obtain ⟨s, hs, p, store, hprepare, hneeds, t, hexec, hend⟩ := hrun
  obtain ⟨middle, terminal, row, hemitted, -, hdeltas, hrow, hcontent, -⟩ :=
    stream_protocol defaultDeployment hs hprepare hneeds slowSource hexec hend
  have htexts : deltaTexts slowSource.chunks = ["Hi"] := by decide
  exact ⟨s, p, store, t, middle, terminal, row, hs, hprepare, hexec, hemitted,
    hdeltas.trans htexts, hcontent, hrow⟩

end Astra.Chat
