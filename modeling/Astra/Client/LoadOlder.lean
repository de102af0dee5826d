import Astra.Client.Timeline
import Mathlib.Logic.Function.Basic

/-!
# Older messages beside the streams

`ChatController` with its asynchronous procedures: `loadOlder`, `send` and `retry`.  Code
between two awaits is one step.  `loadOlder` writes back the state that it has read before
its await, so that its page is merged safely only into an unchanged timeline.
-/

namespace Astra.Client

open Astra.Foundation Astra.Platform Astra.Persistence Astra.Chat

/-! ## The controller -/

/-- `AsyncValue<ChatState>` once `build` has returned. -/
inductive AsyncChat where
  | data (value : ChatState)
  | error

def AsyncChat.asData : AsyncChat → Option ChatState
  | data value => some value
  | error => none

structure MessagePageData where
  items : List ChatMessage
  nextCursor : Option String := none

inductive StreamError where
  | app (error : AppException)
  | other (text : String)

def StreamError.exception : StreamError → AppException
  | app error => error
  | other text =>
      { code := "CHAT_STREAM_FAILED", message := "Không thể hoàn tất phản hồi AI."
        details := .str text }

def streamIncomplete : AppException where
  code := "CHAT_STREAM_INCOMPLETE"
  message := "Kết nối đã đóng trước khi phản hồi AI hoàn tất."
  details := .null

def ChatStreamEvent.isTerminal : ChatStreamEvent → Bool
  | completed _ | failed _ _ => true
  | _ => false

def ChatStreamEvent.ids : ChatStreamEvent → List String
  | started userMessage assistantMessage _ => [userMessage.id, assistantMessage.id]
  | delta messageId _ | failed messageId _ => [messageId]
  | completed message => [message.id]

def ChatMessage.isOpenReply (message : ChatMessage) : Bool :=
  message.role == .assistant && message.status == .streaming

def ChatState.recordFailure (latest : ChatState) (error : AppException) : ChatState :=
  { latest with
    messages := latest.messages.map fun message =>
      if message.isOpenReply then markFailed message else message
    streamError := some error }

/--
The controller, with the state that each `loadOlder` under way has read and, for each
stream under way, whether its last event was a terminal one.  `applied` collects the
messages as the streams have left them, `older` the ids of the pages.
-/
structure ChatScreen where
  state : AsyncChat
  loads : Nat → Option ChatState := fun _ => none
  streams : Nat → Option Bool := fun _ => none
  applied : List ChatMessage := []
  older : List String := []

inductive ChatScreenLabel where
  | loadOlder (i : Nat)
  | pageLoaded (i : Nat) (page : MessagePageData)
  | pageFailed (i : Nat)
  | setExecutionMode (mode : ChatExecutionMode)
  | send (i : Nat) (content : String)
  | retry (i : Nat) (failedAssistant : ChatMessage)
  | event (i : Nat) (event : ChatStreamEvent)
  | streamClosed (i : Nat)
  | streamFailed (i : Nat) (error : StreamError)

def note (ids : List String) (messages applied : List ChatMessage) : List ChatMessage :=
  applied.filter (fun message => message.id ∉ ids) ++
    messages.filter fun message => message.id ∈ ids

namespace ChatScreen

def built (page : MessagePageData) : ChatScreen where
  state := .data { messages := page.items, nextCursor := page.nextCursor }

def sendInternal (s : ChatScreen) (i : Nat) (content : String) : ChatScreen :=
  match s.state.asData with
  | none => s
  | some current =>
      if (trim (utf16 content)).isEmpty || current.isSending then s
      else
        { s with
          state := .data current.beginSend
          streams := Function.update s.streams i (some false) }

def retry (s : ChatScreen) (i : Nat) (failedAssistant : ChatMessage) : ChatScreen :=
  match s.state.asData, failedAssistant.parentMessageId with
  | some current, some parentMessageId =>
      match current.messages.find? fun message => message.id == parentMessageId with
      | some userMessage =>
          if userMessage.clientMessageId.isSome then s.sendInternal i userMessage.content else s
      | none => s
  | _, _ => s

def receive (s : ChatScreen) (dart : DartSort) (i : Nat) (event : ChatStreamEvent) : ChatScreen :=
  let s := { s with streams := Function.update s.streams i (some event.isTerminal) }
  match s.state.asData with
  | none => s
  | some current =>
      let next := current.applyEvent dart event
      { s with state := .data next, applied := note event.ids next.messages s.applied }

def endStream (s : ChatScreen) (i : Nat) (error : Option AppException) : ChatScreen :=
  let s := { s with streams := Function.update s.streams i none }
  match s.state.asData with
  | none => s
  | some latest =>
      match error with
      | none => { s with state := .data { latest with isSending := false } }
      | some error =>
          let failed := latest.recordFailure error
          let ids := (latest.messages.filter ChatMessage.isOpenReply).map ChatMessage.id
          { s with
            state := .data { failed with isSending := false }
            applied := note ids failed.messages s.applied }

def step (dart : DartSort) (s : ChatScreen) : ChatScreenLabel → Option ChatScreen
  | .loadOlder i =>
      match s.loads i, s.state.asData with
      | none, some current =>
          if current.isLoadingOlder || current.nextCursor.isNone then some s
          else
            some { s with
              state := .data { current with isLoadingOlder := true }
              loads := Function.update s.loads i (some current) }
      | none, none => some s
      | some _, _ => none
  | .pageLoaded i page =>
      match s.loads i with
      | none => none
      | some current =>
          some { s with
            state := .data
              { current with
                messages := page.items ++ current.messages
                nextCursor := page.nextCursor
                isLoadingOlder := false }
            loads := Function.update s.loads i none
            older := s.older ++ page.items.map ChatMessage.id }
  | .pageFailed i =>
      match s.loads i with
      | none => none
      | some _ => some { s with state := .error, loads := Function.update s.loads i none }
  | .setExecutionMode mode =>
      match s.state.asData with
      | none => some s
      | some current =>
          if current.isSending || current.executionMode == mode then some s
          else some { s with state := .data { current with executionMode := mode } }
  | .send i content =>
      match s.streams i with
      | none => some (s.sendInternal i content)
      | some _ => none
  | .retry i failedAssistant =>
      match s.streams i with
      | none => some (s.retry i failedAssistant)
      | some _ => none
  | .event i event =>
      match s.streams i with
      | none => none
      | some _ => some (s.receive dart i event)
  | .streamClosed i =>
      match s.streams i with
      | none => none
      | some receivedTerminalEvent =>
          some (s.endStream i (if receivedTerminalEvent then none else some streamIncomplete))
  | .streamFailed i error =>
      match s.streams i with
      | none => none
      | some _ => some (s.endStream i (some error.exception))

end ChatScreen

theorem AsyncChat.asData_eq_some {state : AsyncChat} {current : ChatState} :
    state.asData = some current ↔ state = .data current := by
  cases state <;> simp [asData]

inductive ScreenStep (dart : DartSort) (s : ChatScreen) : ChatScreenLabel → ChatScreen → Prop where
  | loadIgnored (i : Nat) : ScreenStep dart s (.loadOlder i) s
  | loadOlder (i : Nat) (current : ChatState) (hstate : s.state = .data current)
      (hflag : current.isLoadingOlder = false) :
      ScreenStep dart s (.loadOlder i)
        { s with
          state := .data { current with isLoadingOlder := true }
          loads := Function.update s.loads i (some current) }
  | pageLoaded (i : Nat) (page : MessagePageData) (snapshot : ChatState)
      (hload : s.loads i = some snapshot) :
      ScreenStep dart s (.pageLoaded i page)
        { s with
          state := .data
            { snapshot with
              messages := page.items ++ snapshot.messages
              nextCursor := page.nextCursor
              isLoadingOlder := false }
          loads := Function.update s.loads i none
          older := s.older ++ page.items.map ChatMessage.id }
  | pageFailed (i : Nat) (snapshot : ChatState) (hload : s.loads i = some snapshot) :
      ScreenStep dart s (.pageFailed i)
        { s with state := .error, loads := Function.update s.loads i none }
  | modeIgnored (mode : ChatExecutionMode) : ScreenStep dart s (.setExecutionMode mode) s
  | setExecutionMode (mode : ChatExecutionMode) (current : ChatState)
      (hstate : s.state = .data current) :
      ScreenStep dart s (.setExecutionMode mode)
        { s with state := .data { current with executionMode := mode } }
  | send (i : Nat) (content : String) :
      ScreenStep dart s (.send i content) (s.sendInternal i content)
  | retry (i : Nat) (failedAssistant : ChatMessage) :
      ScreenStep dart s (.retry i failedAssistant) (s.retry i failedAssistant)
  | event (i : Nat) (event : ChatStreamEvent) (hopen : s.streams i ≠ none) :
      ScreenStep dart s (.event i event) (s.receive dart i event)
  | streamClosed (i : Nat) (error : Option AppException) (hopen : s.streams i ≠ none) :
      ScreenStep dart s (.streamClosed i) (s.endStream i error)
  | streamFailed (i : Nat) (error : StreamError) (hopen : s.streams i ≠ none) :
      ScreenStep dart s (.streamFailed i error) (s.endStream i (some error.exception))

theorem screenStep_of_step {dart : DartSort} {s t : ChatScreen} {label : ChatScreenLabel}
    (h : s.step dart label = some t) : ScreenStep dart s label t := by
  cases label with
  | loadOlder i =>
      simp only [ChatScreen.step] at h
      split at h
      · rename_i current _ hcurrent
        split at h <;> cases h
        · exact .loadIgnored i
        · rename_i hguard
          simp only [Bool.or_eq_true, not_or, Bool.not_eq_true] at hguard
          exact .loadOlder i current (AsyncChat.asData_eq_some.mp hcurrent) hguard.1
      · cases h
        exact .loadIgnored i
      · cases h
  | pageLoaded i page =>
      simp only [ChatScreen.step] at h
      split at h <;> cases h
      exact .pageLoaded i page _ ‹_›
  | pageFailed i =>
      simp only [ChatScreen.step] at h
      split at h <;> cases h
      exact .pageFailed i _ ‹_›
  | setExecutionMode mode =>
      simp only [ChatScreen.step] at h
      split at h
      · cases h
        exact .modeIgnored mode
      · rename_i current hcurrent
        split at h <;> cases h
        · exact .modeIgnored mode
        · exact .setExecutionMode mode current (AsyncChat.asData_eq_some.mp hcurrent)
  | send i content =>
      simp only [ChatScreen.step] at h
      split at h <;> cases h
      exact .send i content
  | retry i failedAssistant =>
      simp only [ChatScreen.step] at h
      split at h <;> cases h
      exact .retry i failedAssistant
  | event i event =>
      simp only [ChatScreen.step] at h
      split at h <;> cases h
      exact .event i event (by simp_all)
  | streamClosed i =>
      simp only [ChatScreen.step] at h
      split at h <;> cases h
      exact .streamClosed i _ (by simp_all)
  | streamFailed i error =>
      simp only [ChatScreen.step] at h
      split at h <;> cases h
      exact .streamFailed i error (by simp_all)

/-! ## What a run is to keep -/

/-- Every message as the streams have left it is shown, and the older ones once. -/
def ChatScreen.Intact (s : ChatScreen) : Prop :=
  ∃ current, s.state = .data current ∧ current.isSending = false ∧
    (∀ message ∈ s.applied, message ∈ current.messages) ∧
    ∀ id ∈ s.older, (current.messages.map ChatMessage.id).count id = 1

def ChatScreen.Finished (s : ChatScreen) : Prop :=
  (∀ i, s.loads i = none) ∧ ∀ i, s.streams i = none

def ChatScreen.OneStream (s : ChatScreen) : Prop :=
  ∀ i j, s.streams i ≠ none → s.streams j ≠ none → i = j

/--
When the page of a `loadOlder` arrives, the streams have left the timeline and `isSending`
as it has read them; and the page brings distinct messages that are not shown yet.
-/
def LoadsAlone (s : ChatScreen) : ChatScreenLabel → Prop
  | .pageLoaded i page => ∀ snapshot current, s.loads i = some snapshot → s.state = .data current →
      current.messages = snapshot.messages ∧ current.isSending = snapshot.isSending ∧
        (page.items.map ChatMessage.id).Nodup ∧
        ∀ message ∈ page.items, message.id ∉ current.messages.map ChatMessage.id
  | _ => True

/-! ## What an event leaves alone -/

section Messages

variable {dart : DartSort} {current : List ChatMessage} {message : ChatMessage}

private theorem byId_nodup {entries items : List ChatMessage}
    (h : (entries.map ChatMessage.id).Nodup) :
    ((byId entries items).map ChatMessage.id).Nodup := by
  induction items generalizing entries with
  | nil => exact h
  | cons item items ih => exact ih (putRow_nodup h)

private theorem mem_byId {entries items : List ChatMessage} (h : (entries.map ChatMessage.id).Nodup)
    (hmem : message ∈ entries) (hid : message.id ∉ items.map ChatMessage.id) :
    message ∈ byId entries items := by
  induction items generalizing entries with
  | nil => exact hmem
  | cons item items ih =>
      simp only [List.map_cons, List.mem_cons, not_or] at hid
      exact ih (putRow_nodup h) ((mem_putRow h).mpr (Or.inl ⟨hmem, hid.1⟩)) hid.2

private theorem id_mem_byId {entries items : List ChatMessage}
    (h : (entries.map ChatMessage.id).Nodup)
    {id : String} (hid : id ∈ entries.map ChatMessage.id) :
    id ∈ (byId entries items).map ChatMessage.id := by
  induction items generalizing entries with
  | nil => exact hid
  | cons item items ih =>
      refine ih (putRow_nodup h) ?_
      obtain ⟨message, hmem, rfl⟩ := List.mem_map.mp hid
      by_cases heq : message.id = item.id
      · exact List.mem_map.mpr ⟨item, (mem_putRow h).mpr (Or.inr rfl), heq.symm⟩
      · exact List.mem_map_of_mem ((mem_putRow h).mpr (Or.inl ⟨hmem, heq⟩))

structure Leaves (ids : List String) (before after : List ChatMessage) : Prop where
  nodup : (after.map ChatMessage.id).Nodup
  others : ∀ message ∈ before, message.id ∉ ids → message ∈ after
  present : ∀ id ∈ before.map ChatMessage.id, id ∈ after.map ChatMessage.id

theorem upsertAll_leaves (dart : DartSort) (h : (current.map ChatMessage.id).Nodup)
    (incoming : List ChatMessage) :
    Leaves (incoming.map ChatMessage.id) current (upsertAll dart current incoming) := by
  have hempty : (([] : List ChatMessage).map ChatMessage.id).Nodup := by simp
  have hload : (byId [] current).Perm current := byId_perm hempty h
  have hnodup : ((byId [] current).map ChatMessage.id).Nodup :=
    (hload.map ChatMessage.id).nodup_iff.mpr h
  have hsort := dart.perm compareMessages (byId (byId [] current) incoming)
  constructor
  · exact (hsort.map ChatMessage.id).nodup_iff.mpr (byId_nodup hnodup)
  · exact fun message hmem hid => hsort.mem_iff.mpr (mem_byId hnodup (hload.mem_iff.mpr hmem) hid)
  · intro id hid
    refine (hsort.map ChatMessage.id).mem_iff.mpr (id_mem_byId hnodup ?_)
    exact (hload.map ChatMessage.id).mem_iff.mpr hid

theorem map_leaves {change : ChatMessage → ChatMessage} {ids : List String}
    (h : (current.map ChatMessage.id).Nodup) (hkeep : ∀ message, (change message).id = message.id)
    (hothers : ∀ message ∈ current, message.id ∉ ids → change message = message) :
    Leaves ids current (current.map change) := by
  have hids : (current.map change).map ChatMessage.id = current.map ChatMessage.id := by
    simp [hkeep]
  constructor
  · rw [hids]
    exact h
  · exact fun message hmem hid => List.mem_map.mpr ⟨message, hmem, hothers message hmem hid⟩
  · rw [hids]
    exact fun id hid => hid

theorem changeMessage_leaves {change : ChatMessage → ChatMessage} {id : String}
    (h : (current.map ChatMessage.id).Nodup) (hkeep : ∀ message, (change message).id = message.id) :
    Leaves [id] current (changeMessage id change current) := by
  refine map_leaves h (fun message => ?_) fun message _ hid => ?_
  · split
    · exact hkeep message
    · rfl
  · simp only [List.mem_singleton] at hid
    simp [hid]

theorem applyEvent_leaves (dart : DartSort) {state : ChatState}
    (h : (state.messages.map ChatMessage.id).Nodup) (event : ChatStreamEvent) :
    Leaves event.ids state.messages (state.applyEvent dart event).messages := by
  cases event with
  | started userMessage assistantMessage reused =>
      exact upsertAll_leaves dart h [userMessage, assistantMessage]
  | delta messageId text => exact changeMessage_leaves h fun _ => rfl
  | completed message => exact upsertAll_leaves dart h [message]
  | failed messageId error => exact changeMessage_leaves h fun _ => rfl

theorem recordFailure_leaves {state : ChatState} (h : (state.messages.map ChatMessage.id).Nodup)
    (error : AppException) :
    Leaves ((state.messages.filter ChatMessage.isOpenReply).map ChatMessage.id) state.messages
      (state.recordFailure error).messages := by
  refine map_leaves h (fun message => ?_) fun message hmem hid => ?_
  · split <;> rfl
  · have hclosed : ¬ message.isOpenReply = true := fun hopen =>
      hid (List.mem_map_of_mem (List.mem_filter.mpr ⟨hmem, hopen⟩))
    simp [hclosed]

theorem Leaves.note {ids : List String} {before after applied : List ChatMessage}
    (h : Leaves ids before after) (happlied : ∀ message ∈ applied, message ∈ before) :
    ∀ message ∈ note ids after applied, message ∈ after := by
  intro message hmem
  simp only [Client.note, List.mem_append, List.mem_filter, decide_eq_true_eq] at hmem
  rcases hmem with ⟨hold, hid⟩ | ⟨hnew, -⟩
  · exact h.others message (happlied message hold) hid
  · exact hnew

end Messages

/-! ## The timeline and the streams -/

structure Kept (s : ChatScreen) (current : ChatState) : Prop where
  state : s.state = .data current
  nodup : (current.messages.map ChatMessage.id).Nodup
  applied : ∀ message ∈ s.applied, message ∈ current.messages
  older : ∀ id ∈ s.older, id ∈ current.messages.map ChatMessage.id
  single : s.OneStream
  sending : current.isSending = true ↔ ∃ i, s.streams i ≠ none

section Steps

variable {dart : DartSort} {s t : ChatScreen} {current : ChatState} {i : Nat}

theorem Kept.intact (h : Kept s current) (hfinished : s.Finished) : s.Intact := by
  refine ⟨current, h.state, ?_, h.applied, fun id hid => ?_⟩
  · rw [Bool.eq_false_iff, ne_eq, h.sending]
    rintro ⟨i, hi⟩
    exact hi (hfinished.2 i)
  · exact List.count_eq_one_of_mem h.nodup (h.older id hid)

theorem Kept.same {next : ChatState} (h : Kept s current) (hstate : t.state = .data next)
    (hmessages : next.messages = current.messages) (hsending : next.isSending = current.isSending)
    (hstreams : t.streams = s.streams) (happlied : t.applied = s.applied)
    (holder : t.older = s.older) : Kept t next := by
  constructor
  · exact hstate
  · rw [hmessages]
    exact h.nodup
  · rw [hmessages, happlied]
    exact h.applied
  · rw [hmessages, holder]
    exact h.older
  · simpa [ChatScreen.OneStream, hstreams] using h.single
  · rw [hsending, hstreams]
    exact h.sending

theorem Kept.sendInternal (h : Kept s current) (content : String) :
    ∃ next, Kept (s.sendInternal i content) next := by
  unfold ChatScreen.sendInternal
  rw [h.state]
  simp only [AsyncChat.asData]
  split
  · exact ⟨current, h⟩
  · rename_i hguard
    simp only [Bool.or_eq_true, not_or, Bool.not_eq_true] at hguard
    have hidle : ∀ j, s.streams j = none := by
      simpa [hguard.2] using h.sending
    have honly (j : Nat) (hj : Function.update s.streams i (some false) j ≠ none) : j = i := by
      by_contra hne
      rw [Function.update_of_ne hne] at hj
      exact hj (hidle j)
    refine ⟨current.beginSend, rfl, h.nodup, h.applied, h.older, fun j k hj hk => ?_, ?_⟩
    · rw [honly j hj, honly k hk]
    · simp only [ChatState.beginSend, true_iff]
      exact ⟨i, by simp⟩

theorem Kept.retry (h : Kept s current) (failedAssistant : ChatMessage) :
    ∃ next, Kept (s.retry i failedAssistant) next := by
  unfold ChatScreen.retry
  split
  · split
    · split
      · exact h.sendInternal _
      · exact ⟨current, h⟩
    · exact ⟨current, h⟩
  · exact ⟨current, h⟩

theorem Kept.receive (h : Kept s current) (hopen : s.streams i ≠ none) (event : ChatStreamEvent) :
    Kept (s.receive dart i event) (current.applyEvent dart event) := by
  have hleaves := applyEvent_leaves dart h.nodup event
  have hsame (j : Nat) : Function.update s.streams i (some event.isTerminal) j ≠ none ↔
      s.streams j ≠ none := by
    by_cases hji : j = i
    · simpa [hji] using hopen
    · simp [hji]
  have hsending : (current.applyEvent dart event).isSending = current.isSending := by
    cases event <;> rfl
  unfold ChatScreen.receive
  simp only [h.state, AsyncChat.asData]
  constructor
  · rfl
  · exact hleaves.nodup
  · exact hleaves.note h.applied
  · exact fun id hid => hleaves.present id (h.older id hid)
  · exact fun j k hj hk => h.single j k ((hsame j).mp hj) ((hsame k).mp hk)
  · simp only [hsending, h.sending, hsame]

theorem Kept.endStream (h : Kept s current) (hopen : s.streams i ≠ none)
    (error : Option AppException) : ∃ next, Kept (s.endStream i error) next := by
  have hidle (j : Nat) : Function.update s.streams i none j = none := by
    by_cases hji : j = i
    · simp [hji]
    · rw [Function.update_of_ne hji]
      by_contra hj
      exact hji (h.single j i hj hopen)
  have hnone : ¬ ∃ j, Function.update s.streams i none j ≠ none := by
    rintro ⟨j, hj⟩
    exact hj (hidle j)
  have hsingle : ∀ j k, Function.update s.streams i none j ≠ none →
      Function.update s.streams i none k ≠ none → j = k :=
    fun j _ hj _ => absurd (hidle j) hj
  unfold ChatScreen.endStream
  simp only [h.state, AsyncChat.asData]
  cases error with
  | none =>
      exact ⟨{ current with isSending := false }, rfl, h.nodup, h.applied, h.older, hsingle,
        by simpa using hnone⟩
  | some error =>
      have hleaves := recordFailure_leaves h.nodup error
      exact ⟨{ current.recordFailure error with isSending := false }, rfl, hleaves.nodup,
        hleaves.note h.applied, fun id hid => hleaves.present id (h.older id hid), hsingle,
        by simpa using hnone⟩

theorem Kept.pageLoaded (h : Kept s current) {snapshot : ChatState} {page : MessagePageData}
    (hload : s.loads i = some snapshot) (halone : LoadsAlone s (.pageLoaded i page)) :
    Kept { s with
        state := .data
          { snapshot with
            messages := page.items ++ snapshot.messages
            nextCursor := page.nextCursor
            isLoadingOlder := false }
        loads := Function.update s.loads i none
        older := s.older ++ page.items.map ChatMessage.id }
      { snapshot with
        messages := page.items ++ snapshot.messages
        nextCursor := page.nextCursor
        isLoadingOlder := false } := by
  obtain ⟨hmessages, hsending, hpage, hnew⟩ := halone snapshot current hload h.state
  rw [← hmessages]
  constructor
  · rfl
  · rw [List.map_append, List.nodup_append]
    refine ⟨hpage, h.nodup, fun id hid id' hid' heq => ?_⟩
    subst heq
    obtain ⟨message, hmem, rfl⟩ := List.mem_map.mp hid
    exact hnew message hmem hid'
  · exact fun message hmem => List.mem_append_right _ (h.applied message hmem)
  · intro id hid
    rw [List.map_append, List.mem_append]
    rcases List.mem_append.mp hid with hid | hid
    · exact Or.inr (h.older id hid)
    · exact Or.inl hid
  · exact h.single
  · rw [← hsending]
    exact h.sending

theorem Kept.step {label : ChatScreenLabel} (h : Kept s current)
    (halone : LoadsAlone s label) (hsucceeds : ∀ i, label ≠ .pageFailed i)
    (hstep : s.step dart label = some t) : ∃ next, Kept t next := by
  cases screenStep_of_step hstep with
  | loadIgnored i => exact ⟨current, h⟩
  | loadOlder i latest hstate =>
      cases hstate.symm.trans h.state
      exact ⟨_, h.same rfl rfl rfl rfl rfl rfl⟩
  | pageLoaded i page snapshot hload => exact ⟨_, h.pageLoaded hload halone⟩
  | pageFailed i => exact absurd rfl (hsucceeds i)
  | modeIgnored mode => exact ⟨current, h⟩
  | setExecutionMode mode latest hstate =>
      cases hstate.symm.trans h.state
      exact ⟨_, h.same rfl rfl rfl rfl rfl rfl⟩
  | send i content => exact h.sendInternal content
  | retry i failedAssistant => exact h.retry failedAssistant
  | event i event hopen => exact ⟨_, h.receive hopen event⟩
  | streamClosed i error hopen => exact h.endStream hopen error
  | streamFailed i error hopen => exact h.endStream hopen (some error.exception)

theorem Kept.built {page : MessagePageData} (h : (page.items.map ChatMessage.id).Nodup) :
    Kept (.built page) { messages := page.items, nextCursor := page.nextCursor } := by
  constructor <;> simp_all [ChatScreen.built, ChatScreen.OneStream]

/--
In a run whose loads succeed, each while the streams rest, no two streams are ever under
way, and once everything has finished nothing that a stream or a page has brought is lost.
-/
theorem loadOlder_loses_nothing {page : MessagePageData} {labels : List ChatScreenLabel}
    (hpage : (page.items.map ChatMessage.id).Nodup) (hsucceed : ∀ i, .pageFailed i ∉ labels)
    (halone : AllSteps LoadsAlone (ChatScreen.step dart) (.built page) labels) :
    ∀ pre s, pre <+: labels → exec (ChatScreen.step dart) (.built page) pre = some s →
      s.OneStream ∧ (s.Finished → s.Intact) := by
  rintro pre s ⟨post, rfl⟩ hpre
  have hsteps : AllSteps (fun _ label => ∀ i, label ≠ .pageFailed i) (ChatScreen.step dart)
      (.built page) (pre ++ post) := by
    refine AllSteps.of_forall (fun label hlabel _ i heq => ?_) _
    exact hsucceed i (heq ▸ hlabel)
  have hinv (s : ChatScreen) (label : ChatScreenLabel) (t : ChatScreen) :
      (∃ current, Kept s current) → LoadsAlone s label ∧ (∀ i, label ≠ .pageFailed i) →
        s.step dart label = some t → ∃ next, Kept t next := by
    rintro ⟨current, h⟩ ⟨halone, hsucceeds⟩ hstep
    exact h.step halone hsucceeds hstep
  obtain ⟨current, hkept⟩ :=
    exec_invariant hinv ⟨_, Kept.built hpage⟩ ((halone.and hsteps).append hpre).1 hpre
  exact ⟨hkept.single, hkept.intact⟩

end Steps

/-! ## A page that arrives behind a stream -/

def shownMessage (id : String) (role : MessageRole) (content : String) (status : MessageStatus)
    (createdAt : Timestamp) : ChatMessage where
  id := id
  conversationId := "10"
  parentMessageId := none
  clientMessageId := none
  role := role
  content := content
  status := status
  metadata := []
  createdAt := createdAt
  updatedAt := createdAt

def newestPage : MessagePageData where
  items := [shownMessage "5" .user "Earlier" .completed 50]
  nextCursor := some "older"

def olderPage : MessagePageData where
  items := [shownMessage "4" .user "First" .completed 40]

def replyMessage : ChatMessage := shownMessage "7" .assistant "Hello" .completed 70

def streamThenPage : List ChatScreenLabel :=
  [.send 0 "Hi", .event 0 (.completed replyMessage), .streamClosed 0, .loadOlder 0,
    .pageLoaded 0 olderPage]

theorem loadOlder_loses_nothing_after_stream :
    ∃ s, exec (ChatScreen.step .insertion) (.built newestPage) streamThenPage = some s ∧
      s.OneStream ∧ (s.Finished → s.Intact) := by
  have halone : AllSteps LoadsAlone (ChatScreen.step .insertion) (.built newestPage)
      streamThenPage := by
    refine .cons trivial rfl (.cons trivial rfl (.cons trivial rfl (.cons trivial rfl ?_)))
    refine ⟨fun snapshot current hload hstate => ?_, fun _ _ => trivial⟩
    cases hload
    cases hstate
    exact ⟨rfl, rfl, by decide, by decide⟩
  have hexec : ∃ s, exec (ChatScreen.step .insertion) (.built newestPage) streamThenPage =
      some s := ⟨_, rfl⟩
  obtain ⟨s, hexec⟩ := hexec
  exact ⟨s, hexec, loadOlder_loses_nothing (by decide) (by simp [streamThenPage]) halone _ s
    (List.prefix_refl _) hexec⟩

def streamUnderLoad : List ChatScreenLabel :=
  [.send 0 "Hi", .loadOlder 0, .event 0 (.completed replyMessage), .streamClosed 0,
    .pageLoaded 0 olderPage]

/-- The reply is gone, and the controller takes itself to be sending for ever. -/
theorem page_undoes_stream :
    ∃ s current, exec (ChatScreen.step .insertion) (.built newestPage) streamUnderLoad = some s ∧
      s.Finished ∧ s.state = .data current ∧ current.isSending = true ∧
      replyMessage ∈ s.applied ∧ replyMessage ∉ current.messages ∧ ¬ s.Intact := by
  have hrun : ∃ s current snapshot,
      exec (ChatScreen.step .insertion) (.built newestPage) streamUnderLoad = some s ∧
      s.loads = Function.update (Function.update (fun _ => none) 0 (some snapshot)) 0 none ∧
      s.streams = Function.update (Function.update (Function.update (fun _ => none) 0
        (some false)) 0 (some true)) 0 none ∧
      s.state = .data current ∧ current.isSending = true ∧ s.applied = [replyMessage] ∧
      current.messages.map ChatMessage.id = ["4", "5"] :=
    ⟨_, _, _, rfl, rfl, rfl, rfl, rfl, rfl, rfl⟩
  obtain ⟨s, current, snapshot, hexec, hloads, hstreams, hstate, hsending, happlied, hids⟩ := hrun
  have hgone : replyMessage ∉ current.messages := by
    intro hmem
    have hid := List.mem_map_of_mem (f := ChatMessage.id) hmem
    rw [hids] at hid
    exact absurd hid (by decide)
  refine ⟨s, current, hexec, ⟨?_, ?_⟩, hstate, hsending, by simp [happlied], hgone, ?_⟩
  · simp [hloads]
  · simp [hstreams]
  · rintro ⟨shown, hshown, hidle, -⟩
    rw [hstate] at hshown
    cases hshown
    rw [hsending] at hidle
    cases hidle

end Astra.Client
