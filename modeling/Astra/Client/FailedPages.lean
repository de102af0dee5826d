import Astra.Client.ConversationList
import Astra.Client.LoadOlder

/-!
# A page that fails to load

`loadOlder` and `loadMore` answer an error with `AsyncError`, and every other procedure of
the controllers begins with `state.asData`.  What each of them does behind the error is
followed through all later runs.
-/

namespace Astra.Client

open Astra.Foundation

/-! ## The timeline -/

namespace ChatScreen

/--
Between `s` and `t` a page has failed: `t` shows what `s` has shown, with only the flag
cleared, and still loads, sends and applies the events of its streams.
-/
structure Survives (dart : DartSort) (s t : ChatScreen) : Prop where
  kept : ∀ current, s.state = .data current →
    t.state = .data { current with isLoadingOlder := false }
  loads : ∀ i current, s.state = .data current → current.nextCursor.isSome → t.loads i = none →
    ∃ u, t.step dart (.loadOlder i) = some u ∧ u.loads i ≠ none
  sends : ∀ i content current, s.state = .data current → current.isSending = false →
    (trim (utf16 content)).isEmpty = false → t.streams i = none →
    ∃ u, t.step dart (.send i content) = some u ∧ u.streams i ≠ none
  events : ∀ i event current, s.state = .data current → t.streams i ≠ none →
    ∃ u, t.step dart (.event i event) = some u ∧
      u.state = .data ({ current with isLoadingOlder := false }.applyEvent dart event)

/-- `u` shows nothing and awaits no page; its streams are those of `s`, and unheard. -/
structure Lost (s u : ChatScreen) : Prop where
  state : u.state = .error
  loads : ∀ i, u.loads i = none
  streams : ∀ i, u.streams i ≠ none → s.streams i ≠ none
  applied : u.applied = s.applied
  older : u.older = s.older

/-- A page is awaited only under the flag, and by one `loadOlder`. -/
structure OneLoad (s : ChatScreen) : Prop where
  single : ∀ i j, s.loads i ≠ none → s.loads j ≠ none → i = j
  flag : ∀ i current, s.loads i ≠ none → s.state = .data current → current.isLoadingOlder = true

section Steps

variable {dart : DartSort} {s t u : ChatScreen} {current : ChatState} {i : Nat}

theorem failed_eq (hstep : s.step dart (.pageFailed i) = some t) :
    t = { s with state := .error, loads := Function.update s.loads i none } := by
  cases screenStep_of_step hstep
  rfl

theorem sendInternal_of_none (hstate : s.state.asData = none) (content : String) :
    s.sendInternal i content = s := by
  simp [sendInternal, hstate]

theorem retry_of_none (hstate : s.state.asData = none) (failedAssistant : ChatMessage) :
    s.retry i failedAssistant = s := by
  simp [retry, hstate]

theorem receive_of_none (hstate : s.state.asData = none) (event : ChatStreamEvent) :
    s.receive dart i event =
      { s with streams := Function.update s.streams i (some event.isTerminal) } := by
  simp [receive, hstate]

theorem endStream_of_none (hstate : s.state.asData = none) (error : Option AppException) :
    s.endStream i error = { s with streams := Function.update s.streams i none } := by
  simp [endStream, hstate]

private theorem step_error (hstate : s.state = .error) (hloads : ∀ i, s.loads i = none)
    {label : ChatScreenLabel} (hstep : s.step dart label = some t) :
    t = s ∨ ∃ i last, s.streams i ≠ none ∧
      t = { s with streams := Function.update s.streams i last } := by
  have hnone : s.state.asData = none := by
    rw [hstate]
    rfl
  cases screenStep_of_step hstep with
  | loadIgnored i => exact Or.inl rfl
  | loadOlder i current hcurrent => cases hstate.symm.trans hcurrent
  | pageLoaded i page snapshot hload => cases (hloads i).symm.trans hload
  | pageFailed i snapshot hload => cases (hloads i).symm.trans hload
  | modeIgnored mode => exact Or.inl rfl
  | setExecutionMode mode current hcurrent => cases hstate.symm.trans hcurrent
  | send i content => exact Or.inl (sendInternal_of_none hnone content)
  | retry i failedAssistant => exact Or.inl (retry_of_none hnone failedAssistant)
  | event i event hopen => exact Or.inr ⟨i, _, hopen, receive_of_none hnone event⟩
  | streamClosed i error hopen => exact Or.inr ⟨i, _, hopen, endStream_of_none hnone error⟩
  | streamFailed i error hopen => exact Or.inr ⟨i, _, hopen, endStream_of_none hnone _⟩

theorem Lost.step (h : s.Lost t) {label : ChatScreenLabel} (hstep : t.step dart label = some u) :
    s.Lost u := by
  rcases step_error h.state h.loads hstep with rfl | ⟨i, last, hopen, rfl⟩
  · exact h
  · refine ⟨h.state, h.loads, fun j hj => ?_, h.applied, h.older⟩
    dsimp only at hj
    rw [Function.update_apply] at hj
    split at hj
    · rename_i heq
      exact h.streams j (heq ▸ hopen)
    · exact h.streams j hj

theorem Lost.run (h : s.Lost t) {labels : List ChatScreenLabel}
    (hexec : exec (ChatScreen.step dart) t labels = some u) : s.Lost u :=
  exec_invariant' (fun _ _ _ h hstep => Lost.step h hstep) h hexec

theorem OneLoad.built (page : MessagePageData) : OneLoad (.built page) where
  single _ _ hi := absurd rfl hi
  flag _ _ hi := absurd rfl hi

theorem OneLoad.same (h : s.OneLoad) (hloads : t.loads = s.loads)
    (hflag : ∀ next, t.state = .data next → ∃ current, s.state = .data current ∧
      next.isLoadingOlder = current.isLoadingOlder) : t.OneLoad where
  single i j hi hj := by
    rw [hloads] at hi hj
    exact h.single i j hi hj
  flag i next hi hnext := by
    rw [hloads] at hi
    obtain ⟨current, hcurrent, heq⟩ := hflag next hnext
    rw [heq]
    exact h.flag i current hi hcurrent

theorem OneLoad.ended (h : s.OneLoad) (hi : s.loads i ≠ none) (j : Nat) :
    Function.update s.loads i none j = none := by
  by_cases hji : j = i
  · simp [hji]
  · rw [Function.update_of_ne hji]
    by_contra hj
    exact hji (h.single j i hj hi)

theorem OneLoad.of_none (hloads : ∀ i, t.loads i = none) : t.OneLoad where
  single i _ hi := absurd (hloads i) hi
  flag i _ hi := absurd (hloads i) hi

theorem OneLoad.sendInternal (h : s.OneLoad) (content : String) :
    (s.sendInternal i content).OneLoad := by
  unfold ChatScreen.sendInternal
  split
  · exact h
  · rename_i current hcurrent
    split
    · exact h
    · refine h.same rfl ?_
      rintro next ⟨⟩
      exact ⟨current, AsyncChat.asData_eq_some.mp hcurrent, rfl⟩

theorem OneLoad.retry (h : s.OneLoad) (failedAssistant : ChatMessage) :
    (s.retry i failedAssistant).OneLoad := by
  unfold ChatScreen.retry
  split
  · split
    · split
      · exact h.sendInternal _
      · exact h
    · exact h
  · exact h

theorem OneLoad.receive (h : s.OneLoad) (event : ChatStreamEvent) :
    (s.receive dart i event).OneLoad := by
  have hflag (current : ChatState) :
      (current.applyEvent dart event).isLoadingOlder = current.isLoadingOlder := by
    cases event <;> rfl
  unfold ChatScreen.receive
  dsimp only
  split
  · exact h.same rfl fun next hnext => ⟨next, hnext, rfl⟩
  · rename_i current hcurrent
    refine h.same rfl ?_
    rintro next ⟨⟩
    exact ⟨current, AsyncChat.asData_eq_some.mp hcurrent, hflag current⟩

theorem OneLoad.endStream (h : s.OneLoad) (error : Option AppException) :
    (s.endStream i error).OneLoad := by
  unfold ChatScreen.endStream
  dsimp only
  split
  · exact h.same rfl fun next hnext => ⟨next, hnext, rfl⟩
  · rename_i current hcurrent
    have hstate := AsyncChat.asData_eq_some.mp hcurrent
    cases error with
    | none | some error =>
        refine h.same rfl ?_
        rintro next ⟨⟩
        exact ⟨current, hstate, rfl⟩

theorem OneLoad.loadOlder (h : s.OneLoad) (hstate : s.state = .data current)
    (hflag : current.isLoadingOlder = false) :
    OneLoad
      { s with
        state := .data { current with isLoadingOlder := true }
        loads := Function.update s.loads i (some current) } := by
  have hnone (j : Nat) : s.loads j = none := by
    by_contra hj
    have htrue := h.flag j current hj hstate
    rw [hflag] at htrue
    cases htrue
  have honly (j : Nat) (hj : Function.update s.loads i (some current) j ≠ none) : j = i := by
    by_contra hne
    rw [Function.update_of_ne hne] at hj
    exact hj (hnone j)
  constructor
  · intro j k hj hk
    rw [honly j hj, honly k hk]
  · rintro j next - ⟨⟩
    rfl

theorem OneLoad.step (h : s.OneLoad) {label : ChatScreenLabel}
    (hstep : s.step dart label = some t) : t.OneLoad := by
  cases screenStep_of_step hstep with
  | loadIgnored i => exact h
  | loadOlder i current hstate hflag => exact h.loadOlder hstate hflag
  | pageLoaded i page snapshot hload => exact OneLoad.of_none (h.ended (by simp [hload]))
  | pageFailed i snapshot hload => exact OneLoad.of_none (h.ended (by simp [hload]))
  | modeIgnored mode => exact h
  | setExecutionMode mode current hstate =>
      refine h.same rfl ?_
      rintro next ⟨⟩
      exact ⟨current, hstate, rfl⟩
  | send i content => exact h.sendInternal content
  | retry i failedAssistant => exact h.retry failedAssistant
  | event i event => exact h.receive event
  | streamClosed i error => exact h.endStream error
  | streamFailed i error => exact h.endStream (some error.exception)

theorem OneLoad.reached {page : MessagePageData} {labels : List ChatScreenLabel}
    (hexec : exec (ChatScreen.step dart) (.built page) labels = some s) : s.OneLoad :=
  exec_invariant' (fun _ _ _ h hstep => OneLoad.step h hstep) (.built page) hexec

theorem not_survives (hstate : s.state = .data current)
    (hstep : s.step dart (.pageFailed i) = some t) : ¬ s.Survives dart t := by
  intro h
  have hkept := h.kept current hstate
  rw [failed_eq hstep] at hkept
  cases hkept

theorem OneLoad.lost (h : s.OneLoad) (hstep : s.step dart (.pageFailed i) = some t) :
    t.Lost t := by
  have hawaited : s.loads i ≠ none := by
    intro hnone
    simp [ChatScreen.step, hnone] at hstep
  rw [failed_eq hstep]
  exact ⟨rfl, h.ended hawaited, fun _ hopen => hopen, rfl, rfl⟩

end Steps

end ChatScreen

/-! ## The list of conversations -/

def ConversationListLabel.bringsPage : ConversationListLabel → Bool
  | built _ | pageLoaded _ _ | listRefreshed _ _ => true
  | _ => false

namespace ConversationListController

/-- Between `s` and `t` a page has failed; `t` still shows its list and still loads. -/
structure Survives (s t : ConversationListController) : Prop where
  kept : ∀ current, s.state = .data current →
    t.state = .data { current with isLoadingMore := false }
  loads : ∀ i current, s.state = .data current → current.nextCursor.isSome → t.loads i = none →
    ∃ u, t.step (.loadMore i) = some u ∧ u.loads i ≠ none

structure Lost (s u : ConversationListController) : Prop where
  state : u.state.asData = none
  loads : ∀ i, u.loads i ≠ none → s.loads i ≠ none

section Steps

variable {s t u : ConversationListController} {current : ConversationListState} {i : Nat}

theorem failed_eq (hstep : s.step (.pageFailed i) = some t) :
    t = { s with state := .error, loads := Function.update s.loads i none } := by
  simp only [step] at hstep
  split at hstep <;> cases hstep
  rfl

theorem not_survives (hstate : s.state = .data current)
    (hstep : s.step (.pageFailed i) = some t) : ¬ s.Survives t := by
  intro h
  have hkept := h.kept current hstate
  rw [failed_eq hstep] at hkept
  cases hkept

private theorem lost_of_failed (hstep : s.step (.pageFailed i) = some t) : t.Lost t := by
  rw [failed_eq hstep]
  exact ⟨rfl, fun _ hload => hload⟩

theorem Lost.step (h : s.Lost t) {label : ConversationListLabel} (hpage : label.bringsPage = false)
    (hstep : t.step label = some u) : s.Lost u := by
  obtain ⟨hnone, hloads⟩ := h
  cases label with
  | built page | pageLoaded i page | listRefreshed i page => cases hpage
  | buildFailed | refreshList i | refreshFailed i =>
      simp only [ConversationListController.step] at hstep
      split at hstep <;> cases hstep
      exact ⟨rfl, hloads⟩
  | invalidate =>
      cases hstep
      exact ⟨hnone, hloads⟩
  | conversationCreated i conversation =>
      simp only [ConversationListController.step, addCreated_of_none hnone] at hstep
      split at hstep <;> cases hstep
      exact ⟨hnone, hloads⟩
  | createConversation i | createFailed i | archiveConversation i conversationId
  | archiveFailed i =>
      simp only [ConversationListController.step] at hstep
      split at hstep <;> cases hstep
      exact ⟨hnone, hloads⟩
  | conversationArchived i =>
      simp only [ConversationListController.step, dropArchived_of_none hnone] at hstep
      split at hstep <;> cases hstep
      exact ⟨hnone, hloads⟩
  | loadMore i =>
      rcases loadMore_of_step hstep with rfl | ⟨current, hstate, -⟩
      · exact ⟨hnone, hloads⟩
      · rw [hstate] at hnone
        cases hnone
  | pageFailed i =>
      rw [failed_eq hstep]
      refine ⟨rfl, fun j hj => hloads j fun hclosed => hj ?_⟩
      dsimp only
      rw [Function.update_apply]
      split
      · rfl
      · exact hclosed

theorem Lost.run (h : s.Lost t) {labels : List ConversationListLabel}
    (hpages : ∀ label ∈ labels, label.bringsPage = false)
    (hexec : exec ConversationListController.step t labels = some u) : s.Lost u :=
  exec_invariant (fun _ _ _ h hpage hstep => Lost.step h hpage hstep) h
    (AllSteps.of_forall (fun label hlabel _ => hpages label hlabel) t) hexec

end Steps

end ConversationListController

/-! ## Both controllers -/

/--
No loaded state survives a failed page, in either controller.  The timeline stays lost in
every later run; the list does until the server sends it anew.
-/
theorem failed_page_never_survives (dart : DartSort) :
    (∀ (s t : ChatScreen) (i : Nat) (current : ChatState), s.state = .data current →
      s.step dart (.pageFailed i) = some t → ¬ s.Survives dart t) ∧
    (∀ (page : MessagePageData) (labels later : List ChatScreenLabel) (s t u : ChatScreen)
        (i : Nat), exec (ChatScreen.step dart) (.built page) labels = some s →
      s.step dart (.pageFailed i) = some t → exec (ChatScreen.step dart) t later = some u →
        t.Lost u) ∧
    (∀ (s t : ConversationListController) (i : Nat) (current : ConversationListState),
      s.state = .data current → s.step (.pageFailed i) = some t → ¬ s.Survives t) ∧
    ∀ (later : List ConversationListLabel) (s t u : ConversationListController) (i : Nat),
      s.step (.pageFailed i) = some t → (∀ label ∈ later, label.bringsPage = false) →
        exec ConversationListController.step t later = some u → t.Lost u := by
  refine ⟨fun s t i current => ChatScreen.not_survives, ?_,
    fun s t i current => ConversationListController.not_survives, ?_⟩
  · intro page labels later s t u i hreached hstep hlater
    exact ((ChatScreen.OneLoad.reached hreached).lost hstep).run hlater
  · intro later s t u i hstep hpages hlater
    exact (ConversationListController.lost_of_failed hstep).run hpages hlater

def failedUnderStream : List ChatScreenLabel := [.send 0 "Hi", .loadOlder 0]

theorem failed_page_drops_reply :
    ∃ s t u : ChatScreen,
      exec (ChatScreen.step .insertion) (.built newestPage) failedUnderStream = some s ∧
      (∃ current, s.state = .data current ∧
        current.messages.map ChatMessage.id = ["5"] ∧ current.nextCursor = some "older") ∧
      s.step .insertion (.pageFailed 0) = some t ∧ t.streams 0 = some false ∧
      t.step .insertion (.event 0 (.completed replyMessage)) = some u ∧
      u.state = .error ∧ u.applied = [] ∧ ¬ s.Survives .insertion t := by
  have hrun : ∃ (s t u : ChatScreen) (current : ChatState),
      exec (ChatScreen.step .insertion) (.built newestPage) failedUnderStream = some s ∧
      s.state = .data current ∧ current.messages.map ChatMessage.id = ["5"] ∧
      current.nextCursor = some "older" ∧ s.step .insertion (.pageFailed 0) = some t ∧
      t.state = .error ∧ t.streams 0 = some false ∧
      t.step .insertion (.event 0 (.completed replyMessage)) = some u ∧
      u.state = .error ∧ u.applied = [] :=
    ⟨_, _, _, _, rfl, rfl, rfl, rfl, rfl, rfl, rfl, rfl, rfl, rfl⟩
  obtain ⟨s, t, u, current, hexec, hstate, hids, hcursor, hfailed, herror, hopen, hevent, hlost,
    happlied⟩ := hrun
  refine ⟨s, t, u, hexec, ⟨current, hstate, hids, hcursor⟩, hfailed, hopen, hevent, hlost,
    happlied, fun h => ?_⟩
  have hkept := h.kept current hstate
  rw [herror] at hkept
  cases hkept

end Astra.Client
