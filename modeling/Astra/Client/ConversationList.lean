import Astra.Foundation.Transition
import Astra.Platform.Python
import Mathlib.Logic.Function.Basic

/-!
# The list of conversations

`ConversationListController` with its asynchronous procedures.  Code between two awaits is
one step.  `createConversation` and `archiveConversation` change the list as they find it
behind their await; `loadMore` writes back the list that it has read before.
-/

namespace Astra.Client

open Astra.Foundation Astra.Platform

/-! ## The controller -/

structure Conversation where
  id : String
  title : Option String := none
  provider : String
  model : String
  systemPrompt : Option String := none
  characterId : Option String := none
  personaId : Option String := none
  lastMessageAt : Option Timestamp := none
  createdAt : Timestamp
  updatedAt : Timestamp

structure ConversationPageData where
  items : List Conversation
  nextCursor : Option String := none

structure ConversationListState where
  items : List Conversation
  nextCursor : Option String := none
  isLoadingMore : Bool := false

def ConversationPageData.state (page : ConversationPageData) : ConversationListState where
  items := page.items
  nextCursor := page.nextCursor

inductive AsyncValue (α : Type) where
  | data (value : α)
  | loading
  | error

def AsyncValue.asData {α : Type} : AsyncValue α → Option α
  | data value => some value
  | loading | error => none

/-- A `loadMore` that awaits its page: what it has read, and the `changes` by then. -/
structure PendingPage where
  current : ConversationListState
  changes : Nat

/--
The controller with its calls under way; `building` while the page of `build` is awaited.
`created` and `archived` collect the ids of the calls that have completed.
-/
structure ConversationListController where
  state : AsyncValue ConversationListState := .loading
  building : Bool := true
  creates : Nat → Bool := fun _ => false
  archives : Nat → Option String := fun _ => none
  loads : Nat → Option PendingPage := fun _ => none
  refreshes : Nat → Bool := fun _ => false
  created : List String := []
  archived : List String := []

inductive ConversationListLabel where
  | built (page : ConversationPageData)
  | buildFailed
  | invalidate
  | createConversation (i : Nat)
  | conversationCreated (i : Nat) (conversation : Conversation)
  | createFailed (i : Nat)
  | archiveConversation (i : Nat) (conversationId : String)
  | conversationArchived (i : Nat)
  | archiveFailed (i : Nat)
  | loadMore (i : Nat)
  | pageLoaded (i : Nat) (page : ConversationPageData)
  | pageFailed (i : Nat)
  | refreshList (i : Nat)
  | listRefreshed (i : Nat) (page : ConversationPageData)
  | refreshFailed (i : Nat)

def conversationIds (items : List Conversation) : List String := items.map Conversation.id

namespace ConversationListController

def changes (s : ConversationListController) : Nat := s.created.length + s.archived.length

def addCreated (s : ConversationListController) (conversation : Conversation) :
    ConversationListController :=
  let s := { s with created := s.created ++ [conversation.id] }
  match s.state.asData with
  | some current =>
      { s with state := .data { current with items := conversation :: current.items } }
  | none => { s with building := true }

def dropArchived (s : ConversationListController) (conversationId : String) :
    ConversationListController :=
  let s := { s with archived := s.archived ++ [conversationId] }
  match s.state.asData with
  | none => s
  | some current =>
      { s with
        state := .data
          { current with items := current.items.filter fun item => item.id != conversationId } }

def step (s : ConversationListController) :
    ConversationListLabel → Option ConversationListController
  | .built page =>
      if s.building then some { s with state := .data page.state, building := false } else none
  | .buildFailed => if s.building then some { s with state := .error, building := false } else none
  | .invalidate => some { s with building := true }
  | .createConversation i =>
      if s.creates i then none else some { s with creates := Function.update s.creates i true }
  | .conversationCreated i conversation =>
      if s.creates i then
        some { s.addCreated conversation with creates := Function.update s.creates i false }
      else none
  | .createFailed i =>
      if s.creates i then some { s with creates := Function.update s.creates i false } else none
  | .archiveConversation i conversationId =>
      match s.archives i with
      | none => some { s with archives := Function.update s.archives i (some conversationId) }
      | some _ => none
  | .conversationArchived i =>
      match s.archives i with
      | none => none
      | some conversationId =>
          some { s.dropArchived conversationId with archives := Function.update s.archives i none }
  | .archiveFailed i =>
      match s.archives i with
      | none => none
      | some _ => some { s with archives := Function.update s.archives i none }
  | .loadMore i =>
      match s.loads i, s.state.asData with
      | none, some current =>
          if current.isLoadingMore || current.nextCursor.isNone then some s
          else
            some { s with
              state := .data { current with isLoadingMore := true }
              loads := Function.update s.loads i (some ⟨current, s.changes⟩) }
      | none, none => some s
      | some _, _ => none
  | .pageLoaded i page =>
      match s.loads i with
      | none => none
      | some load =>
          some { s with
            state := .data
              { load.current with
                items := load.current.items ++ page.items
                nextCursor := page.nextCursor
                isLoadingMore := false }
            loads := Function.update s.loads i none }
  | .pageFailed i =>
      match s.loads i with
      | none => none
      | some _ => some { s with state := .error, loads := Function.update s.loads i none }
  | .refreshList i =>
      if s.refreshes i then none
      else some { s with state := .loading, refreshes := Function.update s.refreshes i true }
  | .listRefreshed i page =>
      if s.refreshes i then
        some { s with
          state := .data page.state
          refreshes := Function.update s.refreshes i false }
      else none
  | .refreshFailed i =>
      if s.refreshes i then
        some { s with state := .error, refreshes := Function.update s.refreshes i false }
      else none

/-! ## What a run is to keep -/

structure Shows (s : ConversationListController) (items : List Conversation) : Prop where
  created : ∀ id ∈ s.created, id ∉ s.archived → id ∈ conversationIds items
  archived : ∀ id ∈ s.archived, id ∉ conversationIds items
  distinct : (conversationIds items).Nodup

def Intact (s : ConversationListController) : Prop :=
  ∃ current, s.state = .data current ∧ s.Shows current.items

structure Finished (s : ConversationListController) : Prop where
  building : s.building = false
  creates : ∀ i, s.creates i = false
  archives : ∀ i, s.archives i = none
  loads : ∀ i, s.loads i = none
  refreshes : ∀ i, s.refreshes i = false

/--
The first page that arrives is up to date with the completed calls.  A created
conversation arrives before any list that has it and before it is archived.  Between the
read of a `loadMore` and its page no creation and no archival completes, and the page
brings distinct conversations that are neither shown nor archived.  No list fails to load.
-/
def Undisturbed (s : ConversationListController) : ConversationListLabel → Prop
  | .built page | .listRefreshed _ page => s.Shows page.items
  | .conversationCreated _ conversation =>
      conversation.id ∉ s.archived ∧
        ∀ current, s.state = .data current → conversation.id ∉ conversationIds current.items
  | .pageLoaded i page => ∀ load, s.loads i = some load →
      load.changes = s.changes ∧ (conversationIds page.items).Nodup ∧
        ∀ id ∈ conversationIds page.items, id ∉ conversationIds load.current.items ∧ id ∉ s.archived
  | .buildFailed | .pageFailed _ | .refreshFailed _ => False
  | _ => True

/-! ## What a step keeps -/

/-- Whatever may still be shown agrees with the completed calls, or is out of date. -/
structure UpToDate (s : ConversationListController) : Prop where
  shown : ∀ current, s.state = .data current → s.Shows current.items
  loads : ∀ i load, s.loads i = some load → load.changes = s.changes → s.Shows load.current.items
  past : ∀ i load, s.loads i = some load → load.changes ≤ s.changes
  awaited : (∃ current, s.state = .data current) ∨ s.building = true ∨
    ∃ i, s.refreshes i = true

section Steps

variable {s t : ConversationListController} {current : ConversationListState} {i : Nat}
  {items : List Conversation}

theorem loadMore_of_step (h : s.step (.loadMore i) = some t) :
    t = s ∨ ∃ current, s.state = .data current ∧
      t = { s with
        state := .data { current with isLoadingMore := true }
        loads := Function.update s.loads i (some ⟨current, s.changes⟩) } := by
  simp only [step] at h
  split at h
  · rename_i current _ hcurrent
    split at h <;> cases h
    · exact Or.inl rfl
    · refine Or.inr ⟨current, ?_, rfl⟩
      cases hstate : s.state <;> simp_all [AsyncValue.asData]
  · cases h
    exact Or.inl rfl
  · cases h

theorem UpToDate.initial : UpToDate {} where
  shown _ h := by cases h
  loads _ _ h := by cases h
  past _ _ h := by cases h
  awaited := Or.inr (Or.inl rfl)

theorem UpToDate.intact (h : s.UpToDate) (hfinished : s.Finished) : s.Intact := by
  rcases h.awaited with ⟨current, hstate⟩ | hbuilding | ⟨i, hrefresh⟩
  · exact ⟨current, hstate, h.shown current hstate⟩
  · rw [hfinished.building] at hbuilding
    cases hbuilding
  · rw [hfinished.refreshes i] at hrefresh
    cases hrefresh

theorem Shows.congr (h : s.Shows items) (hcreated : t.created = s.created)
    (harchived : t.archived = s.archived) : t.Shows items := by
  obtain ⟨hadded, hgone, hdistinct⟩ := h
  rw [← hcreated, ← harchived] at hadded
  rw [← harchived] at hgone
  exact ⟨hadded, hgone, hdistinct⟩

theorem changes_congr (hcreated : t.created = s.created) (harchived : t.archived = s.archived) :
    t.changes = s.changes := by
  rw [changes, changes, hcreated, harchived]

theorem UpToDate.same (h : s.UpToDate) (hcreated : t.created = s.created)
    (harchived : t.archived = s.archived)
    (hloads : ∀ i load, t.loads i = some load → s.loads i = some load)
    (hshown : ∀ current, t.state = .data current → s.Shows current.items)
    (hawaited : (∃ current, t.state = .data current) ∨ t.building = true ∨
      ∃ i, t.refreshes i = true) : t.UpToDate where
  shown current hstate := (hshown current hstate).congr hcreated harchived
  loads i load hload hchanges := by
    rw [changes_congr hcreated harchived] at hchanges
    exact (h.loads i load (hloads i load hload) hchanges).congr hcreated harchived
  past i load hload := by
    rw [changes_congr hcreated harchived]
    exact h.past i load (hloads i load hload)
  awaited := hawaited

theorem UpToDate.changed (h : s.UpToDate) (hloads : t.loads = s.loads)
    (hchanges : t.changes = s.changes + 1)
    (hshown : ∀ current, t.state = .data current → t.Shows current.items)
    (hawaited : (∃ current, t.state = .data current) ∨ t.building = true ∨
      ∃ i, t.refreshes i = true) : t.UpToDate where
  shown := hshown
  loads i load hload hsame := by
    rw [hloads] at hload
    have hpast := h.past i load hload
    omega
  past i load hload := by
    rw [hloads] at hload
    have hpast := h.past i load hload
    omega
  awaited := hawaited

theorem Shows.addCreated (h : s.Shows items) {conversation : Conversation}
    (harchived : conversation.id ∉ s.archived) (hnew : conversation.id ∉ conversationIds items)
    (hcreated' : t.created = s.created ++ [conversation.id])
    (harchived' : t.archived = s.archived) : t.Shows (conversation :: items) where
  created id hid hkept := by
    rw [hcreated', List.mem_append, List.mem_singleton] at hid
    rw [harchived'] at hkept
    rcases hid with hid | rfl
    · exact List.mem_cons_of_mem _ (h.created id hid hkept)
    · exact List.mem_cons_self
  archived id hid := by
    rw [harchived'] at hid
    rw [conversationIds, List.map_cons, List.mem_cons, not_or]
    exact ⟨fun heq => harchived (heq ▸ hid), h.archived id hid⟩
  distinct := List.nodup_cons.mpr ⟨hnew, h.distinct⟩

theorem mem_ids_filter {id conversationId : String} :
    id ∈ conversationIds (items.filter fun item => item.id != conversationId) ↔
      id ∈ conversationIds items ∧ id ≠ conversationId := by
  unfold conversationIds
  simp only [List.mem_map, List.mem_filter, bne_iff_ne]
  constructor
  · rintro ⟨item, ⟨hitem, hne⟩, rfl⟩
    exact ⟨⟨item, hitem, rfl⟩, hne⟩
  · rintro ⟨⟨item, hitem, rfl⟩, hne⟩
    exact ⟨item, ⟨hitem, hne⟩, rfl⟩

theorem Shows.dropArchived (h : s.Shows items) {conversationId : String}
    (hcreated' : t.created = s.created) (harchived' : t.archived = s.archived ++ [conversationId]) :
    t.Shows (items.filter fun item => item.id != conversationId) where
  created id hid hkept := by
    rw [hcreated'] at hid
    rw [harchived', List.mem_append, List.mem_singleton, not_or] at hkept
    exact mem_ids_filter.mpr ⟨h.created id hid hkept.1, hkept.2⟩
  archived id hid := by
    rw [harchived', List.mem_append, List.mem_singleton] at hid
    intro hmem
    obtain ⟨hmem, hne⟩ := mem_ids_filter.mp hmem
    rcases hid with hid | rfl
    · exact h.archived id hid hmem
    · exact hne rfl
  distinct := h.distinct.sublist (List.filter_sublist.map _)

theorem Shows.append {more : List Conversation} (h : s.Shows items)
    (hdistinct : (conversationIds more).Nodup)
    (hnew : ∀ id ∈ conversationIds more, id ∉ conversationIds items ∧ id ∉ s.archived) :
    s.Shows (items ++ more) where
  created id hid hkept := by
    rw [conversationIds, List.map_append]
    exact List.mem_append_left _ (h.created id hid hkept)
  archived id hid := by
    rw [conversationIds, List.map_append, List.mem_append, not_or]
    exact ⟨h.archived id hid, fun hmem => (hnew id hmem).2 hid⟩
  distinct := by
    rw [conversationIds, List.map_append, List.nodup_append]
    refine ⟨h.distinct, hdistinct, fun id hid id' hid' heq => ?_⟩
    subst heq
    exact (hnew id hid').1 hid

private theorem addCreated_of_data (hstate : s.state = .data current)
    (conversation : Conversation) :
    s.addCreated conversation =
      { s with
        state := .data { current with items := conversation :: current.items }
        created := s.created ++ [conversation.id] } := by
  simp [addCreated, hstate, AsyncValue.asData]

theorem addCreated_of_none (hstate : s.state.asData = none) (conversation : Conversation) :
    s.addCreated conversation =
      { s with building := true, created := s.created ++ [conversation.id] } := by
  simp [addCreated, hstate]

private theorem dropArchived_of_data (hstate : s.state = .data current) (conversationId : String) :
    s.dropArchived conversationId =
      { s with
        state := .data
          { current with items := current.items.filter fun item => item.id != conversationId }
        archived := s.archived ++ [conversationId] } := by
  simp [dropArchived, hstate, AsyncValue.asData]

theorem dropArchived_of_none (hstate : s.state.asData = none) (conversationId : String) :
    s.dropArchived conversationId = { s with archived := s.archived ++ [conversationId] } := by
  simp [dropArchived, hstate]

theorem changes_created {id : String} (hcreated : t.created = s.created ++ [id])
    (harchived : t.archived = s.archived) : t.changes = s.changes + 1 := by
  rw [changes, changes, hcreated, harchived, List.length_append, List.length_singleton]
  omega

theorem changes_archived {id : String} (hcreated : t.created = s.created)
    (harchived : t.archived = s.archived ++ [id]) : t.changes = s.changes + 1 := by
  rw [changes, changes, hcreated, harchived, List.length_append, List.length_singleton]
  omega

theorem ne_data (hstate : s.state.asData = none) : s.state ≠ .data current := by
  intro heq
  rw [heq] at hstate
  cases hstate

theorem UpToDate.conversationCreated (h : s.UpToDate) {conversation : Conversation}
    (hundisturbed : s.Undisturbed (.conversationCreated i conversation)) :
    UpToDate { s.addCreated conversation with creates := Function.update s.creates i false } := by
  obtain ⟨harchived, hnew⟩ := hundisturbed
  cases hstate : s.state with
  | data current =>
      rw [addCreated_of_data hstate]
      refine h.changed rfl (changes_created rfl rfl) ?_ (Or.inl ⟨_, rfl⟩)
      rintro shown ⟨⟩
      exact (h.shown current hstate).addCreated harchived (hnew current hstate) rfl rfl
  | loading | error =>
      have hnone : s.state.asData = none := by
        rw [hstate]
        rfl
      rw [addCreated_of_none hnone]
      exact h.changed rfl (changes_created rfl rfl) (fun _ hshown => absurd hshown (ne_data hnone))
        (Or.inr (Or.inl rfl))

theorem UpToDate.conversationArchived (h : s.UpToDate) (conversationId : String) :
    UpToDate
      { s.dropArchived conversationId with archives := Function.update s.archives i none } := by
  cases hstate : s.state with
  | data current =>
      rw [dropArchived_of_data hstate]
      refine h.changed rfl (changes_archived rfl rfl) ?_ (Or.inl ⟨_, rfl⟩)
      rintro shown ⟨⟩
      exact (h.shown current hstate).dropArchived rfl rfl
  | loading | error =>
      have hnone : s.state.asData = none := by
        rw [hstate]
        rfl
      rw [dropArchived_of_none hnone]
      exact h.changed rfl (changes_archived rfl rfl) (fun _ hshown => absurd hshown (ne_data hnone))
        h.awaited

theorem UpToDate.loadMore (h : s.UpToDate) (hstate : s.state = .data current) :
    UpToDate
      { s with
        state := .data { current with isLoadingMore := true }
        loads := Function.update s.loads i (some ⟨current, s.changes⟩) } where
  shown shown hshown := by
    cases hshown
    exact (h.shown current hstate).congr rfl rfl
  loads j load hload hchanges := by
    dsimp only at hload
    rw [Function.update_apply] at hload
    split at hload
    · cases hload
      exact (h.shown current hstate).congr rfl rfl
    · exact (h.loads j load hload hchanges).congr rfl rfl
  past j load hload := by
    dsimp only at hload
    rw [Function.update_apply] at hload
    split at hload
    · cases hload
      exact Nat.le_refl _
    · exact h.past j load hload
  awaited := Or.inl ⟨_, rfl⟩

theorem UpToDate.pageLoaded (h : s.UpToDate) {load : PendingPage} {page : ConversationPageData}
    (hload : s.loads i = some load) (hundisturbed : s.Undisturbed (.pageLoaded i page)) :
    UpToDate
      { s with
        state := .data
          { load.current with
            items := load.current.items ++ page.items
            nextCursor := page.nextCursor
            isLoadingMore := false }
        loads := Function.update s.loads i none } := by
  obtain ⟨hchanges, hdistinct, hnew⟩ := hundisturbed load hload
  refine h.same rfl rfl ?_ ?_ (Or.inl ⟨_, rfl⟩)
  · intro j other hother
    dsimp only at hother
    rw [Function.update_apply] at hother
    split at hother
    · cases hother
    · exact hother
  · rintro shown ⟨⟩
    exact (h.loads i load hload hchanges).append hdistinct hnew

theorem UpToDate.step {label : ConversationListLabel} (h : s.UpToDate)
    (hundisturbed : s.Undisturbed label) (hstep : s.step label = some t) : t.UpToDate := by
  cases label with
  | built page | listRefreshed i page =>
      simp only [ConversationListController.step] at hstep
      split at hstep <;> cases hstep
      refine h.same rfl rfl (fun _ _ hload => hload) ?_ (Or.inl ⟨_, rfl⟩)
      rintro shown ⟨⟩
      exact hundisturbed
  | buildFailed | pageFailed i | refreshFailed i => exact hundisturbed.elim
  | invalidate =>
      cases hstep
      exact h.same rfl rfl (fun _ _ hload => hload) h.shown (Or.inr (Or.inl rfl))
  | createConversation i | createFailed i =>
      simp only [ConversationListController.step] at hstep
      split at hstep <;> cases hstep
      exact h.same rfl rfl (fun _ _ hload => hload) h.shown h.awaited
  | conversationCreated i conversation =>
      simp only [ConversationListController.step] at hstep
      split at hstep <;> cases hstep
      exact h.conversationCreated hundisturbed
  | archiveConversation i conversationId | archiveFailed i =>
      simp only [ConversationListController.step] at hstep
      split at hstep <;> cases hstep
      exact h.same rfl rfl (fun _ _ hload => hload) h.shown h.awaited
  | conversationArchived i =>
      simp only [ConversationListController.step] at hstep
      split at hstep <;> cases hstep
      exact h.conversationArchived _
  | loadMore i =>
      rcases loadMore_of_step hstep with rfl | ⟨current, hstate, rfl⟩
      · exact h
      · exact h.loadMore hstate
  | pageLoaded i page =>
      simp only [ConversationListController.step] at hstep
      split at hstep <;> cases hstep
      exact h.pageLoaded ‹_› hundisturbed
  | refreshList i =>
      simp only [ConversationListController.step] at hstep
      split at hstep <;> cases hstep
      refine h.same rfl rfl (fun _ _ hload => hload) ?_ (Or.inr (Or.inr ⟨i, by simp⟩))
      rintro shown ⟨⟩

/--
In a run in which nothing is created or archived between the awaits of a `loadMore`, and
whose first pages are up to date, the list is right whenever all calls have finished.
-/
theorem loadMore_loses_nothing {labels : List ConversationListLabel}
    (hundisturbed : AllSteps Undisturbed ConversationListController.step {} labels) :
    ∀ pre s, pre <+: labels → exec ConversationListController.step {} pre = some s →
      s.Finished → s.Intact := by
  rintro pre s ⟨post, rfl⟩ hpre hfinished
  have hstep (s : ConversationListController) (label : ConversationListLabel)
      (t : ConversationListController) (h : s.UpToDate) (hok : s.Undisturbed label)
      (hstep : s.step label = some t) : t.UpToDate := h.step hok hstep
  have hkept : s.UpToDate :=
    exec_invariant hstep UpToDate.initial (hundisturbed.append hpre).1 hpre
  exact hkept.intact hfinished

end Steps

end ConversationListController

/-! ## A conversation that is created under a load -/

def listedConversation (id : String) (createdAt : Timestamp) : Conversation where
  id := id
  provider := "ollama"
  model := "roleplay-engine"
  createdAt := createdAt
  updatedAt := createdAt

def firstConversations : ConversationPageData where
  items := [listedConversation "10" 50]
  nextCursor := some "older"

def olderConversations : ConversationPageData where
  items := [listedConversation "9" 40]

def newConversation : Conversation := listedConversation "11" 60

def createThenLoad : List ConversationListLabel :=
  [.built firstConversations, .createConversation 0, .conversationCreated 0 newConversation,
    .loadMore 0, .pageLoaded 0 olderConversations]

theorem loadMore_loses_nothing_after_create :
    ∃ s, exec ConversationListController.step {} createThenLoad = some s ∧
      (s.Finished → s.Intact) := by
  have hundisturbed : AllSteps ConversationListController.Undisturbed
      ConversationListController.step {} createThenLoad := by
    refine .cons ⟨by decide, by decide, by decide⟩ rfl (.cons trivial rfl ?_)
    refine .cons ⟨by decide, ?_⟩ rfl (.cons trivial rfl ⟨?_, fun _ _ => trivial⟩)
    · rintro current ⟨⟩
      decide
    · rintro load ⟨⟩
      exact ⟨rfl, by decide, by decide⟩
  have hexec : ∃ s, exec ConversationListController.step {} createThenLoad = some s := ⟨_, rfl⟩
  obtain ⟨s, hexec⟩ := hexec
  exact ⟨s, hexec, ConversationListController.loadMore_loses_nothing hundisturbed _ s
    (List.prefix_refl _) hexec⟩

def createUnderLoad : List ConversationListLabel :=
  [.built firstConversations, .loadMore 0, .createConversation 0,
    .conversationCreated 0 newConversation, .pageLoaded 0 olderConversations]

/-- The new conversation is gone from the list. -/
theorem page_drops_created :
    ∃ s current, exec ConversationListController.step {} createUnderLoad = some s ∧
      s.Finished ∧ s.created = ["11"] ∧ s.archived = [] ∧ s.state = .data current ∧
      conversationIds current.items = ["10", "9"] ∧ ¬ s.Intact := by
  have hrun : ∃ s current load,
      exec ConversationListController.step {} createUnderLoad = some s ∧ s.building = false ∧
      s.creates = Function.update (Function.update (fun _ => false) 0 true) 0 false ∧
      s.archives = (fun _ => none) ∧
      s.loads = Function.update (Function.update (fun _ => none) 0 (some load)) 0 none ∧
      s.refreshes = (fun _ => false) ∧ s.created = ["11"] ∧ s.archived = [] ∧
      s.state = .data current ∧ conversationIds current.items = ["10", "9"] :=
    ⟨_, _, _, rfl, rfl, rfl, rfl, rfl, rfl, rfl, rfl, rfl, rfl⟩
  obtain ⟨s, current, load, hexec, hbuilding, hcreates, harchives, hloads, hrefreshes, hcreated,
    harchived, hstate, hids⟩ := hrun
  have hfinished : s.Finished := by
    refine ⟨hbuilding, ?_, ?_, ?_, ?_⟩
    · simp [hcreates]
    · simp [harchives]
    · simp [hloads]
    · simp [hrefreshes]
  refine ⟨s, current, hexec, hfinished, hcreated, harchived, hstate, hids, ?_⟩
  rintro ⟨shown, hshown, hshows⟩
  rw [hstate] at hshown
  cases hshown
  have hmem := hshows.created "11" (by simp [hcreated]) (by simp [harchived])
  rw [hids] at hmem
  exact absurd hmem (by decide)

end Astra.Client
