import Astra.Client.Wire
import Astra.Foundation.Fallible
import Astra.Services.Pages

/-!
# Scrolling through the conversations

`ConversationListController` against `GET /conversations` over a store that stays the same:
the pages go through the cursors, the service, and the JSON of both sides.
-/

namespace Astra.Client

open Astra.Foundation Astra.Platform Astra.Persistence Astra.Chat Astra.Services

/-! ## A page over the wire -/

def pageReply {α : Type} (rt : ClientRuntime) (dump : α → Dict) (result : Except Exn (Page α)) :
    Nat × String :=
  match result with
  | .error e =>
      let reply := exceptionReply (.raised e)
      (reply.statusCode, reply.body rt.floats)
  | .ok page =>
      (200, compactDumps rt.floats (.obj (okBody (.obj (pageDump (page.items.map dump)
        page.nextCursor)))))

/-- `_dio.get` and what the data source makes of the reply. -/
def getPage {β : Type} (rt : ClientRuntime) (reply : Nat × String)
    (read : Option Json → Except DartError β) : Except DartError β :=
  match receiveReply rt .json reply.1 reply.2 with
  | .error e => .error (.app (e.map rt))
  | .ok response => (read response.data).mapError (caught rt)

section Page

variable {rt : ClientRuntime}

theorem readItems_pageDump {α β : Type} {rows : List α} {dump : α → Dict} {of : α → β}
    {parser : Dict → Except DartError β} (hparser : ∀ row, parser (dump row) = .ok (of row))
    (nextCursor : Option String) :
    readItems (pageDump (rows.map dump) nextCursor) parser = .ok (rows.map of) := by
  have hitems : Dict.get? (pageDump (rows.map dump) nextCursor) "items" =
      some (.arr ((rows.map dump).map .obj)) := rfl
  simp only [readItems, hitems]
  rw [List.map_map, List.mapM_map]
  exact mapM_eq_ok_map fun row _ => hparser row

private theorem portable_pageDump {items : List Dict} {floats : FloatText}
    (h : ∀ item ∈ items, Portable floats (.obj item)) (nextCursor : Option String) :
    Portable floats (.obj (okBody (.obj (pageDump items nextCursor)))) := by
  have hitems : Portable floats (.arr (items.map .obj)) := by
    refine .arr _ ?_
    intro item hitem
    obtain ⟨fields, hfields, rfl⟩ := List.mem_map.mp hitem
    exact h fields hfields
  have hcursor : Portable floats (optStr nextCursor) := by
    cases nextCursor
    · exact .null
    · exact .str _
  have hpage : Portable floats (.obj (pageDump items nextCursor)) := by
    refine .obj _ (show ["items", "next_cursor"].Nodup by decide) ?_
    simp only [pageDump, List.forall_mem_cons, List.not_mem_nil, false_imp_iff, implies_true,
      and_true]
    exact ⟨hitems, hcursor⟩
  refine .obj _ (show ["success", "data", "error"].Nodup by decide) ?_
  simp only [okBody, List.forall_mem_cons, List.not_mem_nil, false_imp_iff, implies_true, and_true]
  exact ⟨.bool _, hpage, .null⟩

private theorem readConversationPage_dump (rows : List Persistence.Conversation)
    (nextCursor : Option String) :
    readConversationPage rt (some (.obj (okBody (.obj (pageDump
        (rows.map (conversationDump rt.toWireRuntime)) nextCursor))))) =
      .ok { items := rows.map (Conversation.ofResponse rt), nextCursor } := by
  have hdata : ApiEnvelope.requireDataMap rt (some (.obj (okBody (.obj (pageDump
      (rows.map (conversationDump rt.toWireRuntime)) nextCursor))))) =
        .ok (pageDump (rows.map (conversationDump rt.toWireRuntime)) nextCursor) := rfl
  have hcursor : optionalText rt (pageDump (rows.map (conversationDump rt.toWireRuntime))
      nextCursor) "next_cursor" = .ok nextCursor := optionalText_of_get rfl
  simp only [readConversationPage, hdata, readItems_pageDump fromJson_conversationDump, hcursor,
    bind, Except.bind]

theorem readMessagePage_dump (rows : List Message) (nextCursor : Option String) :
    readMessagePage rt (some (.obj (okBody (.obj (pageDump
        (rows.map (messageDump rt.toWireRuntime)) nextCursor))))) =
      .ok { items := rows.map (ChatMessage.ofResponse rt.toPyRuntime), nextCursor } := by
  have hdata : ApiEnvelope.requireDataMap rt (some (.obj (okBody (.obj (pageDump
      (rows.map (messageDump rt.toWireRuntime)) nextCursor))))) =
        .ok (pageDump (rows.map (messageDump rt.toWireRuntime)) nextCursor) := rfl
  have hcursor : optionalText rt (pageDump (rows.map (messageDump rt.toWireRuntime))
      nextCursor) "next_cursor" = .ok nextCursor := optionalText_of_get rfl
  simp only [readMessagePage, hdata, readItems_pageDump fromJson_messageDump, hcursor, bind,
    Except.bind]

theorem getPage_pageReply {α β : Type} {dump : α → Dict} {page : Page α}
    {read : Option Json → Except DartError β} {value : β}
    (hportable : ∀ row ∈ page.items, Portable rt.floats (.obj (dump row)))
    (hread : read (some (.obj (okBody (.obj (pageDump (page.items.map dump) page.nextCursor))))) =
      .ok value) : getPage rt (pageReply rt dump (.ok page)) read = .ok value := by
  have hpage : Portable rt.floats (.obj (okBody (.obj (pageDump (page.items.map dump)
      page.nextCursor)))) := by
    refine portable_pageDump ?_ _
    intro item hitem
    obtain ⟨row, hrow, rfl⟩ := List.mem_map.mp hitem
    exact hportable row hrow
  simp only [getPage, pageReply, receiveReply_ok (jsonDecode_compactDumps hpage), hread]
  rfl

end Page

/-! ## The service -/

/-- What answers the requests of a signed-in user. -/
structure Backend where
  cursors : CursorRuntime
  wire : ClientRuntime
  settings : PageSettings
  store : Store
  userId : UUID

namespace Backend

variable (b : Backend)

def pageLimit : Nat := 30

def pageSize : Nat := min pageLimit b.settings.conversationPageSizeMax

def reply (cursor : Option String) : Nat × String :=
  pageReply b.wire (conversationDump b.wire.toWireRuntime)
    (listForUser b.cursors b.settings b.userId b.store pageLimit cursor)

def listConversations (cursor : Option String) : Except DartError ConversationPageData :=
  getPage b.wire (b.reply cursor) (readConversationPage b.wire)

def listing : List Persistence.Conversation :=
  found (conversationVisible b.userId) activityKey none b.store.conversations

def firstItems (n : Nat) : List Conversation :=
  (b.listing.take n).map (Conversation.ofResponse b.wire)

def cursorAfter (n : Nat) : Option String :=
  (cursorBehind (conversationVisible b.userId) activityKey b.store.conversations n).map
    (cursorText b.cursors)

/-- The keys of the store are distinct, and its metadata means the same on both sides. -/
structure Sound : Prop where
  ids : (b.store.conversations.map Persistence.Conversation.id).Nodup
  portable : ∀ c ∈ b.store.conversations, Portable b.wire.floats (.obj c.conversationMetadata)

end Backend

namespace Backend

section Listing

variable {b : Backend}

theorem pageSize_pos (b : Backend) : 1 ≤ b.pageSize :=
  Nat.le_min.mpr ⟨by decide, Nat.le_trans (by decide) b.settings.conversationPageSizeMax_ge⟩

theorem Sound.keys (h : b.Sound) : (b.store.conversations.map activityKey).Nodup := by
  refine keys_nodup ?_ h.ids
  intro c c' hkey
  exact congrArg (fun key => (ofLex key).2) hkey

theorem listConversations_of_cursor (h : b.Sound) (cursor : Option (Timestamp ×ₗ UUID)) :
    b.listConversations (cursor.map (cursorText b.cursors)) =
      .ok { items := (keysetPage (conversationVisible b.userId) activityKey b.pageSize cursor
              b.store.conversations).items.map (Conversation.ofResponse b.wire)
            nextCursor := (keysetPage (conversationVisible b.userId) activityKey b.pageSize cursor
              b.store.conversations).next.map (cursorText b.cursors) } := by
  have hrows : ∀ c ∈ (conversationPage b.settings b.userId pageLimit cursor
      b.store.conversations).items, c ∈ b.store.conversations := by
    intro c hc
    exact ((keysetPage_pages b.pageSize_pos h.keys).sound c hc).1
  simp only [listConversations, reply, listForUser_cursorText]
  refine getPage_pageReply ?_ (readConversationPage_dump _ _)
  intro c hc
  exact portable_conversationDump (h.portable c (hrows c hc))

theorem listConversations_first (h : b.Sound) :
    b.listConversations none =
      .ok { items := b.firstItems b.pageSize, nextCursor := b.cursorAfter b.pageSize } := by
  have hpage := listConversations_of_cursor h none
  rw [keysetPage_first] at hpage
  exact hpage

theorem listConversations_next (h : b.Sound) {n : Nat} {cursor : String}
    (hcursor : b.cursorAfter n = some cursor) :
    ∃ page, b.listConversations (some cursor) = .ok page ∧
      b.firstItems n ++ page.items = b.firstItems (n + b.pageSize) ∧
      page.nextCursor = b.cursorAfter (n + b.pageSize) := by
  obtain ⟨key, hkey, rfl⟩ := Option.map_eq_some_iff.mp hcursor
  have hpage := listConversations_of_cursor h (some key)
  rw [keysetPage_next h.keys b.pageSize_pos hkey] at hpage
  refine ⟨_, hpage, ?_, rfl⟩
  rw [firstItems, firstItems, ← List.map_append, List.take_add]
  rfl

theorem firstItems_of_end {n : Nat} (hn : 1 ≤ n) (hend : b.cursorAfter n = none) :
    b.firstItems n = b.listing.map (Conversation.ofResponse b.wire) := by
  rw [cursorAfter, Option.map_eq_none_iff, cursorBehind] at hend
  rw [firstItems]
  split at hend
  · rename_i hmore
    rw [Option.map_eq_none_iff, List.getLast?_eq_none_iff, ← List.length_eq_zero_iff,
      List.length_take] at hend
    omega
  · rename_i hall
    rw [List.take_of_length_le (by exact Nat.not_lt.mp hall)]

private theorem firstItems_of_le {n m : Nat} (hn : 1 ≤ n) (hend : b.cursorAfter n = none)
    (hle : n ≤ m) :
    b.firstItems m = b.firstItems n ∧ b.cursorAfter m = none := by
  have hall := firstItems_of_end hn hend
  have hlength : b.listing.length ≤ n := by
    have hlengths := congrArg List.length hall
    rw [firstItems, List.length_map, List.length_map, List.length_take] at hlengths
    omega
  have hdone : ¬ m < b.listing.length := by omega
  constructor
  · rw [hall, firstItems, List.take_of_length_le (by omega)]
  · rw [cursorAfter, cursorBehind, Option.map_eq_none_iff]
    exact if_neg hdone

end Listing

/-! ## Runs of the controller -/

/-- The pages that arrive are those that the service answers with; any request may fail. -/
def Served (b : Backend) (s : ConversationListController) : ConversationListLabel → Prop
  | .built page | .listRefreshed _ page => b.listConversations none = .ok page
  | .pageLoaded i page => ∀ load, s.loads i = some load →
      b.listConversations load.current.nextCursor = .ok page
  | .loadMore _ | .pageFailed _ | .buildFailed | .invalidate | .refreshList _ | .refreshFailed _ =>
      True
  | _ => False

def Initial (b : Backend) (current : ConversationListState) : Prop :=
  ∃ n, 1 ≤ n ∧ current.items = b.firstItems n ∧ current.nextCursor = b.cursorAfter n

/-- What is shown, and what a load under way will write back. -/
structure Scrolled (b : Backend) (s : ConversationListController) : Prop where
  shown : ∀ current, s.state = .data current → b.Initial current
  loads : ∀ i load, s.loads i = some load →
    b.Initial load.current ∧ load.current.nextCursor ≠ none

section Runs

variable {b : Backend} {s t : ConversationListController}

theorem initial_first (h : b.Sound) {page : ConversationPageData}
    (hpage : b.listConversations none = .ok page) : b.Initial page.state := by
  rw [listConversations_first h, Except.ok.injEq] at hpage
  exact ⟨b.pageSize, b.pageSize_pos, by rw [← hpage]; exact ⟨rfl, rfl⟩⟩

theorem Initial.loaded (h : b.Sound) {current : ConversationListState}
    (hcurrent : b.Initial current)
    {page : ConversationPageData} (hpage : b.listConversations current.nextCursor = .ok page)
    (hcursor : current.nextCursor ≠ none) :
    b.Initial { current with
      items := current.items ++ page.items
      nextCursor := page.nextCursor
      isLoadingMore := false } := by
  obtain ⟨n, hn, hitems, hnext⟩ := hcurrent
  obtain ⟨cursor, hsome⟩ := Option.ne_none_iff_exists'.mp hcursor
  obtain ⟨page', hpage', happend, hafter⟩ := listConversations_next h (hnext.symm.trans hsome)
  rw [hsome, hpage', Except.ok.injEq] at hpage
  subst hpage
  refine ⟨n + b.pageSize, Nat.le_add_right_of_le hn, ?_, hafter⟩
  rw [← happend, hitems]

theorem Scrolled.initial (b : Backend) : b.Scrolled {} := by
  constructor
  · rintro current ⟨⟩
  · rintro i load ⟨⟩

theorem Scrolled.of_loads (h : b.Scrolled s)
    (hstate : ∀ current, t.state = .data current → b.Initial current)
    (hloads : ∀ i load, t.loads i = some load → s.loads i = some load) : b.Scrolled t :=
  ⟨hstate, fun i load hload => h.loads i load (hloads i load hload)⟩

theorem of_update_none {loads : Nat → Option PendingPage} {i j : Nat} {load : PendingPage}
    (h : Function.update loads i none j = some load) : loads j = some load := by
  rw [Function.update_apply] at h
  split at h
  · cases h
  · exact h

theorem Scrolled.loadMore (h : b.Scrolled s) {i : Nat} {current : ConversationListState}
    (hstate : s.state = .data current) (hcursor : current.nextCursor ≠ none) :
    b.Scrolled { s with
      state := .data { current with isLoadingMore := true }
      loads := Function.update s.loads i (some ⟨current, s.changes⟩) } := by
  have hcurrent := h.shown current hstate
  constructor
  · rintro shown ⟨⟩
    exact hcurrent
  · intro j load hload
    simp only [Function.update_apply] at hload
    split at hload
    · obtain rfl := Option.some.inj hload
      exact ⟨hcurrent, hcursor⟩
    · exact h.loads j load hload

theorem Scrolled.step (hsound : b.Sound) (h : b.Scrolled s) {label : ConversationListLabel}
    (hserved : b.Served s label) (hstep : s.step label = some t) : b.Scrolled t := by
  cases label with
  | built page =>
      obtain ⟨-, hstep⟩ := Option.ite_none_right_eq_some.mp hstep
      obtain rfl := Option.some.inj hstep
      refine h.of_loads ?_ fun i load hload => hload
      rintro current ⟨⟩
      exact initial_first hsound hserved
  | buildFailed =>
      obtain ⟨-, hstep⟩ := Option.ite_none_right_eq_some.mp hstep
      obtain rfl := Option.some.inj hstep
      exact h.of_loads (by rintro current ⟨⟩) fun i load hload => hload
  | invalidate =>
      obtain rfl := Option.some.inj hstep
      exact h.of_loads h.shown fun i load hload => hload
  | loadMore i =>
      simp only [ConversationListController.step] at hstep
      split at hstep
      · rename_i current _ hdata
        have hstate : s.state = .data current := by
          cases hs : s.state <;> simp_all [AsyncValue.asData]
        split at hstep
        · obtain rfl := Option.some.inj hstep
          exact h
        · rename_i hopen
          obtain rfl := Option.some.inj hstep
          refine h.loadMore hstate ?_
          intro hnone
          simp [hnone] at hopen
      · obtain rfl := Option.some.inj hstep
        exact h
      · cases hstep
  | pageLoaded i page =>
      simp only [ConversationListController.step] at hstep
      split at hstep
      · cases hstep
      · rename_i load hload
        obtain rfl := Option.some.inj hstep
        obtain ⟨hcurrent, hcursor⟩ := h.loads i load hload
        refine h.of_loads ?_ fun j load hload => of_update_none hload
        rintro current ⟨⟩
        exact hcurrent.loaded hsound (hserved load hload) hcursor
  | pageFailed i =>
      simp only [ConversationListController.step] at hstep
      split at hstep
      · cases hstep
      · obtain rfl := Option.some.inj hstep
        exact h.of_loads (by rintro current ⟨⟩) fun j load hload => of_update_none hload
  | refreshList i =>
      obtain ⟨-, hstep⟩ := Option.ite_none_left_eq_some.mp hstep
      obtain rfl := Option.some.inj hstep
      exact h.of_loads (by rintro current ⟨⟩) fun j load hload => hload
  | listRefreshed i page =>
      obtain ⟨-, hstep⟩ := Option.ite_none_right_eq_some.mp hstep
      obtain rfl := Option.some.inj hstep
      refine h.of_loads ?_ fun j load hload => hload
      rintro current ⟨⟩
      exact initial_first hsound hserved
  | refreshFailed i =>
      obtain ⟨-, hstep⟩ := Option.ite_none_right_eq_some.mp hstep
      obtain rfl := Option.some.inj hstep
      exact h.of_loads (by rintro current ⟨⟩) fun j load hload => hload
  | createConversation _ | conversationCreated _ _ | createFailed _ => exact hserved.elim
  | archiveConversation _ _ | conversationArchived _ | archiveFailed _ => exact hserved.elim

theorem Scrolled.exec (hsound : b.Sound) {labels : List ConversationListLabel}
    (hserved : AllSteps b.Served ConversationListController.step {} labels)
    (hexec : exec ConversationListController.step {} labels = some s) : b.Scrolled s :=
  exec_invariant (fun _ _ _ h hserved hstep => h.step hsound hserved hstep) (.initial b) hserved
    hexec

def loading (s : ConversationListController) (current : ConversationListState) :
    ConversationListController :=
  { s with
    state := .data { current with isLoadingMore := true }
    loads := Function.update s.loads 0 (some ⟨current, s.changes⟩) }

theorem loading_loads (s : ConversationListController) (current : ConversationListState) :
    (loading s current).loads 0 = some ⟨current, s.changes⟩ := by
  simp [loading]

private theorem step_loadMore {current : ConversationListState} (hstate : s.state = .data current)
    (hloads : s.loads 0 = none) (hflag : current.isLoadingMore = false)
    (hcursor : current.nextCursor ≠ none) : s.step (.loadMore 0) = some (loading s current) := by
  simp [ConversationListController.step, hloads, hstate, AsyncValue.asData, hflag, hcursor, loading]

private theorem step_pageLoaded (s : ConversationListController) (current : ConversationListState)
    (page : ConversationPageData) :
    (loading s current).step (.pageLoaded 0 page) = some { loading s current with
      state := .data
        { current with
          items := current.items ++ page.items
          nextCursor := page.nextCursor
          isLoadingMore := false }
      loads := Function.update (loading s current).loads 0 none } := by
  simp only [ConversationListController.step, loading_loads]

private theorem exists_scroll (hsound : b.Sound) (n : Nat) :
    ∃ labels s current, AllSteps b.Served ConversationListController.step {} labels ∧
      Foundation.exec ConversationListController.step {} labels = some s ∧
      s.state = .data current ∧ s.loads 0 = none ∧ current.isLoadingMore = false ∧
      current.items = b.firstItems ((n + 1) * b.pageSize) ∧
      current.nextCursor = b.cursorAfter ((n + 1) * b.pageSize) := by
  induction n with
  | zero =>
      have hpage := listConversations_first hsound
      refine ⟨[.built _], _, _, .cons hpage rfl trivial, rfl, rfl, rfl, rfl, ?_, ?_⟩
      · rw [Nat.one_mul]
        rfl
      · rw [Nat.one_mul]
        rfl
  | succ n ih =>
      obtain ⟨labels, s, current, hserved, hexec, hstate, hloads, hflag, hitems, hcursor⟩ := ih
      have hpos : 1 ≤ (n + 1) * b.pageSize := Nat.mul_pos (Nat.succ_pos n) b.pageSize_pos
      rw [Nat.succ_mul (n + 1)]
      cases hnext : current.nextCursor with
      | none =>
          obtain ⟨hsame, hend⟩ := firstItems_of_le hpos (hcursor.symm.trans hnext)
            (Nat.le_add_right _ b.pageSize)
          refine ⟨labels, s, current, hserved, hexec, hstate, hloads, hflag, ?_, ?_⟩
          · rw [hsame, hitems]
          · rw [hend, hnext]
      | some cursor =>
          obtain ⟨page, hpage, happend, hafter⟩ :=
            listConversations_next hsound (hcursor.symm.trans hnext)
          have hmore : b.Served s (.loadMore 0) := trivial
          have hload : s.step (.loadMore 0) = some (loading s current) :=
            step_loadMore hstate hloads hflag (by simp [hnext])
          have hanswer : b.Served (loading s current) (.pageLoaded 0 page) := by
            intro load hsome
            obtain rfl := Option.some.inj ((loading_loads s current).symm.trans hsome)
            exact (congrArg b.listConversations hnext).trans hpage
          have hloaded := step_pageLoaded s current page
          refine ⟨labels ++ [.loadMore 0, .pageLoaded 0 page], _, _,
            hserved.extend hexec (.cons hmore hload (.cons hanswer hloaded trivial)),
            exec_append.mpr ⟨s, hexec, exec_cons.mpr ⟨_, hload, exec_cons.mpr ⟨_, hloaded, rfl⟩⟩⟩,
            rfl, ?_, rfl, ?_, ?_⟩
          · simp only [Function.update_self]
          · rw [← happend, ← hitems]
          · exact hafter

end Runs

end Backend

/--
Over a store that stays the same, whatever builds, scrolls, refreshes and failures come in
which order, the controller shows the first conversations of the user's listing, each in
its place, and all of them once no further page is offered; scrolling gets that far.
-/
theorem scrolling_shows_listing (b : Backend) (hsound : b.Sound) :
    (∀ labels s current, AllSteps b.Served ConversationListController.step {} labels →
      exec ConversationListController.step {} labels = some s → s.state = .data current →
      ∃ n, current.items = b.firstItems n ∧ current.nextCursor = b.cursorAfter n ∧
        (current.nextCursor = none →
          current.items = b.listing.map (Conversation.ofResponse b.wire))) ∧
    ∃ labels s current, AllSteps b.Served ConversationListController.step {} labels ∧
      exec ConversationListController.step {} labels = some s ∧ s.state = .data current ∧
      current.items = b.listing.map (Conversation.ofResponse b.wire) := by
  constructor
  · intro labels s current hserved hexec hstate
    obtain ⟨n, hn, hitems, hcursor⟩ :=
      (Backend.Scrolled.exec hsound hserved hexec).shown current hstate
    refine ⟨n, hitems, hcursor, ?_⟩
    intro hnone
    rw [hitems]
    exact Backend.firstItems_of_end hn (hcursor.symm.trans hnone)
  · obtain ⟨labels, s, current, hserved, hexec, hstate, -, -, hitems, -⟩ :=
      Backend.exists_scroll hsound b.listing.length
    refine ⟨labels, s, current, hserved, hexec, hstate, ?_⟩
    have hlength : b.listing.length ≤ (b.listing.length + 1) * b.pageSize :=
      Nat.le_trans (Nat.le_succ _) (Nat.le_mul_of_pos_right _ b.pageSize_pos)
    rw [hitems, Backend.firstItems, List.take_of_length_le hlength]

/-! ## Two conversations -/

def storedConversation (id userId : UUID) (lastMessageAt : Option Timestamp) :
    Persistence.Conversation where
  id := id
  userId := userId
  title := some "Xin chào"
  provider := some "ollama"
  model := none
  systemPrompt := none
  characterId := none
  personaId := none
  lastMessageAt := lastMessageAt
  archivedAt := none
  createdAt := 0
  updatedAt := 0
  conversationMetadata := [("pinned", .bool true)]

def sampleBackend : Backend where
  cursors := .sample
  wire := .sample
  settings := {}
  store :=
    { conversations := [storedConversation 1 7 none, storedConversation 2 7 (some 1000000),
        storedConversation 3 8 none] }
  userId := 7

theorem scrolling_shows_listing_two :
    ∃ labels s current, AllSteps sampleBackend.Served ConversationListController.step {} labels ∧
      exec ConversationListController.step {} labels = some s ∧ s.state = .data current ∧
      current.items.map Conversation.lastMessageAt = [some 1000000, none] := by
  have hsound : sampleBackend.Sound := by
    constructor
    · decide
    · have hmetadata : Portable FloatText.whole (.obj [("pinned", .bool true)]) := by
        refine .obj _ (by decide) ?_
        simp only [List.forall_mem_cons, List.not_mem_nil, false_imp_iff, implies_true, and_true]
        exact .bool true
      simp only [sampleBackend, List.forall_mem_cons, List.not_mem_nil, false_imp_iff, implies_true,
        and_true]
      exact ⟨hmetadata, hmetadata, hmetadata⟩
  obtain ⟨labels, s, current, hserved, hexec, hstate, hitems⟩ :=
    (scrolling_shows_listing sampleBackend hsound).2
  refine ⟨labels, s, current, hserved, hexec, hstate, ?_⟩
  have hlisting : sampleBackend.listing.map Persistence.Conversation.lastMessageAt =
      [some 1000000, none] := by decide
  rw [hitems, List.map_map]
  exact hlisting

end Astra.Client
