import Astra.Client.Scroll
import Astra.Client.World

/-!
# Reading back in a conversation

`ChatController.loadOlder` against `GET /conversations/{id}/messages` while the server handles
any requests.  The pages of one reading come from different states of the message table, and
while one of them is on its way the table changes again.
-/

namespace Astra.Client

open Astra.Foundation Astra.Platform Astra.Persistence Astra.Chat Astra.Services

/-! ## The system -/

/-- A signed-in user in the conversation that is open, and what answers the user's requests. -/
structure HistorySite where
  deployment : Deployment
  cursors : CursorRuntime
  wire : ClientRuntime
  dart : DartSort
  settings : PageSettings
  userId : UUID
  conversationId : UUID

namespace HistorySite

variable (site : HistorySite)

def pageLimit : Nat := 50

def reply (store : Store) (cursor : Option String) : Nat × String :=
  pageReply site.wire (messageDump site.wire.toWireRuntime)
    (Services.listMessages site.cursors site.settings site.userId site.conversationId store
      pageLimit cursor)

def listMessages (store : Store) (cursor : Option String) : Except DartError MessagePageData :=
  getPage site.wire (site.reply store cursor) (readMessagePage site.wire)

/-- The JSON columns of the conversation mean the same on both sides. -/
def PortableRows (store : Store) : Prop :=
  ∀ m ∈ store.messages, m.conversationId = site.conversationId →
    PortableMessage site.wire.floats m

end HistorySite

/-- `replies` are the pages that were read for the loads under way and have not arrived yet. -/
structure HistoryWorld where
  server : Chat.ChatState
  screen : ChatScreen
  replies : Nat → Option (Except DartError MessagePageData) := fun _ => none

inductive HistoryLabel where
  | server (label : ChatLabel)
  | setExecutionMode (mode : ChatExecutionMode)
  | loadOlder (i : Nat)
  | served (i : Nat)
  | arrived (i : Nat)
  | lost (i : Nat)

namespace HistoryWorld

def step (site : HistorySite) (w : HistoryWorld) : HistoryLabel → Option HistoryWorld
  | .server label =>
      (w.server.step site.deployment label).map fun server => { w with server := server }
  | .setExecutionMode mode =>
      (w.screen.step site.dart (.setExecutionMode mode)).map fun screen =>
        { w with screen := screen }
  | .loadOlder i =>
      (w.screen.step site.dart (.loadOlder i)).map fun screen => { w with screen := screen }
  | .served i =>
      match w.screen.loads i, w.replies i with
      | some current, none =>
          some { w with
            replies := Function.update w.replies i
              (some (site.listMessages w.server.store current.nextCursor)) }
      | _, _ => none
  | .arrived i =>
      match w.replies i with
      | none => none
      | some (.ok page) =>
          (w.screen.step site.dart (.pageLoaded i page)).map fun screen =>
            { w with screen := screen, replies := Function.update w.replies i none }
      | some (.error _) =>
          (w.screen.step site.dart (.pageFailed i)).map fun screen =>
            { w with screen := screen, replies := Function.update w.replies i none }
  | .lost i =>
      (w.screen.step site.dart (.pageFailed i)).map fun screen =>
        { w with screen := screen, replies := Function.update w.replies i none }

/--
No success transaction is interrupted once its commit took effect, and what the server
answers with means the same on both sides.
-/
def Undisturbed (site : HistorySite) (w : HistoryWorld) : HistoryLabel → Prop
  | .server label => ReturnsOnceCommitted w.server label
  | .served _ => site.PortableRows w.server.store
  | _ => True

def opened (server : Chat.ChatState) (page : MessagePageData) : HistoryWorld where
  server := server
  screen := .built page

end HistoryWorld

/-! ## What is shown -/

/-- The rows of a walk over the pages, as the table has them now. -/
structure Walked (site : HistorySite) (opening rows : List Message)
    (walk : KeysetWalk Message (Timestamp ×ₗ UUID)) : Prop where
  walked : WalkInvariant Message.id recency walk rows
  stored : ∀ m ∈ walk.met, m.conversationId = site.conversationId ∧
    datedKey m ∈ rows.map datedKey ∧ (m.status = .completed → m ∈ rows)
  due : ∀ m ∈ opening, m.conversationId = site.conversationId →
    Due Message.id walk m.id (recency m)

def ReadBack (site : HistorySite) (opening rows : List Message) (messages : List ChatMessage)
    (nextCursor : Option String) : Prop :=
  ∃ walk cursor, Walked site opening rows walk ∧ walk.pending = Option.map some cursor ∧
    messages = walk.met.reverse.map (ChatMessage.ofResponse site.wire.toPyRuntime) ∧
    nextCursor = cursor.map (cursorText site.cursors)

/--
What the screen shows: rows of the conversation, each once, completed ones as they are
stored, the oldest first; and every opening row that is missing is older than all of them.
-/
structure ShowsBack (site : HistorySite) (opening rows : List Message) (current : ChatState) :
    Prop where
  faithful : Faithful site.wire.toPyRuntime site.conversationId rows current.messages
  ordered : ∃ listed : List Message,
    current.messages = listed.map (ChatMessage.ofResponse site.wire.toPyRuntime) ∧
      listed.Pairwise (fun a b => recency a < recency b) ∧
      ∀ row ∈ opening, row.conversationId = site.conversationId →
        row.id ∈ listed.map Message.id ∨
          current.nextCursor ≠ none ∧ ∀ m ∈ listed, recency row < recency m

section Pages

variable {site : HistorySite} {opening rows rows' : List Message} {store : Store}
  {walk : KeysetWalk Message (Timestamp ×ₗ UUID)} {cursor : Option (Timestamp ×ₗ UUID)}
  {page : MessagePageData}

theorem recency_of_datedKey {m m' : Message} (h : datedKey m' = datedKey m) :
    recency m' = recency m := by
  have hid : m'.id = m.id := congrArg (fun k => k.1.id) h
  have htime : m'.createdAt = m.createdAt := congrArg Prod.snd h
  rw [recency, recency, hid, htime]

theorem evolves_of_datedKeys (hids : (rows'.map Message.id).Nodup)
    (hrows : ∀ k ∈ rows.map datedKey, k ∈ rows'.map datedKey) :
    Evolves Message.id recency rows rows' := by
  refine ⟨hids, fun m hm => ?_⟩
  obtain ⟨m', hm', hkey⟩ := List.mem_map.mp (hrows _ (List.mem_map_of_mem hm))
  exact ⟨m', hm', congrArg (fun k => k.1.id) hkey, (recency_of_datedKey hkey).ge⟩

theorem Walked.grows (h : Walked site opening rows walk) (hrows : Grows rows rows')
    (hids : (rows'.map Message.id).Nodup) : Walked site opening rows' walk where
  walked := h.walked.evolves (evolves_of_datedKeys hids hrows.dated)
  stored m hm := by
    obtain ⟨hconversation, hdated, hcompleted⟩ := h.stored m hm
    exact ⟨hconversation, hrows.dated _ hdated,
      fun hstatus => hrows.completed m (hcompleted hstatus) hstatus⟩
  due := h.due

theorem ReadBack.grows {messages : List ChatMessage} {nextCursor : Option String}
    (h : ReadBack site opening rows messages nextCursor) (hrows : Grows rows rows')
    (hids : (rows'.map Message.id).Nodup) : ReadBack site opening rows' messages nextCursor := by
  obtain ⟨walk, cursor, hwalked, hrest⟩ := h
  exact ⟨walk, cursor, hwalked.grows hrows hids, hrest⟩

theorem pageSize_pos (site : HistorySite) :
    1 ≤ min HistorySite.pageLimit site.settings.conversationPageSizeMax :=
  Nat.le_min.mpr ⟨by decide, Nat.le_trans (by decide) site.settings.conversationPageSizeMax_ge⟩

theorem recency_injective (a b : Message) (h : recency a = recency b) : a.id = b.id :=
  congrArg (fun key => (ofLex key).2) h

theorem listMessages_found (cursor : Option (Timestamp ×ₗ UUID))
    (hids : (store.messages.map Message.id).Nodup)
    (hportable : site.PortableRows store) {c : Persistence.Conversation}
    (hfound : getOwnedConversation store.conversations site.conversationId site.userId = some c) :
    site.listMessages store (cursor.map (cursorText site.cursors)) =
      .ok { items := (messagePage site.settings site.conversationId HistorySite.pageLimit cursor
              store.messages).items.reverse.map (ChatMessage.ofResponse site.wire.toPyRuntime)
            nextCursor := (messagePage site.settings site.conversationId HistorySite.pageLimit
              cursor store.messages).next.map (cursorText site.cursors) } := by
  have hpages : Pages (fun m => m.conversationId == site.conversationId) recency cursor
      store.messages (messagePage site.settings site.conversationId HistorySite.pageLimit cursor
        store.messages) :=
    keysetPage_pages (pageSize_pos site) (keys_nodup recency_injective hids)
  simp only [HistorySite.listMessages, HistorySite.reply, listMessages_cursorText, hfound]
  refine getPage_pageReply ?_ (readMessagePage_dump _ _)
  intro m hm
  obtain ⟨hmem, hselected, -⟩ := hpages.sound m (List.mem_reverse.mp hm)
  exact portable_messageDump (hportable m hmem (beq_iff_eq.mp hselected))

private theorem getPage_refused {β : Type} {rt : ClientRuntime} {reply : Nat × String}
    {read : Option Json → Except DartError β} (h : 300 ≤ reply.1) (value : β) :
    getPage rt reply read ≠ .ok value := by
  have hstatus : ¬ (200 ≤ reply.1 ∧ reply.1 < 300) := fun hok => Nat.not_lt.mpr h hok.2
  unfold getPage receiveReply
  cases jsonDecode rt.floats (utf16 reply.2) <;> simp [Except.bind, hstatus]

private theorem listMessages_ok (hids : (store.messages.map Message.id).Nodup)
    (hportable : site.PortableRows store)
    (hpage : site.listMessages store (cursor.map (cursorText site.cursors)) = .ok page) :
    page =
      { items := (messagePage site.settings site.conversationId HistorySite.pageLimit cursor
          store.messages).items.reverse.map (ChatMessage.ofResponse site.wire.toPyRuntime)
        nextCursor := (messagePage site.settings site.conversationId HistorySite.pageLimit cursor
          store.messages).next.map (cursorText site.cursors) } := by
  cases hfound : getOwnedConversation store.conversations site.conversationId site.userId with
  | some c =>
      rw [listMessages_found cursor hids hportable hfound] at hpage
      exact (Except.ok.inj hpage).symm
  | none =>
      simp only [HistorySite.listMessages, HistorySite.reply, listMessages_cursorText, hfound]
        at hpage
      exact absurd hpage (getPage_refused (show 300 ≤ 404 by decide) page)

theorem Walked.readPage (h : Walked site opening store.messages walk)
    (hids : (store.messages.map Message.id).Nodup)
    (hopening : ∀ k ∈ opening.map datedKey, k ∈ store.messages.map datedKey)
    (hportable : site.PortableRows store) (hpending : walk.pending = some cursor)
    (hpage : site.listMessages store (cursor.map (cursorText site.cursors)) = .ok page) :
    ReadBack site opening store.messages
      (page.items ++ walk.met.reverse.map (ChatMessage.ofResponse site.wire.toPyRuntime))
      page.nextCursor := by
  rw [listMessages_ok hids hportable hpage]
  generalize hread : messagePage site.settings site.conversationId HistorySite.pageLimit cursor
    store.messages = read
  have hpages : Pages (fun m => m.conversationId == site.conversationId) recency cursor
      store.messages read :=
    hread ▸ keysetPage_pages (pageSize_pos site) (keys_nodup recency_injective hids)
  obtain ⟨later, hstep, hlater, hmet⟩ : ∃ later,
      walk.step (fun m => m.conversationId == site.conversationId) recency
        (min HistorySite.pageLimit site.settings.conversationPageSizeMax, store.messages) =
          some later ∧
      later.pending = read.next.map some ∧ later.met = walk.met ++ read.items := by
    refine ⟨⟨walk.pages ++ [read.items], read.next.map some⟩, ?_, rfl, ?_⟩
    · rw [KeysetWalk.step, hpending, ← hread]
      rfl
    · rw [KeysetWalk.met, List.flatten_append, List.flatten_singleton]
      rfl
  refine ⟨later, read.next, ⟨?_, ?_, ?_⟩, hlater, ?_, rfl⟩
  · exact h.walked.step recency_injective
      (evolves_of_datedKeys hids fun _ hk => hk) (pageSize_pos site) hstep
  · intro m hm
    rw [hmet, List.mem_append] at hm
    rcases hm with hold | hnew
    · exact h.stored m hold
    · obtain ⟨hmem, hselected, -⟩ := hpages.sound m hnew
      exact ⟨beq_iff_eq.mp hselected, List.mem_map_of_mem hmem, fun _ => hmem⟩
  · intro m hm hconversation
    refine Due.step recency_injective hids (pageSize_pos site) ?_ hstep (h.due m hm hconversation)
    obtain ⟨m', hm', hkey⟩ := List.mem_map.mp (hopening _ (List.mem_map_of_mem hm))
    have hsame : m'.conversationId = m.conversationId := congrArg (fun k => k.1.conversationId) hkey
    exact ⟨m', hm', congrArg (fun k => k.1.id) hkey, recency_of_datedKey hkey,
      beq_iff_eq.mpr (hsame.trans hconversation)⟩
  · rw [hmet, List.reverse_append, List.map_append]

private theorem readBack_opened (hids : (store.messages.map Message.id).Nodup)
    (hportable : site.PortableRows store) (hpage : site.listMessages store none = .ok page) :
    ReadBack site store.messages store.messages page.items page.nextCursor := by
  have hstart : Walked site store.messages store.messages {} :=
    ⟨.start, by rintro m ⟨⟩, fun _ _ _ => Or.inr ⟨none, rfl, rfl⟩⟩
  have hfirst : ({} : KeysetWalk Message (Timestamp ×ₗ UUID)).pending = some none := rfl
  have hread := hstart.readPage hids (fun _ hk => hk) hportable hfirst hpage
  simpa [KeysetWalk.met] using hread

theorem ReadBack.readPage {messages : List ChatMessage} {nextCursor : Option String}
    (h : ReadBack site opening store.messages messages nextCursor) (hmore : nextCursor ≠ none)
    (hids : (store.messages.map Message.id).Nodup)
    (hopening : ∀ k ∈ opening.map datedKey, k ∈ store.messages.map datedKey)
    (hportable : site.PortableRows store)
    (hpage : site.listMessages store nextCursor = .ok page) :
    ReadBack site opening store.messages (page.items ++ messages) page.nextCursor := by
  obtain ⟨walk, cursor, hwalked, hpending, rfl, rfl⟩ := h
  cases cursor with
  | none => exact absurd rfl hmore
  | some key => exact hwalked.readPage hids hopening hportable hpending hpage

theorem ReadBack.showsBack {current : ChatState}
    (h : ReadBack site opening rows current.messages current.nextCursor) :
    ShowsBack site opening rows current := by
  obtain ⟨walk, cursor, hwalked, hpending, hmessages, hcursor⟩ := h
  constructor
  · rw [hmessages]
    refine faithful_of_rows ?_ ?_
    · rw [List.map_reverse, List.nodup_reverse]
      exact hwalked.walked.ids
    · intro m hm
      obtain ⟨hconversation, hdated, hcompleted⟩ := hwalked.stored m (List.mem_reverse.mp hm)
      obtain ⟨m', hm', hkey⟩ := List.mem_map.mp hdated
      exact ⟨hconversation, List.mem_map.mpr ⟨m', hm', congrArg Prod.fst hkey⟩, hcompleted⟩
  · refine ⟨walk.met.reverse, hmessages, ?_, ?_⟩
    · rw [List.pairwise_reverse]
      exact List.pairwise_map.mp hwalked.walked.descending
    · intro row hrow hconversation
      rcases hwalked.due row hrow hconversation with hmet | ⟨position, hposition, hbelow⟩
      · refine Or.inl ?_
        rw [List.map_reverse, List.mem_reverse]
        exact hmet
      · refine Or.inr ⟨?_, fun m hm => ?_⟩
        · rw [hcursor]
          intro hnone
          rw [Option.map_eq_none_iff.mp hnone] at hpending
          rw [hpending] at hposition
          cases hposition
        · exact hwalked.walked.gt_of_below hposition (List.mem_reverse.mp hm) hbelow

end Pages

/-! ## The invariant -/

/-- What is shown, what a load under way has read, and what its page will make of that. -/
structure HistoryInvariant (site : HistorySite) (opening : List Message) (w : HistoryWorld) :
    Prop where
  server : ChatInvariant w.server
  kept : ∀ k ∈ opening.map datedKey, k ∈ w.server.store.messages.map datedKey
  shown : ∀ current, w.screen.state = .data current →
    ReadBack site opening w.server.store.messages current.messages current.nextCursor
  loads : ∀ i snapshot, w.screen.loads i = some snapshot → snapshot.nextCursor ≠ none ∧
    ReadBack site opening w.server.store.messages snapshot.messages snapshot.nextCursor
  replies : ∀ i page snapshot, w.replies i = some (.ok page) → w.screen.loads i = some snapshot →
    ReadBack site opening w.server.store.messages (page.items ++ snapshot.messages) page.nextCursor
  idle : ∀ i, w.screen.loads i = none → w.replies i = none

section Runs

variable {site : HistorySite} {opening : List Message} {w w' : HistoryWorld}

theorem HistoryInvariant.opened {server : Chat.ChatState} {page : MessagePageData}
    (hserver : ChatInvariant server) (hportable : site.PortableRows server.store)
    (hpage : site.listMessages server.store none = .ok page) :
    HistoryInvariant site server.store.messages (.opened server page) where
  server := hserver
  kept _ hk := hk
  shown := by
    rintro current ⟨⟩
    exact readBack_opened hserver.messages.ids hportable hpage
  loads := by rintro i snapshot ⟨⟩
  replies := by rintro i page snapshot ⟨⟩
  idle _ _ := rfl

private theorem HistoryInvariant.serverStep (h : HistoryInvariant site opening w)
    {label : ChatLabel}
    (hok : ReturnsOnceCommitted w.server label) {server : Chat.ChatState}
    (hstep : w.server.step site.deployment label = some server) :
    HistoryInvariant site opening { w with server := server } := by
  have hserver : ChatInvariant server := (step_invariant h.server hok hstep).1
  have hrows := step_grows h.server hok hstep
  exact
    { server := hserver
      kept := fun k hk => hrows.dated k (h.kept k hk)
      shown := fun current hstate => (h.shown current hstate).grows hrows hserver.messages.ids
      loads := fun i snapshot hload =>
        ⟨(h.loads i snapshot hload).1, (h.loads i snapshot hload).2.grows hrows
          hserver.messages.ids⟩
      replies := fun i page snapshot hreply hload =>
        (h.replies i page snapshot hreply hload).grows hrows hserver.messages.ids
      idle := h.idle }

theorem HistoryInvariant.loadEnds (h : HistoryInvariant site opening w) {i : Nat}
    {screen : ChatScreen} (hloads : screen.loads = Function.update w.screen.loads i none)
    (hshown : ∀ current, screen.state = .data current →
      ReadBack site opening w.server.store.messages current.messages current.nextCursor) :
    HistoryInvariant site opening
      { w with screen := screen, replies := Function.update w.replies i none } where
  server := h.server
  kept := h.kept
  shown := hshown
  loads j snapshot hload := by
    rw [hloads, Function.update_apply] at hload
    split at hload
    · cases hload
    · exact h.loads j snapshot hload
  replies j page snapshot hreply hload := by
    simp only [hloads, Function.update_apply] at hreply hload
    split at hload
    · cases hload
    · rename_i hne
      rw [if_neg hne] at hreply
      exact h.replies j page snapshot hreply hload
  idle j hload := by
    simp only [hloads, Function.update_apply] at hload ⊢
    split
    · rfl
    · rename_i hne
      rw [if_neg hne] at hload
      exact h.idle j hload

theorem HistoryInvariant.served (h : HistoryInvariant site opening w) {i : Nat}
    (hportable : site.PortableRows w.server.store) {current : ChatState}
    (hcurrent : w.screen.loads i = some current) :
    HistoryInvariant site opening { w with
      replies := Function.update w.replies i
        (some (site.listMessages w.server.store current.nextCursor)) } where
  server := h.server
  kept := h.kept
  shown := h.shown
  loads := h.loads
  replies j page snapshot hreply hload := by
    simp only [Function.update_apply] at hreply
    split at hreply
    · rename_i hji
      subst hji
      obtain rfl := Option.some.inj (hcurrent.symm.trans hload)
      obtain ⟨hmore, hread⟩ := h.loads j current hcurrent
      exact hread.readPage hmore h.server.messages.ids h.kept hportable (Option.some.inj hreply)
    · exact h.replies j page snapshot hreply hload
  idle j hload := by
    have hne : j ≠ i := by
      rintro rfl
      rw [hcurrent] at hload
      cases hload
    exact (Function.update_of_ne hne _ _).trans (h.idle j hload)

private theorem HistoryInvariant.loadBegins (h : HistoryInvariant site opening w) {i : Nat}
    {current : ChatState} (hstate : w.screen.state = .data current)
    (hmore : current.nextCursor ≠ none) (hidle : w.screen.loads i = none) :
    HistoryInvariant site opening { w with
      screen := { w.screen with
        state := .data { current with isLoadingOlder := true }
        loads := Function.update w.screen.loads i (some current) } } where
  server := h.server
  kept := h.kept
  shown := by
    rintro shown ⟨⟩
    exact h.shown current hstate
  loads j snapshot hload := by
    simp only [Function.update_apply] at hload
    split at hload
    · obtain rfl := Option.some.inj hload
      exact ⟨hmore, h.shown current hstate⟩
    · exact h.loads j snapshot hload
  replies j page snapshot hreply hload := by
    simp only [Function.update_apply] at hload
    split at hload
    · rename_i hji
      subst hji
      rw [h.idle j hidle] at hreply
      cases hreply
    · exact h.replies j page snapshot hreply hload
  idle j hload := by
    simp only [Function.update_apply] at hload
    split at hload
    · cases hload
    · exact h.idle j hload

theorem HistoryInvariant.step (h : HistoryInvariant site opening w) {label : HistoryLabel}
    (hok : w.Undisturbed site label) (hstep : w.step site label = some w') :
    HistoryInvariant site opening w' := by
  cases label with
  | server label =>
      obtain ⟨server, hserver, rfl⟩ := Option.map_eq_some_iff.mp hstep
      exact h.serverStep hok hserver
  | setExecutionMode mode =>
      obtain ⟨screen, hscreen, rfl⟩ := Option.map_eq_some_iff.mp hstep
      cases screenStep_of_step hscreen with
      | modeIgnored => exact h
      | setExecutionMode mode current hstate =>
          refine ⟨h.server, h.kept, ?_, h.loads, h.replies, h.idle⟩
          rintro shown ⟨⟩
          exact h.shown current hstate
  | loadOlder i =>
      obtain ⟨screen, hscreen, rfl⟩ := Option.map_eq_some_iff.mp hstep
      simp only [ChatScreen.step] at hscreen
      split at hscreen
      · rename_i current hidle hcurrent
        split at hscreen <;> cases hscreen
        · exact h
        · rename_i hguard
          refine h.loadBegins (AsyncChat.asData_eq_some.mp hcurrent) ?_ hidle
          intro hnone
          simp [hnone] at hguard
      · cases hscreen
        exact h
      · cases hscreen
  | served i =>
      simp only [HistoryWorld.step] at hstep
      split at hstep <;> cases hstep
      rename_i current hcurrent _
      exact h.served hok hcurrent
  | arrived i =>
      simp only [HistoryWorld.step] at hstep
      split at hstep
      · cases hstep
      · rename_i page hreply
        obtain ⟨screen, hscreen, rfl⟩ := Option.map_eq_some_iff.mp hstep
        cases screenStep_of_step hscreen with
        | pageLoaded i page snapshot hload =>
            refine h.loadEnds rfl ?_
            rintro shown ⟨⟩
            exact h.replies i page snapshot hreply hload
      · obtain ⟨screen, hscreen, rfl⟩ := Option.map_eq_some_iff.mp hstep
        cases screenStep_of_step hscreen with
        | pageFailed i snapshot hload => exact h.loadEnds rfl (by rintro shown ⟨⟩)
  | lost i =>
      obtain ⟨screen, hscreen, rfl⟩ := Option.map_eq_some_iff.mp hstep
      cases screenStep_of_step hscreen with
      | pageFailed i snapshot hload => exact h.loadEnds rfl (by rintro shown ⟨⟩)

theorem HistoryInvariant.exec {labels : List HistoryLabel} (h : HistoryInvariant site opening w)
    (hok : AllSteps (HistoryWorld.Undisturbed site) (HistoryWorld.step site) w labels)
    (hexec : exec (HistoryWorld.step site) w labels = some w') : HistoryInvariant site opening w' :=
  exec_invariant (fun _ _ _ h hok hstep => h.step hok hstep) h hok hexec

def HistoryWorld.loading (w : HistoryWorld) (i : Nat) (current : ChatState) : HistoryWorld :=
  { w with
    screen := { w.screen with
      state := .data { current with isLoadingOlder := true }
      loads := Function.update w.screen.loads i (some current) } }

theorem exec_loadOnce {i : Nat} {current : ChatState} {page : MessagePageData}
    (hstate : w.screen.state = .data current) (hflag : current.isLoadingOlder = false)
    (hidle : w.screen.loads i = none) (hreply : w.replies i = none)
    (hmore : current.nextCursor ≠ none) (hportable : site.PortableRows w.server.store)
    (hpage : site.listMessages w.server.store current.nextCursor = .ok page) :
    ∃ u, AllSteps (HistoryWorld.Undisturbed site) (HistoryWorld.step site) w
        [.loadOlder i, .served i, .arrived i] ∧
      Foundation.exec (HistoryWorld.step site) w [.loadOlder i, .served i, .arrived i] = some u ∧
      u.server = w.server ∧
      u.screen.state = .data { current with
        messages := page.items ++ current.messages
        nextCursor := page.nextCursor
        isLoadingOlder := false } ∧
      u.screen.loads i = none ∧ u.replies i = none := by
  have hload : w.step site (.loadOlder i) = some (w.loading i current) := by
    simp [HistoryWorld.step, ChatScreen.step, hidle, hstate, AsyncChat.asData, hflag, hmore,
      HistoryWorld.loading]
  have hloads : (w.loading i current).screen.loads i = some current := Function.update_self i _ _
  have hserved : (w.loading i current).step site (.served i) = some { w.loading i current with
      replies := Function.update w.replies i (some (.ok page)) } := by
    have hunanswered : (w.loading i current).replies i = none := hreply
    have hread : site.listMessages (w.loading i current).server.store current.nextCursor =
        .ok page := hpage
    simp only [HistoryWorld.step, hloads, hunanswered, hread]
    rfl
  have hreplied : (Function.update w.replies i (some (.ok page))) i = some (.ok page) :=
    Function.update_self i _ _
  have harrived : HistoryWorld.step site { w.loading i current with
      replies := Function.update w.replies i (some (.ok page)) } (.arrived i) = some
        { server := w.server
          screen := { w.screen with
            state := .data { current with
              messages := page.items ++ current.messages
              nextCursor := page.nextCursor
              isLoadingOlder := false }
            loads := Function.update (w.loading i current).screen.loads i none
            older := w.screen.older ++ page.items.map ChatMessage.id }
          replies := Function.update (Function.update w.replies i (some (.ok page))) i none } := by
    simp only [HistoryWorld.step, hreplied, ChatScreen.step, hloads]
    rfl
  exact ⟨_, .cons trivial hload (.cons hportable hserved (.cons trivial harrived trivial)),
    exec_cons.mpr ⟨_, hload, exec_cons.mpr ⟨_, hserved, exec_cons.mpr ⟨_, harrived, rfl⟩⟩⟩,
    rfl, rfl, Function.update_self i _ _, Function.update_self i _ _⟩

private theorem exists_end (hids : (w.server.store.messages.map Message.id).Nodup)
    (hportable : site.PortableRows w.server.store) {c : Persistence.Conversation}
    (hfound : getOwnedConversation w.server.store.conversations site.conversationId site.userId =
      some c) {i : Nat} (hidle : w.screen.loads i = none) (hreply : w.replies i = none)
    {current : ChatState} (hstate : w.screen.state = .data current)
    (hflag : current.isLoadingOlder = false) {cursor : Option (Timestamp ×ₗ UUID)}
    (hcursor : current.nextCursor = cursor.map (cursorText site.cursors)) :
    ∃ labels u last, AllSteps (HistoryWorld.Undisturbed site) (HistoryWorld.step site) w labels ∧
      Foundation.exec (HistoryWorld.step site) w labels = some u ∧ u.server = w.server ∧
      u.screen.state = .data last ∧ last.nextCursor = none := by
  induction hrows : (w.server.store.messages.filter fun m => below cursor (recency m)).length
    using Nat.strong_induction_on generalizing w current cursor with
  | _ n ih =>
      cases hmore : current.nextCursor with
      | none => exact ⟨[], w, current, trivial, rfl, rfl, hstate, hmore⟩
      | some text =>
          have hpage := listMessages_found cursor hids hportable hfound
          rw [← hcursor] at hpage
          obtain ⟨v, hsteps, hexec, hserver, hshown, hidle', hreply'⟩ :=
            exec_loadOnce hstate hflag hidle hreply (by simp [hmore]) hportable hpage
          rw [← hserver] at hids hportable hfound
          cases hnext : (messagePage site.settings site.conversationId HistorySite.pageLimit cursor
              w.server.store.messages).next with
          | none =>
              refine ⟨_, v, _, hsteps, hexec, hserver, hshown, ?_⟩
              simp only [hnext, Option.map_none]
          | some key =>
              have hfewer := keysetPage_fewer hnext
              rw [hrows, ← hserver] at hfewer
              obtain ⟨labels, u, last, hsteps', hexec', hserver', hstate', hend⟩ :=
                ih _ hfewer hids hportable hfound hidle' hreply' hshown rfl
                  (congrArg (Option.map (cursorText site.cursors)) hnext) rfl
              exact ⟨_ ++ labels, u, last, hsteps.extend hexec hsteps',
                exec_append.mpr ⟨v, hexec, hexec'⟩, hserver'.trans hserver, hstate', hend⟩

theorem ShowsBack.complete {rows : List Message} {current : ChatState}
    (h : ShowsBack site opening rows current) (hend : current.nextCursor = none) {row : Message}
    (hrow : row ∈ opening) (hconversation : row.conversationId = site.conversationId) :
    site.wire.uuidText row.id ∈ current.messages.map ChatMessage.id := by
  obtain ⟨listed, hmessages, -, hopening⟩ := h.ordered
  rcases hopening row hrow hconversation with hlisted | ⟨hmore, -⟩
  · obtain ⟨m, hm, hid⟩ := List.mem_map.mp hlisted
    rw [hmessages, List.map_map, ← hid]
    exact List.mem_map.mpr ⟨m, hm, rfl⟩
  · exact absurd hend hmore

end Runs

/--
While the server handles any requests, and a page may be on its way as the table changes or
be lost: the screen shows rows of the conversation in their order, each once, completed ones
as they are stored now, and leaves no opening message out behind the oldest one.  As long as
the conversation is found, loading on reaches every opening message.
-/
theorem history_reads_back (site : HistorySite) {before : List ChatLabel}
    {server : Chat.ChatState} {page : MessagePageData} {labels : List HistoryLabel}
    {w : HistoryWorld} {current : ChatState}
    (hserver : exec (ChatState.step site.deployment) {} before = some server)
    (hbefore : AllSteps ReturnsOnceCommitted (ChatState.step site.deployment) {} before)
    (hopening : site.PortableRows server.store)
    (hpage : site.listMessages server.store none = .ok page)
    (hrun : exec (HistoryWorld.step site) (.opened server page) labels = some w)
    (hlabels : AllSteps (HistoryWorld.Undisturbed site) (HistoryWorld.step site)
      (.opened server page) labels)
    (hstate : w.screen.state = .data current) :
    ShowsBack site server.store.messages w.server.store.messages current ∧
      ∀ i c, w.screen.loads i = none → current.isLoadingOlder = false →
        getOwnedConversation w.server.store.conversations site.conversationId site.userId = some c →
        site.PortableRows w.server.store →
        ∃ more u last, exec (HistoryWorld.step site) w more = some u ∧ u.server = w.server ∧
          u.screen.state = .data last ∧
          ∀ row ∈ server.store.messages, row.conversationId = site.conversationId →
            site.wire.uuidText row.id ∈ last.messages.map ChatMessage.id := by
  have hinitial : ChatInvariant {} := .initial
  have hopened : HistoryInvariant site server.store.messages (.opened server page) :=
    .opened (run_invariant hinitial hbefore hserver) hopening hpage
  have hw : HistoryInvariant site server.store.messages w := hopened.exec hlabels hrun
  refine ⟨(hw.shown current hstate).showsBack, ?_⟩
  intro i c hidle hflag hfound hportable
  obtain ⟨walk, cursor, -, -, -, hcursor⟩ := hw.shown current hstate
  obtain ⟨more, u, last, hsteps, hexec, hserver', hlast, hend⟩ := exists_end
    hw.server.messages.ids hportable hfound hidle (hw.idle i hidle) hstate hflag hcursor
  refine ⟨more, u, last, hexec, hserver', hlast, ?_⟩
  intro row hrow hconversation
  exact ((hw.exec hsteps hexec).shown last hlast).showsBack.complete hend hrow hconversation

def pagedSite : HistorySite where
  deployment := defaultDeployment
  cursors := .sample
  wire := .sample
  dart := .insertion
  settings := { conversationPageSizeMax := 10 }
  userId := 1
  conversationId := 10

def sixMessages : List ChatLabel :=
  openConversation10 (some "ollama") :: (List.range 6).map fun k =>
    .arrive k { helloArrival true ⟨20 + 2 * k, 21 + 2 * k, 100 + 10 * k⟩ with
      request := { content := "Hello", clientMessageId := k } }

theorem history_reads_back_six :
    ∃ server page labels u last,
      exec (ChatState.step defaultDeployment) {} sixMessages = some server ∧
      server.store.messages.length = 12 ∧
      pagedSite.listMessages server.store none = .ok page ∧ page.items.length = 10 ∧
      exec (HistoryWorld.step pagedSite) (.opened server page) labels = some u ∧
      u.screen.state = .data last ∧
      ∀ row ∈ server.store.messages, row.conversationId = 10 →
        pagedSite.wire.uuidText row.id ∈ last.messages.map ChatMessage.id := by
  have hview : ∃ server, exec (ChatState.step defaultDeployment) {} sixMessages = some server ∧
      server.store.messages.length = 12 ∧
      (server.store.messages.all fun m => m.messageMetadata.isEmpty && m.tokenUsage.isNone) = true ∧
      (getOwnedConversation server.store.conversations 10 1).isSome = true ∧
      (messagePage pagedSite.settings 10 HistorySite.pageLimit none
        server.store.messages).items.length = 10 := ⟨_, rfl, rfl, rfl, rfl, rfl⟩
  obtain ⟨server, hserver, htwelve, hplain, hfound, hten⟩ := hview
  obtain ⟨c, hfound⟩ := Option.isSome_iff_exists.mp hfound
  have hquiet : AllSteps ReturnsOnceCommitted (ChatState.step defaultDeployment) {} sixMessages :=
    allSteps_of_quiet (by decide) _
  have hids := (run_invariant ChatInvariant.initial hquiet hserver).messages.ids
  have hportable : pagedSite.PortableRows server.store := by
    intro m hm _
    have hrow := List.all_eq_true.mp hplain m hm
    rw [Bool.and_eq_true, List.isEmpty_iff, Option.isNone_iff_eq_none] at hrow
    refine ⟨?_, ?_⟩
    · rw [hrow.1]
      exact .obj _ List.nodup_nil (by simp)
    · rw [hrow.2]
      rintro usage ⟨⟩
  have hpage := listMessages_found none hids hportable hfound
  obtain ⟨-, hreads⟩ := history_reads_back pagedSite hserver hquiet hportable hpage
    (exec_nil _) trivial rfl
  obtain ⟨labels, u, last, hrun, -, hlast, hshown⟩ := hreads 0 c rfl rfl hfound hportable
  refine ⟨server, _, labels, u, last, hserver, htwelve, hpage, ?_, hrun, hlast, hshown⟩
  rw [List.length_map, List.length_reverse]
  exact hten

end Astra.Client
