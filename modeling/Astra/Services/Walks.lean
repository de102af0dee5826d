import Astra.Services.Pages
import Mathlib.Data.List.Chain

/-!
# Walks over pages

A client asks for a page, follows `next_cursor` until it is null, and other
transactions commit between its requests.  They may insert and edit rows and move the
activity of a conversation forward; they delete nothing.
-/

namespace Astra.Services

open Astra.Foundation Astra.Platform Astra.Persistence Astra.Chat

/-- A page request: its `limit`, and the committed rows that it reads. -/
structure Visit where
  limit : Nat
  store : Store

structure Walk (α : Type) where
  pages : List (List α) := []
  pending : Option (Option String) := some none

def Walk.step {α : Type} (request : Store → Nat → Option String → Except Exn (Page α))
    (w : Walk α) (visit : Visit) : Option (Walk α) :=
  match w.pending with
  | none => none
  | some cursor =>
      match request visit.store visit.limit cursor with
      | .error _ => none
      | .ok page => some ⟨w.pages ++ [page.items], page.nextCursor.map some⟩

structure PrimaryKeys (store : Store) : Prop where
  conversations : (store.conversations.map Conversation.id).Nodup
  messages : (store.messages.map Message.id).Nodup

/-- The commits between two requests. -/
structure Commits (store store' : Store) : Prop where
  conversations : ∀ c ∈ store.conversations, ∃ c' ∈ store'.conversations,
    c'.id = c.id ∧ c'.userId = c.userId ∧ activity c ≤ activity c'
  messages : ∀ m ∈ store.messages, ∃ m' ∈ store'.messages,
    m'.id = m.id ∧ m'.conversationId = m.conversationId ∧ m'.createdAt = m.createdAt

structure Lists {α : Type} (id : α → UUID) (timestamp : α → Timestamp) (kept : α → Prop)
    (listed : List α) (ended : Prop) : Prop where
  unique : (listed.map id).Nodup
  descending : listed.Pairwise fun a b =>
    timestamp b < timestamp a ∨ (timestamp b = timestamp a ∧ id b < id a)
  complete : ended → ∀ r, kept r → (listed.map id).count (id r) = 1

/-- An unarchived conversation of the user whose activity stays the same. -/
def ConversationKept (userId : UUID) (visits : List Visit) (c : Conversation) : Prop :=
  c.userId = userId ∧ ∀ v ∈ visits, ∀ c' ∈ v.store.conversations, c'.id = c.id →
    activity c' = activity c ∧ c'.archivedAt = none

instance : Trans Commits Commits Commits where
  trans := by
    intro s t u hst htu
    constructor
    · intro c hc
      obtain ⟨c₁, hc₁, hid₁, huser₁, hle₁⟩ := hst.conversations c hc
      obtain ⟨c₂, hc₂, hid₂, huser₂, hle₂⟩ := htu.conversations c₁ hc₁
      exact ⟨c₂, hc₂, hid₂.trans hid₁, huser₂.trans huser₁, le_trans hle₁ hle₂⟩
    · intro m hm
      obtain ⟨m₁, hm₁, hid₁, hconversation₁, htime₁⟩ := hst.messages m hm
      obtain ⟨m₂, hm₂, hid₂, hconversation₂, htime₂⟩ := htu.messages m₁ hm₁
      exact ⟨m₂, hm₂, hid₂.trans hid₁, hconversation₂.trans hconversation₁, htime₂.trans htime₁⟩

theorem Commits.refl (store : Store) : Commits store store where
  conversations c hc := ⟨c, hc, rfl, rfl, le_rfl⟩
  messages m hm := ⟨m, hm, rfl, rfl, rfl⟩

/-! ## The keyset walk behind a walk -/

section Follows

variable {rt : CursorRuntime} {settings : PageSettings} {α : Type}
  {request : Store → Nat → Option String → Except Exn (Page α)} {arrange : List α → List α}
  {selected : α → Bool} {key : α → Timestamp ×ₗ UUID} {rows : Store → List α}
  {w w' : Walk α} {k : KeysetWalk α (Timestamp ×ₗ UUID)}

def keysetVisit (settings : PageSettings) (rows : Store → List α) (visit : Visit) :
    Nat × List α :=
  (min visit.limit settings.conversationPageSizeMax, rows visit.store)

/-- Cursors lead the request to the keyset page, its items arranged for rendering. -/
def Answers (rt : CursorRuntime) (settings : PageSettings)
    (request : Store → Nat → Option String → Except Exn (Page α))
    (arrange : List α → List α) (selected : α → Bool) (key : α → Timestamp ×ₗ UUID)
    (rows : Store → List α) : Prop :=
  ∀ store limit cursor page, request store limit (cursor.map (cursorText rt)) = .ok page →
    page.items = arrange (keysetPage selected key
        (min limit settings.conversationPageSizeMax) cursor (rows store)).items ∧
      page.nextCursor = (keysetPage selected key
        (min limit settings.conversationPageSizeMax) cursor (rows store)).next.map
          (cursorText rt)

structure Follows (rt : CursorRuntime) (arrange : List α → List α) (w : Walk α)
    (k : KeysetWalk α (Timestamp ×ₗ UUID)) : Prop where
  pages : w.pages = k.pages.map arrange
  pending : w.pending = k.pending.map (Option.map (cursorText rt))

theorem Follows.step (hanswers : Answers rt settings request arrange selected key rows)
    (h : Follows rt arrange w k) {visit : Visit} (hstep : w.step request visit = some w') :
    ∃ k', k.step selected key (keysetVisit settings rows visit) = some k' ∧
      Follows rt arrange w' k' := by
  unfold Walk.step at hstep
  split at hstep
  · cases hstep
  · rename_i cursor hcursor
    rw [h.pending, Option.map_eq_some_iff] at hcursor
    obtain ⟨cursor, hpending, rfl⟩ := hcursor
    split at hstep
    · cases hstep
    · rename_i page hpage
      obtain ⟨hitems, hnext⟩ := hanswers _ _ _ _ hpage
      simp only [Option.some.injEq] at hstep
      subst hstep
      refine ⟨_, by rw [KeysetWalk.step, hpending], ?_, ?_⟩
      · rw [h.pages, hitems, List.map_append]
        rfl
      · rw [hnext, Option.map_map, Option.map_map]
        rfl

theorem Follows.exec (hanswers : Answers rt settings request arrange selected key rows)
    {visits : List Visit} (h : Follows rt arrange w k)
    (hexec : exec (Walk.step request) w visits = some w') :
    ∃ k', exec (KeysetWalk.step selected key) k (visits.map (keysetVisit settings rows)) =
      some k' ∧ Follows rt arrange w' k' := by
  induction visits generalizing w k with
  | nil =>
      simp only [exec_nil, Option.some.injEq] at hexec
      exact ⟨k, rfl, hexec ▸ h⟩
  | cons visit visits ih =>
      obtain ⟨u, hstep, hrest⟩ := exec_cons.mp hexec
      obtain ⟨j, hj, hfollows⟩ := h.step hanswers hstep
      obtain ⟨k', hk', hfollows'⟩ := ih hfollows hrest
      exact ⟨k', exec_cons.mpr ⟨j, hj, hk'⟩, hfollows'⟩

private theorem descending_of_keys {id : α → UUID} {timestamp : α → Timestamp} {listed : List α}
    (hkey : ∀ r, key r = toLex (timestamp r, id r)) (h : (listed.map key).Pairwise (· > ·)) :
    listed.Pairwise fun a b =>
      timestamp b < timestamp a ∨ (timestamp b = timestamp a ∧ id b < id a) := by
  rw [List.pairwise_map] at h
  refine h.imp ?_
  intro a b hlt
  rw [hkey, hkey, gt_iff_lt, Prod.Lex.toLex_lt_toLex] at hlt
  exact hlt

section Visits

variable {id : α → UUID} {visits : List Visit}

theorem keysetVisit_size (hlimits : ∀ v ∈ visits, 1 ≤ v.limit) :
    ∀ visit ∈ visits.map (keysetVisit settings rows), 1 ≤ visit.1 := by
  intro visit hvisit
  obtain ⟨v, hv, rfl⟩ := List.mem_map.mp hvisit
  exact le_min (hlimits v hv) ((by decide : 1 ≤ 10).trans settings.conversationPageSizeMax_ge)

theorem keysetVisit_rows (settings : PageSettings) {P : List α → Prop}
    (h : ∀ v ∈ visits, P (rows v.store)) :
    ∀ visit ∈ visits.map (keysetVisit settings rows), P visit.2 := by
  intro visit hvisit
  obtain ⟨v, hv, rfl⟩ := List.mem_map.mp hvisit
  exact h v hv

private theorem evolves_of_commits (hids : ∀ v ∈ visits, ((rows v.store).map id).Nodup)
    (hcommits : visits.IsChain fun v v' =>
      ∀ r ∈ rows v.store, ∃ r' ∈ rows v'.store, id r' = id r ∧ key r ≤ key r') :
    List.IsChain (Evolves id key)
      ([] :: (visits.map (keysetVisit settings rows)).map Prod.snd) := by
  rw [List.map_map, List.isChain_cons]
  constructor
  · intro rows' hrows'
    obtain ⟨v, hv, rfl⟩ := List.mem_map.mp (List.mem_of_mem_head? hrows')
    exact ⟨hids v hv, by simp⟩
  · rw [List.isChain_map]
    refine hcommits.imp_of_mem_imp ?_
    intro v v' _ hv' hstays
    exact ⟨hids v' hv', hstays⟩

end Visits

theorem lists_of_exec {id : α → UUID} {timestamp : α → Timestamp} {visits : List Visit}
    (hanswers : Answers rt settings request arrange selected key rows)
    (hkey : ∀ r, key r = toLex (timestamp r, id r)) (hlimits : ∀ v ∈ visits, 1 ≤ v.limit)
    (hids : ∀ v ∈ visits, ((rows v.store).map id).Nodup)
    (hcommits : visits.IsChain fun v v' =>
      ∀ r ∈ rows v.store, ∃ r' ∈ rows v'.store, id r' = id r ∧ key r ≤ key r')
    (hexec : exec (Walk.step request) {} visits = some w') :
    ∃ k, Follows rt arrange w' k ∧
      Lists id timestamp
        (fun r => ∀ v ∈ visits, ∃ r' ∈ rows v.store,
          id r' = id r ∧ key r' = key r ∧ selected r' = true)
        k.met (w'.pending = none) := by
  have hstart : Follows rt arrange {} ({} : KeysetWalk α (Timestamp ×ₗ UUID)) := ⟨rfl, rfl⟩
  obtain ⟨k, hk, hfollows⟩ := hstart.exec hanswers hexec
  refine ⟨k, hfollows, ?_⟩
  have hinjective (a b : α) (heq : key a = key b) : id a = id b := by
    rw [hkey, hkey, toLex_inj, Prod.mk.injEq] at heq
    exact heq.2
  obtain ⟨rows', hinvariant⟩ := walk_invariant hinjective (keysetVisit_size hlimits)
    (evolves_of_commits hids hcommits) WalkInvariant.start hk
  refine ⟨hinvariant.ids, descending_of_keys hkey hinvariant.descending, ?_⟩
  intro hended r hkept
  have hdue : Due id ({} : KeysetWalk α (Timestamp ×ₗ UUID)) (id r) (key r) :=
    Or.inr ⟨none, rfl, rfl⟩
  have hkeptRows := keysetVisit_rows settings (P := fun rows =>
    ∃ r' ∈ rows, id r' = id r ∧ key r' = key r ∧ selected r' = true) hkept
  have hrowIds := keysetVisit_rows settings (P := fun rows => (rows.map id).Nodup) hids
  have hmet := walk_due hinjective (keysetVisit_size hlimits) hrowIds hkeptRows hdue hk
  refine hmet.count_eq_one hinvariant ?_
  rw [hfollows.pending, Option.map_eq_none_iff] at hended
  exact hended

end Follows

/-! ## The two listings -/

section Listings

variable {rt : CursorRuntime} {settings : PageSettings} {userId conversationId : UUID}
  {first : Visit} {rest : List Visit}

theorem listForUser_answers :
    Answers rt settings (listForUser rt settings userId) id (conversationVisible userId)
      activityKey Store.conversations := by
  intro store limit cursor page h
  rw [listForUser_cursorText, Except.ok.injEq] at h
  subst h
  exact ⟨rfl, rfl⟩

theorem listMessages_answers :
    Answers rt settings (listMessages rt settings userId conversationId) List.reverse
      (fun m => m.conversationId == conversationId) recency Store.messages := by
  intro store limit cursor page h
  rw [listMessages_cursorText] at h
  split at h
  · cases h
  · rw [Except.ok.injEq] at h
    subst h
    exact ⟨rfl, rfl⟩

theorem commits_of_first
    (hcommits : (first :: rest).IsChain fun v v' => Commits v.store v'.store) :
    ∀ v ∈ first :: rest, Commits first.store v.store := by
  intro v hv
  have hstores : ((first :: rest).map Visit.store).IsChain Commits :=
    (List.isChain_map Visit.store).mpr hcommits
  rcases List.mem_cons.mp hv with rfl | hv
  · exact Commits.refl v.store
  · exact hstores.rel_cons (List.mem_map_of_mem hv)

private theorem walkConversations {w : Walk Conversation}
    (hlimits : ∀ v ∈ first :: rest, 1 ≤ v.limit)
    (hkeys : ∀ v ∈ first :: rest, PrimaryKeys v.store)
    (hcommits : (first :: rest).IsChain fun v v' => Commits v.store v'.store)
    (hexec : exec (Walk.step (listForUser rt settings userId)) {} (first :: rest) = some w) :
    Lists Conversation.id activity
      (fun c => c ∈ first.store.conversations ∧ ConversationKept userId (first :: rest) c)
      w.pages.flatten (w.pending = none) := by
  obtain ⟨k, hfollows, hlists⟩ := lists_of_exec listForUser_answers (fun _ => rfl) hlimits
    (fun v hv => (hkeys v hv).conversations)
    (hcommits.imp fun v v' hstep c hc => by
      obtain ⟨c', hc', hid, -, hle⟩ := hstep.conversations c hc
      refine ⟨c', hc', hid, ?_⟩
      rw [activityKey, activityKey, Prod.Lex.toLex_le_toLex, hid]
      exact (lt_or_eq_of_le hle).imp_right fun h => ⟨h, le_rfl⟩)
    hexec
  have hmet : w.pages.flatten = k.met := by
    rw [hfollows.pages, List.map_id]
    rfl
  rw [hmet]
  refine ⟨hlists.unique, hlists.descending, ?_⟩
  intro hended c hkept
  refine hlists.complete hended c ?_
  intro v hv
  obtain ⟨c', hc', hid, huser, -⟩ := (commits_of_first hcommits v hv).conversations c hkept.1
  obtain ⟨hactivity, harchived⟩ := hkept.2.2 v hv c' hc' hid
  refine ⟨c', hc', hid, ?_, ?_⟩
  · rw [activityKey, activityKey, hactivity, hid]
  · simp [conversationVisible, huser.trans hkept.2.1, harchived]

private theorem walkMessages {w : Walk Message} (hlimits : ∀ v ∈ first :: rest, 1 ≤ v.limit)
    (hkeys : ∀ v ∈ first :: rest, PrimaryKeys v.store)
    (hcommits : (first :: rest).IsChain fun v v' => Commits v.store v'.store)
    (hexec : exec (Walk.step (listMessages rt settings userId conversationId)) {}
      (first :: rest) = some w) :
    Lists Message.id Message.createdAt
      (fun m => m ∈ first.store.messages ∧ m.conversationId = conversationId)
      (w.pages.map List.reverse).flatten (w.pending = none) := by
  obtain ⟨k, hfollows, hlists⟩ := lists_of_exec listMessages_answers (fun _ => rfl) hlimits
    (fun v hv => (hkeys v hv).messages)
    (hcommits.imp fun v v' hstep m hm => by
      obtain ⟨m', hm', hid, -, htime⟩ := hstep.messages m hm
      exact ⟨m', hm', hid, by rw [recency, recency, hid, htime]⟩)
    hexec
  have hmet : (w.pages.map List.reverse).flatten = k.met := by
    rw [hfollows.pages, List.map_map, List.reverse_involutive.comp_self, List.map_id]
    rfl
  rw [hmet]
  refine ⟨hlists.unique, hlists.descending, ?_⟩
  intro hended m hkept
  refine hlists.complete hended m ?_
  intro v hv
  obtain ⟨m', hm', hid, hconversation, htime⟩ :=
    (commits_of_first hcommits v hv).messages m hkept.1
  refine ⟨m', hm', hid, by rw [recency, recency, htime, hid], ?_⟩
  rw [beq_iff_eq]
  exact hconversation.trans hkept.2

theorem pending_cursor {α : Type} {arrange : List α → List α} {w : Walk α}
    {k : KeysetWalk α (Timestamp ×ₗ UUID)} (h : Follows rt arrange w k) {cursor : Option String}
    (hpending : w.pending = some cursor) : ∃ key, cursor = Option.map (cursorText rt) key := by
  rw [h.pending, Option.map_eq_some_iff] at hpending
  obtain ⟨key, -, hkey⟩ := hpending
  exact ⟨key, hkey.symm⟩

private theorem listForUser_succeeds {w : Walk Conversation} {visits : List Visit}
    (hexec : exec (Walk.step (listForUser rt settings userId)) {} visits = some w)
    {cursor : Option String} (hpending : w.pending = some cursor) (store : Store) (limit : Nat) :
    ∃ page, listForUser rt settings userId store limit cursor = .ok page := by
  have hstart : Follows rt id {} ({} : KeysetWalk Conversation (Timestamp ×ₗ UUID)) := ⟨rfl, rfl⟩
  obtain ⟨k, -, hfollows⟩ := hstart.exec listForUser_answers hexec
  obtain ⟨key, rfl⟩ := pending_cursor hfollows hpending
  exact ⟨_, listForUser_cursorText⟩

private theorem listMessages_succeeds {w : Walk Message} {visits : List Visit}
    (hexec : exec (Walk.step (listMessages rt settings userId conversationId)) {} visits = some w)
    {cursor : Option String} (hpending : w.pending = some cursor) {store : Store} (limit : Nat)
    (hvisible : getOwnedConversation store.conversations conversationId userId ≠ none) :
    ∃ page, listMessages rt settings userId conversationId store limit cursor = .ok page := by
  have hstart : Follows rt List.reverse {} ({} : KeysetWalk Message (Timestamp ×ₗ UUID)) :=
    ⟨rfl, rfl⟩
  obtain ⟨k, -, hfollows⟩ := hstart.exec listMessages_answers hexec
  obtain ⟨key, rfl⟩ := pending_cursor hfollows hpending
  rw [listMessages_cursorText]
  split
  · rename_i hnone
    exact absurd hnone hvisible
  · exact ⟨_, rfl⟩

end Listings

/--
Whatever is committed between the requests, a walk over conversations or over the
messages of one meets no row twice and in descending order, can always go on from its
last cursor, and at its end has met every row that kept its key exactly once.
-/
theorem walks_meet_rows_once (rt : CursorRuntime) (settings : PageSettings)
    (userId conversationId : UUID) (first : Visit) (rest : List Visit)
    (hlimits : ∀ v ∈ first :: rest, 1 ≤ v.limit)
    (hkeys : ∀ v ∈ first :: rest, PrimaryKeys v.store)
    (hcommits : (first :: rest).IsChain fun v v' => Commits v.store v'.store) :
    (∀ w, exec (Walk.step (listForUser rt settings userId)) {} (first :: rest) = some w →
      Lists Conversation.id activity
        (fun c => c ∈ first.store.conversations ∧ ConversationKept userId (first :: rest) c)
        w.pages.flatten (w.pending = none) ∧
      ∀ cursor, w.pending = some cursor → ∀ store limit,
        ∃ page, listForUser rt settings userId store limit cursor = .ok page) ∧
    (∀ w, exec (Walk.step (listMessages rt settings userId conversationId)) {}
        (first :: rest) = some w →
      Lists Message.id Message.createdAt
        (fun m => m ∈ first.store.messages ∧ m.conversationId = conversationId)
        (w.pages.map List.reverse).flatten (w.pending = none) ∧
      ∀ cursor, w.pending = some cursor → ∀ store limit,
        getOwnedConversation store.conversations conversationId userId ≠ none →
        ∃ page, listMessages rt settings userId conversationId store limit cursor = .ok page) := by
  constructor
  · intro w hexec
    refine ⟨walkConversations hlimits hkeys hcommits hexec, ?_⟩
    intro cursor hpending store limit
    exact listForUser_succeeds hexec hpending store limit
  · intro w hexec
    refine ⟨walkMessages hlimits hkeys hcommits hexec, ?_⟩
    intro cursor hpending store limit hvisible
    exact listMessages_succeeds hexec hpending limit hvisible

def walkConversation (id : UUID) (lastMessageAt : Timestamp) : Conversation where
  id := id
  userId := 7
  title := none
  provider := some "mock"
  model := none
  systemPrompt := none
  characterId := none
  personaId := none
  lastMessageAt := some lastMessageAt
  archivedAt := none
  createdAt := 0
  updatedAt := lastMessageAt
  conversationMetadata := []

def walkMessage (id : UUID) (content : String) (createdAt : Timestamp) : Message where
  id := id
  conversationId := 1
  parentMessageId := none
  clientMessageId := none
  role := .user
  content := content
  contentType := .text
  status := .completed
  providerMessageId := none
  tokenUsage := none
  messageMetadata := []
  createdAt := createdAt
  updatedAt := createdAt

def walkVisits : List Visit :=
  [{ limit := 1
     store :=
      { conversations := [walkConversation 1 3, walkConversation 2 1, walkConversation 3 2]
        messages := [walkMessage 1 "first" 1, walkMessage 2 "second" 2] } },
    { limit := 1
      store :=
        { conversations := [walkConversation 1 3, walkConversation 2 4, walkConversation 3 2]
          messages := [walkMessage 1 "edited" 1, walkMessage 2 "second" 2,
            walkMessage 3 "third" 3] } }]

theorem walks_meet_rows_once_page :
    ∃ w w', exec (Walk.step (listForUser .sample {} 7)) {} walkVisits = some w ∧
      exec (Walk.step (listMessages .sample {} 7 1)) {} walkVisits = some w' ∧
      w.pages.map (·.map Conversation.id) = [[1], [3]] ∧
      w'.pages.map (·.map Message.id) = [[2], [1]] ∧
      (w.pages.flatten.map Conversation.id).count 3 = 1 ∧
      ((w'.pages.map List.reverse).flatten.map Message.id).count 1 = 1 := by
  have hconversations : (exec (Walk.step (listForUser .sample {} 7)) {} walkVisits).map
      (fun w => (w.pages.map (·.map Conversation.id), w.pending)) = some ([[1], [3]], none) := by
    decide +kernel
  have hmessages : (exec (Walk.step (listMessages .sample {} 7 1)) {} walkVisits).map
      (fun w => (w.pages.map (·.map Message.id), w.pending)) = some ([[2], [1]], none) := by
    decide +kernel
  obtain ⟨w, hw, hpages⟩ := Option.map_eq_some_iff.mp hconversations
  obtain ⟨w', hw', hpages'⟩ := Option.map_eq_some_iff.mp hmessages
  rw [Prod.mk.injEq] at hpages hpages'
  have hkeys : ∀ v ∈ walkVisits, PrimaryKeys v.store := by
    intro v hv
    simp only [walkVisits, List.mem_cons, List.not_mem_nil, or_false] at hv
    rcases hv with rfl | rfl <;> constructor <;> decide
  have hcommits : walkVisits.IsChain fun v v' => Commits v.store v'.store := by
    refine List.isChain_pair.mpr ?_
    constructor <;> decide
  have hall := walks_meet_rows_once .sample {} 7 1 _ _ (by decide) hkeys hcommits
  have hkept : ConversationKept 7 walkVisits (walkConversation 3 2) := by
    constructor <;> decide
  have hthird := (hall.1 w hw).1.complete hpages.2 (walkConversation 3 2)
    ⟨by simp, hkept⟩
  have hfirst := (hall.2 w' hw').1.complete hpages'.2 (walkMessage 1 "first" 1)
    ⟨by simp, rfl⟩
  exact ⟨w, w', hw, hw', hpages.1, hpages'.1, hthird, hfirst⟩

end Astra.Services
