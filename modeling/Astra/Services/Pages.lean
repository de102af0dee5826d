import Astra.Chat.Context
import Astra.Foundation.Keyset
import Astra.Platform.Cursors
import Astra.Services.Conversations

/-!
# Conversation and message pages

`ConversationService.list_for_user` and `list_messages`, with the repository queries
that they make.  A cursor that either of them gave out leads to the keyset page below
the last row returned.
-/

namespace Astra.Services

open Astra.Foundation Astra.Platform Astra.Persistence Astra.Chat

/-- `conversation_page_size_max` with the bounds of its validation. -/
structure PageSettings where
  conversationPageSizeMax : Nat := 100
  conversationPageSizeMax_ge : 10 ≤ conversationPageSizeMax := by decide
  conversationPageSizeMax_le : conversationPageSizeMax ≤ 500 := by decide

structure Page (α : Type) where
  items : List α
  nextCursor : Option String

/-! ## Repository queries -/

def activity (c : Conversation) : Timestamp := c.lastMessageAt.getD c.createdAt

def afterCursor (cursor : Option CursorPosition) (timestamp : Timestamp) (id : UUID) : Bool :=
  match cursor with
  | none => true
  | some p => decide (timestamp < p.timestamp) ||
      (timestamp == p.timestamp && decide (id < p.entityId))

def latestActivityFirst (a b : Conversation) : Prop :=
  activity b < activity a ∨ (activity a = activity b ∧ b.id ≤ a.id)

instance : DecidableRel latestActivityFirst := fun _ _ => inferInstanceAs (Decidable (_ ∨ _))

def conversationVisible (userId : UUID) (c : Conversation) : Bool :=
  c.userId == userId && c.archivedAt.isNone

def conversationRows (rows : List Conversation) (userId : UUID) (limit : Nat)
    (cursor : Option CursorPosition) : List Conversation :=
  selectOrdered (fun c => conversationVisible userId c && afterCursor cursor (activity c) c.id)
    latestActivityFirst limit rows

def listPage (rows : List Message) (conversationId : UUID) (limit : Nat)
    (cursor : Option CursorPosition) : List Message :=
  selectOrdered
    (fun m => m.conversationId == conversationId && afterCursor cursor m.createdAt m.id)
    newestFirst limit rows

/-! ## The service -/

section Service

variable (rt : CursorRuntime)

def decodeIfGiven : Option String → Except Exn (Option CursorPosition)
  | none => .ok none
  | some cursor => if cursor = "" then .ok none else (decodeCursor rt cursor).map some

def conversationPosition (last : Conversation) : CursorPosition := ⟨activity last, last.id⟩

def messagePosition (oldest : Message) : CursorPosition := ⟨oldest.createdAt, oldest.id⟩

/-- The cursor of the last row, when the query found more than the page holds. -/
def nextCursor {α : Type} (position : α → CursorPosition) (pageSize : Nat) (rows : List α) :
    Option String :=
  if pageSize < rows.length then
    (rows.take pageSize).getLast?.map fun last => encodeCursor rt (position last)
  else none

def listForUser (settings : PageSettings) (userId : UUID) (store : Store) (limit : Nat)
    (cursor : Option String) : Except Exn (Page Conversation) := do
  let pageSize := min limit settings.conversationPageSizeMax
  let decoded ← decodeIfGiven rt cursor
  let rows := conversationRows store.conversations userId (pageSize + 1) decoded
  .ok ⟨rows.take pageSize, nextCursor rt conversationPosition pageSize rows⟩

def listMessages (settings : PageSettings) (userId conversationId : UUID) (store : Store)
    (limit : Nat) (cursor : Option String) : Except Exn (Page Message) := do
  let pageSize := min limit settings.conversationPageSizeMax
  let decoded ← decodeIfGiven rt cursor
  match getOwnedConversation store.conversations conversationId userId with
  | none => .error conversationNotFound
  | some _ =>
      let rows := listPage store.messages conversationId (pageSize + 1) decoded
      .ok ⟨(rows.take pageSize).reverse, nextCursor rt messagePosition pageSize rows⟩

end Service

/-! ## Pages by key -/

def activityKey (c : Conversation) : Timestamp ×ₗ UUID := toLex (activity c, c.id)

def positionOf (key : Timestamp ×ₗ UUID) : CursorPosition := ⟨(ofLex key).1, (ofLex key).2⟩

def cursorText (rt : CursorRuntime) (key : Timestamp ×ₗ UUID) : String :=
  encodeCursor rt (positionOf key)

section Keys

variable {rt : CursorRuntime} {settings : PageSettings} {userId conversationId : UUID}
  {store : Store} {limit : Nat} {cursor : Option (Timestamp ×ₗ UUID)}

theorem decodeIfGiven_cursorText :
    decodeIfGiven rt (cursor.map (cursorText rt)) = .ok (cursor.map positionOf) := by
  cases cursor with
  | none => rfl
  | some key =>
      rw [Option.map_some, cursorText, decodeIfGiven, if_neg (encodeCursor_ne_empty rt _),
        decodeCursor_encodeCursor]
      rfl

theorem afterCursor_positionOf (timestamp : Timestamp) (id : UUID) :
    afterCursor (cursor.map positionOf) timestamp id = below cursor (toLex (timestamp, id)) := by
  cases cursor with
  | none => rfl
  | some key =>
      rw [Bool.eq_iff_iff]
      simp [afterCursor, below, positionOf, Prod.Lex.lt_iff]

theorem latestActivityFirst_iff {a b : Conversation} :
    latestActivityFirst a b ↔ descending activityKey a b := by
  rw [descending, activityKey, activityKey, Prod.Lex.toLex_le_toLex, latestActivityFirst]
  simp only [eq_comm]

theorem nextCursor_eq {α : Type} {position : α → CursorPosition} {key : α → Timestamp ×ₗ UUID}
    (hposition : ∀ r, position r = positionOf (key r)) (size : Nat) (found : List α) :
    nextCursor rt position size found = (pageOf key size found).next.map (cursorText rt) := by
  unfold nextCursor pageOf
  split
  · simp [cursorText, hposition, Function.comp_def]
  · rfl

def conversationPage (settings : PageSettings) (userId : UUID) (limit : Nat)
    (cursor : Option (Timestamp ×ₗ UUID)) (rows : List Conversation) :
    KeysetPage Conversation (Timestamp ×ₗ UUID) :=
  keysetPage (conversationVisible userId) activityKey
    (min limit settings.conversationPageSizeMax) cursor rows

theorem listForUser_cursorText :
    listForUser rt settings userId store limit (cursor.map (cursorText rt)) =
      .ok ⟨(conversationPage settings userId limit cursor store.conversations).items,
        (conversationPage settings userId limit cursor store.conversations).next.map
          (cursorText rt)⟩ := by
  have hrows : conversationRows store.conversations userId
      (min limit settings.conversationPageSizeMax + 1) (cursor.map positionOf) =
        selectOrdered (fun c => conversationVisible userId c && below cursor (activityKey c))
          (descending activityKey) (min limit settings.conversationPageSizeMax + 1)
          store.conversations := by
    refine selectOrdered_congr ?_ fun a b => latestActivityFirst_iff
    intro c
    rw [afterCursor_positionOf]
    rfl
  have hposition (c : Conversation) : conversationPosition c = positionOf (activityKey c) := rfl
  simp only [listForUser, decodeIfGiven_cursorText, bind, Except.bind, hrows,
    nextCursor_eq hposition]
  rfl

def messagePage (settings : PageSettings) (conversationId : UUID) (limit : Nat)
    (cursor : Option (Timestamp ×ₗ UUID)) (rows : List Message) :
    KeysetPage Message (Timestamp ×ₗ UUID) :=
  keysetPage (fun m => m.conversationId == conversationId) recency
    (min limit settings.conversationPageSizeMax) cursor rows

theorem listMessages_cursorText :
    listMessages rt settings userId conversationId store limit (cursor.map (cursorText rt)) =
      match getOwnedConversation store.conversations conversationId userId with
      | none => .error conversationNotFound
      | some _ =>
          .ok ⟨(messagePage settings conversationId limit cursor store.messages).items.reverse,
            (messagePage settings conversationId limit cursor store.messages).next.map
              (cursorText rt)⟩ := by
  have hrows : listPage store.messages conversationId
      (min limit settings.conversationPageSizeMax + 1) (cursor.map positionOf) =
        selectOrdered (fun m => m.conversationId == conversationId && below cursor (recency m))
          (descending recency) (min limit settings.conversationPageSizeMax + 1)
          store.messages := by
    refine selectOrdered_congr ?_ fun a b => newestFirst_iff
    intro m
    rw [afterCursor_positionOf]
    rfl
  have hposition (m : Message) : messagePosition m = positionOf (recency m) := rfl
  simp only [listMessages, decodeIfGiven_cursorText, bind, Except.bind, hrows,
    nextCursor_eq hposition]
  rfl

end Keys

end Astra.Services
