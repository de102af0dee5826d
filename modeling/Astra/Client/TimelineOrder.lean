import Astra.Client.Controller
import Astra.Foundation.Comparison
import Mathlib.Data.List.Lex

/-!
# The order of the timeline

The comparison that `_upsertAll` sorts by: by time, then parents before their replies, then
by id.  The two rules for messages of one time can disagree; when they do not, the timeline
has exactly one order.
-/

namespace Astra.Client

open Astra.Foundation Astra.Platform

/-! ## The parts of the comparison -/

def IsParentOf (parent reply : ChatMessage) : Prop := reply.parentMessageId = some parent.id

instance (parent reply : ChatMessage) : Decidable (IsParentOf parent reply) :=
  inferInstanceAs (Decidable (_ = _))

def IdBefore (left right : ChatMessage) : Prop := compareText left.id right.id < 0

def Ahead (left right : ChatMessage) : Prop :=
  IsParentOf left right ∨ ¬ IsParentOf right left ∧ IdBefore left right

section Compare

variable {a b c : ChatMessage} {left middle right : String}

theorem compareText_neg : compareText left right < 0 ↔
    (utf16 left).map UInt16.toNat < (utf16 right).map UInt16.toNat := by
  unfold compareText
  split
  · rename_i heq
    subst heq
    simp
  · split <;> simp_all

theorem compareText_zero : compareText left right = 0 ↔ left = right := by
  unfold compareText
  split
  · simp_all
  · split <;> simp_all

private theorem units_ne (h : left ≠ right) :
    (utf16 left).map UInt16.toNat ≠ (utf16 right).map UInt16.toNat := by
  intro heq
  have hinjective : Function.Injective UInt16.toNat := fun _ _ => UInt16.toNat_inj.mp
  exact h (utf16_injective (hinjective.list_map heq))

theorem compareText_pos : 0 < compareText left right ↔ compareText right left < 0 := by
  rw [compareText_neg]
  unfold compareText
  split
  · rename_i heq
    subst heq
    simp
  · rename_i hne
    split
    · rename_i hlt
      simp [lt_asymm hlt]
    · rename_i hge
      simp [lt_of_le_of_ne (not_lt.mp hge) (units_ne hne).symm]

theorem IdBefore.irrefl (a : ChatMessage) : ¬ IdBefore a a := by
  unfold IdBefore
  rw [compareText_zero.mpr rfl]
  omega

theorem IdBefore.trans (hab : IdBefore a b) (hbc : IdBefore b c) : IdBefore a c :=
  compareText_neg.mpr (lt_trans (compareText_neg.mp hab) (compareText_neg.mp hbc))

theorem IdBefore.asymm (hab : IdBefore a b) : ¬ IdBefore b a :=
  fun hba => IdBefore.irrefl a (hab.trans hba)

theorem IdBefore.total (h : a.id ≠ b.id) : IdBefore a b ∨ IdBefore b a := by
  rcases lt_trichotomy (compareText a.id b.id) 0 with hlt | heq | hgt
  · exact Or.inl hlt
  · exact absurd (compareText_zero.mp heq) h
  · exact Or.inr (compareText_pos.mp hgt)

theorem compareMessages_neg : compareMessages a b < 0 ↔
    a.createdAt < b.createdAt ∨ a.createdAt = b.createdAt ∧ Ahead a b := by
  unfold compareMessages Ahead IsParentOf IdBefore
  rcases lt_trichotomy a.createdAt b.createdAt with hlt | heq | hgt
  · simp [hlt]
  · simp only [heq, lt_irrefl, if_false, false_or, true_and]
    split
    · simp_all
    · split <;> simp_all
  · simp [hgt, lt_asymm hgt, ne_of_gt hgt]

theorem compareMessages_pos : 0 < compareMessages a b ↔ b.createdAt < a.createdAt ∨
    a.createdAt = b.createdAt ∧ ¬ IsParentOf a b ∧ (IsParentOf b a ∨ IdBefore b a) := by
  unfold compareMessages IsParentOf IdBefore
  rcases lt_trichotomy a.createdAt b.createdAt with hlt | heq | hgt
  · simp [hlt, lt_asymm hlt, ne_of_lt hlt]
  · simp only [heq, lt_irrefl, if_false, false_or, true_and]
    split
    · simp_all
    · split
      · simp_all
      · simp_all [compareText_pos]
  · simp [hgt, lt_asymm hgt]

theorem not_older (h : compareMessages a b < 0) : a.createdAt ≤ b.createdAt := by
  rcases compareMessages_neg.mp h with hlt | ⟨heq, -⟩
  · exact le_of_lt hlt
  · exact le_of_eq heq

theorem ahead_of (h : compareMessages a b < 0) (htime : a.createdAt = b.createdAt) : Ahead a b := by
  rcases compareMessages_neg.mp h with hlt | ⟨-, hahead⟩
  · exact absurd htime (ne_of_lt hlt)
  · exact hahead

private theorem compareMessages_zero (h : compareMessages a b = 0) : a.id = b.id := by
  unfold compareMessages at h
  split at h
  · cases h
  · split at h
    · cases h
    · split at h
      · cases h
      · split at h
        · cases h
        · exact compareText_zero.mp h

end Compare

/-! ## Messages whose rules agree -/

/-- A sorted timeline is determined by its messages and has each reply behind its parent. -/
structure WellOrdered (messages : List ChatMessage) : Prop where
  total : TotalOn compareMessages messages
  sorted : ∃ timeline, timeline.Perm messages ∧ Sorted compareMessages timeline ∧
    ∀ other, other.Perm messages → Sorted compareMessages other → other = timeline
  replies : ∀ timeline, timeline.Perm messages → Sorted compareMessages timeline →
    ∀ parent ∈ messages, ∀ reply ∈ messages, IsParentOf parent reply →
      [parent, reply].Sublist timeline

/--
Among the messages of one time no two are each other's parents, nor one its own; and when
the id of a reply comes before the id of its parent, no third message is both behind the
reply and before the parent.
-/
structure Untangled (messages : List ChatMessage) : Prop where
  mutual_free : ∀ a ∈ messages, ∀ b ∈ messages, a.createdAt = b.createdAt →
    IsParentOf a b → ¬ IsParentOf b a
  between : ∀ parent ∈ messages, ∀ reply ∈ messages, ∀ third ∈ messages,
    parent.createdAt = reply.createdAt → reply.createdAt = third.createdAt →
    IsParentOf parent reply → IdBefore reply parent →
    (IsParentOf reply third ∨ IdBefore reply third) →
    ¬ (IsParentOf third parent ∨ IdBefore third parent ∧ ¬ IsParentOf parent third)

section Untangled

variable {messages : List ChatMessage} {a b c : ChatMessage}

theorem eq_of_id (hids : (messages.map ChatMessage.id).Nodup) (ha : a ∈ messages)
    (hb : b ∈ messages) (hid : a.id = b.id) : a = b :=
  List.inj_on_of_nodup_map hids ha hb hid

theorem Untangled.self (h : Untangled messages) (ha : a ∈ messages) : compareMessages a a = 0 := by
  have hown : ¬ IsParentOf a a := fun hparent => h.mutual_free a ha a ha rfl hparent hparent
  have hneg : ¬ compareMessages a a < 0 := by
    simp [compareMessages_neg, Ahead, hown, IdBefore.irrefl]
  have hpos : ¬ 0 < compareMessages a a := by
    simp [compareMessages_pos, hown, IdBefore.irrefl]
  omega

theorem Untangled.antisymm (h : Untangled messages) (ha : a ∈ messages) (hb : b ∈ messages) :
    compareMessages a b < 0 ↔ 0 < compareMessages b a := by
  have hmutual := h.mutual_free a ha b hb
  rw [compareMessages_neg, compareMessages_pos]
  constructor
  · rintro (hlt | ⟨htime, hparent | ⟨hnot, hid⟩⟩)
    · exact Or.inl hlt
    · exact Or.inr ⟨htime.symm, hmutual htime hparent, Or.inl hparent⟩
    · exact Or.inr ⟨htime.symm, hnot, Or.inr hid⟩
  · rintro (hlt | ⟨htime, hnot, hparent | hid⟩)
    · exact Or.inl hlt
    · exact Or.inr ⟨htime.symm, Or.inl hparent⟩
    · exact Or.inr ⟨htime.symm, Or.inr ⟨hnot, hid⟩⟩

theorem Untangled.edge (h : Untangled messages) (hids : (messages.map ChatMessage.id).Nodup)
    (ha : a ∈ messages) (hb : b ∈ messages) (hahead : Ahead a b) :
    IdBefore a b ∨ IsParentOf a b ∧ IdBefore b a := by
  rcases hahead with hparent | ⟨-, hid⟩
  · have hne : a.id ≠ b.id := by
      intro hid
      obtain rfl := eq_of_id hids ha hb hid
      exact h.mutual_free a ha a ha rfl hparent hparent
    exact (IdBefore.total hne).imp_right fun hid => ⟨hparent, hid⟩
  · exact Or.inl hid

theorem Untangled.no_reversal (h : Untangled messages) (ha : a ∈ messages) (hb : b ∈ messages)
    (hc : c ∈ messages) (hab : a.createdAt = b.createdAt) (hbc : b.createdAt = c.createdAt)
    (hparent : IsParentOf a b) (hid : IdBefore b a) (hahead : Ahead b c) : ¬ Ahead c a := by
  intro hcycle
  refine h.between a ha b hb c hc hab hbc hparent hid (hahead.imp_right And.right) ?_
  exact hcycle.imp_right And.symm

private theorem Untangled.no_cycle (h : Untangled messages)
    (hids : (messages.map ChatMessage.id).Nodup)
    (ha : a ∈ messages) (hb : b ∈ messages) (hc : c ∈ messages) (hab : compareMessages a b < 0)
    (hbc : compareMessages b c < 0) (hca : compareMessages c a < 0) : False := by
  have hab' := not_older hab
  have hbc' := not_older hbc
  have hca' := not_older hca
  have htab : a.createdAt = b.createdAt := le_antisymm hab' (hbc'.trans hca')
  have htbc : b.createdAt = c.createdAt := le_antisymm hbc' (hca'.trans hab')
  have htca : c.createdAt = a.createdAt := le_antisymm hca' (hab'.trans hbc')
  have hahead := ahead_of hab htab
  have hahead' := ahead_of hbc htbc
  have hahead'' := ahead_of hca htca
  rcases h.edge hids ha hb hahead with hid | ⟨hparent, hid⟩
  · rcases h.edge hids hb hc hahead' with hid' | ⟨hparent, hid'⟩
    · rcases h.edge hids hc ha hahead'' with hid'' | ⟨hparent, hid''⟩
      · exact IdBefore.irrefl a ((hid.trans hid').trans hid'')
      · exact h.no_reversal hc ha hb htca htab hparent hid'' hahead hahead'
    · exact h.no_reversal hb hc ha htbc htca hparent hid' hahead'' hahead
  · exact h.no_reversal ha hb hc htab htbc hparent hid hahead' hahead''

end Untangled

/-! ## When the comparison is an order -/

section Order

variable {messages : List ChatMessage} {a b c : ChatMessage}

theorem Untangled.total (h : Untangled messages) (hids : (messages.map ChatMessage.id).Nodup) :
    TotalOn compareMessages messages :=
  trans_of_no_cycle (fun _ ha => h.self ha) (fun _ ha _ hb => h.antisymm ha hb)
    (fun _ ha _ hb hzero => eq_of_id hids ha hb (compareMessages_zero hzero))
    fun _ ha _ hb _ hc hab hbc hca => h.no_cycle hids ha hb hc hab hbc hca

theorem parent_first (hparent : IsParentOf a b) (holder : a.createdAt ≤ b.createdAt) :
    compareMessages a b < 0 := by
  rw [compareMessages_neg]
  rcases lt_or_eq_of_le holder with hlt | heq
  · exact Or.inl hlt
  · exact Or.inr ⟨heq, Or.inl hparent⟩

theorem mutual_free_of_total (h : TotalOn compareMessages messages) (ha : a ∈ messages)
    (hb : b ∈ messages) (htime : a.createdAt = b.createdAt) (hab : IsParentOf a b) :
    ¬ IsParentOf b a := by
  intro hba
  have hpos := (h.antisymm a ha b hb).mp (parent_first hab (le_of_eq htime))
  exact absurd (parent_first hba (le_of_eq htime.symm)) (not_lt_of_gt hpos)

private theorem untangled_of_total (hids : (messages.map ChatMessage.id).Nodup)
    (h : TotalOn compareMessages messages) : Untangled messages where
  mutual_free _ ha _ hb := mutual_free_of_total h ha hb
  between parent hparent reply hreply third hthird htime htime' hlink hid hbehind hbefore := by
    have hother : ¬ IsParentOf third reply := by
      intro hlink'
      have hsame : third.id = parent.id := Option.some.inj (hlink'.symm.trans hlink)
      obtain rfl := eq_of_id hids hthird hparent hsame
      rcases hbefore with hown | ⟨hid', -⟩
      · exact mutual_free_of_total h hparent hparent rfl hown hown
      · exact IdBefore.irrefl third hid'
    have hfirst : compareMessages parent reply < 0 := parent_first hlink (le_of_eq htime)
    have hsecond : compareMessages reply third < 0 :=
      compareMessages_neg.mpr (Or.inr ⟨htime', hbehind.imp_right fun hid => ⟨hother, hid⟩⟩)
    have hlast : compareMessages third parent < 0 :=
      compareMessages_neg.mpr (Or.inr ⟨(htime.trans htime').symm, hbefore.imp_right And.symm⟩)
    have hcycle := h.trans parent hparent reply hreply third hthird hfirst hsecond
    exact absurd hlast (not_lt_of_gt ((h.antisymm parent hparent third hthird).mp hcycle))

/--
For messages with distinct ids and no reply older than its parent: the comparison orders
them if and only if the parent links do not tangle with the ids of messages of one time.
-/
theorem timeline_order_iff (hids : (messages.map ChatMessage.id).Nodup)
    (holder : ∀ parent ∈ messages, ∀ reply ∈ messages, IsParentOf parent reply →
      parent.createdAt ≤ reply.createdAt) :
    WellOrdered messages ↔ Untangled messages := by
  constructor
  · exact fun h => untangled_of_total hids h.total
  · intro h
    have htotal := h.total hids
    obtain ⟨timeline, hperm, hsorted⟩ := htotal.exists_sorted
    refine ⟨htotal, ⟨timeline, hperm, hsorted, fun other hperm' hsorted' => ?_⟩, ?_⟩
    · exact htotal.eq_of_sorted hperm' hperm hsorted' hsorted
    · intro timeline hperm hsorted parent hparent reply hreply hlink
      exact htotal.sublist_of_sorted hperm hsorted hparent hreply
        (parent_first hlink (holder parent hparent reply hreply hlink))

private theorem untangled_of_later (hlater : ∀ parent ∈ messages, ∀ reply ∈ messages,
    IsParentOf parent reply → parent.createdAt < reply.createdAt) : Untangled messages where
  mutual_free a ha b hb htime hab := absurd htime (ne_of_lt (hlater a ha b hb hab))
  between parent hparent reply hreply _ _ htime _ hlink :=
    absurd htime (ne_of_lt (hlater parent hparent reply hreply hlink))

end Order

/-! ## A reply, its parent and a message between them -/

def timedMessage (id : String) (parentMessageId : Option String) (createdAt : Timestamp) :
    ChatMessage where
  id := id
  conversationId := "10"
  parentMessageId := parentMessageId
  clientMessageId := none
  role := if parentMessageId.isSome then .assistant else .user
  content := "Hello"
  status := .completed
  metadata := []
  createdAt := createdAt
  updatedAt := createdAt

def laterReply : List ChatMessage := [timedMessage "c" none 50, timedMessage "a" (some "c") 51]

theorem timeline_order_iff_later : WellOrdered laterReply :=
  (timeline_order_iff (by decide) (by decide)).mpr (untangled_of_later (by decide))

def tangledReplies : List ChatMessage :=
  [timedMessage "c" none 50, timedMessage "a" (some "c") 50, timedMessage "b" none 50]

/-- "c" is before "a" as its parent, "a" before "b" and "b" before "c" by their ids. -/
theorem comparison_has_cycle :
    (tangledReplies.map ChatMessage.id).Nodup ∧
      (∀ parent ∈ tangledReplies, ∀ reply ∈ tangledReplies, IsParentOf parent reply →
        parent.createdAt ≤ reply.createdAt) ∧
      ¬ WellOrdered tangledReplies := by
  refine ⟨by decide, by decide, fun h => ?_⟩
  have htrans := h.total.trans (timedMessage "c" none 50) (by simp [tangledReplies])
    (timedMessage "a" (some "c") 50) (by simp [tangledReplies]) (timedMessage "b" none 50)
    (by simp [tangledReplies]) (by decide) (by decide)
  exact absurd htrans (by decide)

end Astra.Client
