import Astra.Chat.Absorption
import Astra.Chat.Events
import Astra.Tenancy.Frame

/-!
# Archived conversations

No query finds an archived conversation, so that no request is accepted for it and no
service changes it.  What may still change are the replies of the requests that were under
way when it was archived.
-/

namespace Astra.Tenancy

open Astra.Foundation Astra.Platform Astra.Persistence Astra.Services Astra.Chat

/-- The conversation without what replies and the deletion of a persona change. -/
def settledColumns (c : Conversation) : Conversation :=
  { c with personaId := none, lastMessageAt := none, updatedAt := 0 }

/-- Some row of the conversation is archived, with these columns. -/
def ArchivedAs (c : Conversation) (rows : List Conversation) : Prop :=
  ∃ row ∈ rows, settledColumns row = settledColumns c

def messagesOf (conversationId : UUID) (store : Store) : List Message :=
  ownedRows (fun id => id == conversationId) store.messages

/-- The request may still write a reply of the conversation. -/
def UnderWay (conversationId : UUID) (s : ChatState) (i : Nat) : Prop :=
  ∃ p m, (s.phases i).exchange = some p ∧ m ∈ s.store.messages ∧ m.id = p.assistantMessage.id ∧
    m.conversationId = conversationId

structure Refused (store : Store) (result : Except Exn PreparedExchange × Store) : Prop where
  conversations : result.2.conversations = store.conversations
  messages : result.2.messages = store.messages
  error : ∀ p, result.1 ≠ .ok p

structure Prepares (store : Store) (a : Arrival) (found : Conversation) (ex : Exchange)
    (result : Except Exn PreparedExchange × Store) : Prop where
  found : getOwnedConversation store.conversations a.conversationId a.userId = some found
  located : Located store.messages a.conversationId a.request a.streaming a.gen ex
  messages : result.2.messages = ex.rows
  conversations : result.2.conversations = store.conversations ∨
    result.2.conversations = updateConversationRow a.conversationId
      (openConversation a.request a.gen.now) store.conversations

/-- What stays of an archived conversation between two states. -/
structure StaysClosed (c : Conversation) (s t : ChatState) : Prop where
  archived : ArchivedAs c t.store.conversations
  keys : (messagesOf c.id t.store).map messageKey = (messagesOf c.id s.store).map messageKey
  underWay : ∀ i, UnderWay c.id t i → UnderWay c.id s i
  settled : (∀ i, ¬ UnderWay c.id s i) → messagesOf c.id t.store = messagesOf c.id s.store

section Rows

variable {store store' : Store} {c row : Conversation} {userId id : UUID}

theorem settled_id (h : settledColumns row = settledColumns c) : row.id = c.id := by
  have hid := congrArg Conversation.id h
  exact hid

private theorem settled_archived (h : settledColumns row = settledColumns c) :
    row.archivedAt = c.archivedAt := by
  have harchived := congrArg Conversation.archivedAt h
  exact harchived

theorem ArchivedAs.hidden (h : ArchivedAs c store.conversations)
    (harchived : c.archivedAt.isSome = true)
    (hids : (store.conversations.map Conversation.id).Nodup) (userId : UUID) :
    getOwnedConversation store.conversations c.id userId = none := by
  obtain ⟨row, hrow, hsettled⟩ := h
  cases hfound : getOwnedConversation store.conversations c.id userId with
  | none => rfl
  | some found =>
      obtain ⟨hmem, hid, -⟩ := getOwnedConversation_mem hfound
      have hsame : found = row := eq_of_key_eq hids hmem hrow (hid.trans (settled_id hsettled).symm)
      have hopen := List.find?_some hfound
      simp only [Bool.and_eq_true] at hopen
      rw [hsame, settled_archived hsettled] at hopen
      simp [Option.isSome_iff_ne_none] at harchived hopen
      exact absurd hopen.2 harchived

theorem ArchivedAs.update {change : Conversation → Conversation}
    {selected : Conversation → Bool} {rows : List Conversation} (h : ArchivedAs c rows)
    (hchange : ∀ row, settledColumns row = settledColumns c → selected row = true →
      settledColumns (change row) = settledColumns row) :
    ArchivedAs c (updateWhere selected change rows) := by
  obtain ⟨row, hrow, hsettled⟩ := h
  cases hselected : selected row with
  | true =>
      exact ⟨change row, mem_updateWhere.mpr (Or.inl ⟨row, hrow, hselected, rfl⟩),
        (hchange row hsettled hselected).trans hsettled⟩
  | false => exact ⟨row, mem_updateWhere.mpr (Or.inr ⟨hrow, hselected⟩), hsettled⟩

theorem ArchivedAs.update_found {change : Conversation → Conversation} {found : Conversation}
    (h : ArchivedAs c store.conversations) (harchived : c.archivedAt.isSome = true)
    (hids : (store.conversations.map Conversation.id).Nodup)
    (hfound : getOwnedConversation store.conversations id userId = some found) :
    ArchivedAs c (updateConversationRow id change store.conversations) := by
  refine h.update fun row hsettled hselected => ?_
  rw [beq_iff_eq] at hselected
  rw [← hselected, settled_id hsettled, h.hidden harchived hids] at hfound
  cases hfound

theorem ArchivedAs.service (h : ArchivedAs c store.conversations)
    (harchived : c.archivedAt.isSome = true)
    (hids : (store.conversations.map Conversation.id).Nodup)
    (heffect : ServiceEffect store userId store') : ArchivedAs c store'.conversations := by
  cases heffect with
  | addConversation added howner hfresh hpersona =>
      obtain ⟨row, hrow, hsettled⟩ := h
      exact ⟨row, List.mem_append_left _ hrow, hsettled⟩
  | changeConversation id change found howned hkey hpersona =>
      exact h.update_found harchived hids howned
  | deletePersona id p howned => exact h.update fun row _ _ => rfl
  | _ => exact h

theorem ArchivedAs.write {p : PreparedExchange} {now : Timestamp}
    (h : ArchivedAs c store.conversations) (hwrite : StoreWrite p now store store') :
    ArchivedAs c store'.conversations := by
  cases hwrite with
  | unchanged => exact h
  | success reply =>
      unfold finalizeSuccess
      split
      · exact h
      · exact h.update fun row _ _ => rfl
  | failure content e => exact h

private theorem prepareExchange_cases (d : Deployment) (a : Arrival) (store : Store) :
    Refused store (prepareExchange d.py d.config store a.userId a.conversationId a.request
        a.streaming a.gen) ∨
      ∃ found ex, Prepares store a found ex (prepareExchange d.py d.config store a.userId
        a.conversationId a.request a.streaming a.gen) := by
  unfold prepareExchange
  split_ifs
  · exact Or.inl ⟨rfl, rfl, by simp⟩
  cases hfound : getOwnedConversation store.conversations a.conversationId a.userId with
  | none => exact Or.inl ⟨rfl, rfl, by simp⟩
  | some found =>
      simp only
      cases hlocate : locateExchange store.messages a.conversationId a.request a.streaming
        a.gen with
      | error e => exact Or.inl ⟨rfl, rfl, by simp⟩
      | ok ex =>
          have hlocated := locateExchange_located hlocate
          simp only
          split_ifs with hneeds
          · split
            · exact Or.inl ⟨rfl, rfl, by simp⟩
            · exact Or.inr ⟨found, ex, hfound, hlocated, rfl, Or.inr rfl⟩
          · refine Or.inr ⟨found, ex, hfound, hlocated, ?_, Or.inl rfl⟩
            cases hlocated with
            | replay user assistant huser hclient hassistant hreply hstatus => rfl
            | _ => exact absurd rfl hneeds

private theorem prepare_cases (d : Deployment) (a : Arrival) (store : Store) :
    Refused store (a.prepare d store) ∨
      ∃ found ex, Prepares store a found ex (a.prepare d store) := by
  have hcases := prepareExchange_cases d a store
  unfold Arrival.prepare awaitPrepare
  cases a.awaits with
  | completed => exact hcases
  | raisedBeforeAssembly e => exact Or.inl ⟨rfl, rfl, by simp⟩
  | raisedBeforeCommit e => exact Or.inl ⟨rfl, rfl, by simp⟩
  | raisedAfterCommit e =>
      rcases hcases with hrefused | ⟨found, ex, hprepared⟩
      · exact Or.inl ⟨hrefused.conversations, hrefused.messages, by simp⟩
      · exact Or.inr ⟨found, ex, hprepared.found, hprepared.located, hprepared.messages,
          hprepared.conversations⟩

end Rows

section Steps

variable {d : Deployment} {s t u : ChatState} {label : ChatLabel} {c : Conversation}
  {store : Store} {id : UUID}

theorem mem_messagesOf {m : Message} :
    m ∈ messagesOf id store ↔ m ∈ store.messages ∧ m.conversationId = id := by
  rw [messagesOf, ownedRows, List.mem_filter, beq_iff_eq]

private theorem messagesOf_keys {store' : Store}
    (h : store'.messages.map messageKey = store.messages.map messageKey) :
    (messagesOf id store').map messageKey = (messagesOf id store).map messageKey := by
  have hfilter (rows : List Message) : (ownedRows (fun k => k == id) rows).map messageKey =
      (rows.map messageKey).filter fun k => k.conversationId == id := by
    rw [List.filter_map]
    rfl
  rw [messagesOf, messagesOf, hfilter, hfilter, h]

theorem UnderWay.of_keys {i : Nat} (h : UnderWay id t i)
    (hkeys : (messagesOf id t.store).map messageKey = (messagesOf id s.store).map messageKey)
    (hexchange : ∀ p, (t.phases i).exchange = some p → (s.phases i).exchange = some p) :
    UnderWay id s i := by
  obtain ⟨p, m, hp, hm, hid, hconversation⟩ := h
  have hkey := List.mem_map_of_mem (f := messageKey) (mem_messagesOf.mpr ⟨hm, hconversation⟩)
  rw [hkeys] at hkey
  obtain ⟨m', hm', hsame⟩ := List.mem_map.mp hkey
  obtain ⟨hmem, hconversation'⟩ := mem_messagesOf.mp hm'
  exact ⟨p, m', hexchange p hp, hmem, (congrArg MessageKey.id hsame).trans hid, hconversation'⟩

theorem StaysClosed.trans (h : StaysClosed c s t) (h' : StaysClosed c t u) : StaysClosed c s u where
  archived := h'.archived
  keys := h'.keys.trans h.keys
  underWay i hi := h.underWay i (h'.underWay i hi)
  settled hnone := by
    rw [h'.settled fun i hi => hnone i (h.underWay i hi), h.settled hnone]

theorem arrive_staysClosed (h : OwnedState s) (harchived : c.archivedAt.isSome = true)
    (hc : ArchivedAs c s.store.conversations) {i : Nat} {a : Arrival}
    (hstep : s.step d (.arrive i a) = some t) : StaysClosed c s t := by
  have hphase := arrive_phase hstep
  obtain ⟨-, -, ht⟩ := ChatState.step_arrive hstep
  have hstore : t.store = (a.prepare d s.store).2 := by rw [ht]
  have hothers {j : Nat} (hj : j ≠ i) : t.phases j = s.phases j := by
    rw [ht]
    exact Function.update_of_ne hj _ _
  rcases prepare_cases d a s.store with hrefused | ⟨found, ex, hprepares⟩
  · have hmessages : messagesOf c.id t.store = messagesOf c.id s.store := by
      rw [messagesOf, hstore, hrefused.messages]
      rfl
    refine ⟨?_, by rw [hmessages], ?_, fun _ => hmessages⟩
    · rw [hstore, hrefused.conversations]
      exact hc
    · intro j hj
      refine hj.of_keys (by rw [hmessages]) fun p hp => ?_
      by_cases hji : j = i
      · rw [hji, hphase] at hp
        exact absurd (start_exchange hp) (hrefused.error p)
      · rw [hothers hji] at hp
        exact hp
  · have helse : a.conversationId ≠ c.id := by
      intro heq
      have hfound := hprepares.found
      rw [heq, hc.hidden harchived h.rows.conversationIds] at hfound
      cases hfound
    have hmessages : messagesOf c.id t.store = messagesOf c.id s.store := by
      rw [messagesOf, hstore, hprepares.messages]
      exact located_others h.table.messages (beq_eq_false_iff_ne.mpr helse) hprepares.located
    refine ⟨?_, by rw [hmessages], ?_, fun _ => hmessages⟩
    · rw [hstore]
      rcases hprepares.conversations with hsame | hopened
      · rw [hsame]
        exact hc
      · rw [hopened]
        exact hc.update_found harchived h.rows.conversationIds hprepares.found
    · intro j hj
      refine hj.of_keys (by rw [hmessages]) fun p hp => ?_
      by_cases hji : j = i
      · rw [hji, hphase] at hp
        obtain ⟨p', m, hp', hm, hid, hconversation⟩ := hj
        rw [hji, hphase] at hp'
        obtain rfl := Option.some.inj (hp'.symm.trans hp)
        have htable := Arrival.prepare_inTable h.table.messages (start_exchange hp)
        rw [← hstore] at htable
        obtain ⟨hinTable, hasked, -⟩ := htable
        obtain ⟨row, hrow, hkey⟩ := List.mem_map.mp hinTable.reply
        have ht' := (step_table h.table hstep).messages
        have hsame : m = row :=
          ht'.eq_of_id_eq hm hrow (hid.trans (congrArg MessageKey.id hkey).symm)
        refine absurd ?_ helse
        rw [← hasked, ← hinTable.replyConversation, ← hconversation, hsame]
        exact (congrArg MessageKey.conversationId hkey).symm
      · rw [hothers hji] at hp
        exact hp

theorem resume_staysClosed (h : OwnedState s) (hc : ArchivedAs c s.store.conversations) {i : Nat}
    {input : Input} {now : Timestamp} (hstep : s.step d (.resume i input now) = some t) :
    StaysClosed c s t := by
  obtain ⟨phase, store, hresume, rfl⟩ := ChatState.step_resume hstep
  obtain ⟨p, hp, hkeeps, hwrite⟩ := resume_writes hresume
  have hkeys : (messagesOf c.id store).map messageKey =
      (messagesOf c.id s.store).map messageKey :=
    messagesOf_keys (hwrite.wellFormed h.table.messages (h.table.assistant i p hp)).2
  refine ⟨hc.write hwrite, hkeys, ?_, ?_⟩
  · intro j hj
    refine hj.of_keys hkeys fun q hq => ?_
    by_cases hji : j = i
    · subst hji
      simp only [Function.update_self] at hq
      rcases hkeeps with hsame | ⟨outcome, rfl⟩
      · exact hp.trans (hsame.symm.trans hq)
      · cases hq
    · simpa only [Function.update_of_ne hji] using hq
  · intro hnone
    have hother : ∀ m ∈ s.store.messages, (m.id == p.assistantMessage.id) = true →
        (m.conversationId == c.id) = false := by
      intro m hm hid
      rw [beq_iff_eq] at hid
      rw [beq_eq_false_iff_ne]
      exact fun hconversation => hnone i ⟨p, m, hp, hm, hid, hconversation⟩
    rcases hwrite.messages_cases with hsame | ⟨change, hkey, hsame⟩
    · rw [messagesOf, hsame]
      rfl
    · rw [messagesOf, hsame]
      refine filter_updateWhere _ hother fun m hm hid => ?_
      have hconversation : (change m).conversationId = m.conversationId :=
        congrArg MessageKey.conversationId (hkey m)
      rw [hconversation]
      exact hother m hm hid

theorem step_staysClosed (h : OwnedState s) (harchived : c.archivedAt.isSome = true)
    (hc : ArchivedAs c s.store.conversations) (hstep : s.step d label = some t) :
    StaysClosed c s t := by
  cases label with
  | arrive i a => exact arrive_staysClosed h harchived hc hstep
  | resume i input now => exact resume_staysClosed h hc hstep
  | service userId action =>
      obtain rfl := ChatState.step_service hstep
      have hmessages : messagesOf c.id (applyService d.config s.store userId action) =
          messagesOf c.id s.store := by
        rw [messagesOf, applyService_messages]
        rfl
      refine ⟨?_, by rw [hmessages], ?_, fun _ => hmessages⟩
      · rcases applyService_cases d.config s.store userId action with hsame | heffect
        · rw [hsame]
          exact hc
        · exact hc.service harchived h.rows.conversationIds heffect
      · exact fun i hi => hi.of_keys (by rw [hmessages]) fun p hp => hp

theorem run_staysClosed {labels : List ChatLabel} (h : OwnedState s)
    (harchived : c.archivedAt.isSome = true) (hc : ArchivedAs c s.store.conversations)
    (hrun : exec (ChatState.step d) s labels = some t) : OwnedState t ∧ StaysClosed c s t := by
  have hstep (v : ChatState) (label : ChatLabel) (w : ChatState)
      (hv : OwnedState v ∧ StaysClosed c s v) (hvw : v.step d label = some w) :
      OwnedState w ∧ StaysClosed c s w :=
    ⟨hv.1.step hvw, hv.2.trans (step_staysClosed hv.1 harchived hv.2.archived hvw)⟩
  exact exec_invariant' hstep ⟨h, hc, rfl, fun _ hi => hi, fun _ => rfl⟩ hrun

end Steps

/--
From its archiving on nobody finds a conversation, its columns stay and no message joins or
leaves it; only the requests then under way still write their replies, and once there are
none its messages stay as they are.
-/
theorem archived_conversation_closed (d : Deployment) {before after : List ChatLabel}
    {s t : ChatState} (hbefore : exec (ChatState.step d) {} before = some s)
    {c : Conversation} (hc : c ∈ s.store.conversations) (harchived : c.archivedAt.isSome = true)
    (hafter : exec (ChatState.step d) s after = some t) :
    (∃ row ∈ t.store.conversations, settledColumns row = settledColumns c) ∧
      (∀ userId, getOwnedConversation t.store.conversations c.id userId = none) ∧
      (messagesOf c.id t.store).map messageKey = (messagesOf c.id s.store).map messageKey ∧
      (∀ i, UnderWay c.id t i → UnderWay c.id s i) ∧
      ((∀ i, ¬ UnderWay c.id s i) → messagesOf c.id t.store = messagesOf c.id s.store) := by
  obtain ⟨ht, hclosed⟩ := run_staysClosed (run_owned hbefore) harchived ⟨c, hc, rfl⟩ hafter
  exact ⟨hclosed.archived, hclosed.archived.hidden harchived ht.rows.conversationIds,
    hclosed.keys, hclosed.underWay, hclosed.settled⟩

def archivedUnderReply : List ChatLabel :=
  streamToCommit .done ++ [.service 1 (.archiveConversation 10 150)]

theorem archived_conversation_closed_replay :
    ∃ s t c, exec (ChatState.step defaultDeployment) {} archivedUnderReply = some s ∧
      c ∈ s.store.conversations ∧ c.id = 10 ∧
      exec (ChatState.step defaultDeployment) s replayAfter = some t ∧
      getOwnedConversation t.store.conversations c.id 1 = none ∧
      (messagesOf c.id t.store).map messageKey = (messagesOf c.id s.store).map messageKey := by
  have hview : ((exec (ChatState.step defaultDeployment) {} archivedUnderReply).map
      fun s => s.store.conversations.map fun c => (c.id, c.archivedAt)) =
        some [(10, some 150)] := by decide
  have hrun : ((exec (ChatState.step defaultDeployment) {}
      (archivedUnderReply ++ replayAfter)).map fun _ => ()) = some () := by decide
  obtain ⟨t, ht, -⟩ := Option.map_eq_some_iff.mp hrun
  obtain ⟨s, hs, hst⟩ := exec_append.mp ht
  rw [hs, Option.map_some, Option.some.injEq] at hview
  obtain ⟨c, rest, hrows, hcolumns, -⟩ := List.map_eq_cons_iff.mp hview
  rw [Prod.mk.injEq] at hcolumns
  have hc : c ∈ s.store.conversations := by
    rw [hrows]
    exact List.mem_cons_self
  have harchived : c.archivedAt.isSome = true := by rw [hcolumns.2]; rfl
  obtain ⟨-, hhidden, hkeys, -⟩ :=
    archived_conversation_closed defaultDeployment hs hc harchived hst
  exact ⟨s, t, c, hs, hc, hcolumns.1, hst, hhidden 1, hkeys⟩

end Astra.Tenancy
