import Astra.Chat.Prepare

/-!
# The message table

The columns of a message that never change after its insertion, what they look
like in a table that the chat services have filled, and what `_prepare_exchange`
does to the table.
-/

namespace Astra.Chat

open Astra.Foundation Astra.Platform Astra.Persistence Astra.LLM Astra.Services

structure MessageKey where
  id : UUID
  conversationId : UUID
  parentMessageId : Option UUID
  clientMessageId : Option UUID
  role : MessageRole
  deriving DecidableEq

def messageKey (m : Message) : MessageKey :=
  ⟨m.id, m.conversationId, m.parentMessageId, m.clientMessageId, m.role⟩

@[simp] theorem messageKey_resetForRetry (streaming : Bool) (now : Timestamp) (m : Message) :
    messageKey (resetForRetry streaming now m) = messageKey m := rfl

/--
The primary key, one user row for each client id of a conversation, and one
assistant row for each user row, in the conversation of that user row.
-/
structure WellKeyed (keys : List MessageKey) : Prop where
  ids : (keys.map MessageKey.id).Nodup
  clientRole : ∀ k ∈ keys, k.clientMessageId.isSome = true → k.role = .user
  client : ∀ k ∈ keys, ∀ k' ∈ keys, k.clientMessageId.isSome = true →
    k'.clientMessageId = k.clientMessageId → k'.conversationId = k.conversationId → k' = k
  parent : ∀ k ∈ keys, k.role = .assistant →
    ∃ u ∈ keys, k.parentMessageId = some u.id ∧ u.conversationId = k.conversationId ∧
      u.role = .user
  reply : ∀ k ∈ keys, ∀ k' ∈ keys, k.role = .assistant → k'.role = .assistant →
    k'.parentMessageId = k.parentMessageId → k' = k

structure WellFormed (rows : List Message) : Prop where
  keys : WellKeyed (rows.map messageKey)
  userCompleted : ∀ m ∈ rows, m.role = .user → m.status = .completed

theorem WellKeyed.nil : WellKeyed [] := by
  constructor <;> simp

theorem WellFormed.nil : WellFormed [] := ⟨WellKeyed.nil, by simp⟩

section Lookup

variable {rows : List Message}

theorem WellFormed.ids (h : WellFormed rows) : (rows.map Message.id).Nodup := by
  have := h.keys.ids
  rwa [List.map_map] at this

theorem WellFormed.eq_of_id_eq (h : WellFormed rows) {m m' : Message} (hm : m ∈ rows)
    (hm' : m' ∈ rows) (hid : m.id = m'.id) : m = m' :=
  eq_of_key_eq h.ids hm hm' hid

theorem WellFormed.eq_of_key_eq (h : WellFormed rows) {m m' : Message} (hm : m ∈ rows)
    (hm' : m' ∈ rows) (hkey : messageKey m = messageKey m') : m = m' :=
  h.eq_of_id_eq hm hm' (congrArg MessageKey.id hkey)

theorem hasClientId_iff {conversationId clientMessageId : UUID} {m : Message} :
    hasClientId conversationId (some clientMessageId) m = true ↔
      m.conversationId = conversationId ∧ m.clientMessageId = some clientMessageId := by
  simp [hasClientId]

theorem isReplyTo_iff {userMessageId : UUID} {m : Message} :
    isReplyTo userMessageId m = true ↔
      m.parentMessageId = some userMessageId ∧ m.role = .assistant := by
  simp [isReplyTo]

theorem WellFormed.client_unique (h : WellFormed rows) {conversationId clientMessageId : UUID}
    {m m' : Message} (hm : m ∈ rows) (hm' : m' ∈ rows)
    (hid : hasClientId conversationId (some clientMessageId) m = true)
    (hid' : hasClientId conversationId (some clientMessageId) m' = true) : m' = m := by
  rw [hasClientId_iff] at hid hid'
  refine h.eq_of_key_eq hm' hm (h.keys.client _ (List.mem_map_of_mem hm) _
    (List.mem_map_of_mem hm') ?_ ?_ ?_)
  · simp [messageKey, hid.2]
  · simp [messageKey, hid.2, hid'.2]
  · simp [messageKey, hid.1, hid'.1]

theorem WellFormed.reply_unique (h : WellFormed rows) {userMessageId : UUID} {m m' : Message}
    (hm : m ∈ rows) (hm' : m' ∈ rows) (hreply : isReplyTo userMessageId m = true)
    (hreply' : isReplyTo userMessageId m' = true) : m' = m := by
  rw [isReplyTo_iff] at hreply hreply'
  refine h.eq_of_key_eq hm' hm (h.keys.reply _ (List.mem_map_of_mem hm) _
    (List.mem_map_of_mem hm') hreply.2 hreply'.2 ?_)
  simp [messageKey, hreply.1, hreply'.1]

theorem WellFormed.reply_conversation (h : WellFormed rows) {user reply : Message}
    (huser : user ∈ rows) (hreply : reply ∈ rows) (hparent : isReplyTo user.id reply = true) :
    reply.conversationId = user.conversationId := by
  rw [isReplyTo_iff] at hparent
  obtain ⟨k, hk, hid, hconv, -⟩ :=
    h.keys.parent (messageKey reply) (List.mem_map_of_mem hreply) hparent.2
  obtain ⟨user', huser', rfl⟩ := List.mem_map.mp hk
  have heq : user.id = user'.id := by
    simpa [messageKey, hparent.1] using hid
  rw [h.eq_of_id_eq huser huser' heq]
  exact hconv.symm

theorem WellFormed.getMessage_eq (h : WellFormed rows) {m : Message} (hm : m ∈ rows) :
    rows.find? (fun row => row.id == m.id) = some m :=
  find?_key h.ids hm

end Lookup

/-! ## Locating the exchange -/

/-- What `_prepare_exchange` finds and leaves in the message table. -/
inductive Located (rows : List Message) (conversationId : UUID) (request : MessageSendRequest)
    (streaming : Bool) (gen : Generated) : Exchange → Prop
  | new
      (hclient : ∀ m ∈ rows,
        hasClientId conversationId (some request.clientMessageId) m = false)
      (huser : gen.userMessageId ∉ rows.map Message.id)
      (hassistant : gen.assistantMessageId ∉ rows.map Message.id)
      (hne : gen.assistantMessageId ≠ gen.userMessageId) :
      Located rows conversationId request streaming gen
        ⟨newUserMessage gen conversationId request,
          newAssistantMessage gen conversationId gen.userMessageId streaming, false, true,
          rows ++ [newUserMessage gen conversationId request] ++
            [newAssistantMessage gen conversationId gen.userMessageId streaming]⟩
  | unanswered (user : Message) (huser : user ∈ rows)
      (hclient : hasClientId conversationId (some request.clientMessageId) user = true)
      (hreply : ∀ m ∈ rows, isReplyTo user.id m = false)
      (hassistant : gen.assistantMessageId ∉ rows.map Message.id) :
      Located rows conversationId request streaming gen
        ⟨user, newAssistantMessage gen conversationId user.id streaming, true, true,
          rows ++ [newAssistantMessage gen conversationId user.id streaming]⟩
  | replay (user assistant : Message) (huser : user ∈ rows)
      (hclient : hasClientId conversationId (some request.clientMessageId) user = true)
      (hassistant : assistant ∈ rows) (hreply : isReplyTo user.id assistant = true)
      (hstatus : assistant.status = .completed) :
      Located rows conversationId request streaming gen ⟨user, assistant, true, false, rows⟩
  | retry (user assistant : Message) (huser : user ∈ rows)
      (hclient : hasClientId conversationId (some request.clientMessageId) user = true)
      (hassistant : assistant ∈ rows) (hreply : isReplyTo user.id assistant = true)
      (hstatus : assistant.status = .failed) :
      Located rows conversationId request streaming gen
        ⟨user, resetForRetry streaming gen.now assistant, true, true,
          updateMessage assistant.id (resetForRetry streaming gen.now) rows⟩

theorem scalarOneOrNone_eq_none {rows : List Message} {query : Message → Bool}
    (h : scalarOneOrNone (rows.filter query) = .ok none) :
    ∀ m ∈ rows, query m = false := by
  cases hrows : rows.filter query with
  | nil =>
      intro m hm
      simpa using List.filter_eq_nil_iff.mp hrows m hm
  | cons m ms =>
      rw [hrows] at h
      cases ms <;> simp [scalarOneOrNone] at h

theorem scalarOneOrNone_eq_some {rows : List Message} {query : Message → Bool} {m : Message}
    (h : scalarOneOrNone (rows.filter query) = .ok (some m)) : m ∈ rows ∧ query m = true := by
  cases hrows : rows.filter query with
  | nil =>
      rw [hrows] at h
      simp [scalarOneOrNone] at h
  | cons m' ms =>
      rw [hrows] at h
      cases ms with
      | nil =>
          simp only [scalarOneOrNone, Except.ok.injEq, Option.some.injEq] at h
          subst h
          exact List.mem_filter.mp (hrows ▸ List.mem_singleton_self m')
      | cons m'' ms => simp [scalarOneOrNone] at h

theorem addMessage_eq_ok {m : Message} {rows rows' : List Message}
    (h : addMessage m rows = .ok rows') :
    m.id ∉ rows.map Message.id ∧ rows' = rows ++ [m] := by
  unfold addMessage at h
  split at h
  · cases h
  · exact addRow_eq_ok.mp h

section Locate

variable {rows : List Message} {conversationId : UUID} {request : MessageSendRequest}
  {streaming : Bool} {gen : Generated} {ex : Exchange}

private theorem reuseExchange_located {user : Message} (huser : user ∈ rows)
    (hclient : hasClientId conversationId (some request.clientMessageId) user = true)
    (h : reuseExchange rows conversationId user streaming gen = .ok ex) :
    Located rows conversationId request streaming gen ex := by
  unfold reuseExchange at h
  cases hreply : getAssistantReply rows user.id with
  | error e =>
      rw [hreply] at h
      cases h
  | ok reply =>
      rw [hreply] at h
      cases reply with
      | none =>
          cases hadd :
              addMessage (newAssistantMessage gen conversationId user.id streaming) rows with
          | error e => simp [hadd, bind, Except.bind] at h
          | ok rows' =>
              simp only [hadd, bind, Except.bind, Except.ok.injEq] at h
              obtain ⟨hid, rfl⟩ := addMessage_eq_ok hadd
              subst h
              exact .unanswered user huser hclient (scalarOneOrNone_eq_none hreply) hid
      | some assistant =>
          obtain ⟨hmem, hq⟩ := scalarOneOrNone_eq_some hreply
          simp only [bind, Except.bind] at h
          cases hstatus : assistant.status <;> simp only [hstatus] at h
          · cases h
          · cases h
          · simp only [Except.ok.injEq] at h
            subst h
            exact .replay user assistant huser hclient hmem hq hstatus
          · simp only [Except.ok.injEq] at h
            subst h
            exact .retry user assistant huser hclient hmem hq hstatus

theorem locateExchange_located
    (h : locateExchange rows conversationId request streaming gen = .ok ex) :
    Located rows conversationId request streaming gen ex := by
  unfold locateExchange at h
  cases huser : getByClientMessageId rows conversationId request.clientMessageId with
  | error e =>
      rw [huser] at h
      cases h
  | ok user =>
      rw [huser] at h
      cases user with
      | some user =>
          obtain ⟨hmem, hclient⟩ := scalarOneOrNone_eq_some huser
          exact reuseExchange_located hmem hclient h
      | none =>
          simp only [bind, Except.bind] at h
          cases hadd : addMessage (newUserMessage gen conversationId request) rows with
          | error e => simp [hadd] at h
          | ok rows₁ =>
              simp only [hadd] at h
              obtain ⟨hid, rfl⟩ := addMessage_eq_ok hadd
              cases hadd' : addMessage (newAssistantMessage gen conversationId
                  (newUserMessage gen conversationId request).id streaming)
                  (rows ++ [newUserMessage gen conversationId request]) with
              | error e => simp [hadd'] at h
              | ok rows₂ =>
                  simp only [hadd', Except.ok.injEq] at h
                  obtain ⟨hid', rfl⟩ := addMessage_eq_ok hadd'
                  subst h
                  simp only [List.map_append, List.map_cons, List.map_nil, List.mem_append,
                    List.mem_singleton, not_or] at hid'
                  exact .new (scalarOneOrNone_eq_none huser) hid hid'.1 hid'.2

end Locate

/-! ## Preservation -/

private theorem WellKeyed.append_user {keys : List MessageKey} (h : WellKeyed keys) {u : MessageKey}
    (hid : u.id ∉ keys.map MessageKey.id) (hrole : u.role = .user)
    (hclient : ∀ k ∈ keys, k.clientMessageId = u.clientMessageId →
      k.conversationId ≠ u.conversationId) : WellKeyed (keys ++ [u]) where
  ids := nodup_append_row h.ids hid
  clientRole k hk hsome := by
    rcases List.mem_append.mp hk with hk | hk
    · exact h.clientRole k hk hsome
    · rw [List.mem_singleton.mp hk]
      exact hrole
  client k hk k' hk' hsome hc hconv := by
    rcases List.mem_append.mp hk with hold | hnew <;>
      rcases List.mem_append.mp hk' with hold' | hnew'
    · exact h.client k hold k' hold' hsome hc hconv
    · rw [List.mem_singleton] at hnew'
      subst hnew'
      exact absurd hconv.symm (hclient k hold hc.symm)
    · rw [List.mem_singleton] at hnew
      subst hnew
      exact absurd hconv (hclient k' hold' hc)
    · rw [List.mem_singleton.mp hnew, List.mem_singleton.mp hnew']
  parent k hk hassistant := by
    rcases List.mem_append.mp hk with hk | hk
    · obtain ⟨p, hp, hrest⟩ := h.parent k hk hassistant
      exact ⟨p, List.mem_append_left _ hp, hrest⟩
    · rw [List.mem_singleton.mp hk, hrole] at hassistant
      cases hassistant
  reply k hk k' hk' hrole₁ hrole₂ hparent := by
    have hold : ∀ x ∈ keys ++ [u], x.role = .assistant → x ∈ keys := by
      intro x hx hxr
      rcases List.mem_append.mp hx with hx | hx
      · exact hx
      · rw [List.mem_singleton.mp hx, hrole] at hxr
        cases hxr
    exact h.reply k (hold k hk hrole₁) k' (hold k' hk' hrole₂) hrole₁ hrole₂ hparent

theorem WellKeyed.append_assistant {keys : List MessageKey} (h : WellKeyed keys)
    {a u : MessageKey} (hid : a.id ∉ keys.map MessageKey.id) (hrole : a.role = .assistant)
    (hnone : a.clientMessageId = none) (hu : u ∈ keys) (huser : u.role = .user)
    (hparent : a.parentMessageId = some u.id) (hconv : u.conversationId = a.conversationId)
    (hreply : ∀ k ∈ keys, k.role = .assistant → k.parentMessageId ≠ some u.id) :
    WellKeyed (keys ++ [a]) where
  ids := nodup_append_row h.ids hid
  clientRole k hk hsome := by
    rcases List.mem_append.mp hk with hk | hk
    · exact h.clientRole k hk hsome
    · rw [List.mem_singleton.mp hk, hnone] at hsome
      cases hsome
  client k hk k' hk' hsome hc hconv := by
    have hold : ∀ x ∈ keys ++ [a], x.clientMessageId.isSome = true → x ∈ keys := by
      intro x hx hxs
      rcases List.mem_append.mp hx with hx | hx
      · exact hx
      · rw [List.mem_singleton.mp hx, hnone] at hxs
        cases hxs
    exact h.client k (hold k hk hsome) k' (hold k' hk' (hc ▸ hsome)) hsome hc hconv
  parent k hk hassistant := by
    rcases List.mem_append.mp hk with hk | hk
    · obtain ⟨p, hp, hrest⟩ := h.parent k hk hassistant
      exact ⟨p, List.mem_append_left _ hp, hrest⟩
    · rw [List.mem_singleton.mp hk]
      exact ⟨u, List.mem_append_left _ hu, hparent, hconv, huser⟩
  reply k hk k' hk' hrole₁ hrole₂ heq := by
    rcases List.mem_append.mp hk with hold | hnew <;>
      rcases List.mem_append.mp hk' with hold' | hnew'
    · exact h.reply k hold k' hold' hrole₁ hrole₂ heq
    · rw [List.mem_singleton] at hnew'
      subst hnew'
      exact absurd (heq.symm.trans hparent) (hreply k hold hrole₁)
    · rw [List.mem_singleton] at hnew
      subst hnew
      exact absurd (heq.trans hparent) (hreply k' hold' hrole₂)
    · rw [List.mem_singleton.mp hnew, List.mem_singleton.mp hnew']

section Update

variable {rows : List Message} {id : UUID} {change : Message → Message}

theorem mem_updateMessage_of_ne {m : Message} (hm : m ∈ rows) (hne : m.id ≠ id) :
    m ∈ updateMessage id change rows :=
  mem_updateWhere.mpr (Or.inr ⟨hm, by simpa using hne⟩)

theorem mem_updateMessage_self {m : Message} (hm : m ∈ rows) (hid : m.id = id) :
    change m ∈ updateMessage id change rows :=
  mem_updateWhere.mpr (Or.inl ⟨m, hm, by simpa using hid, rfl⟩)

theorem messageKey_updateMessage (hkey : ∀ m, messageKey (change m) = messageKey m) :
    (updateMessage id change rows).map messageKey = rows.map messageKey :=
  map_updateWhere _ fun m _ _ => hkey m

theorem WellFormed.update_row (h : WellFormed rows)
    (hkey : ∀ m, messageKey (change m) = messageKey m)
    (hassistant : ∀ m ∈ rows, m.id = id → m.role = .assistant) :
    WellFormed (updateMessage id change rows) where
  keys := by
    rw [messageKey_updateMessage hkey]
    exact h.keys
  userCompleted m hm hrole := by
    rcases mem_updateWhere.mp hm with ⟨old, hold, hsel, rfl⟩ | ⟨hm, -⟩
    · have hr : old.role = .assistant := hassistant old hold (by simpa using hsel)
      have hr' : (change old).role = old.role := congrArg MessageKey.role (hkey old)
      rw [hr', hr] at hrole
      cases hrole
    · exact h.userCompleted m hm hrole

end Update

section Located

variable {rows : List Message} {conversationId : UUID} {request : MessageSendRequest}
  {streaming : Bool} {gen : Generated} {ex : Exchange}

theorem openStatus_inProgress (streaming : Bool) : (openStatus streaming).inProgress = true := by
  cases streaming <;> rfl

theorem not_mem_keys {m : UUID} (h : m ∉ rows.map Message.id) :
    m ∉ (rows.map messageKey).map MessageKey.id := by
  rwa [List.map_map]

theorem WellFormed.client_role (h : WellFormed rows) {user : Message} (huser : user ∈ rows)
    (hclient : hasClientId conversationId (some request.clientMessageId) user = true) :
    user.role = .user := by
  have hmem : messageKey user ∈ rows.map messageKey := List.mem_map_of_mem huser
  refine h.keys.clientRole _ hmem ?_
  rw [hasClientId_iff] at hclient
  simp [messageKey, hclient.2]

theorem Located.wellFormed (h : WellFormed rows)
    (hloc : Located rows conversationId request streaming gen ex) : WellFormed ex.rows := by
  cases hloc with
  | new hclient huser hassistant hne =>
      have hkeys : WellKeyed ((rows ++ [newUserMessage gen conversationId request]).map
          messageKey) := by
        rw [List.map_append]
        refine h.keys.append_user (not_mem_keys huser) rfl ?_
        intro k hk hc hconv
        obtain ⟨m, hm, rfl⟩ := List.mem_map.mp hk
        have := hclient m hm
        rw [Bool.eq_false_iff, Ne, hasClientId_iff] at this
        exact this ⟨hconv, hc⟩
      refine ⟨?_, ?_⟩
      · rw [List.map_append]
        refine hkeys.append_assistant (u := messageKey (newUserMessage gen conversationId request))
          ?_ rfl rfl (by simp) rfl rfl rfl ?_
        · simp only [List.map_append, List.map_map, List.map_cons, List.map_nil, List.mem_append,
            List.mem_singleton, not_or]
          exact ⟨hassistant, hne⟩
        · intro k hk hrole hparent
          rw [List.map_append] at hk
          rcases List.mem_append.mp hk with hk | hk
          · obtain ⟨u, hu, hp, -, -⟩ := h.keys.parent k hk hrole
            have heq : gen.userMessageId = u.id := Option.some.inj (hparent.symm.trans hp)
            exact not_mem_keys huser (heq ▸ List.mem_map_of_mem hu)
          · simp only [List.map_cons, List.map_nil, List.mem_singleton] at hk
            subst hk
            cases hrole
      · intro m hm hrole
        simp only [List.append_assoc, List.mem_append, List.mem_singleton] at hm
        rcases hm with hm | rfl | rfl
        · exact h.userCompleted m hm hrole
        · rfl
        · cases hrole
  | unanswered user huser hclient hreply hassistant =>
      have hrole := h.client_role huser hclient
      refine ⟨?_, ?_⟩
      · rw [List.map_append]
        refine h.keys.append_assistant (u := messageKey user) (not_mem_keys hassistant) rfl rfl
          (List.mem_map_of_mem huser) hrole rfl (hasClientId_iff.mp hclient).1 ?_
        intro k hk hkrole hparent
        obtain ⟨m, hm, rfl⟩ := List.mem_map.mp hk
        have := hreply m hm
        rw [Bool.eq_false_iff, Ne, isReplyTo_iff] at this
        exact this ⟨hparent, hkrole⟩
      · intro m hm hmrole
        simp only [List.mem_append, List.mem_singleton] at hm
        rcases hm with hm | rfl
        · exact h.userCompleted m hm hmrole
        · cases hmrole
  | replay user assistant huser hclient hassistant hreply hstatus => exact h
  | retry user assistant huser hclient hassistant hreply hstatus =>
      refine h.update_row (fun m => rfl) ?_
      intro m hm hid
      rw [h.eq_of_id_eq hm hassistant hid]
      exact (isReplyTo_iff.mp hreply).2

theorem Located.key_mem (hloc : Located rows conversationId request streaming gen ex)
    {k : MessageKey} (hk : k ∈ rows.map messageKey) : k ∈ ex.rows.map messageKey := by
  cases hloc with
  | new hclient huser hassistant hne => simp [hk]
  | unanswered user huser hclient hreply hassistant => simp [hk]
  | replay user assistant huser hclient hassistant hreply hcompleted => exact hk
  | retry user assistant huser hclient hassistant hreply hfailed =>
      rw [messageKey_updateMessage (messageKey_resetForRetry streaming gen.now)]
      exact hk

theorem Located.exchange_mem (hloc : Located rows conversationId request streaming gen ex) :
    (messageKey ex.userMessage ∈ ex.rows.map messageKey ∧
        hasClientId conversationId (some request.clientMessageId) ex.userMessage = true) ∧
      ex.assistantMessage ∈ ex.rows ∧ isReplyTo ex.userMessage.id ex.assistantMessage = true := by
  cases hloc with
  | new hclient huser hassistant hne =>
      exact ⟨⟨by simp, by simp [hasClientId_iff, newUserMessage]⟩, by simp,
        by simp [isReplyTo_iff, newAssistantMessage, newUserMessage]⟩
  | unanswered user huser hclient hreply hassistant =>
      exact ⟨⟨List.mem_map_of_mem (List.mem_append_left _ huser), hclient⟩, by simp,
        by simp [isReplyTo_iff, newAssistantMessage]⟩
  | replay user assistant huser hclient hassistant hreply hcompleted =>
      exact ⟨⟨List.mem_map_of_mem huser, hclient⟩, hassistant, hreply⟩
  | retry user assistant huser hclient hassistant hreply hfailed =>
      refine ⟨⟨?_, hclient⟩, mem_updateMessage_self hassistant rfl, hreply⟩
      rw [messageKey_updateMessage (messageKey_resetForRetry streaming gen.now)]
      exact List.mem_map_of_mem huser

theorem Located.mem_of_not_failed (h : WellFormed rows)
    (hloc : Located rows conversationId request streaming gen ex) {m : Message} (hm : m ∈ rows)
    (hstatus : m.status ≠ .failed) : m ∈ ex.rows := by
  cases hloc with
  | new hclient huser hassistant hne => simp [hm]
  | unanswered user huser hclient hreply hassistant => simp [hm]
  | replay user assistant huser hclient hassistant hreply hcompleted => exact hm
  | retry user assistant huser hclient hassistant hreply hfailed =>
      refine mem_updateMessage_of_ne hm ?_
      intro hid
      rw [h.eq_of_id_eq hm hassistant hid] at hstatus
      exact hstatus hfailed

/-- The answer for a stored exchange depends on the status of its reply. -/
theorem WellFormed.locate_eq (h : WellFormed rows) {user assistant : Message}
    (huser : user ∈ rows)
    (hclient : hasClientId conversationId (some request.clientMessageId) user = true)
    (hassistant : assistant ∈ rows) (hreply : isReplyTo user.id assistant = true) :
    locateExchange rows conversationId request streaming gen =
      match assistant.status with
      | .completed => .ok ⟨user, assistant, true, false, rows⟩
      | .pending | .streaming => .error requestInProgress
      | .failed =>
          .ok ⟨user, resetForRetry streaming gen.now assistant, true, true,
            updateMessage assistant.id (resetForRetry streaming gen.now) rows⟩ := by
  have husers : rows.filter (hasClientId conversationId (some request.clientMessageId)) = [user] :=
    filter_eq_singleton h.ids huser hclient fun m hm hm' => h.client_unique huser hm hclient hm'
  have hreplies : rows.filter (isReplyTo user.id) = [assistant] :=
    filter_eq_singleton h.ids hassistant hreply fun m hm hm' =>
      h.reply_unique hassistant hm hreply hm'
  cases hstatus : assistant.status <;>
    simp [locateExchange, getByClientMessageId, husers, scalarOneOrNone, reuseExchange,
      getAssistantReply, hreplies, hstatus, bind, Except.bind]

theorem WellFormed.locate_refused_iff (h : WellFormed rows) {user assistant : Message}
    (huser : user ∈ rows)
    (hclient : hasClientId conversationId (some request.clientMessageId) user = true)
    (hassistant : assistant ∈ rows) (hreply : isReplyTo user.id assistant = true) :
    locateExchange rows conversationId request streaming gen = .error requestInProgress ↔
      assistant.status.inProgress = true := by
  rw [h.locate_eq huser hclient hassistant hreply]
  cases assistant.status <;> simp [MessageStatus.inProgress]

theorem Located.not_needsGeneration (h : WellFormed rows)
    (hloc : Located rows conversationId request streaming gen ex) {user assistant : Message}
    (huser : user ∈ rows)
    (hclient : hasClientId conversationId (some request.clientMessageId) user = true)
    (hassistant : assistant ∈ rows) (hreply : isReplyTo user.id assistant = true)
    (hstatus : assistant.status = .completed) : ex.needsGeneration = false := by
  cases hloc with
  | new hnone _ _ _ =>
      rw [hnone user huser] at hclient
      cases hclient
  | unanswered user' huser' hclient' hnone _ =>
      rw [h.client_unique huser huser' hclient hclient'] at hnone
      rw [hnone assistant hassistant] at hreply
      cases hreply
  | replay user' assistant' huser' hclient' hassistant' hreply' hstatus' => rfl
  | retry user' assistant' huser' hclient' hassistant' hreply' hstatus' =>
      rw [h.client_unique huser huser' hclient hclient'] at hreply'
      rw [h.reply_unique hassistant hassistant' hreply hreply', hstatus] at hstatus'
      cases hstatus'

theorem Located.opens (hloc : Located rows conversationId request streaming gen ex)
    (h : WellFormed rows) (hneeds : ex.needsGeneration = true) :
    ex.assistantMessage ∈ ex.rows ∧ ex.assistantMessage.role = .assistant ∧
      ex.assistantMessage.status = openStatus streaming ∧
      ∀ m ∈ rows, m.id = ex.assistantMessage.id → m.status = .failed := by
  cases hloc with
  | new hclient huser hassistant hne =>
      refine ⟨by simp, rfl, rfl, ?_⟩
      intro m hm hid
      exact absurd (List.mem_map.mpr ⟨m, hm, hid⟩) hassistant
  | unanswered user huser hclient hreply hassistant =>
      refine ⟨by simp, rfl, rfl, ?_⟩
      intro m hm hid
      exact absurd (List.mem_map.mpr ⟨m, hm, hid⟩) hassistant
  | replay user assistant huser hclient hassistant hreply hcompleted => cases hneeds
  | retry user assistant huser hclient hassistant hreply hfailed =>
      refine ⟨mem_updateMessage_self hassistant rfl, (isReplyTo_iff.mp hreply).2, rfl, ?_⟩
      intro m hm hid
      rw [h.eq_of_id_eq hm hassistant hid]
      exact hfailed

end Located

/-! ## The transaction -/

section Prepare

variable {py : PyRuntime} {config : AppConfig} {store : Store} {userId conversationId : UUID}
  {request : MessageSendRequest} {streaming : Bool} {gen : Generated}

theorem buildPrepared_eq_ok {conversation : Conversation} {user assistant : Message}
    {messages : List LLMMessage} {memoryIds : List UUID} {needsGeneration reused : Bool}
    {p : PreparedExchange}
    (h : buildPreparedFromContext py config conversation user assistant request messages
      memoryIds needsGeneration reused = .ok p) :
    p.provider = orDefault conversation.provider config.defaultLlmProvider ∧
      p.userMessage = user ∧ p.assistantMessage = assistant ∧
      p.needsGeneration = needsGeneration ∧ p.reused = reused := by
  unfold buildPreparedFromContext at h
  split at h
  · cases h
  · simp only [Except.ok.injEq] at h
    subst h
    exact ⟨rfl, rfl, rfl, rfl, rfl⟩

structure Describes (config : AppConfig) (conversation : Conversation) (ex : Exchange)
    (p : PreparedExchange) : Prop where
  provider : p.provider = orDefault conversation.provider config.defaultLlmProvider
  userMessage : p.userMessage = ex.userMessage
  assistantMessage : p.assistantMessage = ex.assistantMessage
  needsGeneration : p.needsGeneration = ex.needsGeneration
  reused : p.reused = ex.reused

theorem prepareExchange_error {e : Exn} {store' : Store}
    (h : prepareExchange py config store userId conversationId request streaming gen =
      (.error e, store')) : store'.messages = store.messages := by
  unfold prepareExchange at h
  split at h
  · cases h
    rfl
  · split at h
    · cases h
      rfl
    · split at h
      · cases h
        rfl
      · split at h
        · simp only at h
          split at h
          · cases h
            rfl
          · cases h
        · simp only [Prod.mk.injEq] at h
          rw [← h.2]

theorem prepareExchange_ok {p : PreparedExchange} {store' : Store}
    (h : prepareExchange py config store userId conversationId request streaming gen =
      (.ok p, store')) :
    ∃ conversation ex,
      getOwnedConversation store.conversations conversationId userId = some conversation ∧
        Located store.messages conversationId request streaming gen ex ∧
        Describes config conversation ex p ∧ store'.messages = ex.rows := by
  unfold prepareExchange at h
  split at h
  · cases h
  · split at h
    · cases h
    · rename_i conversation hconversation
      split at h
      · cases h
      · rename_i ex hlocate
        have hloc := locateExchange_located hlocate
        refine ⟨conversation, ex, hconversation, hloc, ?_⟩
        split at h
        · rename_i hneeds
          simp only at h
          split at h
          · cases h
          · rename_i p' hbuilt
            simp only [Prod.mk.injEq, Except.ok.injEq] at h
            obtain ⟨rfl, rfl⟩ := h
            obtain ⟨h₁, h₂, h₃, h₄, h₅⟩ := buildPrepared_eq_ok hbuilt
            exact ⟨⟨h₁, h₂, h₃, by rw [h₄, hneeds], h₅⟩, rfl⟩
        · rename_i hneeds
          simp only [Prod.mk.injEq] at h
          obtain ⟨hbuilt, rfl⟩ := h
          obtain ⟨h₁, h₂, h₃, h₄, h₅⟩ := buildPrepared_eq_ok hbuilt
          cases hloc with
          | replay user assistant huser hclient hassistant hreply hcompleted =>
              exact ⟨⟨h₁, h₂, h₃, h₄, h₅⟩, rfl⟩
          | _ => exact absurd rfl hneeds

end Prepare

end Astra.Chat
