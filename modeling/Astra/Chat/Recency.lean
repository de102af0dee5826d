import Astra.Chat.Invariants

/-!
# The message that is answered

The history of a generation is selected by recency and status, whichever exchange
is being generated.  Both clock readings that matter, for the rows of an exchange
and for a completed reply, are made under the lock of the conversation row, so a
strictly increasing clock orders them as the transactions are ordered.
-/

namespace Astra.Chat

open Astra.Foundation Astra.Platform Astra.Persistence Astra.LLM Astra.Services

/-! ## The clock -/

structure ClockedState where
  chat : ChatState := {}
  /-- The last reading made under the lock of a conversation. -/
  clock : UUID → Timestamp := fun _ => 0

def reading (s : ChatState) : ChatLabel → Option (UUID × Timestamp)
  | .arrive _ a => some (a.conversationId, a.gen.now)
  | .resume i _ now =>
      match s.phases i with
      | .finalizing _ p _ _ .commit =>
          (getMessage s.store.messages p.assistantMessage.id).map fun m => (m.conversationId, now)
      | _ => none
  | .service .. => none

def tick (clock : UUID → Timestamp) : Option (UUID × Timestamp) → Option (UUID → Timestamp)
  | none => some clock
  | some (conversationId, now) =>
      if clock conversationId < now then some (Function.update clock conversationId now) else none

/-- A step of the chat system under a strictly increasing clock. -/
def ClockedState.step (d : Deployment) (s : ClockedState) (label : ChatLabel) :
    Option ClockedState :=
  (tick s.clock (reading s.chat label)).bind fun clock =>
    (s.chat.step d label).map fun chat => ⟨chat, clock⟩

section Clock

variable {d : Deployment} {s t : ClockedState} {label : ChatLabel} {clock clock' : UUID → Timestamp}

theorem ClockedState.step_cases (h : s.step d label = some t) :
    tick s.clock (reading s.chat label) = some t.clock ∧ s.chat.step d label = some t.chat := by
  obtain ⟨clock, hclock, h⟩ := Option.bind_eq_some_iff.mp h
  obtain ⟨chat, hchat, rfl⟩ := Option.map_eq_some_iff.mp h
  exact ⟨hclock, hchat⟩

theorem tick_some {conversationId : UUID} {now : Timestamp}
    (h : tick clock (some (conversationId, now)) = some clock') :
    clock conversationId < now ∧ clock' = Function.update clock conversationId now := by
  simp only [tick] at h
  split at h
  · rename_i hlt
    simp only [Option.some.injEq] at h
    exact ⟨hlt, h.symm⟩
  · cases h

theorem tick_le {read : Option (UUID × Timestamp)} (h : tick clock read = some clock')
    (conversationId : UUID) : clock conversationId ≤ clock' conversationId := by
  cases read with
  | none =>
      simp only [tick, Option.some.injEq] at h
      rw [h]
  | some r =>
      obtain ⟨hlt, rfl⟩ := tick_some h
      by_cases heq : conversationId = r.1
      · subst heq
        simpa using Int.le_of_lt hlt
      · simp [heq]

end Clock

/-! ## Creation times -/

structure CreatedBy (now : Timestamp) (m : Message) : Prop where
  created : m.createdAt ≤ now + 1
  completed : m.status = .completed → m.createdAt ≤ now

theorem CreatedBy.mono {now now' : Timestamp} {m : Message} (h : CreatedBy now m)
    (hle : now ≤ now') : CreatedBy now' m := by
  constructor
  · exact Int.le_trans h.created (Int.add_le_add_right hle 1)
  · intro hstatus
    exact Int.le_trans (h.completed hstatus) hle

theorem CreatedBy.rewrite {now : Timestamp} {old m : Message} (h : CreatedBy now old)
    (hcreatedAt : m.createdAt = old.createdAt)
    (hstatus : m.status = .completed → old.status = .completed) : CreatedBy now m := by
  constructor
  · rw [hcreatedAt]
    exact h.created
  · intro hcompleted
    rw [hcreatedAt]
    exact h.completed (hstatus hcompleted)

/-- Every row of the table was created by the reading of its conversation. -/
def DatedRows (clock : UUID → Timestamp) (rows : List Message) : Prop :=
  ∀ m ∈ rows, CreatedBy (clock m.conversationId) m

theorem DatedRows.mono {clock clock' : UUID → Timestamp} {rows : List Message}
    (h : DatedRows clock rows) (hle : ∀ id, clock id ≤ clock' id) : DatedRows clock' rows :=
  fun m hm => (h m hm).mono (hle m.conversationId)

theorem DatedRows.append {clock : UUID → Timestamp} {rows : List Message} {m : Message}
    (h : DatedRows clock rows) (hm : CreatedBy (clock m.conversationId) m) :
    DatedRows clock (rows ++ [m]) := by
  intro m' hm'
  rcases List.mem_append.mp hm' with hm' | hm'
  · exact h m' hm'
  · rw [List.mem_singleton.mp hm']
    exact hm

theorem DatedRows.update {clock : UUID → Timestamp} {rows : List Message} {id : UUID}
    {change : Message → Message} (h : DatedRows clock rows)
    (hkey : ∀ m, messageKey (change m) = messageKey m)
    (hchange : ∀ m ∈ rows, m.id = id → CreatedBy (clock m.conversationId) (change m)) :
    DatedRows clock (updateMessage id change rows) := by
  intro m hm
  rcases mem_updateWhere.mp hm with ⟨old, hold, hid, rfl⟩ | ⟨hm, -⟩
  · have hconversation : (change old).conversationId = old.conversationId :=
      congrArg MessageKey.conversationId (hkey old)
    rw [hconversation]
    exact hchange old hold (by simpa using hid)
  · exact h m hm

private theorem createdBy_newUserMessage (gen : Generated) (conversationId : UUID)
    (request : MessageSendRequest) :
    CreatedBy gen.now (newUserMessage gen conversationId request) := by
  constructor
  · exact Int.le_add_one (Int.le_refl gen.now)
  · simp [newUserMessage]

theorem openStatus_ne_completed (streaming : Bool) : openStatus streaming ≠ .completed := by
  cases streaming <;> simp [openStatus]

private theorem createdBy_newAssistantMessage (gen : Generated)
    (conversationId userMessageId : UUID)
    (streaming : Bool) :
    CreatedBy gen.now (newAssistantMessage gen conversationId userMessageId streaming) := by
  constructor
  · simp [newAssistantMessage]
  · intro hstatus
    exact absurd hstatus (openStatus_ne_completed streaming)

theorem Located.dated {rows : List Message} {conversationId : UUID}
    {request : MessageSendRequest} {streaming : Bool} {gen : Generated} {ex : Exchange}
    {clock : UUID → Timestamp} (hloc : Located rows conversationId request streaming gen ex)
    (h : DatedRows clock rows) (hnow : clock conversationId = gen.now) :
    DatedRows clock ex.rows := by
  have huser : CreatedBy (clock conversationId) (newUserMessage gen conversationId request) := by
    rw [hnow]
    exact createdBy_newUserMessage gen conversationId request
  have hassistant (userMessageId : UUID) : CreatedBy (clock conversationId)
      (newAssistantMessage gen conversationId userMessageId streaming) := by
    rw [hnow]
    exact createdBy_newAssistantMessage gen conversationId userMessageId streaming
  cases hloc with
  | new hclient hid hid' hne => exact (h.append huser).append (hassistant gen.userMessageId)
  | unanswered user hmem hclient hreply hid => exact h.append (hassistant user.id)
  | replay user assistant hmem hclient hmem' hreply hstatus => exact h
  | retry user assistant hmem hclient hmem' hreply hstatus =>
      refine h.update (messageKey_resetForRetry streaming gen.now) ?_
      intro m hm _
      refine (h m hm).rewrite rfl ?_
      intro hcompleted
      exact absurd hcompleted (openStatus_ne_completed streaming)

/-! ## The invariant -/

structure Dated (s : ClockedState) : Prop where
  table : TableInvariant s.chat
  sound : ∀ i, (s.chat.phases i).Sound
  rows : DatedRows s.clock s.chat.store.messages

theorem Dated.initial (clock : UUID → Timestamp) : Dated { clock := clock } where
  table := TableInvariant.initial
  sound _ := trivial
  rows _ hm := absurd hm List.not_mem_nil

section Step

variable {d : Deployment} {s t : ClockedState} {label : ChatLabel}

theorem arrive_dated (h : Dated s) {a : Arrival}
    (hclock : tick s.clock (some (a.conversationId, a.gen.now)) = some t.clock) :
    DatedRows t.clock (a.prepare d s.chat.store).2.messages := by
  have hrows : DatedRows t.clock s.chat.store.messages := h.rows.mono (tick_le hclock)
  rcases a.prepare_messages (d := d) s.chat.store with ⟨hmessages, -⟩ | ⟨ex, hloc, hmessages, -⟩
  · rw [hmessages]
    exact hrows
  · rw [hmessages]
    refine hloc.dated hrows ?_
    rw [(tick_some hclock).2, Function.update_self]

theorem failMessage_dated {clock : UUID → Timestamp} {rows : List Message}
    (h : DatedRows clock rows)
    (content : String) (e : Exn) (now : Timestamp) (id : UUID) :
    DatedRows clock (updateMessage id (failMessage content e now) rows) := by
  refine h.update (fun _ => rfl) ?_
  intro m hm _
  exact (h m hm).rewrite rfl (by simp [failMessage])

theorem completeMessage_dated {clock clock' : UUID → Timestamp} {rows : List Message}
    {m : Message} {reply : FinalReply} {now : Timestamp} (hids : (rows.map Message.id).Nodup)
    (h : DatedRows clock rows) (hm : m ∈ rows)
    (hclock : tick clock (some (m.conversationId, now)) = some clock') :
    DatedRows clock' (updateMessage m.id (completeMessage reply now) rows) := by
  obtain ⟨hlt, hclock'⟩ := tick_some hclock
  have hcreated : m.createdAt ≤ now := Int.le_trans (h m hm).created (Int.add_one_le_of_lt hlt)
  refine (h.mono (tick_le hclock)).update (fun _ => rfl) ?_
  intro old hold hid
  obtain rfl := eq_of_key_eq hids hold hm hid
  rw [hclock', Function.update_self]
  constructor
  · exact Int.le_add_one hcreated
  · intro _
    exact hcreated

theorem resume_dated (h : Dated s) {i : Nat} {input : Input} {now : Timestamp} {phase : Phase}
    {store : Store} (hstep : RequestStep s.chat.store now (s.chat.phases i) input phase store)
    (hclock : tick s.clock (reading s.chat (.resume i input now)) = some t.clock) :
    DatedRows t.clock store.messages := by
  have hrows : DatedRows t.clock s.chat.store.messages := h.rows.mono (tick_le hclock)
  have hcommit {p : PreparedExchange} {m : Message} {streaming : Bool} {reply : FinalReply}
      (hphase : s.chat.phases i = .finalizing streaming p reply none .commit)
      (hrow : getMessage s.chat.store.messages p.assistantMessage.id = some m) :
      DatedRows t.clock
        (finalizeSuccess reply p.assistantMessage.id now s.chat.store).messages := by
    obtain ⟨hm, hid⟩ := getMessage_mem hrow
    rw [reading, hphase] at hclock
    simp only [hrow, Option.map_some] at hclock
    rw [finalizeSuccess_messages reply now hrow, ← hid]
    exact completeMessage_dated h.table.messages.ids h.rows hm hclock
  generalize hphase : s.chat.phases i = before at hstep hcommit
  cases hstep with
  | finalCommits streaming p reply m hrow => exact hcommit rfl hrow
  | finalCommitsRaising streaming p reply m hrow e he => exact hcommit rfl hrow
  | recordCommits streaming p content caught handler result stage' hsound' hbefore' =>
      exact failMessage_dated hrows content caught now p.assistantMessage.id
  | _ => exact hrows

theorem update_sound {phases : Nat → Phase} {i : Nat} {phase : Phase}
    (h : ∀ j, (phases j).Sound) (hphase : phase.Sound) (j : Nat) :
    (Function.update phases i phase j).Sound := by
  by_cases hji : j = i
  · subst hji
    simpa using hphase
  · simpa [hji] using h j

theorem step_dated (h : Dated s) (hstep : s.step d label = some t) : Dated t := by
  obtain ⟨hclock, hchat⟩ := ClockedState.step_cases hstep
  have htable : TableInvariant t.chat := step_table h.table hchat
  obtain ⟨chat, clock⟩ := t
  cases label with
  | arrive i a =>
      obtain ⟨-, -, rfl⟩ := ChatState.step_arrive hchat
      exact ⟨htable, update_sound h.sound (start_sound _ _ _).1, arrive_dated h hclock⟩
  | resume i input now =>
      obtain ⟨phase, store, hresume, rfl⟩ := ChatState.step_resume hchat
      have hcases := resume_cases (h.sound i) (h.table.row i) hresume
      exact ⟨htable, update_sound h.sound (hcases.sound (h.sound i)), resume_dated h hcases hclock⟩
  | service userId action =>
      obtain rfl := ChatState.step_service hchat
      simp only [reading, tick, Option.some.injEq] at hclock
      subst hclock
      refine ⟨htable, h.sound, ?_⟩
      rw [applyService_messages]
      exact h.rows

end Step

theorem run_dated {d : Deployment} {clock : UUID → Timestamp} {labels : List ChatLabel}
    {s : ClockedState} (hrun : exec (ClockedState.step d) { clock := clock } labels = some s) :
    Dated s :=
  exec_invariant' (fun _ _ _ h hstep => step_dated h hstep) (Dated.initial clock) hrun

/-! ## The newest row of the context -/

/-- The newest row that the history of the conversation can hold. -/
structure Newest (rows : List Message) (conversationId : UUID) (m : Message) : Prop where
  mem : m ∈ rows
  selected : inContext conversationId m = true
  newest : ∀ m' ∈ rows, inContext conversationId m' = true → newestFirst m m'

theorem getLast?_listContext {rows : List Message} (hids : (rows.map Message.id).Nodup)
    {limit : Nat} (hlimit : 1 ≤ limit) {conversationId : UUID} {m : Message} :
    (listContext rows conversationId limit).getLast? = some m ↔ Newest rows conversationId m := by
  have hanti (r : Message) (hr : r ∈ rows) (r' : Message) (hr' : r' ∈ rows)
      (h : newestFirst r r') (h' : newestFirst r' r) : r = r' := by
    rw [newestFirst_iff] at h h'
    exact eq_of_key_eq hids hr hr' (congrArg (fun k => (ofLex k).2) (le_antisymm h' h))
  rw [listContext, List.getLast?_reverse, head?_selectOrdered hlimit hanti]
  constructor
  · rintro ⟨hm, hselected, hnewest⟩
    exact ⟨hm, hselected, hnewest⟩
  · rintro ⟨hm, hselected, hnewest⟩
    exact ⟨hm, hselected, hnewest⟩

/-! ## The last message of the request -/

/-- The last message of the request is the message that the exchange stores. -/
def AnswersOwnMessage (p : PreparedExchange) : Prop :=
  ∃ m, p.llmRequest.messages.getLast? = some m ∧ m.role = .user ∧
    m.content = p.userMessage.content

/--
The message has not been stored before, or the newest row of the context is a user
row with its content.
-/
def NewestIsOwn (rows : List Message) (conversationId clientMessageId : UUID) : Prop :=
  ∀ user ∈ rows, hasClientId conversationId (some clientMessageId) user = true →
    ∃ m, Newest rows conversationId m ∧ m.role = .user ∧ m.content = user.content

section Prepare

variable {py : PyRuntime} {config : AppConfig} {store store' : Store}
  {userId conversationId : UUID} {request : MessageSendRequest} {streaming : Bool}
  {gen : Generated} {p : PreparedExchange}

private theorem buildPrepared_messages {conversation : Conversation} {user assistant : Message}
    {messages : List LLMMessage} {memoryIds : List UUID} {reused : Bool}
    (h : buildPreparedFromContext py config conversation user assistant request messages
      memoryIds true reused = .ok p) : p.llmRequest.messages = messages := by
  simp only [buildPreparedFromContext, Bool.true_and] at h
  split at h
  · cases h
  · rename_i hsome
    simp only [Except.ok.injEq] at h
    subst h
    simp

private theorem prepareExchange_history
    (h : prepareExchange py config store userId conversationId request streaming gen =
      (.ok p, store')) (hneeds : p.needsGeneration = true) :
    ∃ sections, p.llmRequest.messages = systemMessages sections ++
      historyMessages (listContext store'.messages conversationId
        config.chatContextMessageLimit) := by
  unfold prepareExchange at h
  split at h
  · cases h
  · split at h
    · cases h
    · split at h
      · cases h
      · split at h
        · simp only at h
          split at h
          · cases h
          · rename_i prepared hbuilt
            simp only [Prod.mk.injEq, Except.ok.injEq] at h
            obtain ⟨rfl, rfl⟩ := h
            exact ⟨_, buildPrepared_messages hbuilt⟩
        · simp only [Prod.mk.injEq] at h
          obtain ⟨-, -, -, hnone, -⟩ := buildPrepared_eq_ok h.1
          rw [hnone] at hneeds
          cases hneeds

private theorem getLast?_prepared (sections : List String) {history : List Message} {m : Message}
    (hlast : history.getLast? = some m) :
    (systemMessages sections ++ historyMessages history).getLast? =
      some { role := llmRole m.role, content := m.content } := by
  rw [List.getLast?_append, historyMessages, List.getLast?_map, hlast]
  rfl

private theorem llmRole_eq_user {role : MessageRole} : llmRole role = .user ↔ role = .user := by
  cases role <;> simp [llmRole]

theorem answersOwnMessage_iff
    (h : prepareExchange py config store userId conversationId request streaming gen =
      (.ok p, store')) (hneeds : p.needsGeneration = true)
    (hids : (store'.messages.map Message.id).Nodup) {m : Message}
    (hnewest : Newest store'.messages conversationId m) :
    AnswersOwnMessage p ↔ m.role = .user ∧ m.content = p.userMessage.content := by
  obtain ⟨sections, hmessages⟩ := prepareExchange_history h hneeds
  have hlast := getLast?_prepared sections
    ((getLast?_listContext hids config.chatContextMessageLimit_pos).mpr hnewest)
  rw [AnswersOwnMessage, hmessages, hlast]
  simp [llmRole_eq_user]

theorem openStatus_not_inContext (streaming : Bool) {m : Message}
    (hstatus : m.status = openStatus streaming) :
    inContext conversationId m = false := by
  cases hs : streaming <;> simp [inContext, hstatus, hs, openStatus]

private theorem Located.context_rows {rows : List Message} {ex : Exchange}
    (hloc : Located rows conversationId request streaming gen ex) {user : Message}
    (huser : user ∈ rows)
    (hclient : hasClientId conversationId (some request.clientMessageId) user = true)
    (hids : (rows.map Message.id).Nodup) {m : Message}
    (hselected : inContext conversationId m = true) : m ∈ ex.rows ↔ m ∈ rows := by
  have hopen {m' : Message} (hstatus : m'.status = openStatus streaming) : m ≠ m' := by
    rintro rfl
    rw [openStatus_not_inContext streaming hstatus] at hselected
    cases hselected
  cases hloc with
  | new hnone hid hid' hne =>
      rw [hnone user huser] at hclient
      cases hclient
  | unanswered user' hmem hclient' hreply hid =>
      simp only [List.mem_append, List.mem_singleton]
      exact or_iff_left (hopen rfl)
  | replay user' assistant hmem hclient' hmem' hreply hstatus => exact Iff.rfl
  | retry user' assistant hmem hclient' hmem' hreply hfailed =>
      constructor
      · intro hm
        rcases mem_updateWhere.mp hm with ⟨old, hold, hid, rfl⟩ | ⟨hm, -⟩
        · exact absurd rfl (hopen rfl)
        · exact hm
      · intro hm
        refine mem_updateMessage_of_ne hm ?_
        intro hid
        rw [eq_of_key_eq hids hm hmem' hid] at hselected
        simp [inContext, hfailed] at hselected

end Prepare

section Newest

variable {rows rows' : List Message} {conversationId : UUID} {m : Message}

private theorem exists_newest (hids : (rows.map Message.id).Nodup) (hm : m ∈ rows)
    (hselected : inContext conversationId m = true) :
    ∃ newest, Newest rows conversationId newest := by
  have hsome : (listContext rows conversationId 1).getLast?.isSome = true := by
    have hmem : m ∈ (rows.filter (inContext conversationId)).insertionSort newestFirst := by
      rw [List.mem_insertionSort, List.mem_filter]
      exact ⟨hm, hselected⟩
    rw [listContext, List.getLast?_reverse, selectOrdered, List.head?_take, if_neg (by omega)]
    exact List.isSome_head?.mpr (List.ne_nil_of_mem hmem)
  obtain ⟨newest, hnewest⟩ := Option.isSome_iff_exists.mp hsome
  exact ⟨newest, (getLast?_listContext hids (Nat.le_refl 1)).mp hnewest⟩

private theorem newest_congr
    (h : ∀ m, inContext conversationId m = true → (m ∈ rows' ↔ m ∈ rows)) :
    Newest rows' conversationId m ↔ Newest rows conversationId m := by
  constructor
  · intro hm
    exact ⟨(h m hm.selected).mp hm.mem, hm.selected,
      fun m' hm' hselected => hm.newest m' ((h m' hselected).mpr hm') hselected⟩
  · intro hm
    exact ⟨(h m hm.selected).mpr hm.mem, hm.selected,
      fun m' hm' hselected => hm.newest m' ((h m' hselected).mp hm') hselected⟩

theorem Newest.unique {newest : Message} (hids : (rows.map Message.id).Nodup)
    (h : Newest rows conversationId newest) (hm : Newest rows conversationId m) : newest = m := by
  have hlast := (getLast?_listContext hids (Nat.le_refl 1)).mpr h
  rw [(getLast?_listContext hids (Nat.le_refl 1)).mpr hm, Option.some.injEq] at hlast
  exact hlast.symm

end Newest

/-! ## The guarantee -/

section Guarantee

variable {py : PyRuntime} {config : AppConfig} {store store' : Store}
  {userId conversationId : UUID} {request : MessageSendRequest} {streaming : Bool}
  {gen : Generated} {p : PreparedExchange}

private theorem newest_newUserMessage {rows : List Message}
    (hpast : ∀ m ∈ rows, m.conversationId = conversationId → m.status = .completed →
      m.createdAt < gen.now) :
    Newest (rows ++ [newUserMessage gen conversationId request] ++
        [newAssistantMessage gen conversationId gen.userMessageId streaming])
      conversationId (newUserMessage gen conversationId request) where
  mem := by simp
  selected := by simp [inContext, newUserMessage]
  newest m hm hselected := by
    simp only [List.append_assoc, List.mem_append, List.mem_singleton] at hm
    rcases hm with hm | rfl | rfl
    · simp only [inContext, Bool.and_eq_true, beq_iff_eq] at hselected
      exact Or.inl (hpast m hm hselected.1.1 hselected.1.2)
    · exact Or.inr ⟨rfl, Nat.le_refl _⟩
    · rw [openStatus_not_inContext streaming rfl] at hselected
      cases hselected

theorem prepareExchange_answers_iff (hrows : WellFormed store.messages)
    (hpast : ∀ m ∈ store.messages, m.conversationId = conversationId → m.status = .completed →
      m.createdAt < gen.now)
    (h : prepareExchange py config store userId conversationId request streaming gen =
      (.ok p, store')) (hneeds : p.needsGeneration = true) :
    AnswersOwnMessage p ↔
      NewestIsOwn store.messages conversationId request.clientMessageId := by
  obtain ⟨conversation, ex, -, hloc, hdescribes, hmessages⟩ := prepareExchange_ok h
  have hids : (store'.messages.map Message.id).Nodup := by
    rw [hmessages]
    exact (hloc.wellFormed hrows).ids
  have hstored {user : Message} (huser : user ∈ store.messages)
      (hclient : hasClientId conversationId (some request.clientMessageId) user = true)
      (hown : ex.userMessage = user) :
      AnswersOwnMessage p ↔
        NewestIsOwn store.messages conversationId request.clientMessageId := by
    have hselected : inContext conversationId user = true := by
      have hrole := hrows.client_role huser hclient
      simp [inContext, (hasClientId_iff.mp hclient).1, hrole, hrows.userCompleted user huser hrole]
    obtain ⟨newest, hnewest⟩ := exists_newest hrows.ids huser hselected
    have hsame (m : Message) (hm : inContext conversationId m = true) :
        m ∈ store'.messages ↔ m ∈ store.messages := by
      rw [hmessages]
      exact hloc.context_rows huser hclient hrows.ids hm
    rw [answersOwnMessage_iff h hneeds hids ((newest_congr hsame).mpr hnewest),
      hdescribes.userMessage, hown]
    constructor
    · intro hnewestOwn user' huser' hclient'
      rw [hrows.client_unique huser huser' hclient hclient']
      exact ⟨newest, hnewest, hnewestOwn⟩
    · intro hcondition
      obtain ⟨m, hm, hown'⟩ := hcondition user huser hclient
      rw [hnewest.unique hrows.ids hm]
      exact hown'
  rw [hdescribes.needsGeneration] at hneeds
  cases hloc with
  | new hnone hid hid' hne =>
      have hnewest : Newest store'.messages conversationId
          (newUserMessage gen conversationId request) := by
        rw [hmessages]
        exact newest_newUserMessage hpast
      rw [answersOwnMessage_iff h (hdescribes.needsGeneration.trans hneeds) hids hnewest,
        hdescribes.userMessage]
      constructor
      · intro _ user huser hclient
        rw [hnone user huser] at hclient
        cases hclient
      · intro _
        exact ⟨rfl, rfl⟩
  | unanswered user huser hclient hreply hid => exact hstored huser hclient rfl
  | replay user assistant huser hclient hassistant hreply hstatus => cases hneeds
  | retry user assistant huser hclient hassistant hreply hstatus =>
      exact hstored huser hclient rfl

end Guarantee

/-- The model is asked the message of the exchange exactly when no newer row comes last. -/
theorem own_message_answered_iff (d : Deployment) {clock : UUID → Timestamp}
    {labels : List ChatLabel} {s : ClockedState}
    (hrun : exec (ClockedState.step d) { clock := clock } labels = some s) (a : Arrival)
    (hclock : s.clock a.conversationId < a.gen.now) {p : PreparedExchange} {store' : Store}
    (hprepare : prepareExchange d.py d.config s.chat.store a.userId a.conversationId a.request
      a.streaming a.gen = (.ok p, store')) (hneeds : p.needsGeneration = true) :
    AnswersOwnMessage p ↔
      NewestIsOwn s.chat.store.messages a.conversationId a.request.clientMessageId := by
  have hs : Dated s := run_dated hrun
  refine prepareExchange_answers_iff hs.table.messages ?_ hprepare hneeds
  rintro m hm hconversation hcompleted
  have hcreated := (hs.rows m hm).completed hcompleted
  rw [hconversation] at hcreated
  exact Int.lt_of_le_of_lt hcreated hclock

def messageArrival (content : String) (clientMessageId : UUID) (gen : Generated) : Arrival where
  streaming := false
  service := .direct
  userId := 1
  conversationId := 10
  request := { content := content, clientMessageId := clientMessageId }
  gen := gen

def generationFails (i : Nat) (now : Timestamp) : List ChatLabel :=
  [.resume i (.awaited (.raised (runtimeError "provider"))) now, .resume i (.awaited .done) now,
    .resume i (.awaited .done) now, .resume i (.awaited .done) now]

def generationCompletes (i : Nat) (now : Timestamp) : List ChatLabel :=
  .resume i (.response { content := "Reply", model := "m", provider := "ollama" }) now ::
    List.replicate 5 (.resume i (.awaited .done) now)

def firstFails : List ChatLabel :=
  openConversation10 (some "ollama") ::
    .arrive 0 (messageArrival "First" 5 ⟨20, 21, 100⟩) :: generationFails 0 110

def secondArrival : Arrival := messageArrival "Second" 6 ⟨30, 31, 200⟩

def firstRetried : Arrival := messageArrival "First" 5 ⟨40, 41, 300⟩

def ClockedState.prepared (s : ClockedState) (a : Arrival) : Option PreparedExchange :=
  (prepareExchange defaultDeployment.py defaultDeployment.config s.chat.store a.userId
    a.conversationId a.request a.streaming a.gen).1.toOption

private theorem ClockedState.prepared_some {s : ClockedState} {a : Arrival} {p : PreparedExchange}
    (h : s.prepared a = some p) :
    ∃ store', prepareExchange defaultDeployment.py defaultDeployment.config s.chat.store a.userId
      a.conversationId a.request a.streaming a.gen = (.ok p, store') := by
  unfold ClockedState.prepared at h
  generalize prepareExchange defaultDeployment.py defaultDeployment.config s.chat.store a.userId
    a.conversationId a.request a.streaming a.gen = result at h
  obtain ⟨result, store'⟩ := result
  cases result with
  | error e => cases h
  | ok p' =>
      simp only [Except.toOption, Option.some.injEq] at h
      subst h
      exact ⟨store', rfl⟩

theorem own_message_answered_iff_second :
    ∃ s p, exec (ClockedState.step defaultDeployment) {} firstFails = some s ∧
      s.prepared secondArrival = some p ∧ AnswersOwnMessage p := by
  have hview : ((exec (ClockedState.step defaultDeployment) {} firstFails).bind fun s =>
      (s.prepared secondArrival).map fun p => (s.clock 10, p.needsGeneration,
        s.chat.store.messages.any (hasClientId 10 (some 6)))) = some (100, true, false) := by
    decide +kernel
  obtain ⟨s, hs, hview⟩ := Option.bind_eq_some_iff.mp hview
  obtain ⟨p, hp, hview⟩ := Option.map_eq_some_iff.mp hview
  simp only [Prod.mk.injEq] at hview
  obtain ⟨hclock, hneeds, hunknown⟩ := hview
  obtain ⟨store', hprepare⟩ := ClockedState.prepared_some hp
  refine ⟨s, p, hs, hp, ?_⟩
  have hlater : s.clock 10 < 200 := by
    rw [hclock]
    decide
  refine (own_message_answered_iff defaultDeployment hs secondArrival hlater hprepare hneeds).mpr ?_
  intro user huser hclient
  exact absurd hclient (List.any_eq_false.mp hunknown user huser)

/-- The first message is sent once more after the second has been answered. -/
theorem older_retry_answers_newer_reply :
    ∃ s p, exec (ClockedState.step defaultDeployment) {}
        (firstFails ++ .arrive 1 secondArrival :: generationCompletes 1 210) = some s ∧
      s.clock 10 < firstRetried.gen.now ∧ s.prepared firstRetried = some p ∧
      p.needsGeneration = true ∧ p.userMessage.content = "First" ∧ ¬ AnswersOwnMessage p := by
  have hview : ((exec (ClockedState.step defaultDeployment) {}
      (firstFails ++ .arrive 1 secondArrival :: generationCompletes 1 210)).bind fun s =>
      (s.prepared firstRetried).map fun p => (s.clock 10, p.needsGeneration, p.userMessage.content,
        p.llmRequest.messages.getLast?.map fun m => (m.role, m.content))) =
          some (210, true, "First", some (.assistant, "Reply")) := by decide +kernel
  obtain ⟨s, hs, hview⟩ := Option.bind_eq_some_iff.mp hview
  obtain ⟨p, hp, hview⟩ := Option.map_eq_some_iff.mp hview
  simp only [Prod.mk.injEq] at hview
  obtain ⟨hclock, hneeds, hcontent, hlast⟩ := hview
  refine ⟨s, p, hs, ?_, hp, hneeds, hcontent, ?_⟩
  · rw [hclock]
    decide
  · rintro ⟨m, hm, hrole, -⟩
    rw [hm, Option.map_some, Option.some.injEq, Prod.mk.injEq, hrole] at hlast
    cases hlast.1

end Astra.Chat
