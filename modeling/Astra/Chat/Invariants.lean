import Astra.Chat.System

/-!
# Invariants of the chat system

Every row that a request may still write is in progress, and no two requests may
write the same row.  Rows in progress are refused to newcomers and only failed
rows are reopened, so a completed row is left alone.
-/

namespace Astra.Chat

open Astra.Foundation Astra.Platform Astra.Persistence Astra.LLM Astra.Services

/-! ## The message table -/

/-- The table is well formed, and the exchange of every request is in it. -/
structure TableInvariant (s : ChatState) : Prop where
  messages : WellFormed s.store.messages
  assistant : ∀ i p, (s.phases i).exchange = some p →
    ∃ k ∈ s.store.messages.map messageKey, k.id = p.assistantMessage.id ∧ k.role = .assistant

theorem TableInvariant.initial : TableInvariant {} where
  messages := WellFormed.nil
  assistant _ _ h := by cases h

theorem TableInvariant.row {s : ChatState} (h : TableInvariant s) (i : Nat)
    (p : PreparedExchange) (hp : (s.phases i).exchange = some p) :
    ∃ m, getMessage s.store.messages p.assistantMessage.id = some m := by
  obtain ⟨k, hk, hid, -⟩ := h.assistant i p hp
  obtain ⟨m, hm, rfl⟩ := List.mem_map.mp hk
  exact ⟨m, hid ▸ h.messages.getMessage_eq hm⟩

theorem finalizeSuccess_messages {store : Store} {a : UUID} (reply : FinalReply)
    (now : Timestamp) {m : Message} (hm : getMessage store.messages a = some m) :
    (finalizeSuccess reply a now store).messages =
      updateMessage a (completeMessage reply now) store.messages := by
  simp [finalizeSuccess, hm]

theorem StoreWrite.messages_cases {p : PreparedExchange} {now : Timestamp} {store store' : Store}
    (h : StoreWrite p now store store') :
    store'.messages = store.messages ∨
      ∃ change : Message → Message, (∀ m, messageKey (change m) = messageKey m) ∧
        store'.messages = updateMessage p.assistantMessage.id change store.messages := by
  cases h with
  | unchanged => exact Or.inl rfl
  | success reply =>
      cases hrow : getMessage store.messages p.assistantMessage.id with
      | none => exact Or.inl (by simp [finalizeSuccess, hrow])
      | some m =>
          exact Or.inr ⟨completeMessage reply now, fun _ => rfl,
            finalizeSuccess_messages reply now hrow⟩
  | failure content e => exact Or.inr ⟨failMessage content e now, fun _ => rfl, rfl⟩

theorem StoreWrite.wellFormed {p : PreparedExchange} {now : Timestamp} {store store' : Store}
    (h : StoreWrite p now store store') (hmessages : WellFormed store.messages)
    (hassistant : ∃ k ∈ store.messages.map messageKey,
      k.id = p.assistantMessage.id ∧ k.role = .assistant) :
    WellFormed store'.messages ∧
      store'.messages.map messageKey = store.messages.map messageKey := by
  rcases h.messages_cases with heq | ⟨change, hkey, heq⟩
  · rw [heq]
    exact ⟨hmessages, rfl⟩
  · rw [heq]
    refine ⟨hmessages.update_row hkey ?_, messageKey_updateMessage hkey⟩
    obtain ⟨k, hk, hid, hrole⟩ := hassistant
    obtain ⟨row, hrow, rfl⟩ := List.mem_map.mp hk
    intro m hm hma
    rw [hmessages.eq_of_id_eq hm hrow (hma.trans hid.symm)]
    exact hrole

section Table

variable {d : Deployment} {s t : ChatState}

theorem TableInvariant.update {i : Nat} {phase : Phase} {store : Store} (h : TableInvariant s)
    (hmessages : WellFormed store.messages)
    (hkeys : ∀ k ∈ s.store.messages.map messageKey, k ∈ store.messages.map messageKey)
    (hphase : ∀ p, phase.exchange = some p →
      ∃ k ∈ store.messages.map messageKey, k.id = p.assistantMessage.id ∧ k.role = .assistant) :
    TableInvariant { store := store, phases := Function.update s.phases i phase } where
  messages := hmessages
  assistant j p hp := by
    by_cases hji : j = i
    · subst hji
      simp only [Function.update_self] at hp
      exact hphase p hp
    · simp only [Function.update_of_ne hji] at hp
      obtain ⟨k, hk, hrest⟩ := h.assistant j p hp
      exact ⟨k, hkeys k hk, hrest⟩

theorem start_exchange {streaming : Bool} {service : ChatExecutionMode}
    {result : Except Exn PreparedExchange} {p : PreparedExchange}
    (h : (start d streaming service result).exchange = some p) : result = .ok p := by
  unfold start at h
  cases result with
  | error e => cases h
  | ok p' =>
      simp only at h
      split at h <;> split at h <;> try split at h
      all_goals
        first
        | cases h
          rfl
        | cases h

theorem Arrival.prepare_messages (a : Arrival) (store : Store) :
    ((a.prepare d store).2.messages = store.messages ∧
        ∀ p, (a.prepare d store).1 = .ok p → False) ∨
      ∃ ex, Located store.messages a.conversationId a.request a.streaming a.gen ex ∧
        (a.prepare d store).2.messages = ex.rows ∧
        ∀ p, (a.prepare d store).1 = .ok p →
          ∃ conversation, Describes d.config conversation ex p := by
  unfold Arrival.prepare
  cases hresult : prepareExchange d.py d.config store a.userId a.conversationId a.request
    a.streaming a.gen with
  | mk result store' =>
      cases result with
      | error e =>
          have hmessages := prepareExchange_error hresult
          left
          cases a.awaits <;> simp [awaitPrepare, hmessages]
      | ok p =>
          obtain ⟨conversation, ex, -, hloc, hdescribes, hmessages⟩ := prepareExchange_ok hresult
          cases a.awaits with
          | completed =>
              right
              refine ⟨ex, hloc, hmessages, ?_⟩
              intro p' hp'
              cases hp'
              exact ⟨conversation, hdescribes⟩
          | raisedAfterCommit e =>
              right
              exact ⟨ex, hloc, hmessages, fun p' hp' => by cases hp'⟩
          | _ =>
              left
              exact ⟨rfl, fun p' hp' => by cases hp'⟩

theorem arrive_table (h : TableInvariant s) (i : Nat) (a : Arrival) :
    TableInvariant
      { store := (a.prepare d s.store).2
        phases := Function.update s.phases i
          (start d a.streaming a.service (a.prepare d s.store).1) } := by
  rcases a.prepare_messages (d := d) s.store with ⟨hmessages, herror⟩ | ⟨ex, hloc, hmessages, hok⟩
  · refine h.update (hmessages ▸ h.messages) (fun k hk => hmessages ▸ hk) ?_
    intro p hp
    exact (herror p (start_exchange hp)).elim
  · refine h.update ?_ ?_ ?_
    · rw [hmessages]
      exact hloc.wellFormed h.messages
    · intro k hk
      rw [hmessages]
      exact hloc.key_mem hk
    · intro p hp
      obtain ⟨conversation, hdescribes⟩ := hok p (start_exchange hp)
      obtain ⟨-, hmem, hreply⟩ := hloc.exchange_mem
      rw [hmessages, hdescribes.assistantMessage]
      exact ⟨_, List.mem_map_of_mem hmem, rfl, (isReplyTo_iff.mp hreply).2⟩

theorem resume_table (h : TableInvariant s) {i : Nat} {input : Input} {now : Timestamp}
    {phase : Phase} {store : Store}
    (hstep : resume s.store (s.phases i) input now = some (phase, store)) :
    TableInvariant { store := store, phases := Function.update s.phases i phase } := by
  obtain ⟨p, hp, hkeeps, hwrite⟩ := resume_writes hstep
  obtain ⟨hmessages, hkeys⟩ := hwrite.wellFormed h.messages (h.assistant i p hp)
  refine h.update hmessages (fun k hk => hkeys ▸ hk) ?_
  intro p' hp'
  rcases hkeeps with hkeeps | ⟨outcome, rfl⟩
  · rw [hkeeps, Option.some.injEq] at hp'
    subst hp'
    rw [hkeys]
    exact h.assistant i p hp
  · cases hp'

theorem step_table {label : ChatLabel} (h : TableInvariant s) (hstep : s.step d label = some t) :
    TableInvariant t := by
  cases label with
  | arrive i a =>
      obtain ⟨-, -, rfl⟩ := ChatState.step_arrive hstep
      exact arrive_table h i a
  | resume i input now =>
      obtain ⟨phase, store, hresume, rfl⟩ := ChatState.step_resume hstep
      exact resume_table h hresume
  | service userId action =>
      obtain rfl := ChatState.step_service hstep
      have hmessages := applyService_messages d.config s.store userId action
      exact ⟨hmessages ▸ h.messages, by
        rw [hmessages]
        exact h.assistant⟩

theorem run_table {labels : List ChatLabel}
    (hrun : exec (ChatState.step d) {} labels = some s) : TableInvariant s :=
  exec_invariant' (fun _ _ _ h hstep => step_table h hstep) TableInvariant.initial hrun

end Table

/-! ## Ownership -/

structure ChatInvariant (s : ChatState) : Prop where
  table : TableInvariant s
  sound : ∀ i, (s.phases i).Sound
  returning : ∀ i, (s.phases i).Returning
  owned : ∀ i a, (s.phases i).writes = some a →
    ∃ m ∈ s.store.messages, m.id = a ∧ m.role = .assistant ∧ m.status.inProgress = true
  unique : ∀ i j a, (s.phases i).writes = some a → (s.phases j).writes = some a → i = j

theorem ChatInvariant.messages {s : ChatState} (h : ChatInvariant s) :
    WellFormed s.store.messages :=
  h.table.messages

theorem ChatInvariant.initial : ChatInvariant {} where
  table := TableInvariant.initial
  sound _ := trivial
  returning _ := trivial
  owned _ _ h := by cases h
  unique _ _ _ h := by cases h

/-! ## The step lemma -/

theorem inProgress_ne_failed {status : MessageStatus} (h : status.inProgress = true) :
    status ≠ .failed := by
  rintro rfl
  cases h

section Update

variable {s : ChatState} {i : Nat} {phase : Phase} {store : Store} {a : UUID}

theorem ChatInvariant.update (h : ChatInvariant s)
    (htable : TableInvariant { store := store, phases := Function.update s.phases i phase })
    (hsound : phase.Sound) (hreturning : phase.Returning)
    (hkeep : ∀ j ≠ i, ∀ b, (s.phases j).writes = some b → ∀ m ∈ s.store.messages, m.id = b →
      m.status.inProgress = true → m ∈ store.messages)
    (howned : ∀ b, phase.writes = some b →
      ∃ m ∈ store.messages, m.id = b ∧ m.role = .assistant ∧ m.status.inProgress = true)
    (hfree : ∀ b, phase.writes = some b → ∀ j ≠ i, (s.phases j).writes ≠ some b) :
    ChatInvariant { store := store, phases := Function.update s.phases i phase } where
  table := htable
  sound j := by
    by_cases hji : j = i
    · subst hji
      simpa using hsound
    · simpa [hji] using h.sound j
  returning j := by
    by_cases hji : j = i
    · subst hji
      simpa using hreturning
    · simpa [hji] using h.returning j
  owned j b hj := by
    by_cases hji : j = i
    · subst hji
      simp only [Function.update_self] at hj
      exact howned b hj
    · simp only [Function.update_of_ne hji] at hj
      obtain ⟨m, hm, hid, hrole, hstatus⟩ := h.owned j b hj
      exact ⟨m, hkeep j hji b hj m hm hid hstatus, hid, hrole, hstatus⟩
  unique j k b hj hk := by
    by_cases hji : j = i <;> by_cases hki : k = i
    · rw [hji, hki]
    · subst hji
      simp only [Function.update_self] at hj
      simp only [Function.update_of_ne hki] at hk
      exact absurd hk (hfree b hj k hki)
    · subst hki
      simp only [Function.update_self] at hk
      simp only [Function.update_of_ne hji] at hj
      exact absurd hj (hfree b hk j hji)
    · simp only [Function.update_of_ne hji] at hj
      simp only [Function.update_of_ne hki] at hk
      exact h.unique j k b hj hk

theorem ChatInvariant.rewrite (h : ChatInvariant s) (change : Message → Message)
    (howner : (s.phases i).writes = some a) (hdone : phase.writes = none)
    (htable : TableInvariant { store := store, phases := Function.update s.phases i phase })
    (hsound : phase.Sound) (hreturning : phase.Returning)
    (hstore : store.messages = updateMessage a change s.store.messages) :
    ChatInvariant { store := store, phases := Function.update s.phases i phase } := by
  refine h.update htable hsound hreturning ?_ ?_ ?_
  · intro j hji b hj m hm hmid _
    rw [hstore]
    refine mem_updateMessage_of_ne hm ?_
    intro hma
    exact hji (h.unique j i a (by rw [← hma, hmid]; exact hj) howner)
  · intro b hb
    rw [hdone] at hb
    cases hb
  · intro b hb
    rw [hdone] at hb
    cases hb

theorem ChatInvariant.completed_ne (h : ChatInvariant s) (howner : (s.phases i).writes = some a)
    {m : Message} (hm : m ∈ s.store.messages) (hstatus : m.status = .completed) : m.id ≠ a := by
  intro hid
  obtain ⟨row, hrow, hrowid, -, hprogress⟩ := h.owned i a howner
  rw [← h.messages.eq_of_id_eq hm hrow (hid.trans hrowid.symm), hstatus] at hprogress
  cases hprogress

end Update

section Step

variable {d : Deployment} {s t : ChatState} {label : ChatLabel}

def KeepsCompleted (s t : ChatState) : Prop :=
  ∀ m ∈ s.store.messages, m.status = .completed → m ∈ t.store.messages

theorem resume_invariant (h : ChatInvariant s) {i : Nat} {input : Input} {now : Timestamp}
    (hok : uninterrupted (s.phases i) input) {phase : Phase} {store : Store}
    (hstep : resume s.store (s.phases i) input now = some (phase, store)) :
    ChatInvariant { store := store, phases := Function.update s.phases i phase } ∧
      ∀ m ∈ s.store.messages, m.status = .completed → m ∈ store.messages := by
  have hrow : ∀ a, (s.phases i).writes = some a →
      ∃ m, getMessage s.store.messages a = some m := by
    intro a ha
    obtain ⟨m, hm, rfl, -, -⟩ := h.owned i a ha
    exact ⟨m, h.messages.getMessage_eq hm⟩
  have hcases := resume_cases (h.sound i) (h.table.row i) hstep
  have hsound := hcases.sound (h.sound i)
  obtain ⟨heffect, hreturning⟩ := hcases.effect (h.returning i) hok
  have htable := resume_table h.table hstep
  cases heffect with
  | quiet hwrites =>
      refine ⟨h.update htable hsound hreturning (fun _ _ _ _ m hm _ _ => hm) ?_ ?_,
        fun m hm _ => hm⟩
      · intro b hb
        rcases hwrites with hwrites | hwrites
        · exact h.owned i b (hwrites ▸ hb)
        · rw [hwrites] at hb
          cases hb
      · intro b hb j hji hj
        rcases hwrites with hwrites | hwrites
        · exact hji (h.unique j i b hj (hwrites ▸ hb))
        · rw [hwrites] at hb
          cases hb
  | completes a reply howner hdone =>
      obtain ⟨row, hrow⟩ := hrow a howner
      have hstore := finalizeSuccess_messages reply now hrow
      refine ⟨h.rewrite (completeMessage reply now) howner hdone htable hsound hreturning
        hstore, ?_⟩
      intro m hm hstatus
      rw [hstore]
      exact mem_updateMessage_of_ne hm (h.completed_ne howner hm hstatus)
  | fails a content e howner hdone =>
      refine ⟨h.rewrite (failMessage content e now) howner hdone htable hsound hreturning
        rfl, ?_⟩
      intro m hm hstatus
      exact mem_updateMessage_of_ne hm (h.completed_ne howner hm hstatus)

theorem start_sound (streaming : Bool) (service : ChatExecutionMode)
    (result : Except Exn PreparedExchange) :
    (start d streaming service result).Sound ∧ (start d streaming service result).Returning := by
  unfold start
  cases result with
  | error e => exact ⟨trivial, trivial⟩
  | ok p =>
      simp only
      split <;> split
      · split
        · exact ⟨trivial, trivial⟩
        · exact ⟨⟨by simp, trivial⟩, trivial⟩
      · exact ⟨trivial, trivial⟩
      · exact ⟨⟨by simp, trivial⟩, trivial⟩
      · exact ⟨trivial, trivial⟩

theorem start_writes {streaming : Bool} {service : ChatExecutionMode}
    {result : Except Exn PreparedExchange} {a : UUID}
    (h : (start d streaming service result).writes = some a) :
    ∃ p, result = .ok p ∧ p.needsGeneration = true ∧ p.assistantMessage.id = a := by
  unfold start at h
  cases result with
  | error e => cases h
  | ok p =>
      refine ⟨p, rfl, ?_⟩
      cases hneeds : p.needsGeneration with
      | false =>
          simp only [hneeds, Bool.false_eq_true, if_false] at h
          split at h
          · simp [Phase.writes, hneeds] at h
          · cases h
      | true =>
          simp only [hneeds, if_true] at h
          split at h
          · split at h
            · cases h
            · simpa [Phase.writes, hneeds] using h
          · simpa [Phase.writes] using h

theorem start_ne_idle {streaming : Bool} {service : ChatExecutionMode}
    {result : Except Exn PreparedExchange} : start d streaming service result ≠ .idle := by
  unfold start
  cases result with
  | error e => simp
  | ok p =>
      simp only
      split <;> split <;> try split
      all_goals simp

theorem arrive_phase {i : Nat} {a : Arrival} (h : s.step d (.arrive i a) = some t) :
    t.phases i = start d a.streaming a.service (a.prepare d s.store).1 := by
  obtain ⟨-, -, rfl⟩ := ChatState.step_arrive h
  simp

theorem arrive_invariant (h : ChatInvariant s) (i : Nat) (a : Arrival) :
    ChatInvariant
        { store := (a.prepare d s.store).2
          phases := Function.update s.phases i
            (start d a.streaming a.service (a.prepare d s.store).1) } ∧
      ∀ m ∈ s.store.messages, m.status = .completed → m ∈ (a.prepare d s.store).2.messages := by
  obtain ⟨hsound, hreturning⟩ := start_sound (d := d) a.streaming a.service (a.prepare d s.store).1
  rcases a.prepare_messages (d := d) s.store with ⟨hmessages, herror⟩ | ⟨ex, hloc, hmessages, hok⟩
  · have hnone : ∀ b, (start d a.streaming a.service (a.prepare d s.store).1).writes ≠ some b := by
      intro b hb
      obtain ⟨p, hp, -, -⟩ := start_writes hb
      exact herror p hp
    refine ⟨h.update (arrive_table h.table i a) hsound hreturning ?_ ?_ ?_, ?_⟩
    · intro j _ b _ m hm _ _
      rw [hmessages]
      exact hm
    · intro b hb
      exact absurd hb (hnone b)
    · intro b hb
      exact absurd hb (hnone b)
    · intro m hm _
      rw [hmessages]
      exact hm
  · have hopen : ∀ b, (start d a.streaming a.service (a.prepare d s.store).1).writes = some b →
        ex.needsGeneration = true ∧ ex.assistantMessage.id = b := by
      intro b hb
      obtain ⟨p, hp, hneeds, hid⟩ := start_writes hb
      obtain ⟨conversation, hdescribes⟩ := hok p hp
      rw [← hdescribes.needsGeneration, ← hdescribes.assistantMessage]
      exact ⟨hneeds, hid⟩
    refine ⟨h.update (arrive_table h.table i a) hsound hreturning ?_ ?_ ?_, ?_⟩
    · intro j _ b _ m hm _ hstatus
      rw [hmessages]
      exact hloc.mem_of_not_failed h.messages hm (inProgress_ne_failed hstatus)
    · intro b hb
      obtain ⟨hneeds, hid⟩ := hopen b hb
      obtain ⟨hmem, hrole, hstatus, -⟩ := hloc.opens h.messages hneeds
      refine ⟨ex.assistantMessage, hmessages ▸ hmem, hid, hrole, ?_⟩
      rw [hstatus]
      exact openStatus_inProgress a.streaming
    · intro b hb j _ hj
      obtain ⟨hneeds, hid⟩ := hopen b hb
      obtain ⟨-, -, -, hfailed⟩ := hloc.opens h.messages hneeds
      obtain ⟨m, hm, hmid, -, hstatus⟩ := h.owned j b hj
      exact inProgress_ne_failed hstatus (hfailed m hm (hmid.trans hid.symm))
    · intro m hm hstatus
      rw [hmessages]
      exact hloc.mem_of_not_failed h.messages hm (by rw [hstatus]; simp)

theorem step_invariant (h : ChatInvariant s) (hok : ReturnsOnceCommitted s label)
    (hstep : s.step d label = some t) : ChatInvariant t ∧ KeepsCompleted s t := by
  cases label with
  | arrive i a =>
      obtain ⟨-, -, rfl⟩ := ChatState.step_arrive hstep
      exact arrive_invariant h i a
  | resume i input now =>
      obtain ⟨phase, store, hresume, rfl⟩ := ChatState.step_resume hstep
      exact resume_invariant h hok hresume
  | service userId action =>
      have htable := step_table h.table hstep
      obtain rfl := ChatState.step_service hstep
      have hmessages := applyService_messages d.config s.store userId action
      refine ⟨⟨htable, h.sound, h.returning, ?_, h.unique⟩, ?_⟩
      · rw [hmessages]
        exact h.owned
      · intro m hm _
        rw [hmessages]
        exact hm

end Step

/-! ## Runs -/

section Runs

variable {d : Deployment} {s t : ChatState} {labels : List ChatLabel}

theorem run_invariant (hs : ChatInvariant s)
    (hok : AllSteps ReturnsOnceCommitted (ChatState.step d) s labels)
    (hrun : exec (ChatState.step d) s labels = some t) : ChatInvariant t :=
  exec_invariant (fun _ _ _ hinv hok hstep => (step_invariant hinv hok hstep).1) hs hok hrun

theorem run_keepsCompleted (hs : ChatInvariant s)
    (hok : AllSteps ReturnsOnceCommitted (ChatState.step d) s labels)
    (hrun : exec (ChatState.step d) s labels = some t) : KeepsCompleted s t :=
  exec_relation (fun _ _ hm _ => hm)
    (fun _ _ _ h₁ h₂ m hm hc => h₂ m (h₁ m hm hc) hc)
    (fun _ _ _ hinv hok hstep => (step_invariant hinv hok hstep).1)
    (fun _ _ _ hinv hok hstep => (step_invariant hinv hok hstep).2) hs hok hrun

end Runs

/-! ## A run for evaluation -/

/-- No await of a request raises in the step. -/
def ChatLabel.quiet : ChatLabel → Bool
  | .resume _ (.awaited .done) _ => true
  | .resume _ (.awaited _) _ => false
  | .resume .. | .arrive .. | .service .. => true

theorem ChatLabel.returnsOnceCommitted {label : ChatLabel} (h : label.quiet = true)
    (s : ChatState) : ReturnsOnceCommitted s label := by
  unfold ReturnsOnceCommitted
  split
  · unfold uninterrupted
    split <;> simp_all [ChatLabel.quiet]
  · trivial
  · trivial

def streamToCommit (result : Await) : List ChatLabel :=
  [openConversation10 (some "ollama"), .arrive 0 (helloArrival true ⟨20, 21, 100⟩),
    .resume 0 .next 100, .resume 0 .next 100,
    .resume 0 (.chunk { content := "Hi", model := "m", provider := "ollama" }) 110,
    .resume 0 .next 110, .resume 0 .exhausted 120, .resume 0 (.awaited .done) 120,
    .resume 0 (.awaited .done) 130, .resume 0 (.awaited .done) 130,
    .resume 0 (.awaited .done) 130, .resume 0 (.awaited result) 130]

theorem allSteps_of_quiet {d : Deployment} {labels : List ChatLabel}
    (h : labels.all ChatLabel.quiet = true) (s : ChatState) :
    AllSteps ReturnsOnceCommitted (ChatState.step d) s labels :=
  AllSteps.of_forall
    (fun label hlabel => ChatLabel.returnsOnceCommitted (List.all_eq_true.mp h label hlabel)) s

end Astra.Chat
