import Astra.Chat.System
import Astra.Foundation.Locking

/-!
# Row locks of the chat transactions

The rows that the chat transactions take with `FOR UPDATE`, in the order of the
source.  A retry takes the conversation and then the reply, the finalisation of
the reply takes the reply and then the conversation.
-/

namespace Astra.Chat

open Astra.Foundation Astra.Platform Astra.Persistence Astra.LLM Astra.Services

inductive ChatRow where
  | conversation (id : UUID)
  | message (id : UUID)
  deriving DecidableEq

inductive ChatTransaction where
  | notFound
  | prepare (conversationId : UUID)
  | prepareAgain (assistantMessageId : UUID)
  | finalizeSuccess (assistantMessageId : UUID)
  | finalizeFailure (assistantMessageId : UUID)
  | updateConversation (conversationId : UUID)
  | archiveConversation (conversationId : UUID)
  deriving DecidableEq

/-- The lock sequence; a message never changes its conversation. -/
def ChatTransaction.locks (conversationOf : UUID → UUID) : ChatTransaction → List ChatRow
  | .notFound => []
  | .prepare conversationId => [.conversation conversationId]
  | .prepareAgain reply => [.conversation (conversationOf reply), .message reply]
  | .finalizeSuccess reply => [.message reply, .conversation (conversationOf reply)]
  | .finalizeFailure reply => [.message reply]
  | .updateConversation conversationId => [.conversation conversationId]
  | .archiveConversation conversationId => [.conversation conversationId]

abbrev ChatLocks := LockState ChatTransaction ChatRow

/-! ## The sequences of the source -/

def prepareLocks (store : Store) (userId conversationId clientMessageId : UUID) : List ChatRow :=
  match getOwnedConversation store.conversations conversationId userId with
  | none => []
  | some conversation =>
      .conversation conversation.id ::
        match getByClientMessageId store.messages conversationId clientMessageId with
        | .ok (some user) =>
            (store.messages.filter (isReplyTo user.id)).map fun reply => .message reply.id
        | _ => []

def successLocks (store : Store) (assistantMessageId : UUID) : List ChatRow :=
  match getMessage store.messages assistantMessageId with
  | none => []
  | some assistant => [.message assistant.id, .conversation assistant.conversationId]

def failureLocks (store : Store) (assistantMessageId : UUID) : List ChatRow :=
  match getMessage store.messages assistantMessageId with
  | none => []
  | some assistant => [.message assistant.id]

section Source

variable {store : Store} {conversationOf : UUID → UUID}

theorem prepareLocks_eq (h : WellFormed store.messages)
    (hconv : ∀ m ∈ store.messages, conversationOf m.id = m.conversationId)
    (userId conversationId clientMessageId : UUID) :
    ∃ txn : ChatTransaction,
      prepareLocks store userId conversationId clientMessageId = txn.locks conversationOf := by
  unfold prepareLocks
  cases howned : getOwnedConversation store.conversations conversationId userId with
  | none => exact ⟨.notFound, rfl⟩
  | some conversation =>
      obtain ⟨-, hid, -⟩ := getOwnedConversation_mem howned
      cases hclient : getByClientMessageId store.messages conversationId clientMessageId with
      | error e => exact ⟨.prepare conversation.id, rfl⟩
      | ok user =>
          cases user with
          | none => exact ⟨.prepare conversation.id, rfl⟩
          | some user =>
              obtain ⟨huser, hkey⟩ := scalarOneOrNone_eq_some hclient
              rw [hasClientId_iff] at hkey
              by_cases hreply : ∃ reply ∈ store.messages, isReplyTo user.id reply = true
              · obtain ⟨reply, hmem, hparent⟩ := hreply
                have honly : store.messages.filter (isReplyTo user.id) = [reply] :=
                  filter_eq_singleton h.ids hmem hparent fun other hother hother' =>
                    h.reply_unique hmem hother hparent hother'
                have hsame := h.reply_conversation huser hmem hparent
                refine ⟨.prepareAgain reply.id, ?_⟩
                simp [honly, ChatTransaction.locks, hconv reply hmem, hsame, hkey.1, hid]
              · have hnone : store.messages.filter (isReplyTo user.id) = [] := by
                  rw [List.filter_eq_nil_iff]
                  exact fun reply hmem hparent => hreply ⟨reply, hmem, hparent⟩
                exact ⟨.prepare conversation.id, by simp [hnone, ChatTransaction.locks]⟩

theorem successLocks_eq
    (hconv : ∀ m ∈ store.messages, conversationOf m.id = m.conversationId)
    (assistantMessageId : UUID) :
    successLocks store assistantMessageId = [] ∨
      successLocks store assistantMessageId =
        (ChatTransaction.finalizeSuccess assistantMessageId).locks conversationOf := by
  unfold successLocks
  cases hrow : getMessage store.messages assistantMessageId with
  | none => exact Or.inl rfl
  | some assistant =>
      obtain ⟨hmem, rfl⟩ := getMessage_mem hrow
      exact Or.inr (by simp [ChatTransaction.locks, hconv assistant hmem])

theorem failureLocks_eq (assistantMessageId : UUID) :
    failureLocks store assistantMessageId = [] ∨
      failureLocks store assistantMessageId =
        (ChatTransaction.finalizeFailure assistantMessageId).locks conversationOf := by
  unfold failureLocks
  cases hrow : getMessage store.messages assistantMessageId with
  | none => exact Or.inl rfl
  | some assistant =>
      obtain ⟨-, rfl⟩ := getMessage_mem hrow
      exact Or.inr rfl

end Source

/-! ## Deadlocks -/

/-- A retry of `m` has locked the conversation and not yet the reply `m`. -/
def RetryBetween (s : ChatLocks) (i : Nat) (m : UUID) : Prop :=
  s.running i = some (.prepareAgain m, [.message m])

/-- A finalisation of `m` has locked the reply and not yet its conversation. -/
def SuccessBetween (conversationOf : UUID → UUID) (s : ChatLocks) (j : Nat) (m : UUID) : Prop :=
  s.running j = some (.finalizeSuccess m, [.conversation (conversationOf m)])

def Crossed (conversationOf : UUID → UUID) (s : ChatLocks) : Prop :=
  ∃ i j m, RetryBetween s i m ∧ SuccessBetween conversationOf s j m

/--
The step does not take the first lock of a retry while a finalisation of the same
reply is between its two locks, nor the other way round.
-/
def NoCrossing (conversationOf : UUID → UUID) (s : ChatLocks) : LockLabel ChatTransaction → Prop
  | .acquire i => ∀ txn, s.running i = some (txn, txn.locks conversationOf) → ∀ m j,
      (txn = .prepareAgain m → ¬ SuccessBetween conversationOf s j m) ∧
        (txn = .finalizeSuccess m → ¬ RetryBetween s j m)
  | _ => True

section Deadlock

variable {conversationOf : UUID → UUID} {s t : ChatLocks} {label : LockLabel ChatTransaction}

/-- Only a retry and a successful finalisation wait with a lock in hand. -/
theorem blocked_between (h : LocksHeld (ChatTransaction.locks conversationOf) s) {i : Nat}
    (hcycle : Relation.TransGen (Waits s) i i) :
    (∃ m, RetryBetween s i m) ∨ ∃ m, SuccessBetween conversationOf s i m := by
  obtain ⟨txn, held, row, rest, hrunning, hlocks, hne⟩ := h.blocked_of_cycle hcycle
  obtain ⟨first, held, rfl⟩ := List.exists_cons_of_ne_nil hne
  cases txn with
  | prepareAgain m =>
      simp only [ChatTransaction.locks, List.cons_append, List.cons.injEq] at hlocks
      have hrest : row :: rest = [.message m] := by
        cases held <;> simp_all
      rw [hrest] at hrunning
      exact Or.inl ⟨m, hrunning⟩
  | finalizeSuccess m =>
      simp only [ChatTransaction.locks, List.cons_append, List.cons.injEq] at hlocks
      have hrest : row :: rest = [.conversation (conversationOf m)] := by
        cases held <;> simp_all
      rw [hrest] at hrunning
      exact Or.inr ⟨m, hrunning⟩
  | notFound => simp [ChatTransaction.locks] at hlocks
  | prepare c => simp [ChatTransaction.locks] at hlocks
  | finalizeFailure m => simp [ChatTransaction.locks] at hlocks
  | updateConversation c => simp [ChatTransaction.locks] at hlocks
  | archiveConversation c => simp [ChatTransaction.locks] at hlocks

theorem RetryBetween.owner_iff (h : LocksHeld (ChatTransaction.locks conversationOf) s) {i : Nat}
    {m : UUID} (hi : RetryBetween s i m) {row : ChatRow} :
    s.owner row = some i ↔ row = .conversation (conversationOf m) := by
  have hlocks : ChatTransaction.locks conversationOf (.prepareAgain m) =
      [.conversation (conversationOf m)] ++ [.message m] := rfl
  rw [h.owned, taken_iff hi hlocks, List.mem_singleton]

theorem SuccessBetween.owner_iff (h : LocksHeld (ChatTransaction.locks conversationOf) s)
    {j : Nat} {m : UUID} (hj : SuccessBetween conversationOf s j m) {row : ChatRow} :
    s.owner row = some j ↔ row = .message m := by
  have hlocks : ChatTransaction.locks conversationOf (.finalizeSuccess m) =
      [.message m] ++ [.conversation (conversationOf m)] := rfl
  rw [h.owned, taken_iff hj hlocks, List.mem_singleton]

theorem RetryBetween.crossed (h : LocksHeld (ChatTransaction.locks conversationOf) s) {i : Nat}
    {m : UUID} (hi : RetryBetween s i m) (hcycle : Relation.TransGen (Waits s) i i) :
    Crossed conversationOf s := by
  obtain ⟨j, ⟨-, txn, row, rest, hrunning, howner⟩, hj⟩ := exists_next_of_cycle hcycle
  unfold RetryBetween at hi
  rw [hi, Option.some.injEq, Prod.mk.injEq, List.cons.injEq] at hrunning
  obtain ⟨rfl, rfl, rfl⟩ := hrunning
  rcases blocked_between h hj with ⟨m', hm'⟩ | ⟨m', hm'⟩
  · rw [hm'.owner_iff h] at howner
    cases howner
  · rw [hm'.owner_iff h, ChatRow.message.injEq] at howner
    subst howner
    exact ⟨i, j, m, hi, hm'⟩

theorem deadlocked_iff (h : LocksHeld (ChatTransaction.locks conversationOf) s) :
    Deadlocked s ↔ Crossed conversationOf s := by
  constructor
  · rintro ⟨i, hcycle⟩
    rcases blocked_between h hcycle with ⟨m, hi⟩ | ⟨m, hi⟩
    · exact hi.crossed h hcycle
    · obtain ⟨j, ⟨-, txn, row, rest, hrunning, howner⟩, hj⟩ := exists_next_of_cycle hcycle
      unfold SuccessBetween at hi
      rw [hi, Option.some.injEq, Prod.mk.injEq, List.cons.injEq] at hrunning
      obtain ⟨rfl, rfl, rfl⟩ := hrunning
      rcases blocked_between h hj with ⟨m', hm'⟩ | ⟨m', hm'⟩
      · exact hm'.crossed h hj
      · rw [hm'.owner_iff h] at howner
        cases howner
  · rintro ⟨i, j, m, hi, hj⟩
    have hne : i ≠ j := by
      rintro rfl
      unfold RetryBetween at hi
      unfold SuccessBetween at hj
      rw [hi] at hj
      cases hj
    have hij : Waits s i j := ⟨hne, _, _, _, hi, (hj.owner_iff h).mpr rfl⟩
    have hji : Waits s j i := ⟨hne.symm, _, _, _, hj, (hi.owner_iff h).mpr rfl⟩
    exact ⟨i, Relation.TransGen.tail (.single hij) hji⟩

/-! ## One step -/

theorem RetryBetween.of_step (h : LocksHeld (ChatTransaction.locks conversationOf) s)
    (hstep : lockStep (ChatTransaction.locks conversationOf) s label = some t) {i : Nat}
    {m : UUID} (hi : RetryBetween t i m) :
    RetryBetween s i m ∨ (label = .acquire i ∧
      s.running i =
        some (.prepareAgain m, ChatTransaction.locks conversationOf (.prepareAgain m))) :=
  h.between_of_step hstep rfl hi

theorem SuccessBetween.of_step (h : LocksHeld (ChatTransaction.locks conversationOf) s)
    (hstep : lockStep (ChatTransaction.locks conversationOf) s label = some t) {j : Nat}
    {m : UUID} (hj : SuccessBetween conversationOf t j m) :
    SuccessBetween conversationOf s j m ∨ (label = .acquire j ∧ s.running j =
      some (.finalizeSuccess m, ChatTransaction.locks conversationOf (.finalizeSuccess m))) :=
  h.between_of_step hstep rfl hj

private theorem not_crossed_step (h : LocksHeld (ChatTransaction.locks conversationOf) s)
    (hno : NoCrossing conversationOf s label) (hnot : ¬ Crossed conversationOf s)
    (hstep : lockStep (ChatTransaction.locks conversationOf) s label = some t) :
    ¬ Crossed conversationOf t := by
  rintro ⟨i, j, m, hi, hj⟩
  rcases hi.of_step h hstep with hi | ⟨rfl, hi⟩ <;>
    rcases hj.of_step h hstep with hj | ⟨hlabel, hj⟩
  · exact hnot ⟨i, j, m, hi, hj⟩
  · subst hlabel
    exact (hno _ hj m i).2 rfl hi
  · exact (hno _ hi m j).1 rfl hj
  · cases hlabel
    rw [hi] at hj
    cases hj

private theorem crossed_of_violation (hno : ¬ NoCrossing conversationOf s label)
    (hstep : lockStep (ChatTransaction.locks conversationOf) s label = some t) :
    Crossed conversationOf t := by
  obtain ⟨i, txn, rfl, -⟩ | ⟨i, txn, row, rest, rfl, hi, -, rfl⟩ | ⟨i, rfl, -⟩ :=
    lockStep_cases hstep
  · exact absurd trivial hno
  · simp only [NoCrossing, not_forall, not_and_or, not_not] at hno
    obtain ⟨txn', hi', m, j, hbad⟩ := hno
    rw [hi, Option.some.injEq, Prod.mk.injEq] at hi'
    obtain ⟨rfl, hlocks⟩ := hi'
    rcases hbad with ⟨rfl, hother⟩ | ⟨rfl, hother⟩
    · obtain ⟨rfl, rfl⟩ := List.cons.inj hlocks
      have hne : j ≠ i := by
        rintro rfl
        unfold SuccessBetween at hother
        rw [hi] at hother
        cases hother
      refine ⟨i, j, m, Function.update_self .., ?_⟩
      exact (Function.update_of_ne hne ..).trans hother
    · obtain ⟨rfl, rfl⟩ := List.cons.inj hlocks
      have hne : j ≠ i := by
        rintro rfl
        unfold RetryBetween at hother
        rw [hi] at hother
        cases hother
      refine ⟨j, i, m, ?_, Function.update_self ..⟩
      exact (Function.update_of_ne hne ..).trans hother
  · exact absurd trivial hno

/-! ## Runs -/

theorem run_locksHeld {labels : List (LockLabel ChatTransaction)}
    (hexec : exec (lockStep (ChatTransaction.locks conversationOf)) {} labels = some s) :
    LocksHeld (ChatTransaction.locks conversationOf) s :=
  exec_invariant' (fun _ _ _ h hstep => h.step hstep) (LocksHeld.initial _) hexec

theorem run_not_crossed {labels : List (LockLabel ChatTransaction)}
    (hok : AllSteps (NoCrossing conversationOf)
      (lockStep (ChatTransaction.locks conversationOf)) {} labels)
    (hexec : exec (lockStep (ChatTransaction.locks conversationOf)) {} labels = some s) :
    LocksHeld (ChatTransaction.locks conversationOf) s ∧ ¬ Crossed conversationOf s := by
  have hstep (u : ChatLocks) (label : LockLabel ChatTransaction) (v : ChatLocks)
      (hinv : LocksHeld (ChatTransaction.locks conversationOf) u ∧ ¬ Crossed conversationOf u)
      (hno : NoCrossing conversationOf u label)
      (hstep : lockStep (ChatTransaction.locks conversationOf) u label = some v) :
      LocksHeld (ChatTransaction.locks conversationOf) v ∧ ¬ Crossed conversationOf v :=
    ⟨hinv.1.step hstep, not_crossed_step hinv.1 hno hinv.2 hstep⟩
  have hinitial : ¬ Crossed conversationOf {} := by
    rintro ⟨i, j, m, hi, -⟩
    cases hi
  exact exec_invariant hstep ⟨LocksHeld.initial _, hinitial⟩ hok hexec

end Deadlock

/--
A run of chat transactions meets no deadlock exactly when no retry and no
finalisation of one reply cross between their two locks.
-/
theorem chat_deadlock_free_iff (conversationOf : UUID → UUID)
    (labels : List (LockLabel ChatTransaction)) (s : ChatLocks)
    (hexec : exec (lockStep (ChatTransaction.locks conversationOf)) {} labels = some s) :
    (∀ pre post t, labels = pre ++ post →
        exec (lockStep (ChatTransaction.locks conversationOf)) {} pre = some t → ¬ Deadlocked t) ↔
      AllSteps (NoCrossing conversationOf)
        (lockStep (ChatTransaction.locks conversationOf)) {} labels := by
  constructor
  · intro hfree
    rcases AllSteps.or_violation (NoCrossing conversationOf) hexec with
      hall | ⟨pre, label, post, t, v, rfl, hpre, -, hno, hstep, -⟩
    · exact hall
    · have hv : exec (lockStep (ChatTransaction.locks conversationOf)) {} (pre ++ [label]) =
          some v := exec_append.mpr ⟨t, hpre, exec_cons.mpr ⟨v, hstep, rfl⟩⟩
      refine absurd ?_ (hfree (pre ++ [label]) post v (by simp) hv)
      exact (deadlocked_iff (run_locksHeld hv)).mpr (crossed_of_violation hno hstep)
  · rintro hall pre post t rfl ht hdead
    obtain ⟨hheld, hnot⟩ := run_not_crossed (hall.append ht).1 ht
    exact hnot ((deadlocked_iff hheld).mp hdead)

def orderlyRun : List (LockLabel ChatTransaction) :=
  [.start 0 (.prepareAgain 21), .start 1 (.finalizeSuccess 21), .acquire 0, .acquire 0,
    .finish 0, .acquire 1, .acquire 1, .finish 1]

theorem chat_deadlock_free_iff_orderly :
    ∃ s, exec (lockStep (ChatTransaction.locks fun _ => 10)) {} orderlyRun = some s ∧
      ∀ pre post t, orderlyRun = pre ++ post →
        exec (lockStep (ChatTransaction.locks fun _ => 10)) {} pre = some t → ¬ Deadlocked t := by
  have hrun : ∃ s, exec (lockStep (ChatTransaction.locks fun _ => 10)) {} orderlyRun = some s :=
    ⟨_, rfl⟩
  obtain ⟨s, hs⟩ := hrun
  refine ⟨s, hs, (chat_deadlock_free_iff (fun _ => 10) orderlyRun s hs).mpr ?_⟩
  simp only [orderlyRun, AllSteps, NoCrossing, lockStep, ChatTransaction.locks, SuccessBetween,
    RetryBetween]
  simp
  constructor
  all_goals
    rintro m j rfl
    by_cases h0 : j = 0
    · simp [h0]
    · by_cases h1 : j = 1 <;> simp [h0, h1]

def crossingRun : List (LockLabel ChatTransaction) :=
  [.start 0 (.prepareAgain 21), .start 1 (.finalizeSuccess 21), .acquire 0, .acquire 1]

/-- While the reply 21 is streamed, the client sends its message again. -/
theorem retry_and_finalisation_deadlock :
    (∃ s, exec (ChatState.step defaultDeployment) {}
        [openConversation10 (some "ollama"), .arrive 0 (helloArrival true ⟨20, 21, 100⟩)] =
          some s ∧
      prepareLocks s.store 1 10 5 = ChatTransaction.locks (fun _ => 10) (.prepareAgain 21) ∧
      successLocks s.store 21 = ChatTransaction.locks (fun _ => 10) (.finalizeSuccess 21)) ∧
    ∃ s, exec (lockStep (ChatTransaction.locks fun _ => 10)) {} crossingRun = some s ∧
      Waits s 0 1 ∧ Waits s 1 0 ∧ Deadlocked s := by
  have hrun : ∃ s, exec (lockStep (ChatTransaction.locks fun _ => 10)) {} crossingRun = some s ∧
      Waits s 0 1 ∧ Waits s 1 0 :=
    ⟨_, rfl, ⟨by decide, _, _, _, rfl, rfl⟩, ⟨by decide, _, _, _, rfl, rfl⟩⟩
  obtain ⟨s, hs, h01, h10⟩ := hrun
  exact ⟨⟨_, rfl, by decide, by decide⟩, s, hs, h01, h10, 0,
    Relation.TransGen.tail (.single h01) h10⟩

end Astra.Chat
