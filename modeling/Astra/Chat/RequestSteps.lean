import Astra.Chat.Requests

/-!
# What one step of a request can do

Inversion lemmas for `TxnStage.move` and for the transitions of a request.  The
invariants of the chat services are read off these, without unfolding a
transition again.
-/

namespace Astra.Chat

open Astra.Platform Astra.Persistence Astra.LLM

/-! ## Exceptions in flight -/

def TxnStage.Sound : TxnStage → Prop
  | .rollback e | .close (some e) => e.raisedByAwait = true
  | _ => True

def StreamPoint.Sound : StreamPoint → Prop
  | .draining e | .releasing (some e) => e.raisedByAwait = true
  | _ => True

/--
Only an exchange that needs a generation goes past `message.created`, the success
transaction has built its response exactly once it is committed, and the
exceptions in flight are such as an `await` can raise.
-/
def Phase.Sound : Phase → Prop
  | .streaming p _ point =>
      (point ≠ .notStarted → point ≠ .created → p.needsGeneration = true) ∧ point.Sound
  | .finalizing _ _ _ built stage =>
      stage.Sound ∧ (built.isSome = true → stage.beforeCommit = false) ∧
        (stage = .close none → built.isSome = true)
  | .recording _ _ _ e _ stage => stage.Sound ∧ e.raisedByAwait = true
  | .idle | .generating _ | .completedEvent .. | .errorEvent .. | .exited _ => True

private theorem Phase.Sound.built_none {streaming : Bool} {p : PreparedExchange}
    {reply : FinalReply}
    {built : Option MessageResponse} {stage : TxnStage}
    (h : (Phase.finalizing streaming p reply built stage).Sound)
    (hbefore : stage.beforeCommit = true) : built = none := by
  obtain ⟨-, hbuilt, -⟩ := h
  cases built with
  | none => rfl
  | some message => simp [hbuilt rfl] at hbefore

theorem handle_of_raised {e : Exn} (he : e.raisedByAwait = true) (streaming : Bool)
    (p : PreparedExchange) (content : String) :
    ∃ handler, handle streaming p content e =
      .recording streaming p content e handler .lookup := by
  unfold handle
  rw [Exn.raisedByAwait, Bool.or_eq_true] at he
  split
  · exact ⟨_, rfl⟩
  · rcases he with he | he
    · exact ⟨.plain, by rw [if_pos he]⟩
    · contradiction

/-! ## Transactions -/

inductive TxnStep (plan : TxnPlan) (found : Bool) (stage : TxnStage) (result : Await) :
    TxnMove → Prop
  | advances (stage' : TxnStage) (hbefore : stage.beforeCommit = true)
      (hbefore' : stage'.beforeCommit = true) (hdone : result = .done) :
      TxnStep plan found stage result (.goto stage')
  | misses (hstage : stage = .lookup) (hfound : found = false) (hdone : result = .done) :
      TxnStep plan found stage result (.goto plan.missing)
  | interrupted (e : Exn) (hbefore : stage.beforeCommit = true) (hraised : result = .raised e)
      (he : e.raisedByAwait = true) : TxnStep plan found stage result (.goto (.rollback e))
  | commits (hstage : stage = .commit) (hdone : result = .done) :
      TxnStep plan found stage result (.commit (.close none))
  | commitsRaising (e : Exn) (hstage : stage = .commit) (hraised : result = .raisedAfterCommit e)
      (he : e.raisedByAwait = true) : TxnStep plan found stage result (.commit (.rollback e))
  | unwinds (e : Exn) (hstage : stage = .rollback e) (he : e.raisedByAwait = true) :
      TxnStep plan found stage result (.goto (.close (some e)))
  | returns (hstage : stage = .close none) (hdone : result = .done) :
      TxnStep plan found stage result .returns
  | raises (e : Exn) (hbefore : stage.beforeCommit = false) (he : e.raisedByAwait = true)
      (hresult : result = .raised e ∨ stage ≠ .close none) :
      TxnStep plan found stage result (.raises e)

theorem TxnStage.move_step {plan : TxnPlan} (hplan : plan.found.beforeCommit = true)
    {found : Bool} {stage : TxnStage} {result : Await} {move : TxnMove} (hstage : stage.Sound)
    (hresult : result.deliverable = true) (h : stage.move plan found result = some move) :
    TxnStep plan found stage result move := by
  cases result with
  | done =>
      cases stage with
      | lookup =>
          simp only [TxnStage.move, Option.some.injEq] at h
          subst h
          cases found with
          | false => exact .misses rfl rfl rfl
          | true => exact .advances _ rfl hplan rfl
      | statement left =>
          cases left <;> simp only [TxnStage.move, Option.some.injEq] at h <;> subst h
          · exact .advances _ rfl rfl rfl
          · exact .advances _ rfl rfl rfl
      | commit =>
          simp only [TxnStage.move, Option.some.injEq] at h
          subst h
          exact .commits rfl rfl
      | rollback e =>
          simp only [TxnStage.move, Option.some.injEq] at h
          subst h
          exact .unwinds e rfl hstage
      | close inFlight =>
          cases inFlight <;> simp only [TxnStage.move, Option.some.injEq] at h <;> subst h
          · exact .returns rfl rfl
          · exact .raises _ rfl hstage (Or.inr (by simp))
  | raised e =>
      cases stage <;> simp only [TxnStage.move, Option.some.injEq] at h <;> subst h
      · exact .interrupted e rfl rfl hresult
      · exact .interrupted e rfl rfl hresult
      · exact .interrupted e rfl rfl hresult
      · exact .raises e rfl hresult (Or.inl rfl)
      · exact .raises e rfl hresult (Or.inl rfl)
  | raisedAfterCommit e =>
      cases stage with
      | commit =>
          simp only [TxnStage.move, Option.some.injEq] at h
          subst h
          exact .commitsRaising e rfl rfl hresult
      | statement left => cases left <;> simp [TxnStage.move] at h
      | close inFlight => cases inFlight <;> simp [TxnStage.move] at h
      | _ => simp [TxnStage.move] at h

/-! ## The event iterator -/

inductive StreamStep (p : PreparedExchange) (input : Input) : Phase → Prop
  | stays (locals : StreamLocals) (point : StreamPoint)
      (hsound : (Phase.streaming p locals point).Sound) (hinput : input ≠ .aclose) :
      StreamStep p input (.streaming p locals point)
  | replays (hneeds : p.needsGeneration = false) (hinput : input ≠ .aclose) :
      StreamStep p input (.completedEvent p p.assistantMessage)
  | finishes (reply : FinalReply) (hneeds : p.needsGeneration = true) (hinput : input ≠ .aclose) :
      StreamStep p input (.finalizing true p reply none .lookup)
  | catches (content : String) (e : Exn) (handler : ErrorHandler)
      (hneeds : p.needsGeneration = true) (he : e.raisedByAwait = true)
      (hinput : input ≠ .aclose) :
      StreamStep p input (.recording true p content e handler .lookup)
  | closes (hclose : input = .aclose) : StreamStep p input (.exited (.raised .generatorExit))

section Stream

variable {p : PreparedExchange} {locals : StreamLocals} {point : StreamPoint} {input : Input}
  {phase : Phase}

theorem StreamStep.handle {e : Exn} (hneeds : p.needsGeneration = true)
    (he : e.raisedByAwait = true) (hinput : input ≠ .aclose) (content : String) :
    StreamStep p input (handle true p content e) := by
  obtain ⟨handler, heq⟩ := handle_of_raised he true p content
  rw [heq]
  exact .catches content e handler hneeds he hinput

theorem StreamStep.leaveLoop {ending : Option Exn} (hneeds : p.needsGeneration = true)
    (hpoint : (StreamPoint.releasing ending).Sound) (hinput : input ≠ .aclose)
    (locals : StreamLocals) : StreamStep p input (leaveLoop p locals ending) := by
  cases ending with
  | none => exact .finishes _ hneeds hinput
  | some e => exact StreamStep.handle hneeds hpoint hinput locals.content

theorem StreamStep.loop (locals : StreamLocals) (point : StreamPoint)
    (hneeds : p.needsGeneration = true) (hpoint : point.Sound) (hinput : input ≠ .aclose) :
    StreamStep p input (.streaming p locals point) :=
  .stays locals point ⟨fun _ _ => hneeds, hpoint⟩ hinput

private theorem resumeStream_step (hsound : (Phase.streaming p locals point).Sound)
    (hinput : input.deliverable = true) (h : resumeStream p locals point input = some phase) :
    StreamStep p input phase := by
  obtain ⟨hneeds, hpoint⟩ := hsound
  cases point with
  | notStarted =>
      cases input <;> simp only [resumeStream, Option.some.injEq, reduceCtorEq] at h <;> subst h
      · exact .stays _ _ ⟨by simp, trivial⟩ (by simp)
      · exact .closes rfl
  | created =>
      cases input <;> simp only [resumeStream, Option.some.injEq, reduceCtorEq] at h
      · cases hgen : p.needsGeneration <;> simp only [hgen, if_true, Bool.false_eq_true, if_false,
          Option.some.injEq] at h <;> subst h
        · exact .replays hgen (by simp)
        · exact .loop _ .reading hgen trivial (by simp)
      · subst h
        exact .closes rfl
  | keepAlive =>
      cases input <;> simp only [resumeStream, Option.some.injEq, reduceCtorEq] at h <;> subst h
      · exact .loop _ .reading (hneeds (by simp) (by simp)) trivial (by simp)
      · exact .closes rfl
  | delta text =>
      cases input <;> simp only [resumeStream, Option.some.injEq, reduceCtorEq] at h <;> subst h
      · exact .loop _ .reading (hneeds (by simp) (by simp)) trivial (by simp)
      · exact .closes rfl
  | reading =>
      have hneeds := hneeds (by simp) (by simp)
      cases input with
      | timeout =>
          simp only [resumeStream, Option.some.injEq] at h
          subst h
          exact .loop _ .keepAlive hneeds trivial (by simp)
      | chunk chunk =>
          simp only [resumeStream, Option.some.injEq] at h
          subst h
          by_cases hempty : chunk.content = "" <;> simp only [hempty, if_true, if_false]
          · exact .loop _ .reading hneeds trivial (by simp)
          · exact .loop _ (.delta chunk.content) hneeds trivial (by simp)
      | exhausted =>
          simp only [resumeStream, Option.some.injEq] at h
          subst h
          exact .loop _ (.releasing none) hneeds trivial (by simp)
      | failed e =>
          simp only [resumeStream, Option.some.injEq] at h
          subst h
          exact .loop _ (.releasing (some e)) hneeds hinput (by simp)
      | awaited result =>
          cases result with
          | raised e =>
              simp only [resumeStream, Option.some.injEq] at h
              subst h
              exact .loop _ (.draining e) hneeds hinput (by simp)
          | _ => simp [resumeStream] at h
      | _ => simp [resumeStream] at h
  | draining e =>
      have hneeds := hneeds (by simp) (by simp)
      cases input with
      | awaited result =>
          cases result with
          | done =>
              simp only [resumeStream, Option.some.injEq] at h
              subst h
              exact .loop _ (.releasing (some e)) hneeds hpoint (by simp)
          | raised e' =>
              cases hcancel : e'.isCancellation <;> simp only [resumeStream, hcancel, if_true,
                Bool.false_eq_true, if_false, Option.some.injEq] at h <;> subst h
              · exact StreamStep.handle hneeds hinput (by simp) _
              · exact .loop _ (.releasing (some e)) hneeds hpoint (by simp)
          | raisedAfterCommit e' => simp [resumeStream] at h
      | _ => simp [resumeStream] at h
  | releasing ending =>
      have hneeds := hneeds (by simp) (by simp)
      cases input with
      | awaited result =>
          cases result with
          | done =>
              simp only [resumeStream, Option.some.injEq] at h
              subst h
              exact StreamStep.leaveLoop hneeds hpoint (by simp) _
          | raised e =>
              cases hexc : e.isException <;> simp only [resumeStream, hexc, if_true,
                Bool.false_eq_true, if_false, Option.some.injEq] at h <;> subst h
              · exact StreamStep.handle hneeds hinput (by simp) _
              · exact StreamStep.leaveLoop hneeds hpoint (by simp) _
          | raisedAfterCommit e => simp [resumeStream] at h
      | _ => simp [resumeStream] at h

end Stream

/-! ## The exchange of a request -/

def Phase.exchange : Phase → Option PreparedExchange
  | .generating p | .streaming p _ _ | .finalizing _ p _ _ _ | .recording _ p _ _ _ _
  | .completedEvent p _ | .errorEvent p _ => some p
  | .idle | .exited _ => none

def Phase.KeepsExchange (p : PreparedExchange) (phase : Phase) : Prop :=
  phase.exchange = some p ∨ ∃ outcome, phase = .exited outcome

/-- The only store writes of a request are those of its two finalising transactions. -/
inductive StoreWrite (p : PreparedExchange) (now : Timestamp) (store : Store) : Store → Prop
  | unchanged : StoreWrite p now store store
  | success (reply : FinalReply) :
      StoreWrite p now store (finalizeSuccess reply p.assistantMessage.id now store)
  | failure (content : String) (e : Exn) :
      StoreWrite p now store (finalizeFailure content e p.assistantMessage.id now store)

section Exchange

variable {p : PreparedExchange} {streaming : Bool}

theorem handle_keepsExchange (content : String) (e : Exn) :
    (handle streaming p content e).KeepsExchange p := by
  unfold handle
  split
  · exact Or.inl rfl
  · split
    · exact Or.inl rfl
    · exact Or.inr ⟨_, rfl⟩

private theorem leaveLoop_keepsExchange (locals : StreamLocals) (ending : Option Exn) :
    (leaveLoop p locals ending).KeepsExchange p := by
  cases ending with
  | none => exact Or.inl rfl
  | some e => exact handle_keepsExchange _ e

private theorem resumeStream_keepsExchange {locals : StreamLocals} {point : StreamPoint}
    {input : Input}
    {phase : Phase} (h : resumeStream p locals point input = some phase) :
    phase.KeepsExchange p := by
  unfold resumeStream at h
  split at h <;> try split at h
  all_goals first
    | (simp only [Option.some.injEq] at h
       subst h
       first
       | exact Or.inl rfl
       | exact Or.inr ⟨_, rfl⟩
       | exact handle_keepsExchange _ _
       | exact leaveLoop_keepsExchange _ _)
    | cases h

private theorem finalizingMove_writes {reply : FinalReply} {built : Option MessageResponse}
    {row : Option Message} {store store' : Store} {now : Timestamp} {move : TxnMove}
    {phase : Phase}
    (h : finalizingMove streaming p reply built row store now move = some (phase, store')) :
    phase.KeepsExchange p ∧ StoreWrite p now store store' := by
  cases move with
  | goto stage =>
      cases h
      exact ⟨Or.inl rfl, .unchanged⟩
  | commit stage =>
      cases h
      exact ⟨Or.inl rfl, .success reply⟩
  | returns =>
      obtain ⟨message, -, heq⟩ := Option.map_eq_some_iff.mp h
      cases heq
      refine ⟨?_, .unchanged⟩
      cases streaming
      · exact Or.inr ⟨_, rfl⟩
      · exact Or.inl rfl
  | raises e =>
      cases streaming <;> cases h
      · exact ⟨Or.inr ⟨_, rfl⟩, .unchanged⟩
      · exact ⟨handle_keepsExchange _ e, .unchanged⟩

private theorem recordingMove_writes {content : String} {caught : Exn} {handler : ErrorHandler}
    {store store' : Store} {now : Timestamp} {move : TxnMove} {phase : Phase}
    (h : recordingMove streaming p content caught handler store now move = (phase, store')) :
    phase.KeepsExchange p ∧ StoreWrite p now store store' := by
  cases move with
  | goto stage =>
      cases h
      exact ⟨Or.inl rfl, .unchanged⟩
  | commit stage =>
      cases h
      exact ⟨Or.inl rfl, .failure content caught⟩
  | returns =>
      cases h
      refine ⟨?_, .unchanged⟩
      cases handler <;> cases streaming <;> first
        | exact Or.inl rfl
        | exact Or.inr ⟨_, rfl⟩
  | raises e =>
      cases h
      refine ⟨?_, .unchanged⟩
      cases handler <;> exact Or.inr ⟨_, rfl⟩

theorem resume_writes {store store' : Store} {phase phase' : Phase} {input : Input}
    {now : Timestamp} (h : resume store phase input now = some (phase', store')) :
    ∃ p, phase.exchange = some p ∧ phase'.KeepsExchange p ∧ StoreWrite p now store store' := by
  unfold resume at h
  split at h
  · split at h
    · cases h
      exact ⟨_, rfl, Or.inl rfl, .unchanged⟩
    · cases h
      exact ⟨_, rfl, handle_keepsExchange _ _, .unchanged⟩
    · obtain ⟨phase'', hstream, heq⟩ := Option.map_eq_some_iff.mp h
      cases heq
      exact ⟨_, rfl, resumeStream_keepsExchange hstream, .unchanged⟩
    · obtain ⟨move, -, hmove⟩ := Option.bind_eq_some_iff.mp h
      exact ⟨_, rfl, finalizingMove_writes hmove⟩
    · refine ⟨_, rfl, ?_⟩
      unfold resumeRecording at h
      split at h
      · cases h
        exact ⟨Or.inl rfl, .unchanged⟩
      · obtain ⟨move, -, hmove⟩ := Option.map_eq_some_iff.mp h
        exact recordingMove_writes hmove
    · cases h
      exact ⟨_, rfl, Or.inr ⟨_, rfl⟩, .unchanged⟩
    · cases h
      exact ⟨_, rfl, Or.inr ⟨_, rfl⟩, .unchanged⟩
    · cases h
      exact ⟨_, rfl, Or.inr ⟨_, rfl⟩, .unchanged⟩
    · cases h
      exact ⟨_, rfl, Or.inr ⟨_, rfl⟩, .unchanged⟩
    · cases h
  · cases h

theorem resume_ne_idle {store store' : Store} {phase phase' : Phase} {input : Input}
    {now : Timestamp} (h : resume store phase input now = some (phase', store')) :
    phase' ≠ .idle := by
  obtain ⟨p, -, hkeeps, -⟩ := resume_writes h
  rintro rfl
  rcases hkeeps with hexchange | ⟨outcome, hexited⟩
  · cases hexchange
  · cases hexited

end Exchange

/-! ## Inversion -/

/-- Everything that one step of a request can do while its assistant row exists. -/
inductive RequestStep (store : Store) (now : Timestamp) : Phase → Input → Phase → Store → Prop
  | responds (p : PreparedExchange) (response : LLMResponse) :
      RequestStep store now (.generating p) (.response response)
        (.finalizing false p (replyOfResponse response) none .lookup) store
  | fails (p : PreparedExchange) (e : Exn) (handler : ErrorHandler)
      (he : e.raisedByAwait = true) :
      RequestStep store now (.generating p) (.awaited (.raised e))
        (.recording false p "" e handler .lookup) store
  | streams (p : PreparedExchange) (locals : StreamLocals) (point : StreamPoint) (input : Input)
      (phase' : Phase) (hstream : StreamStep p input phase') :
      RequestStep store now (.streaming p locals point) input phase' store
  | finalAdvances (streaming : Bool) (p : PreparedExchange) (reply : FinalReply)
      (stage stage' : TxnStage) (hbefore : stage.beforeCommit = true)
      (hbefore' : stage'.beforeCommit = true) :
      RequestStep store now (.finalizing streaming p reply none stage) (.awaited .done)
        (.finalizing streaming p reply none stage') store
  | finalInterrupted (streaming : Bool) (p : PreparedExchange) (reply : FinalReply)
      (stage : TxnStage) (e : Exn) (hbefore : stage.beforeCommit = true)
      (he : e.raisedByAwait = true) :
      RequestStep store now (.finalizing streaming p reply none stage) (.awaited (.raised e))
        (.finalizing streaming p reply none (.rollback e)) store
  | finalCommits (streaming : Bool) (p : PreparedExchange) (reply : FinalReply) (m : Message)
      (hrow : getMessage store.messages p.assistantMessage.id = some m) :
      RequestStep store now (.finalizing streaming p reply none .commit) (.awaited .done)
        (.finalizing streaming p reply (some (completeMessage reply now m)) (.close none))
        (finalizeSuccess reply p.assistantMessage.id now store)
  | finalCommitsRaising (streaming : Bool) (p : PreparedExchange) (reply : FinalReply)
      (m : Message) (hrow : getMessage store.messages p.assistantMessage.id = some m) (e : Exn)
      (he : e.raisedByAwait = true) :
      RequestStep store now (.finalizing streaming p reply none .commit)
        (.awaited (.raisedAfterCommit e))
        (.finalizing streaming p reply (some (completeMessage reply now m)) (.rollback e))
        (finalizeSuccess reply p.assistantMessage.id now store)
  | finalUnwinds (streaming : Bool) (p : PreparedExchange) (reply : FinalReply)
      (built : Option MessageResponse) (result : Await) (e : Exn) (he : e.raisedByAwait = true) :
      RequestStep store now (.finalizing streaming p reply built (.rollback e)) (.awaited result)
        (.finalizing streaming p reply built (.close (some e))) store
  | finalReturns (streaming : Bool) (p : PreparedExchange) (reply : FinalReply)
      (message : MessageResponse) :
      RequestStep store now (.finalizing streaming p reply (some message) (.close none))
        (.awaited .done) (replied streaming p message) store
  | sendRaises (p : PreparedExchange) (reply : FinalReply) (built : Option MessageResponse)
      (stage : TxnStage) (result : Await) (e : Exn) (hbefore : stage.beforeCommit = false) :
      RequestStep store now (.finalizing false p reply built stage) (.awaited result)
        (.exited (.raised e)) store
  | streamRecovers (p : PreparedExchange) (reply : FinalReply) (built : Option MessageResponse)
      (stage : TxnStage) (result : Await) (e : Exn) (handler : ErrorHandler)
      (hbefore : stage.beforeCommit = false) (he : e.raisedByAwait = true)
      (hcause : result = .raised e ∨ stage ≠ .close none) :
      RequestStep store now (.finalizing true p reply built stage) (.awaited result)
        (.recording true p reply.content e handler .lookup) store
  | recordDetaches (streaming : Bool) (p : PreparedExchange) (content : String) (caught : Exn)
      (handler : ErrorHandler) (stage : TxnStage) (result : Await) (e : Exn)
      (hdetach : detaches handler result = some e) :
      RequestStep store now (.recording streaming p content caught handler stage)
        (.awaited result) (.recording streaming p content caught (.detached e) stage) store
  | recordAdvances (streaming : Bool) (p : PreparedExchange) (content : String) (caught : Exn)
      (handler : ErrorHandler) (stage stage' : TxnStage) (hbefore : stage.beforeCommit = true)
      (hbefore' : stage'.beforeCommit = true) :
      RequestStep store now (.recording streaming p content caught handler stage)
        (.awaited .done) (.recording streaming p content caught handler stage') store
  | recordInterrupted (streaming : Bool) (p : PreparedExchange) (content : String)
      (caught : Exn) (handler : ErrorHandler) (stage : TxnStage) (e : Exn)
      (hbefore : stage.beforeCommit = true) (he : e.raisedByAwait = true)
      (hdetach : detaches handler (.raised e) = none) :
      RequestStep store now (.recording streaming p content caught handler stage)
        (.awaited (.raised e)) (.recording streaming p content caught handler (.rollback e)) store
  | recordCommits (streaming : Bool) (p : PreparedExchange) (content : String) (caught : Exn)
      (handler : ErrorHandler) (result : Await) (stage' : TxnStage) (hsound : stage'.Sound)
      (hbefore' : stage'.beforeCommit = false) :
      RequestStep store now (.recording streaming p content caught handler .commit)
        (.awaited result) (.recording streaming p content caught handler stage')
        (finalizeFailure content caught p.assistantMessage.id now store)
  | recordUnwinds (streaming : Bool) (p : PreparedExchange) (content : String) (caught : Exn)
      (handler : ErrorHandler) (result : Await) (e : Exn) (he : e.raisedByAwait = true) :
      RequestStep store now (.recording streaming p content caught handler (.rollback e))
        (.awaited result) (.recording streaming p content caught handler (.close (some e))) store
  | recordReturns (streaming : Bool) (p : PreparedExchange) (content : String) (caught : Exn)
      (handler : ErrorHandler) :
      RequestStep store now (.recording streaming p content caught handler (.close none))
        (.awaited .done) (recorded streaming p caught handler) store
  | recordRaises (streaming : Bool) (p : PreparedExchange) (content : String) (caught : Exn)
      (handler : ErrorHandler) (stage : TxnStage) (result : Await) (e : Exn)
      (hbefore : stage.beforeCommit = false) :
      RequestStep store now (.recording streaming p content caught handler stage)
        (.awaited result) (recordingRaised e handler) store
  | ends (phase : Phase) (input : Input) (outcome : Outcome)
      (hevent : (∃ p message, phase = .completedEvent p message) ∨
        ∃ p e, phase = .errorEvent p e) :
      RequestStep store now phase input (.exited outcome) store

section Inversion

variable {store store' : Store} {phase phase' : Phase} {input : Input} {now : Timestamp}

private theorem resumeFinalizing_cases {streaming : Bool} {p : PreparedExchange}
    {reply : FinalReply}
    {built : Option MessageResponse} {stage : TxnStage} {result : Await}
    (hsound : (Phase.finalizing streaming p reply built stage).Sound)
    (hrow : ∃ m, getMessage store.messages p.assistantMessage.id = some m)
    (hresult : result.deliverable = true)
    (h : resumeFinalizing streaming p reply built stage store result now = some (phase', store')) :
    RequestStep store now (.finalizing streaming p reply built stage) (.awaited result) phase'
      store' := by
  have hnone := hsound.built_none
  obtain ⟨hstage, -, -⟩ := hsound
  obtain ⟨m, hm⟩ := hrow
  obtain ⟨move, hmove, h⟩ := Option.bind_eq_some_iff.mp h
  cases TxnStage.move_step (by rfl) hstage hresult hmove with
  | advances stage' hbefore hbefore' hdone =>
      cases h
      rw [hnone hbefore, hdone]
      exact .finalAdvances streaming p reply stage stage' hbefore hbefore'
  | misses hlookup hfound hdone => simp [hm] at hfound
  | interrupted e hbefore hraised he =>
      cases h
      rw [hnone hbefore, hraised]
      exact .finalInterrupted streaming p reply stage e hbefore he
  | commits hcommit hdone =>
      rw [hm] at h
      cases h
      rw [hnone (by rw [hcommit, TxnStage.beforeCommit]), hcommit, hdone]
      exact .finalCommits streaming p reply m hm
  | commitsRaising e hcommit hraised he =>
      rw [hm] at h
      cases h
      rw [hnone (by rw [hcommit, TxnStage.beforeCommit]), hcommit, hraised]
      exact .finalCommitsRaising streaming p reply m hm e he
  | unwinds e hrollback he =>
      cases h
      rw [hrollback]
      exact .finalUnwinds streaming p reply built result e he
  | returns hclose hdone =>
      obtain ⟨message, rfl, heq⟩ := Option.map_eq_some_iff.mp h
      cases heq
      rw [hclose, hdone]
      exact .finalReturns streaming p reply message
  | raises e hbefore he hcause =>
      cases streaming with
      | false =>
          cases h
          exact .sendRaises p reply built stage result e hbefore
      | true =>
          obtain ⟨handler, heq⟩ := handle_of_raised he true p reply.content
          simp only [finalizingMove, if_true, heq, Option.some.injEq, Prod.mk.injEq] at h
          obtain ⟨rfl, rfl⟩ := h
          exact .streamRecovers p reply built stage result e handler hbefore he hcause

private theorem resumeRecording_cases {streaming : Bool} {p : PreparedExchange} {content : String}
    {caught : Exn} {handler : ErrorHandler} {stage : TxnStage} {result : Await}
    (hsound : (Phase.recording streaming p content caught handler stage).Sound)
    (hrow : ∃ m, getMessage store.messages p.assistantMessage.id = some m)
    (hresult : result.deliverable = true)
    (h : resumeRecording streaming p content caught handler stage store result now =
      some (phase', store')) :
    RequestStep store now (.recording streaming p content caught handler stage) (.awaited result)
      phase' store' := by
  obtain ⟨hstage, -⟩ := hsound
  obtain ⟨m, hm⟩ := hrow
  unfold resumeRecording at h
  split at h
  · cases h
    exact .recordDetaches streaming p content caught handler stage result _ ‹_›
  · rename_i hdetach
    obtain ⟨move, hmove, h⟩ := Option.map_eq_some_iff.mp h
    cases TxnStage.move_step (by rfl) hstage hresult hmove with
    | advances stage' hbefore hbefore' hdone =>
        cases h
        rw [hdone]
        exact .recordAdvances streaming p content caught handler stage stage' hbefore hbefore'
    | misses hlookup hfound hdone => simp [hm] at hfound
    | interrupted e hbefore hraised he =>
        cases h
        subst hraised
        exact .recordInterrupted streaming p content caught handler stage e hbefore he hdetach
    | commits hcommit hdone =>
        cases h
        rw [hcommit]
        exact .recordCommits streaming p content caught handler result (.close none) trivial rfl
    | commitsRaising e hcommit hraised he =>
        cases h
        rw [hcommit]
        exact .recordCommits streaming p content caught handler result (.rollback e) he rfl
    | unwinds e hrollback he =>
        cases h
        rw [hrollback]
        exact .recordUnwinds streaming p content caught handler result e he
    | returns hclose hdone =>
        cases h
        rw [hclose, hdone]
        exact .recordReturns streaming p content caught handler
    | raises e hbefore he hcause =>
        cases h
        exact .recordRaises streaming p content caught handler stage result e hbefore

theorem resume_cases (hsound : phase.Sound)
    (hrow : ∀ p, phase.exchange = some p →
      ∃ m, getMessage store.messages p.assistantMessage.id = some m)
    (h : resume store phase input now = some (phase', store')) :
    RequestStep store now phase input phase' store' := by
  unfold resume at h
  split at h
  · rename_i hinput
    cases phase with
    | streaming p locals point =>
        obtain ⟨phase'', hstream, heq⟩ := Option.map_eq_some_iff.mp h
        cases heq
        exact .streams p locals point input _ (resumeStream_step hsound hinput hstream)
    | generating p =>
        cases input with
        | response response =>
            cases h
            exact .responds p response
        | awaited result =>
            cases result with
            | raised e =>
                obtain ⟨handler, heq⟩ := handle_of_raised hinput false p ""
                simp only [heq, Option.some.injEq, Prod.mk.injEq] at h
                obtain ⟨rfl, rfl⟩ := h
                exact .fails p e handler hinput
            | _ => cases h
        | _ => cases h
    | finalizing streaming p reply built stage =>
        cases input with
        | awaited result => exact resumeFinalizing_cases hsound (hrow p rfl) hinput h
        | _ => cases h
    | recording streaming p content caught handler stage =>
        cases input with
        | awaited result => exact resumeRecording_cases hsound (hrow p rfl) hinput h
        | _ => cases h
    | completedEvent p message =>
        cases input <;> cases h <;> exact .ends _ _ _ (Or.inl ⟨p, message, rfl⟩)
    | errorEvent p e => cases input <;> cases h <;> exact .ends _ _ _ (Or.inr ⟨p, e, rfl⟩)
    | _ => cases h
  · cases h

theorem TxnStage.sound_of_beforeCommit {stage : TxnStage} (h : stage.beforeCommit = true) :
    stage.Sound := by
  cases stage <;> simp_all [TxnStage.beforeCommit, TxnStage.Sound]

theorem TxnStage.ne_close_of_beforeCommit {stage : TxnStage} (h : stage.beforeCommit = true) :
    stage ≠ .close none := by
  rintro rfl
  cases h

theorem RequestStep.sound (hsound : phase.Sound)
    (h : RequestStep store now phase input phase' store') : phase'.Sound := by
  cases h with
  | responds p response => exact ⟨trivial, by simp, by simp⟩
  | fails p e handler he => exact ⟨trivial, he⟩
  | streams p locals point input phase' hstream =>
      cases hstream with
      | stays locals' point' hsound' hinput => exact hsound'
      | replays hneeds hinput => trivial
      | finishes reply hneeds hinput => exact ⟨trivial, by simp, by simp⟩
      | catches content e handler hneeds he hinput => exact ⟨trivial, he⟩
      | closes hclose => trivial
  | finalAdvances streaming p reply stage stage' hbefore hbefore' =>
      exact ⟨TxnStage.sound_of_beforeCommit hbefore', by simp,
        fun h => absurd h (TxnStage.ne_close_of_beforeCommit hbefore')⟩
  | finalInterrupted streaming p reply stage e hbefore he => exact ⟨he, by simp, by simp⟩
  | finalCommits streaming p reply m hrow =>
      exact ⟨trivial, by simp [TxnStage.beforeCommit], by simp⟩
  | finalCommitsRaising streaming p reply m hrow e he =>
      exact ⟨he, by simp [TxnStage.beforeCommit], by simp⟩
  | finalUnwinds streaming p reply built result e he =>
      exact ⟨he, by simp [TxnStage.beforeCommit], by simp⟩
  | finalReturns streaming p reply message => cases streaming <;> trivial
  | sendRaises p reply built stage result e hbefore => trivial
  | streamRecovers p reply built stage result e handler hbefore he hcause => exact ⟨trivial, he⟩
  | recordDetaches streaming p content caught handler stage result e hdetach => exact hsound
  | recordAdvances streaming p content caught handler stage stage' hbefore hbefore' =>
      exact ⟨TxnStage.sound_of_beforeCommit hbefore', hsound.2⟩
  | recordInterrupted streaming p content caught handler stage e hbefore he hdetach =>
      exact ⟨he, hsound.2⟩
  | recordCommits streaming p content caught handler result stage' hsound' hbefore' =>
      exact ⟨hsound', hsound.2⟩
  | recordUnwinds streaming p content caught handler result e he => exact ⟨he, hsound.2⟩
  | recordReturns streaming p content caught handler =>
      cases handler <;> cases streaming <;> trivial
  | recordRaises streaming p content caught handler stage result e hbefore =>
      cases handler <;> trivial
  | ends phase input outcome hevent => trivial

end Inversion

end Astra.Chat
