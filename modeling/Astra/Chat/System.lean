import Astra.Chat.Messages
import Astra.Chat.RequestSteps
import Astra.Foundation.Transition
import Astra.Services.Effects
import Mathlib.Logic.Function.Basic

/-!
# Any number of requests over one store

Requests are numbered, and a step resumes one of them, admits a new one or runs
an operation of another service.  `_prepare_exchange` is one step, serialised by
the lock on the conversation row; every other transaction takes effect at its
commit, between the awaits before and after it.
-/

namespace Astra.Chat

open Astra.Foundation Astra.Platform Astra.Persistence Astra.LLM Astra.Services

/-! ## The system -/

/-- How the awaits inside `_prepare_exchange` go. -/
inductive PrepareAwaits where
  | completed
  | raisedBeforeAssembly (e : Exn)
  /-- The transaction of the assembler has committed. -/
  | raisedBeforeCommit (e : Exn)
  | raisedAfterCommit (e : Exn)

def PrepareAwaits.deliverable : PrepareAwaits → Bool
  | .completed => true
  | .raisedBeforeAssembly e | .raisedBeforeCommit e | .raisedAfterCommit e => e.raisedByAwait

def awaitPrepare (awaits : PrepareAwaits) (store : Store)
    (result : Except Exn PreparedExchange × Store) : Except Exn PreparedExchange × Store :=
  match awaits with
  | .completed => result
  | .raisedBeforeAssembly e => (.error e, store)
  | .raisedBeforeCommit e => (.error e, { store with memories := result.2.memories })
  | .raisedAfterCommit e => (.error e, result.2)

structure Arrival where
  streaming : Bool
  service : ChatExecutionMode
  userId : UUID
  conversationId : UUID
  request : MessageSendRequest
  gen : Generated
  awaits : PrepareAwaits := .completed

def Arrival.prepare (d : Deployment) (store : Store) (a : Arrival) :
    Except Exn PreparedExchange × Store :=
  awaitPrepare a.awaits store
    (prepareExchange d.py d.config store a.userId a.conversationId a.request a.streaming a.gen)

/-- The guards in front of the message table. -/
def Admitted (d : Deployment) (store : Store) (a : Arrival) : Prop :=
  a.request.content.length ≤ d.config.chatMaxMessageLength ∧
    ∃ c, getOwnedConversation store.conversations a.conversationId a.userId = some c

structure ChatState where
  store : Store := {}
  phases : Nat → Phase := fun _ => .idle

inductive ChatLabel where
  | arrive (i : Nat) (arrival : Arrival)
  | resume (i : Nat) (input : Input) (now : Timestamp)
  | service (userId : UUID) (action : ServiceAction)

def ChatState.step (d : Deployment) (s : ChatState) : ChatLabel → Option ChatState
  | .arrive i arrival =>
      match s.phases i with
      | .idle =>
          if arrival.awaits.deliverable then
            let result := arrival.prepare d s.store
            some
              { store := result.2
                phases := Function.update s.phases i
                  (start d arrival.streaming arrival.service result.1) }
          else none
      | _ => none
  | .resume i input now =>
      (resume s.store (s.phases i) input now).map fun result =>
        { store := result.2, phases := Function.update s.phases i result.1 }
  | .service userId action =>
      some { s with store := applyService d.config s.store userId action }

section Inversion

variable {d : Deployment} {s t : ChatState}

theorem ChatState.step_arrive {i : Nat} {a : Arrival} (h : s.step d (.arrive i a) = some t) :
    s.phases i = .idle ∧ a.awaits.deliverable = true ∧
      t =
        { store := (a.prepare d s.store).2
          phases := Function.update s.phases i
            (start d a.streaming a.service (a.prepare d s.store).1) } := by
  simp only [ChatState.step] at h
  split at h
  · rename_i hidle
    split at h
    · rename_i hawaits
      simp only [Option.some.injEq] at h
      exact ⟨hidle, hawaits, h.symm⟩
    · cases h
  · cases h

theorem ChatState.step_resume {i : Nat} {input : Input} {now : Timestamp}
    (h : s.step d (.resume i input now) = some t) :
    ∃ phase store, resume s.store (s.phases i) input now = some (phase, store) ∧
      t = { store := store, phases := Function.update s.phases i phase } := by
  obtain ⟨⟨phase, store⟩, hresume, ht⟩ := Option.map_eq_some_iff.mp h
  exact ⟨phase, store, hresume, ht.symm⟩

theorem ChatState.step_service {userId : UUID} {action : ServiceAction}
    (h : s.step d (.service userId action) = some t) :
    t = { s with store := applyService d.config s.store userId action } := by
  simp only [ChatState.step, Option.some.injEq] at h
  exact h.symm

end Inversion

/-! ## A deployment for evaluation -/

def defaultConfig : AppConfig where
  defaultLlmProvider := "openai"
  defaultLlmModel := "gpt-4.1-mini"
  chatContextMessageLimit := 50
  chatMaxMessageLength := 12000
  chatDefaultTemperature := 4 / 5
  chatDefaultMaxTokens := 2048
  platformSystemPrompt := "You are Astra AI. Follow the active character and persona context " ++
    "without inventing actions or dialogue for the user."
  memoryContextLimit := 12
  memoryMinImportance := 1 / 5
  ragChunkSizeChars := 1800
  ragChunkOverlapChars := 240

def defaultDeployment : Deployment where
  py := PyRuntime.ascii
  config := defaultConfig
  registry := buildDefaultRegistry fun _ _ => .ok ()
  settings :=
    { openaiApiKey := none
      openaiBaseUrl := none
      ollamaBaseUrl := "http://localhost:11434" }

def openConversation10 (provider : Option String) : ChatLabel :=
  .service 1 (.createConversation { provider := provider } 10 0)

def helloRequest : MessageSendRequest := { content := "Hello", clientMessageId := 5 }

def helloArrival (streaming : Bool) (gen : Generated) : Arrival where
  streaming := streaming
  service := .direct
  userId := 1
  conversationId := 10
  request := helloRequest
  gen := gen

def ChatState.rowView (s : ChatState) (id : UUID) : Option (MessageStatus × String) :=
  (getMessage s.store.messages id).map fun m => (m.status, m.content)

/-! ## Who may still write an assistant row -/

/-- The assistant row that the request may still write. -/
def Phase.writes : Phase → Option UUID
  | .generating p => some p.assistantMessage.id
  | .streaming p _ _ => if p.needsGeneration then some p.assistantMessage.id else none
  | .finalizing _ p _ built _ => if built.isNone then some p.assistantMessage.id else none
  | .recording _ p _ _ _ stage => if stage.beforeCommit then some p.assistantMessage.id else none
  | .idle | .completedEvent .. | .errorEvent .. | .exited _ => none

def Phase.inFlight : Phase → Option UUID
  | .generating p => some p.assistantMessage.id
  | .streaming p _ _ => if p.needsGeneration then some p.assistantMessage.id else none
  | _ => none

theorem Phase.writes_of_inFlight {phase : Phase} {a : UUID} (h : phase.inFlight = some a) :
    phase.writes = some a := by
  cases phase <;> simp_all [Phase.inFlight, Phase.writes]

def Phase.Returning : Phase → Prop
  | .finalizing true _ _ (some _) stage => stage = .close none
  | _ => True

/-- A success transaction of a stream is not interrupted once its commit took effect. -/
def uninterrupted (phase : Phase) (input : Input) : Prop :=
  match phase, input with
  | .finalizing true _ _ _ .commit, .awaited (.raisedAfterCommit _) => False
  | .finalizing true _ _ _ (.close none), .awaited (.raised _) => False
  | _, _ => True

def ReturnsOnceCommitted (s : ChatState) : ChatLabel → Prop
  | .resume i input _ => uninterrupted (s.phases i) input
  | .arrive .. | .service .. => True

inductive Effect (store : Store) (phase : Phase) (now : Timestamp) : Phase → Store → Prop
  | quiet (phase' : Phase) (hwrites : phase'.writes = phase.writes ∨ phase'.writes = none) :
      Effect store phase now phase' store
  | completes (phase' : Phase) (a : UUID) (reply : FinalReply) (hwrites : phase.writes = some a)
      (hdone : phase'.writes = none) :
      Effect store phase now phase' (finalizeSuccess reply a now store)
  | fails (phase' : Phase) (a : UUID) (partialContent : String) (e : Exn)
      (hwrites : phase.writes = some a) (hdone : phase'.writes = none) :
      Effect store phase now phase' (finalizeFailure partialContent e a now store)

section Resume

variable {store store' : Store} {phase phase' : Phase} {input : Input} {now : Timestamp}

theorem StreamStep.effect {p : PreparedExchange} {locals : StreamLocals} {point : StreamPoint}
    (h : StreamStep p input phase') :
    Effect store (.streaming p locals point) now phase' store ∧ phase'.Returning := by
  cases h with
  | stays locals' point' hsound' hinput => exact ⟨.quiet _ (Or.inl rfl), trivial⟩
  | replays hneeds hinput => exact ⟨.quiet _ (Or.inr rfl), trivial⟩
  | finishes reply hneeds hinput =>
      exact ⟨.quiet _ (Or.inl (by simp [Phase.writes, hneeds])), trivial⟩
  | catches content e handler hneeds he hinput =>
      exact ⟨.quiet _ (Or.inl (by simp [Phase.writes, hneeds, TxnStage.beforeCommit])), trivial⟩
  | closes hclose => exact ⟨.quiet _ (Or.inr rfl), trivial⟩

/-- What a step does to the store and to the rows that the request may still write. -/
theorem RequestStep.effect (hreturning : phase.Returning) (hok : uninterrupted phase input)
    (h : RequestStep store now phase input phase' store') :
    Effect store phase now phase' store' ∧ phase'.Returning := by
  cases h with
  | responds p response => exact ⟨.quiet _ (Or.inl rfl), trivial⟩
  | fails p e handler he => exact ⟨.quiet _ (Or.inl rfl), trivial⟩
  | streams p locals point input phase' hstream => exact hstream.effect
  | finalAdvances streaming p reply stage stage' hbefore hbefore' =>
      exact ⟨.quiet _ (Or.inl rfl), by cases streaming <;> trivial⟩
  | finalInterrupted streaming p reply stage e hbefore he =>
      exact ⟨.quiet _ (Or.inl rfl), by cases streaming <;> trivial⟩
  | finalCommits streaming p reply m hrow =>
      refine ⟨.completes _ _ _ rfl rfl, ?_⟩
      cases streaming
      · trivial
      · exact rfl
  | finalCommitsRaising streaming p reply m hrow e he =>
      cases streaming with
      | false => exact ⟨.completes _ _ _ rfl rfl, trivial⟩
      | true => exact absurd hok (by simp [uninterrupted])
  | finalUnwinds streaming p reply built result e he =>
      refine ⟨.quiet _ (Or.inl rfl), ?_⟩
      cases streaming with
      | false => trivial
      | true =>
          cases built with
          | none => trivial
          | some message => simp [Phase.Returning] at hreturning
  | finalReturns streaming p reply message =>
      cases streaming <;> exact ⟨.quiet _ (Or.inr rfl), trivial⟩
  | sendRaises p reply built stage result e hbefore => exact ⟨.quiet _ (Or.inr rfl), trivial⟩
  | streamRecovers p reply built stage result e handler hbefore he hcause =>
      cases built with
      | none => exact ⟨.quiet _ (Or.inl rfl), trivial⟩
      | some message =>
          -- The reply is committed, so the stage is `close none`, whose await may not raise.
          simp only [Phase.Returning] at hreturning
          subst hreturning
          rcases hcause with rfl | hne
          · exact absurd hok (by simp [uninterrupted])
          · exact absurd rfl hne
  | recordDetaches streaming p content caught handler stage result e hdetach =>
      exact ⟨.quiet _ (Or.inl rfl), trivial⟩
  | recordAdvances streaming p content caught handler stage stage' hbefore hbefore' =>
      exact ⟨.quiet _ (Or.inl (by simp [Phase.writes, hbefore, hbefore'])), trivial⟩
  | recordInterrupted streaming p content caught handler stage e hbefore he hdetach =>
      exact ⟨.quiet _ (Or.inr rfl), trivial⟩
  | recordCommits streaming p content caught handler result stage' hsound' hbefore' =>
      exact ⟨.fails _ _ _ _ rfl (by simp [Phase.writes, hbefore']), trivial⟩
  | recordUnwinds streaming p content caught handler result e he =>
      exact ⟨.quiet _ (Or.inr rfl), trivial⟩
  | recordReturns streaming p content caught handler =>
      cases handler <;> cases streaming <;> exact ⟨.quiet _ (Or.inr rfl), trivial⟩
  | recordRaises streaming p content caught handler stage result e hbefore =>
      cases handler <;> exact ⟨.quiet _ (Or.inr rfl), trivial⟩
  | ends phase input outcome hevent => exact ⟨.quiet _ (Or.inr rfl), trivial⟩

end Resume

end Astra.Chat
