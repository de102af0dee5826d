import Astra.Chat.Prepare

/-!
# Finalising transactions

The rows that `_finalize_success` and `_finalize_failure` write, and the awaits
of such a transaction under `SQLAlchemyUnitOfWork`: statements, `commit`, and on
the way out `rollback` and `close`.  An await may raise; that of `commit` may
also raise after the commit took effect.
-/

namespace Astra.Chat

open Astra.Foundation Astra.Platform Astra.Persistence Astra.LLM Astra.Services

/-! ## The rows written -/

structure FinalReply where
  content : String
  providerResponseId : Option String
  tokenUsage : Option Dict
  metadata : Dict

def completeMessage (reply : FinalReply) (now : Timestamp) (m : Message) : Message :=
  { m with
    content := reply.content
    status := .completed
    providerMessageId := reply.providerResponseId
    tokenUsage := reply.tokenUsage
    messageMetadata := reply.metadata.dropNone
    updatedAt := now }

def failMessage (partialContent : String) (e : Exn) (now : Timestamp) (m : Message) : Message :=
  { m with
    content := partialContent
    status := .failed
    messageMetadata := [("error_code", .str e.codeValue)]
    updatedAt := now }

def getMessage (rows : List Message) (id : UUID) : Option Message :=
  rows.find? fun m => m.id == id

theorem getMessage_mem {rows : List Message} {id : UUID} {m : Message}
    (h : getMessage rows id = some m) : m ∈ rows ∧ m.id = id := by
  unfold getMessage at h
  exact ⟨List.mem_of_find?_eq_some h, by simpa using List.find?_some h⟩

/-- The committed effect of `_finalize_success`. -/
def finalizeSuccess (reply : FinalReply) (assistantMessageId : UUID) (now : Timestamp)
    (store : Store) : Store :=
  match getMessage store.messages assistantMessageId with
  | none => store
  | some assistant =>
      { store with
        messages := updateMessage assistantMessageId (completeMessage reply now) store.messages
        conversations :=
          updateConversationRow assistant.conversationId
            (fun c => { c with lastMessageAt := some now, updatedAt := now })
            store.conversations }

/-- The committed effect of `_finalize_failure`. -/
def finalizeFailure (partialContent : String) (e : Exn) (assistantMessageId : UUID)
    (now : Timestamp) (store : Store) : Store :=
  { store with
    messages := updateMessage assistantMessageId (failMessage partialContent e now) store.messages }

/-! ## The awaits of a transaction -/

inductive TxnStage where
  | lookup
  | statement (left : Nat)
  | commit
  | rollback (e : Exn)
  | close (inFlight : Option Exn)

/-- What an awaited operation does. -/
inductive Await where
  | done
  | raised (e : Exn)
  /-- A commit took effect and its await raised. -/
  | raisedAfterCommit (e : Exn)

inductive TxnMove where
  | goto (stage : TxnStage)
  | commit (stage : TxnStage)
  | returns
  | raises (e : Exn)

/-- Where the body goes after the lookup, by whether there is a row. -/
structure TxnPlan where
  found : TxnStage
  missing : TxnStage

def successPlan : TxnPlan where
  found := .statement 1
  missing := .rollback (runtimeError "Assistant message disappeared during generation.")

def failurePlan : TxnPlan where
  found := .commit
  missing := .close none

def TxnStage.move (plan : TxnPlan) (found : Bool) : TxnStage → Await → Option TxnMove
  | .lookup, .done => some (.goto (if found then plan.found else plan.missing))
  | .lookup, .raised e => some (.goto (.rollback e))
  | .statement 0, .done => some (.goto .commit)
  | .statement (left + 1), .done => some (.goto (.statement left))
  | .statement _, .raised e => some (.goto (.rollback e))
  | .commit, .done => some (.commit (.close none))
  | .commit, .raised e => some (.goto (.rollback e))
  | .commit, .raisedAfterCommit e => some (.commit (.rollback e))
  | .rollback e, .done => some (.goto (.close (some e)))
  | .rollback _, .raised e => some (.raises e)
  | .close none, .done => some .returns
  | .close (some e), .done => some (.raises e)
  | .close _, .raised e => some (.raises e)
  | _, .raisedAfterCommit _ => none

/-- The commit is still ahead: nothing has been written and nothing has failed. -/
def TxnStage.beforeCommit : TxnStage → Bool
  | .lookup | .statement _ | .commit => true
  | .rollback _ | .close _ => false

end Astra.Chat
