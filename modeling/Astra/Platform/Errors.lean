import Astra.Platform.Python

/-!
# Errors

The error codes of `common/constants/error_codes.py`, and the exceptions that can
be in flight.  `except Exception` catches neither `asyncio.CancelledError` nor
`GeneratorExit`, so the handlers of the code depend on which of them it is.
-/

namespace Astra.Platform

inductive ErrorCode where
  | internalError
  | validationError
  | notFound
  | conflict
  | authInvalidCredentials
  | authInvalidToken
  | authTokenExpired
  | authTokenRevoked
  | authTokenReuseDetected
  | authInactiveUser
  | authEmailExists
  | authUsernameExists
  | authForbidden
  | llmProviderNotFound
  | llmProviderError
  | llmNotConfigured
  | conversationNotFound
  | chatRequestInProgress
  | chatMessageFailed
  | characterNotFound
  | personaNotFound
  | memoryNotFound
  | knowledgeSourceNotFound
  | ragRetrievalFailed
  | toolNotFound
  | toolForbidden
  | toolExecutionFailed
  | agentRunNotFound
  | agentInvalidTool
  | agentTimeout
  | agentMaxStepsReached
  | agentToolLimitReached
  | agentEmptyResponse
  deriving DecidableEq, Repr

def ErrorCode.value : ErrorCode → String
  | .internalError => "INTERNAL_ERROR"
  | .validationError => "VALIDATION_ERROR"
  | .notFound => "NOT_FOUND"
  | .conflict => "CONFLICT"
  | .authInvalidCredentials => "AUTH_INVALID_CREDENTIALS"
  | .authInvalidToken => "AUTH_INVALID_TOKEN"
  | .authTokenExpired => "AUTH_TOKEN_EXPIRED"
  | .authTokenRevoked => "AUTH_TOKEN_REVOKED"
  | .authTokenReuseDetected => "AUTH_TOKEN_REUSE_DETECTED"
  | .authInactiveUser => "AUTH_INACTIVE_USER"
  | .authEmailExists => "AUTH_EMAIL_EXISTS"
  | .authUsernameExists => "AUTH_USERNAME_EXISTS"
  | .authForbidden => "AUTH_FORBIDDEN"
  | .llmProviderNotFound => "LLM_PROVIDER_NOT_FOUND"
  | .llmProviderError => "LLM_PROVIDER_ERROR"
  | .llmNotConfigured => "LLM_NOT_CONFIGURED"
  | .conversationNotFound => "CONVERSATION_NOT_FOUND"
  | .chatRequestInProgress => "CHAT_REQUEST_IN_PROGRESS"
  | .chatMessageFailed => "CHAT_MESSAGE_FAILED"
  | .characterNotFound => "CHARACTER_NOT_FOUND"
  | .personaNotFound => "PERSONA_NOT_FOUND"
  | .memoryNotFound => "MEMORY_NOT_FOUND"
  | .knowledgeSourceNotFound => "KNOWLEDGE_SOURCE_NOT_FOUND"
  | .ragRetrievalFailed => "RAG_RETRIEVAL_FAILED"
  | .toolNotFound => "TOOL_NOT_FOUND"
  | .toolForbidden => "TOOL_FORBIDDEN"
  | .toolExecutionFailed => "TOOL_EXECUTION_FAILED"
  | .agentRunNotFound => "AGENT_RUN_NOT_FOUND"
  | .agentInvalidTool => "AGENT_INVALID_TOOL"
  | .agentTimeout => "AGENT_TIMEOUT"
  | .agentMaxStepsReached => "AGENT_MAX_STEPS_REACHED"
  | .agentToolLimitReached => "AGENT_TOOL_LIMIT_REACHED"
  | .agentEmptyResponse => "AGENT_EMPTY_RESPONSE"

theorem ErrorCode.value_length (code : ErrorCode) : code.value.length ≤ 100 := by
  cases code <;> decide

/-- What can propagate out of an `await` or a call. -/
inductive Exn where
  | app (code : ErrorCode) (message : String) (statusCode : Nat) (details : Json)
  | timeoutError (message : String)
  | other (kind : String) (message : String)
  /-- `asyncio.CancelledError` from outside. -/
  | cancelled
  /-- `asyncio.CancelledError` that an enclosing `asyncio.timeout` has injected. -/
  | deadline
  | generatorExit
  deriving Inhabited, Repr

namespace Exn

def isException : Exn → Bool
  | .app .. | .timeoutError _ | .other .. => true
  | .cancelled | .deadline | .generatorExit => false

def isCancellation : Exn → Bool
  | .cancelled | .deadline => true
  | .app .. | .timeoutError _ | .other .. | .generatorExit => false

/-- `GeneratorExit` is not raised by an `await`. -/
def raisedByAwait (e : Exn) : Bool := e.isException || e.isCancellation

def codeValue : Exn → String
  | .app code _ _ _ => code.value
  | _ => ErrorCode.internalError.value

def code? : Exn → Option ErrorCode
  | .app code _ _ _ => some code
  | _ => none

def message : Exn → String
  | .app _ message _ _ | .timeoutError message | .other _ message => message
  | .cancelled | .deadline | .generatorExit => ""

end Exn

theorem bind_eq_ok {α β : Type} {x : Except Exn α} {f : α → Except Exn β} {b : β}
    (h : (x >>= f) = .ok b) : ∃ a, x = .ok a ∧ f a = .ok b := by
  cases x with
  | error e => cases h
  | ok a => exact ⟨a, rfl, h⟩

def validationException (message : String) : Exn := .app .validationError message 422 .null

def notFoundException (message : String) (code : ErrorCode) : Exn := .app code message 404 .null

def conflictException (message : String) (code : ErrorCode) : Exn := .app code message 409 .null

def authenticationException (message : String) (code : ErrorCode) : Exn :=
  .app code message 401 .null

def authorizationException (message : String) (code : ErrorCode) : Exn :=
  .app code message 403 .null

def llmException (message : String) (code : ErrorCode) (statusCode : Nat) : Exn :=
  .app code message statusCode .null

def runtimeError (message : String) : Exn := .other "RuntimeError" message

def valueError (message : String) : Exn := .other "ValueError" message

def integrityError : Exn := .other "IntegrityError" "duplicate key value violates unique constraint"

end Astra.Platform
