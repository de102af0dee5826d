import Astra.Foundation.Transition
import Astra.Platform.Python
import Mathlib.Data.Rat.Floor
import Mathlib.Logic.Function.Basic

/-!
# Tokens and their refresh on the client

`SecureTokenStore`, `AuthInterceptor` and `AuthRepositoryImpl`.  Code between two
awaits is one step; what an awaited call brings (a reply of the server, the success of
an operation on the secure storage) is part of the label.  The token session is the
store with the refresh in flight; requests and session operations move around it.
-/

namespace Astra.Client

open Astra.Foundation Astra.Platform

/-! ## Decoding -/

structure AuthTokens where
  accessToken : String
  refreshToken : String
  tokenType : String
  accessExpiresIn : Int
  refreshExpiresIn : Int
  deriving DecidableEq

inductive DecodeError where
  | format
  | app
  | checked (key : String)

def checkedString (json : Dict) (key : String) : Except DecodeError String :=
  match json.get? key with
  | some (.str value) => .ok value
  | _ => .error (.checked key)

def checkedInt (json : Dict) (key : String) : Except DecodeError Int :=
  match json.get? key with
  | some (.int value) => .ok value
  | some (.float value) => .ok (if 0 ≤ value then ⌊value⌋ else ⌈value⌉)
  | _ => .error (.checked key)

namespace AuthTokens

def fromJson (json : Dict) : Except DecodeError AuthTokens := do
  let accessToken ← checkedString json "access_token"
  let refreshToken ← checkedString json "refresh_token"
  let tokenType ← checkedString json "token_type"
  let accessExpiresIn ← checkedInt json "access_expires_in"
  let refreshExpiresIn ← checkedInt json "refresh_expires_in"
  .ok { accessToken, refreshToken, tokenType, accessExpiresIn, refreshExpiresIn }

def toJson (tokens : AuthTokens) : Dict :=
  [("access_token", .str tokens.accessToken), ("refresh_token", .str tokens.refreshToken),
    ("token_type", .str tokens.tokenType), ("access_expires_in", .int tokens.accessExpiresIn),
    ("refresh_expires_in", .int tokens.refreshExpiresIn)]

theorem fromJson_toJson (tokens : AuthTokens) : fromJson tokens.toJson = .ok tokens := rfl

end AuthTokens

def requireDataMap : Json → Except DecodeError Dict
  | .obj root =>
      match Dict.get? root "success" with
      | some (.bool true) =>
          match Dict.get? root "data" with
          | some (.obj data) => .ok data
          | _ => .error .format
      | _ => .error .app
  | _ => .error .format

def decodeRefresh (body : Json) : Except DecodeError AuthTokens := do
  let data ← requireDataMap body
  match data.get? "tokens" with
  | some (.obj tokenData) => AuthTokens.fromJson tokenData
  | _ => .error .format

/-! ## The token store -/

inductive StoredValue where
  | missing
  | malformed
  | json (value : Json)

def StoredValue.tokens? : StoredValue → Option AuthTokens
  | .json (.obj fields) => (AuthTokens.fromJson fields).toOption
  | _ => none

inductive StorageAnswer where
  | failed
  /-- The value; where `read` clears it, `deletes` says whether the storage deletes it. -/
  | value (deletes : Bool)

structure SecureTokenStore where
  storage : StoredValue
  memoryCache : Option AuthTokens := none
  hasLoaded : Bool := false

namespace SecureTokenStore

def load (store : SecureTokenStore) :
    StorageAnswer → SecureTokenStore × Except Unit (Option AuthTokens)
  | .failed => (store, .error ())
  | .value deletes =>
      match store.storage with
      | .missing => ({ store with hasLoaded := true }, .ok none)
      | .json (.obj fields) =>
          match AuthTokens.fromJson fields with
          | .ok tokens =>
              ({ store with hasLoaded := true, memoryCache := some tokens }, .ok (some tokens))
          -- `CheckedFromJsonException` is neither a `FormatException` nor a `TypeError`
          | .error _ => ({ store with hasLoaded := true }, .error ())
      | _ =>
          if deletes then
            ({ storage := .missing, memoryCache := none, hasLoaded := true }, .ok none)
          else ({ store with memoryCache := none, hasLoaded := true }, .error ())

def write (store : SecureTokenStore) (tokens : AuthTokens) (stores : Bool) : SecureTokenStore :=
  if stores then
    { storage := .json (.obj tokens.toJson), memoryCache := some tokens, hasLoaded := true }
  else store

def clear (store : SecureTokenStore) : SecureTokenStore :=
  { store with memoryCache := none, hasLoaded := true }

def deleted (store : SecureTokenStore) (deletes : Bool) : SecureTokenStore :=
  if deletes then { store with storage := .missing } else store

end SecureTokenStore

/-! ## The refresh -/

inductive RefreshError where
  | dio
  | other

inductive RefreshReply where
  | answered (body : Json)
  /-- Such a status, but the body is lost or is no JSON: a `DioException` without response. -/
  | unreadable
  | rejected (statusCode : Nat)
  | failed

def RefreshReply.rotates : RefreshReply → Bool
  | .answered _ | .unreadable => true
  | _ => false

inductive RefreshOutcome where
  | store (next : AuthTokens)
  | expire
  | raise (error : RefreshError)

def RefreshReply.outcome : RefreshReply → RefreshOutcome
  | .answered body =>
      match decodeRefresh body with
      | .ok next => .store next
      | .error .format => .expire
      | .error _ => .raise .other
  | .rejected statusCode => if statusCode = 401 ∨ statusCode = 403 then .expire else .raise .dio
  | .unreadable | .failed => .raise .dio

inductive RefreshStage where
  | loading
  | read (tokens : Option AuthTokens)
  | posting (tokens : AuthTokens)
  | storing (tokens next : AuthTokens)
  | expiring (tokens : Option AuthTokens)
  | finished (result : Except RefreshError (Option String))

/-- `_refreshInFlight`, with the count of session changes when it read the store. -/
structure Refresh where
  since : Nat
  stage : RefreshStage

/--
The store and the refresh in flight.  The other fields record what has happened: the
refresh tokens sent and those that the server has rotated, how often a session operation
has changed the store, whether anything has begun to write or clear it, and whether the
last session operation to change it was a logout.
-/
structure TokenSession where
  store : SecureTokenStore
  refresh : Option Refresh := none
  sent : List String := []
  rotated : List String := []
  changes : Nat := 0
  touched : Bool := false
  loggedOut : Bool := false

inductive SessionLabel where
  | load (answer : StorageAnswer)
  | startRefresh
  | refreshLoaded (answer : StorageAnswer)
  | resumeRefresh
  | reply (reply : RefreshReply)
  | refreshStored (stores : Bool)
  | refreshExpired (deletes : Bool)
  | completeRefresh
  | beginWrite
  | write (tokens : AuthTokens) (stores : Bool)
  | clear (logout : Bool)
  | deleted (deletes : Bool)

namespace TokenSession

def startRefresh (c : TokenSession) : Refresh where
  since := c.changes
  stage := if c.store.hasLoaded then .read c.store.memoryCache else .loading

def expire (c : TokenSession) (since : Nat) (tokens : Option AuthTokens) : TokenSession :=
  { c with
    store := c.store.clear
    touched := true
    refresh := some ⟨since, .expiring tokens⟩ }

def step (c : TokenSession) : SessionLabel → Option TokenSession
  | .load answer => some { c with store := (c.store.load answer).1 }
  | .startRefresh =>
      match c.refresh with
      | some _ => none
      | none => some { c with refresh := some c.startRefresh }
  | .refreshLoaded answer =>
      match c.refresh with
      | some ⟨_, .loading⟩ =>
          let stage :=
            match (c.store.load answer).2 with
            | .ok tokens => .read tokens
            | .error _ => .finished (.error .other)
          some { c with store := (c.store.load answer).1, refresh := some ⟨c.changes, stage⟩ }
      | _ => none
  | .resumeRefresh =>
      match c.refresh with
      | some ⟨since, .read none⟩ => some (c.expire since none)
      | some ⟨since, .read (some tokens)⟩ =>
          some { c with
            refresh := some ⟨since, .posting tokens⟩
            sent := c.sent ++ [tokens.refreshToken] }
      | _ => none
  | .reply reply =>
      match c.refresh with
      | some ⟨since, .posting tokens⟩ =>
          let c : TokenSession :=
            { c with rotated :=
                if reply.rotates then tokens.refreshToken :: c.rotated else c.rotated }
          match reply.outcome with
          | .store next =>
              some { c with touched := true, refresh := some ⟨since, .storing tokens next⟩ }
          | .expire => some (c.expire since (some tokens))
          | .raise error => some { c with refresh := some ⟨since, .finished (.error error)⟩ }
      | _ => none
  | .refreshStored stores =>
      match c.refresh with
      | some ⟨since, .storing _ next⟩ =>
          let result := if stores then .ok (some next.accessToken) else .error .other
          some { c with
            store := c.store.write next stores
            refresh := some ⟨since, .finished result⟩ }
      | _ => none
  | .refreshExpired deletes =>
      match c.refresh with
      | some ⟨since, .expiring _⟩ =>
          let result := if deletes then .ok none else .error .other
          some { c with
            store := c.store.deleted deletes
            refresh := some ⟨since, .finished result⟩ }
      | _ => none
  | .completeRefresh =>
      match c.refresh with
      | some ⟨_, .finished _⟩ => some { c with refresh := none }
      | _ => none
  | .beginWrite => some { c with touched := true }
  | .write tokens stores =>
      if stores then
        some { c with
          store := c.store.write tokens true
          changes := c.changes + 1
          touched := true
          loggedOut := false }
      else some c
  | .clear logout =>
      some { c with
        store := c.store.clear
        changes := c.changes + 1
        touched := true
        loggedOut := c.loggedOut || logout }
  | .deleted deletes => some { c with store := c.store.deleted deletes, touched := true }

end TokenSession

/-! ## Requests and session operations -/

/-- What the interceptor reads and sets in the options of a request. -/
structure RequestOptions where
  path : String
  skipAuth : Bool := false
  retried : Bool := false
  authorization : Option String := none

inductive RequestOutcome where
  | resolved
  /-- The handler passes on the error that it was given. -/
  | ownError
  /-- The handler passes on the error of the refresh or of the second try. -/
  | laterError
  /-- `_attachToken` has thrown, and nobody calls the handler. -/
  | lost

inductive RequestStage where
  | attaching
  | sent
  | awaiting
  | refreshed (result : Except RefreshError (Option String))
  | settled (outcome : RequestOutcome)

inductive Operation where
  | login
  | register
  | logout
  | logoutAllDevices
  | restoreSession
  deriving DecidableEq

inductive OperationReply where
  | authenticated (tokens : AuthTokens)
  | succeeded
  | failed (statusCode : Option Nat)

inductive OperationStage where
  | reading
  | calling (tokens : Option AuthTokens)
  | storing (tokens : AuthTokens)
  | clearing
  | finished

structure ClientState where
  session : TokenSession
  requests : Nat → Option (RequestOptions × RequestStage) := fun _ => none
  operations : Nat → Option (Operation × OperationStage) := fun _ => none

inductive ClientLabel where
  | request (i : Nat) (path : String) (skipAuth : Bool)
  | attach (i : Nat) (answer : StorageAnswer)
  | response (i : Nat)
  | error (i : Nat) (statusCode : Option Nat)
  | resume (i : Nat)
  | refreshLoaded (answer : StorageAnswer)
  | resumeRefresh
  | reply (reply : RefreshReply)
  | refreshStored (stores : Bool)
  | refreshExpired (deletes : Bool)
  | completeRefresh
  | start (i : Nat) (operation : Operation)
  | operationLoaded (i : Nat) (answer : StorageAnswer)
  | operationReply (i : Nat) (reply : OperationReply)
  | operationStored (i : Nat) (stores : Bool)
  | operationCleared (i : Nat) (deletes : Bool)

/-- A step of the client: what it does to the token session, and what becomes of the others. -/
structure ClientMove where
  session : Option SessionLabel
  requests : Nat → Option (RequestOptions × RequestStage)
  operations : Nat → Option (Operation × OperationStage)

def RequestOptions.passesOn (options : RequestOptions) (statusCode : Option Nat) : Bool :=
  statusCode != some 401 || options.retried || options.skipAuth ||
    options.path.endsWith "auth/refresh"

def RequestOptions.attach (options : RequestOptions) (tokens : Option AuthTokens) :
    RequestOptions :=
  match tokens with
  | some tokens => { options with authorization := some ("Bearer " ++ tokens.accessToken) }
  | none => options

namespace ClientState

def moveRequest (s : ClientState) (i : Nat) (options : RequestOptions) (stage : RequestStage)
    (session : Option SessionLabel) : ClientMove where
  session := session
  requests := Function.update s.requests i (some (options, stage))
  operations := s.operations

def moveOperation (s : ClientState) (i : Nat) (operation : Operation) (stage : OperationStage)
    (session : Option SessionLabel) : ClientMove where
  session := session
  requests := s.requests
  operations := Function.update s.operations i (some (operation, stage))

def moveRefresh (s : ClientState) (label : SessionLabel) : ClientMove where
  session := some label
  requests := s.requests
  operations := s.operations

def onRequest (s : ClientState) (i : Nat) (options : RequestOptions) : ClientMove :=
  if options.skipAuth then s.moveRequest i options .sent none
  else if s.session.store.hasLoaded then
    s.moveRequest i (options.attach s.session.store.memoryCache) .sent none
  else s.moveRequest i options .attaching none

def onError (s : ClientState) (i : Nat) (options : RequestOptions) (statusCode : Option Nat) :
    ClientMove :=
  if options.passesOn statusCode then
    s.moveRequest i options (.settled (if options.retried then .laterError else .ownError)) none
  else
    s.moveRequest i options .awaiting
      (if s.session.refresh.isSome then none else some .startRefresh)

def afterRefresh (s : ClientState) (i : Nat) (options : RequestOptions) :
    Except RefreshError (Option String) → ClientMove
  | .ok (some accessToken) =>
      s.onRequest i
        { options with retried := true, authorization := some ("Bearer " ++ accessToken) }
  | .ok none => s.moveRequest i options (.settled .ownError) none
  | .error .dio => s.moveRequest i options (.settled .laterError) none
  | .error .other => s.moveRequest i options (.settled .ownError) none

def completeRefresh (s : ClientState) (result : Except RefreshError (Option String)) :
    ClientMove where
  session := some .completeRefresh
  requests := fun i =>
    match s.requests i with
    | some (options, .awaiting) => some (options, .refreshed result)
    | other => other
  operations := s.operations

def start (s : ClientState) (i : Nat) (operation : Operation) : ClientMove :=
  match operation with
  | .login | .register | .logoutAllDevices => s.moveOperation i operation (.calling none) none
  | .logout | .restoreSession =>
      if s.session.store.hasLoaded then
        s.moveOperation i operation (.calling s.session.store.memoryCache) none
      else s.moveOperation i operation .reading none

def onReply (s : ClientState) (i : Nat) (operation : Operation) (tokens : Option AuthTokens)
    (reply : OperationReply) : ClientMove :=
  match operation, reply with
  | .login, .authenticated next | .register, .authenticated next =>
      s.moveOperation i operation (.storing next) (some .beginWrite)
  | .logout, _ => s.moveOperation i operation .clearing (some (.clear true))
  | .logoutAllDevices, .succeeded => s.moveOperation i operation .clearing (some (.clear true))
  | .restoreSession, .failed (some statusCode) =>
      if tokens.isSome ∧ (statusCode = 401 ∨ statusCode = 403) then
        s.moveOperation i operation .clearing (some (.clear false))
      else s.moveOperation i operation .finished none
  | _, _ => s.moveOperation i operation .finished none

def move (s : ClientState) : ClientLabel → Option ClientMove
  | .request i path skipAuth =>
      match s.requests i with
      | none => some (s.onRequest i { path, skipAuth })
      | some _ => none
  | .attach i answer =>
      match s.requests i with
      | some (options, .attaching) =>
          match (s.session.store.load answer).2 with
          | .ok tokens => some (s.moveRequest i (options.attach tokens) .sent (some (.load answer)))
          | .error _ => some (s.moveRequest i options (.settled .lost) (some (.load answer)))
      | _ => none
  | .response i =>
      match s.requests i with
      | some (options, .sent) => some (s.moveRequest i options (.settled .resolved) none)
      | _ => none
  | .error i statusCode =>
      match s.requests i with
      | some (options, .sent) => some (s.onError i options statusCode)
      | _ => none
  | .resume i =>
      match s.requests i with
      | some (options, .refreshed result) => some (s.afterRefresh i options result)
      | _ => none
  | .refreshLoaded answer => some (s.moveRefresh (.refreshLoaded answer))
  | .resumeRefresh => some (s.moveRefresh .resumeRefresh)
  | .reply reply => some (s.moveRefresh (.reply reply))
  | .refreshStored stores => some (s.moveRefresh (.refreshStored stores))
  | .refreshExpired deletes => some (s.moveRefresh (.refreshExpired deletes))
  | .completeRefresh =>
      match s.session.refresh with
      | some ⟨_, .finished result⟩ => some (s.completeRefresh result)
      | _ => none
  | .start i operation =>
      match s.operations i with
      | none => some (s.start i operation)
      | some _ => none
  | .operationLoaded i answer =>
      match s.operations i with
      | some (operation, .reading) =>
          match (s.session.store.load answer).2 with
          | .ok tokens =>
              some (s.moveOperation i operation (.calling tokens) (some (.load answer)))
          | .error _ => some (s.moveOperation i operation .finished (some (.load answer)))
      | _ => none
  | .operationReply i reply =>
      match s.operations i with
      | some (operation, .calling tokens) => some (s.onReply i operation tokens reply)
      | _ => none
  | .operationStored i stores =>
      match s.operations i with
      | some (operation, .storing tokens) =>
          some (s.moveOperation i operation .finished (some (.write tokens stores)))
      | _ => none
  | .operationCleared i deletes =>
      match s.operations i with
      | some (operation, .clearing) =>
          some (s.moveOperation i operation .finished (some (.deleted deletes)))
      | _ => none

def step (s : ClientState) (label : ClientLabel) : Option ClientState :=
  (s.move label).bind fun move =>
    match move.session with
    | none => some { s with requests := move.requests, operations := move.operations }
    | some label => (s.session.step label).map fun session => { move with session := session }

end ClientState

end Astra.Client
