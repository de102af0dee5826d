import Astra.Auth.Security

/-!
# Authentication service

`AuthService`, each operation as one transaction on the users and sessions.  The
ids that `uuid4()` returns, the salt and the clock reading are arguments.
-/

namespace Astra.Auth

open Astra.Foundation Astra.Platform Astra.Persistence

structure AuthService where
  py : PyRuntime
  passwordHasher : PasswordHasher
  tokenService : TokenService
  refreshDays : Nat

structure DeviceContext where
  deviceName : Option String := none
  userAgent : Option String := none
  ipAddress : Option String := none

structure RegisterRequest where
  email : String
  username : String
  password : String

structure LoginRequest where
  email : String
  password : String

structure TokenPairResponse where
  accessToken : String
  refreshToken : String
  tokenType : String := "bearer"
  accessExpiresIn : Nat
  refreshExpiresIn : Nat

structure UserResponse where
  id : UUID
  email : String
  username : String
  isActive : Bool
  isVerified : Bool
  lastLoginAt : Option Timestamp
  createdAt : Timestamp
  updatedAt : Timestamp

def User.response (u : User) : UserResponse where
  id := u.id
  email := u.email
  username := u.username
  isActive := u.isActive
  isVerified := u.isVerified
  lastLoginAt := u.lastLoginAt
  createdAt := u.createdAt
  updatedAt := u.updatedAt

structure AuthResponse where
  user : UserResponse
  tokens : TokenPairResponse

structure AuthIds where
  userId : UUID
  sessionId : UUID
  familyId : UUID
  jti : UUID
  accessJti : UUID

/-! ## Names -/

def isUsernameStart (c : Char) : Bool := ('a' ≤ c && c ≤ 'z') || ('0' ≤ c && c ≤ '9')

def isUsernameChar (c : Char) : Bool := isUsernameStart c || c == '_' || c == '.' || c == '-'

def matchesUsernamePattern (username : String) : Bool :=
  match username.toList with
  | [] => false
  | c :: cs => isUsernameStart c && cs.all isUsernameChar && 2 ≤ cs.length && cs.length ≤ 63

def validateUsername (username : String) : Except Exn Unit :=
  if matchesUsernamePattern username then .ok ()
  else
    .error (validationException
      "Username may contain lowercase letters, numbers, dots, underscores, and hyphens.")

def normalizeEmail (py : PyRuntime) (email : String) : String := py.casefold (strip email)

def normalizeUsername (py : PyRuntime) (username : String) : String := py.casefold (strip username)

/-! ## Sessions -/

namespace AuthService

variable (svc : AuthService)

def expiresAt (now : Timestamp) : Timestamp := now + svc.refreshDays * 86400000000

def buildTokenPair (userId accessJti : UUID) (refreshToken : String) (now : Timestamp) :
    TokenPairResponse where
  accessToken := svc.tokenService.createAccessToken userId accessJti now
  refreshToken := refreshToken
  accessExpiresIn := svc.tokenService.accessExpiresIn
  refreshExpiresIn := svc.tokenService.refreshExpiresIn

def newSession (userId familyId : UUID) (context : DeviceContext) (ids : AuthIds)
    (now : Timestamp) : String × RefreshSession :=
  let token :=
    svc.tokenService.createRefreshToken userId ids.sessionId familyId ids.jti (svc.expiresAt now)
      now
  (token,
    { id := ids.sessionId
      userId := userId
      tokenJti := ids.jti
      tokenHash := svc.tokenService.hashToken token
      tokenFamilyId := familyId
      expiresAt := svc.expiresAt now
      revokedAt := none
      replacedBySessionId := none
      deviceName := context.deviceName
      userAgent := context.userAgent
      ipAddress := context.ipAddress })

def createSession (userId : UUID) (context : DeviceContext) (ids : AuthIds) (now : Timestamp)
    (rows : List RefreshSession) : Except Exn (TokenPairResponse × List RefreshSession) := do
  let session := svc.newSession userId ids.familyId context ids now
  let rows ← addSession session.2 rows
  .ok (svc.buildTokenPair userId ids.accessJti session.1 now, rows)

def register (store : AuthStore) (request : RegisterRequest) (context : DeviceContext)
    (salt : String) (ids : AuthIds) (now : Timestamp) : Except Exn (AuthResponse × AuthStore) := do
  let email := normalizeEmail svc.py request.email
  let username := normalizeUsername svc.py request.username
  validateUsername username
  let passwordHash ← svc.passwordHasher.hash salt request.password
  if (getUserByEmail store.users email).isSome then
    .error (conflictException "Email is already registered." .authEmailExists)
  else if (getUserByUsername store.users username).isSome then
    .error (conflictException "Username is already registered." .authUsernameExists)
  else
    let user : User :=
      { id := ids.userId
        email := email
        username := username
        passwordHash := passwordHash
        isActive := true
        isVerified := false
        lastLoginAt := none
        createdAt := now
        updatedAt := now }
    let users ← addUser user store.users
    let (tokens, sessions) ← svc.createSession user.id context ids now store.sessions
    .ok (⟨user.response, tokens⟩, ⟨users, sessions⟩)

def invalidCredentials : Exn :=
  authenticationException "Email or password is incorrect." .authInvalidCredentials

def inactiveUser : Exn := authenticationException "User account is inactive." .authInactiveUser

def login (store : AuthStore) (request : LoginRequest) (context : DeviceContext)
    (ids : AuthIds) (now : Timestamp) : Except Exn (AuthResponse × AuthStore) :=
  match getUserByEmail store.users (normalizeEmail svc.py request.email) with
  | none => .error invalidCredentials
  | some user =>
      if svc.passwordHasher.verify request.password user.passwordHash then
        if user.isActive then do
          let user := { user with lastLoginAt := some now, updatedAt := now }
          let (tokens, sessions) ← svc.createSession user.id context ids now store.sessions
          let users :=
            updateWhere (fun u => u.id == user.id)
              (fun u => { u with lastLoginAt := some now, updatedAt := now }) store.users
          .ok (⟨user.response, tokens⟩, ⟨users, sessions⟩)
        else .error inactiveUser
      else .error invalidCredentials

/-! ## Rotation -/

def incompleteClaims : Exn :=
  authenticationException "Refresh token claims are incomplete." .authInvalidToken

def sessionNotFound : Exn :=
  authenticationException "Refresh session was not found." .authInvalidToken

def reuseDetected : Exn :=
  authenticationException "Refresh token reuse was detected. The session family was revoked."
    .authTokenReuseDetected

def tokenRevoked : Exn :=
  authenticationException "Refresh token has been revoked." .authTokenRevoked

def refreshTokenExpired : Exn :=
  authenticationException "Refresh token has expired." .authTokenExpired

def validationFailed : Exn :=
  authenticationException "Refresh token validation failed." .authTokenReuseDetected

/-- What `refresh_tokens` does about the session that it has looked up. -/
inductive Verdict where
  | refuse (e : Exn)
  | revokeFamily (e : Exn)
  | rotate

def judge (token : String) (claims : TokenClaims) (session : RefreshSession) (now : Timestamp) :
    Verdict :=
  if session.isRevoked then
    if session.replacedBySessionId.isSome then .revokeFamily reuseDetected
    else .refuse tokenRevoked
  else if session.isExpired now then .refuse refreshTokenExpired
  else if session.userId ≠ claims.subject ∨ session.tokenJti ≠ claims.jti ∨
      some session.tokenFamilyId ≠ claims.familyId ∨
      svc.tokenService.tokenHashMatches token session.tokenHash = false then
    .revokeFamily validationFailed
  else .rotate

def orElseText (value default : Option String) : Option String :=
  match value with
  | none => default
  | some text => if text = "" then default else some text

def successor (user : User) (session : RefreshSession) (context : DeviceContext) (ids : AuthIds)
    (now : Timestamp) : String × RefreshSession :=
  svc.newSession user.id session.tokenFamilyId
    { deviceName := orElseText context.deviceName session.deviceName
      userAgent := orElseText context.userAgent session.userAgent
      ipAddress := orElseText context.ipAddress session.ipAddress }
    ids now

def rotationUser (users : List User) (userId : UUID) : Except Exn User :=
  match getUser users userId with
  | none => .error (notFoundException "User not found." .notFound)
  | some user => if user.isActive then .ok user else .error inactiveUser

def rotate (user : User) (session : RefreshSession) (context : DeviceContext) (ids : AuthIds)
    (now : Timestamp) (rows : List RefreshSession) :
    Except Exn (AuthResponse × List RefreshSession) := do
  let replacement := svc.successor user session context ids now
  let rows ← addSession replacement.2 rows
  .ok
    (⟨user.response, svc.buildTokenPair user.id ids.accessJti replacement.1 now⟩,
      updateSession session.id (RefreshSession.replace now replacement.2.id) rows)

def refreshTokens (store : AuthStore) (token : String) (context : DeviceContext) (ids : AuthIds)
    (now : Timestamp) : Except Exn AuthResponse × AuthStore :=
  match svc.tokenService.decode token "refresh" now with
  | .error e => (.error e, store)
  | .ok claims =>
      match claims.sessionId, claims.familyId with
      | some sessionId, some _ =>
          match getSession store.sessions sessionId with
          | none => (.error sessionNotFound, store)
          | some session =>
              match svc.judge token claims session now with
              | .refuse e => (.error e, store)
              | .revokeFamily e =>
                  (.error e, { store with
                    sessions := revokeFamily session.tokenFamilyId now store.sessions })
              | .rotate =>
                  match rotationUser store.users session.userId with
                  | .error e => (.error e, store)
                  | .ok user =>
                      match svc.rotate user session context ids now store.sessions with
                      | .error e => (.error e, store)
                      | .ok (response, rows) => (.ok response, { store with sessions := rows })
      | _, _ => (.error incompleteClaims, store)

/-! ## Logout -/

def logout (store : AuthStore) (token : String) (now : Timestamp) : Except Exn AuthStore := do
  let claims ← svc.tokenService.decode token "refresh" now
  match claims.sessionId with
  | none => .error incompleteClaims
  | some sessionId =>
      match getSession store.sessions sessionId with
      | none => .ok store
      | some session =>
          if svc.tokenService.tokenHashMatches token session.tokenHash then
            if session.isRevoked then .ok store
            else
              .ok { store with
                sessions := updateSession session.id (RefreshSession.revoke now) store.sessions }
          else
            .error (authenticationException "Refresh token validation failed." .authInvalidToken)

def logoutAll (store : AuthStore) (userId : UUID) (now : Timestamp) : Nat × AuthStore :=
  (revokedCount (.user userId) store.sessions,
    { store with sessions := revokeAllForUser userId now store.sessions })

end AuthService

end Astra.Auth
