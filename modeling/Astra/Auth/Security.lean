import Astra.Auth.Sessions

/-!
# Passwords and tokens

`PasswordHasher` and `TokenService`.  The libraries behind them, bcrypt, PyJWT
with its secret and SHA-256, are structures of functions; those of PyJWT carry
what the services rely on.
-/

namespace Astra.Auth

open Astra.Platform Astra.Persistence

/-! ## Passwords -/

structure Bcrypt where
  hashpw : String → String → String
  checkpw : String → String → Option Bool

structure PasswordHasher where
  minimumLength : Nat
  bcrypt : Bcrypt

namespace PasswordHasher

def validate (h : PasswordHasher) (password : String) : Except Exn Unit :=
  if password.length < h.minimumLength then
    .error (validationException
      ("Password must be at least " ++ toString h.minimumLength ++ " characters."))
  else if 72 < password.utf8ByteSize then
    .error (validationException "Password must not exceed 72 UTF-8 bytes when bcrypt is used.")
  else .ok ()

def hash (h : PasswordHasher) (salt password : String) : Except Exn String := do
  h.validate password
  .ok (h.bcrypt.hashpw password salt)

def verify (h : PasswordHasher) (password passwordHash : String) : Bool :=
  (h.bcrypt.checkpw password passwordHash).getD false

end PasswordHasher

/-! ## Tokens -/

structure JwtPayload where
  sub : String
  type : String
  jti : String
  sessionId : Option String
  familyId : Option String
  iat : Int
  exp : Int
  deriving DecidableEq

inductive JwtError where
  | expired
  | invalid

/-- `jwt.encode` and `jwt.decode` for one secret and algorithm. -/
structure Jwt where
  encode : JwtPayload → String
  decode : String → Timestamp → Except JwtError JwtPayload
  decode_stable : ∀ {token now now' p p'}, decode token now = .ok p →
    decode token now' = .ok p' → p' = p
  decode_encode : ∀ {payload now p}, decode (encode payload) now = .ok p → p = payload

/-- The whole seconds that `jwt.encode` writes for a `datetime`. -/
def numericDate (t : Timestamp) : Int := t / 1000000

structure TokenClaims where
  subject : UUID
  tokenType : String
  jti : UUID
  expiresAt : Int
  sessionId : Option UUID
  familyId : Option UUID

structure TokenService where
  py : PyRuntime
  jwt : Jwt
  sha256 : String → String
  accessMinutes : Nat
  refreshDays : Nat

def tokenHasExpired : Exn := authenticationException "Token has expired." .authTokenExpired

def tokenIsInvalid : Exn := authenticationException "Token is invalid." .authInvalidToken

def tokenTypeIsInvalid : Exn := authenticationException "Token type is invalid." .authInvalidToken

def tokenClaimsAreInvalid : Exn :=
  authenticationException "Token claims are invalid." .authInvalidToken

namespace TokenService

def accessExpiresIn (t : TokenService) : Nat := t.accessMinutes * 60

def refreshExpiresIn (t : TokenService) : Nat := t.refreshDays * 24 * 60 * 60

def createAccessToken (t : TokenService) (userId jti : UUID) (now : Timestamp) : String :=
  t.jwt.encode
    { sub := t.py.uuidText userId
      type := "access"
      jti := t.py.uuidText jti
      sessionId := none
      familyId := none
      iat := numericDate now
      exp := numericDate (now + t.accessMinutes * 60000000) }

def createRefreshToken (t : TokenService) (userId sessionId familyId jti : UUID)
    (expiresAt now : Timestamp) : String :=
  t.jwt.encode
    { sub := t.py.uuidText userId
      type := "refresh"
      jti := t.py.uuidText jti
      sessionId := some (t.py.uuidText sessionId)
      familyId := some (t.py.uuidText familyId)
      iat := numericDate now
      exp := numericDate expiresAt }

def optionalUuid (t : TokenService) : Option String → Option (Option UUID)
  | none => some none
  | some text => if text = "" then some none else (t.py.uuidParse text).map some

def claims (t : TokenService) (payload : JwtPayload) : Option TokenClaims := do
  let subject ← t.py.uuidParse payload.sub
  let jti ← t.py.uuidParse payload.jti
  let sessionId ← t.optionalUuid payload.sessionId
  let familyId ← t.optionalUuid payload.familyId
  some
    { subject := subject
      tokenType := payload.type
      jti := jti
      expiresAt := payload.exp
      sessionId := sessionId
      familyId := familyId }

def decode (t : TokenService) (token expectedType : String) (now : Timestamp) :
    Except Exn TokenClaims :=
  match t.jwt.decode token now with
  | .error .expired => .error tokenHasExpired
  | .error .invalid => .error tokenIsInvalid
  | .ok payload =>
      if payload.type ≠ expectedType then .error tokenTypeIsInvalid
      else
        match t.claims payload with
        | none => .error tokenClaimsAreInvalid
        | some claims => .ok claims

def hashToken (t : TokenService) (token : String) : String := t.sha256 token

def tokenHashMatches (t : TokenService) (token expectedHash : String) : Bool :=
  t.hashToken token == expectedHash

/-! ## What a token says -/

variable {t : TokenService} {token expectedType : String} {now now' : Timestamp}
  {c c' : TokenClaims}

theorem decode_eq_ok (h : t.decode token expectedType now = .ok c) :
    ∃ payload, t.jwt.decode token now = .ok payload ∧ payload.type = expectedType ∧
      t.claims payload = some c := by
  unfold decode at h
  split at h
  · cases h
  · cases h
  · rename_i payload hpayload
    split at h
    · cases h
    · rename_i htype
      split at h
      · cases h
      · rename_i claims hclaims
        cases h
        exact ⟨payload, hpayload, by simpa using htype, hclaims⟩

theorem decode_stable (h : t.decode token expectedType now = .ok c)
    (h' : t.decode token expectedType now' = .ok c') : c' = c := by
  obtain ⟨p, hp, -, hc⟩ := decode_eq_ok h
  obtain ⟨p', hp', -, hc'⟩ := decode_eq_ok h'
  rw [t.jwt.decode_stable hp hp', hc] at hc'
  exact (Option.some.inj hc').symm

private theorem optionalUuid_text {id : UUID} {value : Option UUID}
    (h : t.optionalUuid (some (t.py.uuidText id)) = some value) :
    value = none ∨ value = some id := by
  simp only [optionalUuid, t.py.uuidParse_text, Option.map_some] at h
  split at h
  · exact Or.inl (Option.some.inj h).symm
  · exact Or.inr (Option.some.inj h).symm

theorem decode_createRefreshToken {userId sessionId familyId jti : UUID}
    {expiresAt issuedAt : Timestamp}
    (h : t.decode (t.createRefreshToken userId sessionId familyId jti expiresAt issuedAt)
      expectedType now = .ok c) (hsome : c.sessionId.isSome = true) :
    c.sessionId = some sessionId := by
  obtain ⟨p, hp, -, hc⟩ := decode_eq_ok h
  have hpayload := t.jwt.decode_encode hp
  subst hpayload
  simp only [claims, Option.bind_eq_bind, Option.bind_eq_some_iff] at hc
  obtain ⟨_, -, _, -, value, hvalue, _, -, hc⟩ := hc
  rw [← Option.some.inj hc] at hsome ⊢
  rcases optionalUuid_text hvalue with rfl | rfl
  · cases hsome
  · rfl

end TokenService

end Astra.Auth
