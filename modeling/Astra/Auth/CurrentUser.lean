import Astra.Auth.Families
import Mathlib.Logic.Equiv.List

/-!
# The current user

`get_current_user`, and what becomes of the tokens that the service has handed out: an
access token names its user until it expires, whatever is revoked in between; a refresh
token is accepted as long as its session is active.
-/

namespace Astra.Auth

open Astra.Foundation Astra.Platform Astra.Persistence

/-! ## The dependency -/

def getUserResponse (users : List User) (userId : UUID) : Except Exn UserResponse :=
  match getUser users userId with
  | none => .error (notFoundException "User not found." .notFound)
  | some user => .ok user.response

def bearerRequired : Exn :=
  authenticationException "Bearer access token is required." .authInvalidCredentials

def inactiveAccount : Exn :=
  authenticationException "User account is inactive." .authInvalidCredentials

def AuthService.getCurrentUser (svc : AuthService) (store : AuthStore)
    (credentials : Option String) (now : Timestamp) : Except Exn UserResponse :=
  match credentials with
  | none => .error bearerRequired
  | some token => do
      let claims ← svc.tokenService.decode token "access" now
      let user ← getUserResponse store.users claims.subject
      if user.isActive then .ok user else .error inactiveAccount

/-! ## Signed tokens -/

/--
PyJWT accepts what it has signed from `iat` on and until `exp`, and the text of an id
is not empty.
-/
structure TokenLibraries (t : TokenService) : Prop where
  valid : ∀ payload now, payload.iat * 1000000 ≤ now → now < payload.exp * 1000000 →
    t.jwt.decode (t.jwt.encode payload) now = .ok payload
  expired : ∀ payload now, payload.iat * 1000000 ≤ now → payload.exp * 1000000 ≤ now →
    t.jwt.decode (t.jwt.encode payload) now = .error .expired
  text_ne : ∀ id, t.py.uuidText id ≠ ""

def expiryOf (expiresAt : Timestamp) : Timestamp := numericDate expiresAt * 1000000

def AuthService.accessExpiry (svc : AuthService) (issuedAt : Timestamp) : Timestamp :=
  expiryOf (issuedAt + svc.tokenService.accessMinutes * 60000000)

def AuthService.refreshExpiry (svc : AuthService) (issuedAt : Timestamp) : Timestamp :=
  expiryOf (svc.expiresAt issuedAt)

section Decoding

variable {t : TokenService} {now issuedAt expiresAt : Timestamp}

theorem expiryOf_le (expiresAt : Timestamp) : expiryOf expiresAt ≤ expiresAt :=
  Int.ediv_mul_le expiresAt (by decide)

private theorem decode_access (hlib : TokenLibraries t) {userId jti : UUID} (hnow : issuedAt ≤ now)
    (hlive : now < expiryOf (issuedAt + t.accessMinutes * 60000000)) :
    t.decode (t.createAccessToken userId jti issuedAt) "access" now =
      .ok { subject := userId, tokenType := "access", jti, sessionId := none, familyId := none
            expiresAt := numericDate (issuedAt + t.accessMinutes * 60000000) } := by
  have hissued : numericDate issuedAt * 1000000 ≤ now := Int.le_trans (expiryOf_le issuedAt) hnow
  have hdecode := hlib.valid
    { sub := t.py.uuidText userId, type := "access", jti := t.py.uuidText jti, sessionId := none
      familyId := none, iat := numericDate issuedAt
      exp := numericDate (issuedAt + t.accessMinutes * 60000000) } now hissued hlive
  simp only [TokenService.decode, TokenService.createAccessToken, hdecode, ne_eq, not_true_eq_false,
    if_false, TokenService.claims, t.py.uuidParse_text, TokenService.optionalUuid,
    Option.bind_eq_bind, Option.bind_some]

private theorem decode_access_expired (hlib : TokenLibraries t) {userId jti : UUID}
    (hnow : issuedAt ≤ now)
    (hexpired : expiryOf (issuedAt + t.accessMinutes * 60000000) ≤ now) :
    t.decode (t.createAccessToken userId jti issuedAt) "access" now = .error tokenHasExpired := by
  have hissued : numericDate issuedAt * 1000000 ≤ now := Int.le_trans (expiryOf_le issuedAt) hnow
  have hdecode := hlib.expired
    { sub := t.py.uuidText userId, type := "access", jti := t.py.uuidText jti, sessionId := none
      familyId := none, iat := numericDate issuedAt
      exp := numericDate (issuedAt + t.accessMinutes * 60000000) } now hissued hexpired
  simp only [TokenService.decode, TokenService.createAccessToken, hdecode]

private theorem optionalUuid_text_some (hlib : TokenLibraries t) (id : UUID) :
    t.optionalUuid (some (t.py.uuidText id)) = some (some id) := by
  simp only [TokenService.optionalUuid, if_neg (hlib.text_ne id), t.py.uuidParse_text,
    Option.map_some]

theorem decode_refresh (hlib : TokenLibraries t) {userId sessionId familyId jti : UUID}
    (hnow : issuedAt ≤ now) (hlive : now < expiryOf expiresAt) :
    t.decode (t.createRefreshToken userId sessionId familyId jti expiresAt issuedAt) "refresh" now =
      .ok { subject := userId, tokenType := "refresh", jti, expiresAt := numericDate expiresAt
            sessionId := some sessionId, familyId := some familyId } := by
  have hissued : numericDate issuedAt * 1000000 ≤ now := Int.le_trans (expiryOf_le issuedAt) hnow
  have hdecode := hlib.valid
    { sub := t.py.uuidText userId, type := "refresh", jti := t.py.uuidText jti
      sessionId := some (t.py.uuidText sessionId), familyId := some (t.py.uuidText familyId)
      iat := numericDate issuedAt, exp := numericDate expiresAt } now hissued hlive
  simp only [TokenService.decode, TokenService.createRefreshToken, hdecode, ne_eq,
    not_true_eq_false, if_false, TokenService.claims, t.py.uuidParse_text,
    optionalUuid_text_some hlib, Option.bind_eq_bind, Option.bind_some]

private theorem decode_refresh_access {userId sessionId familyId jti : UUID}
    {claims : TokenClaims} :
    t.decode (t.createRefreshToken userId sessionId familyId jti expiresAt issuedAt)
      "access" now ≠ .ok claims := by
  intro hdecode
  obtain ⟨payload, hpayload, htype, -⟩ := TokenService.decode_eq_ok hdecode
  rw [t.jwt.decode_encode hpayload] at htype
  exact absurd htype (show "refresh" ≠ "access" by decide)

end Decoding

/-! ## The users after a call -/

inductive UserEffect (users : List User) (ids : AuthIds) : List User → Prop
  | same : UserEffect users ids users
  | stamps (userId : UUID) (now : Timestamp) :
      UserEffect users ids (updateWhere (fun u => u.id == userId)
        (fun u => { u with lastLoginAt := some now, updatedAt := now }) users)
  | adds (user : User) (hid : user.id = ids.userId) (hactive : user.isActive = true)
      (hfresh : user.id ∉ users.map User.id) : UserEffect users ids (users ++ [user])

/-- The columns of a user that no call changes. -/
structure SameUser (a b : User) : Prop where
  id : a.id = b.id
  email : a.email = b.email
  username : a.username = b.username
  isActive : a.isActive = b.isActive

theorem SameUser.refl (u : User) : SameUser u u := ⟨rfl, rfl, rfl, rfl⟩

theorem SameUser.trans {a b c : User} (h : SameUser a b) (h' : SameUser b c) : SameUser a c :=
  ⟨h.id.trans h'.id, h.email.trans h'.email, h.username.trans h'.username,
    h.isActive.trans h'.isActive⟩

/--
The response of a call that authenticates: the tokens of a new session of the user, who is
in the table.
-/
structure Authenticated (svc : AuthService) (label : AuthLabel) (response : AuthResponse)
    (store' : AuthStore) (familyId : UUID) (context : DeviceContext) : Prop where
  tokens : response.tokens = svc.buildTokenPair response.user.id label.ids.accessJti
    (svc.newSession response.user.id familyId context label.ids label.now).1 label.now
  session : (svc.newSession response.user.id familyId context label.ids label.now).2 ∈
    store'.sessions
  user : ∃ user ∈ store'.users, response.user = user.response

section Calls

variable {svc : AuthService} {store store' : AuthStore} {ids : AuthIds} {now : Timestamp}
  {context : DeviceContext} {response : AuthResponse}

theorem createSession_tokens {userId : UUID} {rows rows' : List RefreshSession}
    {tokens : TokenPairResponse}
    (h : svc.createSession userId context ids now rows = .ok (tokens, rows')) :
    tokens = svc.buildTokenPair userId ids.accessJti
        (svc.newSession userId ids.familyId context ids now).1 now ∧
      (svc.newSession userId ids.familyId context ids now).2 ∈ rows' := by
  obtain ⟨rows₁, hadd, h⟩ := bind_eq_ok h
  obtain ⟨-, rfl⟩ := addSession_eq_ok hadd
  simp only [Except.ok.injEq, Prod.mk.injEq] at h
  obtain ⟨rfl, rfl⟩ := h
  exact ⟨rfl, by simp⟩

theorem register_authenticated {request : RegisterRequest} {salt : String}
    (h : svc.register store request context salt ids now = .ok (response, store')) :
    UserEffect store.users ids store'.users ∧
      Authenticated svc ⟨.register request context salt, ids, now⟩ response store' ids.familyId
        context := by
  obtain ⟨-, -, h⟩ := bind_eq_ok h
  obtain ⟨passwordHash, -, h⟩ := bind_eq_ok h
  split_ifs at h
  obtain ⟨users, husers, h⟩ := bind_eq_ok h
  obtain ⟨⟨tokens, sessions⟩, hcreate, h⟩ := bind_eq_ok h
  unfold addUser at husers
  split_ifs at husers
  obtain ⟨hfresh, rfl⟩ := addRow_eq_ok.mp husers
  obtain ⟨htokens, hsession⟩ := createSession_tokens hcreate
  simp only [Except.ok.injEq, Prod.mk.injEq] at h
  obtain ⟨rfl, rfl⟩ := h
  refine ⟨.adds _ rfl rfl hfresh, htokens, hsession, _, ?_, rfl⟩
  exact List.mem_append_right _ List.mem_cons_self

theorem login_authenticated {request : LoginRequest}
    (h : svc.login store request context ids now = .ok (response, store')) :
    UserEffect store.users ids store'.users ∧
      Authenticated svc ⟨.login request context, ids, now⟩ response store' ids.familyId
        context := by
  unfold AuthService.login at h
  split at h
  · cases h
  · rename_i user huser
    split_ifs at h
    obtain ⟨⟨tokens, sessions⟩, hcreate, h⟩ := bind_eq_ok h
    obtain ⟨htokens, hsession⟩ := createSession_tokens hcreate
    simp only [Except.ok.injEq, Prod.mk.injEq] at h
    obtain ⟨rfl, rfl⟩ := h
    refine ⟨.stamps user.id now, htokens, hsession, _, ?_, rfl⟩
    exact mem_updateWhere.mpr (Or.inl ⟨user, List.mem_of_find?_eq_some huser, by simp, rfl⟩)

private theorem refreshTokens_eq_ok {token : String}
    (h : svc.refreshTokens store token context ids now = (.ok response, store')) :
    ∃ claims session user rows, svc.tokenService.decode token "refresh" now = .ok claims ∧
      claims.sessionId = some session.id ∧ session ∈ store.sessions ∧
      svc.judge token claims session now = .rotate ∧
      AuthService.rotationUser store.users session.userId = .ok user ∧
      svc.rotate user session context ids now store.sessions = .ok (response, rows) ∧
      store' = { store with sessions := rows } := by
  unfold AuthService.refreshTokens at h
  split at h
  · cases h
  · rename_i claims hdecode
    split at h
    · rename_i sessionId familyId hsession hfamily
      split at h
      · cases h
      · rename_i session hget
        obtain ⟨hr, rfl⟩ := getSession_mem hget
        split at h
        · cases h
        · cases h
        · rename_i hjudge
          split at h
          · cases h
          · rename_i user huser
            split at h
            · cases h
            · rename_i response' rows hrotate
              simp only [Prod.mk.injEq, Except.ok.injEq] at h
              obtain ⟨rfl, rfl⟩ := h
              exact ⟨claims, session, user, rows, hdecode, hsession, hr, hjudge, huser, hrotate,
                rfl⟩
    · cases h

private theorem rotationUser_mem {users : List User} {userId : UUID} {user : User}
    (h : AuthService.rotationUser users userId = .ok user) : user ∈ users := by
  unfold AuthService.rotationUser at h
  split at h
  · cases h
  · rename_i found hfind
    split_ifs at h
    exact Except.ok.inj h ▸ List.mem_of_find?_eq_some hfind

theorem refresh_authenticated {token : String}
    (h : svc.refreshTokens store token context ids now = (.ok response, store')) :
    store'.users = store.users ∧ ∃ familyId context',
      Authenticated svc ⟨.refresh token context, ids, now⟩ response store' familyId context' := by
  obtain ⟨claims, session, user, rows, -, -, hr, -, huser, hrotate, rfl⟩ := refreshTokens_eq_ok h
  obtain ⟨rows₁, hadd, hresponse⟩ := bind_eq_ok hrotate
  obtain ⟨hfresh, rfl⟩ := addSession_eq_ok hadd
  simp only [Except.ok.injEq, Prod.mk.injEq] at hresponse
  obtain ⟨rfl, rfl⟩ := hresponse
  have hne : ids.sessionId ≠ session.id := by
    intro heq
    have hmem : ids.sessionId ∈ store.sessions.map RefreshSession.id :=
      heq ▸ List.mem_map_of_mem hr
    exact hfresh hmem
  refine ⟨rfl, session.tokenFamilyId, _, rfl, ?_, user, rotationUser_mem huser, rfl⟩
  refine mem_updateWhere.mpr (Or.inr ⟨List.mem_append_right _ List.mem_cons_self, ?_⟩)
  simpa [AuthService.successor, AuthService.newSession] using hne

theorem logout_users {token : String} (h : svc.logout store token now = .ok store') :
    store'.users = store.users := by
  obtain ⟨claims, -, h⟩ := bind_eq_ok h
  split at h
  · cases h
  · split at h
    · cases h
      rfl
    · split_ifs at h <;> cases h <;> rfl

theorem call_users (svc : AuthService) (store : AuthStore) (label : AuthLabel) :
    UserEffect store.users label.ids (svc.call store label).2.users := by
  obtain ⟨call, ids, now⟩ := label
  cases call with
  | register request context salt =>
      cases hresult : svc.register store request context salt ids now with
      | error e => simpa [AuthService.call, settle, hresult] using UserEffect.same
      | ok result =>
          simpa [AuthService.call, settle, hresult] using (register_authenticated hresult).1
  | login request context =>
      cases hresult : svc.login store request context ids now with
      | error e => simpa [AuthService.call, settle, hresult] using UserEffect.same
      | ok result => simpa [AuthService.call, settle, hresult] using (login_authenticated hresult).1
  | refresh token context =>
      have heffect := refreshTokens_effect svc store token context ids now
      simp only [AuthService.call]
      cases hresult : svc.refreshTokens store token context ids now with
      | mk answer store' =>
          rw [hresult] at heffect
          cases heffect <;> exact .same
  | logout token =>
      cases hresult : svc.logout store token now with
      | error e => simpa [AuthService.call, settle, hresult, Except.map] using UserEffect.same
      | ok store' =>
          simpa [AuthService.call, settle, hresult, Except.map, logout_users hresult] using
            UserEffect.same
  | logoutAll userId => exact .same

theorem call_authenticated {label : AuthLabel}
    (h : (svc.call store label).1 = .authenticated response) :
    ∃ familyId context,
      Authenticated svc label response (svc.call store label).2 familyId context := by
  obtain ⟨call, ids, now⟩ := label
  cases call with
  | register request context salt =>
      cases hresult : svc.register store request context salt ids now with
      | error e => simp [AuthService.call, settle, hresult] at h
      | ok result =>
          simp only [AuthService.call, settle, hresult, AuthAnswer.authenticated.injEq] at h ⊢
          subst h
          exact ⟨_, _, (register_authenticated hresult).2⟩
  | login request context =>
      cases hresult : svc.login store request context ids now with
      | error e => simp [AuthService.call, settle, hresult] at h
      | ok result =>
          simp only [AuthService.call, settle, hresult, AuthAnswer.authenticated.injEq] at h ⊢
          subst h
          exact ⟨_, _, (login_authenticated hresult).2⟩
  | refresh token context =>
      simp only [AuthService.call] at h ⊢
      cases hresult : svc.refreshTokens store token context ids now with
      | mk answer store' =>
          cases answer with
          | error e => simp [hresult] at h
          | ok response' =>
              simp only [hresult, AuthAnswer.authenticated.injEq] at h
              subst h
              exact (refresh_authenticated hresult).2
  | logout token =>
      cases hresult : svc.logout store token now <;>
        simp [AuthService.call, settle, hresult, Except.map] at h
  | logoutAll userId => cases h

end Calls

/-! ## Access tokens -/

structure UsersSound (users : List User) : Prop where
  ids : (users.map User.id).Nodup
  active : ∀ u ∈ users, u.isActive = true

def KeepsUsers (users users' : List User) : Prop :=
  ∀ u ∈ users, ∃ u' ∈ users', SameUser u' u

section Users

variable {svc : AuthService} {users users' : List User} {ids : AuthIds} {s t : AuthState}
  {label : AuthLabel} {labels : List AuthLabel}

theorem UserEffect.sound (h : UserEffect users ids users') (hsound : UsersSound users) :
    UsersSound users' := by
  cases h with
  | same => exact hsound
  | stamps userId now =>
      refine ⟨updateWhere_nodup hsound.ids fun _ => rfl, ?_⟩
      intro u hu
      rcases mem_updateWhere.mp hu with ⟨old, hold, -, rfl⟩ | ⟨hold, -⟩
      · exact hsound.active old hold
      · exact hsound.active u hold
  | adds user hid hactive hfresh =>
      refine ⟨nodup_append_row hsound.ids hfresh, ?_⟩
      intro u hu
      rcases List.mem_append.mp hu with hold | hnew
      · exact hsound.active u hold
      · rw [List.mem_singleton.mp hnew]
        exact hactive

theorem UserEffect.keeps (h : UserEffect users ids users') : KeepsUsers users users' := by
  intro u hu
  cases h with
  | same => exact ⟨u, hu, .refl u⟩
  | stamps userId now =>
      cases hsel : u.id == userId with
      | true => exact ⟨_, mem_updateWhere.mpr (Or.inl ⟨u, hu, hsel, rfl⟩), rfl, rfl, rfl, rfl⟩
      | false => exact ⟨u, mem_updateWhere.mpr (Or.inr ⟨hu, hsel⟩), .refl u⟩
  | adds user hid hactive hfresh => exact ⟨u, List.mem_append_left _ hu, .refl u⟩

theorem KeepsUsers.trans {users'' : List User} (h : KeepsUsers users users')
    (h' : KeepsUsers users' users'') : KeepsUsers users users'' := by
  intro u hu
  obtain ⟨u', hu', hsame⟩ := h u hu
  obtain ⟨u'', hu'', hsame'⟩ := h' u' hu'
  exact ⟨u'', hu'', hsame'.trans hsame⟩

theorem step_users (h : s.step svc label = some t) :
    UserEffect s.store.users label.ids t.store.users := by
  obtain ⟨-, -, rfl⟩ := step_eq_some h
  exact call_users svc s.store label

theorem run_users (hsound : UsersSound s.store.users)
    (hexec : exec (AuthState.step svc) s labels = some t) :
    UsersSound t.store.users ∧ KeepsUsers s.store.users t.store.users := by
  have hstep (v : AuthState) (label : AuthLabel) (w : AuthState)
      (hv : UsersSound v.store.users ∧ KeepsUsers s.store.users v.store.users)
      (h : v.step svc label = some w) :
      UsersSound w.store.users ∧ KeepsUsers s.store.users w.store.users :=
    ⟨(step_users h).sound hv.1, hv.2.trans (step_users h).keeps⟩
  exact exec_invariant' hstep ⟨hsound, fun u hu => ⟨u, hu, .refl u⟩⟩ hexec

theorem getUser_of_mem (hsound : UsersSound users) {u : User} (hu : u ∈ users) :
    getUser users u.id = some u := find?_key hsound.ids hu

theorem getCurrentUser_of_live {store : AuthStore} {userId jti : UUID} {issuedAt now : Timestamp}
    {user : User} (hlib : TokenLibraries svc.tokenService)
    (hget : getUser store.users userId = some user) (hactive : user.isActive = true)
    (hnow : issuedAt ≤ now) (hlive : now < svc.accessExpiry issuedAt) :
    svc.getCurrentUser store (some (svc.tokenService.createAccessToken userId jti issuedAt)) now =
      .ok user.response := by
  have hactive' : user.response.isActive = true := hactive
  simp only [AuthService.getCurrentUser, decode_access hlib hnow hlive, bind, Except.bind,
    getUserResponse, hget, hactive', if_true]

theorem issued_user {u : AuthState} {more : List AuthLabel} {response : AuthResponse}
    {familyId : UUID} {context : DeviceContext}
    (hexec : exec (AuthState.step svc) {} labels = some s) (hstep : s.step svc label = some t)
    (hissued : Authenticated svc label response (svc.call s.store label).2 familyId context)
    (hmore : exec (AuthState.step svc) t more = some u) :
    ∃ user, getUser u.store.users response.user.id = some user ∧ user.isActive = true ∧
      user.id = response.user.id ∧ user.email = response.user.email ∧
      user.username = response.user.username := by
  have hempty : UsersSound ({} : AuthState).store.users := ⟨List.nodup_nil, by simp⟩
  have hsound := (step_users hstep).sound (run_users hempty hexec).1
  obtain ⟨row, hrow, hresponse⟩ := hissued.user
  have htable : t.store = (svc.call s.store label).2 := by
    rw [(step_eq_some hstep).2.2]
  rw [← htable] at hrow
  obtain ⟨hsound', hkeeps⟩ := run_users hsound hmore
  obtain ⟨row', hrow', hsame⟩ := hkeeps row hrow
  refine ⟨row', ?_, hsound'.active row' hrow', ?_, ?_, ?_⟩
  · rw [hresponse, show row.response.id = row'.id from hsame.id.symm]
    exact getUser_of_mem hsound' hrow'
  · rw [hresponse]
    exact hsame.id
  · rw [hresponse]
    exact hsame.email
  · rw [hresponse]
    exact hsame.username

end Users

/-! ## Tokens for evaluation -/

abbrev payloadTuple (p : JwtPayload) :=
  (p.sub.toList.map Char.toNat, p.type.toList.map Char.toNat, p.jti.toList.map Char.toNat,
    p.sessionId.map (fun text => text.toList.map Char.toNat),
    p.familyId.map (fun text => text.toList.map Char.toNat), p.iat, p.exp)

def textOfCodes (codes : List Nat) : String := String.ofList (codes.map Char.ofNat)

private theorem textOfCodes_codes (text : String) :
    textOfCodes (text.toList.map Char.toNat) = text := by
  have hchars : (Char.ofNat ∘ Char.toNat) = id := funext Char.ofNat_toNat
  simp [textOfCodes, hchars]

def payloadOfTuple : List Nat × List Nat × List Nat × Option (List Nat) × Option (List Nat) ×
    Int × Int → JwtPayload
  | (sub, type, jti, sessionId, familyId, iat, exp) =>
      { sub := textOfCodes sub, type := textOfCodes type, jti := textOfCodes jti
        sessionId := sessionId.map textOfCodes, familyId := familyId.map textOfCodes, iat, exp }

theorem payloadOfTuple_tuple (p : JwtPayload) : payloadOfTuple (payloadTuple p) = p := by
  obtain ⟨sub, type, jti, sessionId, familyId, iat, exp⟩ := p
  cases sessionId <;> cases familyId <;>
    simp only [payloadOfTuple, textOfCodes_codes, Option.map_none, Option.map_some]

def numberJwt : Jwt where
  encode payload := Nat.repr (Encodable.encode (payloadTuple payload))
  decode token now :=
    match ((decimalParse token).bind Encodable.decode).map payloadOfTuple with
    | none => .error .invalid
    | some payload =>
        if now < payload.iat * 1000000 then .error .invalid
        else if payload.exp * 1000000 ≤ now then .error .expired
        else .ok payload
  decode_stable := by
    intro token now now' p p' h h'
    split at h
    · cases h
    · rename_i payload hpayload
      simp only [hpayload] at h'
      split_ifs at h h'
      exact (Except.ok.inj h').symm.trans (Except.ok.inj h)
  decode_encode := by
    intro payload now p h
    simp only [decimalParse_repr, Option.bind_some, Encodable.encodek, Option.map_some,
      payloadOfTuple_tuple] at h
    split_ifs at h
    exact (Except.ok.inj h).symm

def numberService : AuthService :=
  { demoService with tokenService := { demoService.tokenService with jwt := numberJwt } }

theorem numberService_libraries : TokenLibraries numberService.tokenService where
  valid := by
    intro payload now hissued hlive
    show numberJwt.decode (numberJwt.encode payload) now = .ok payload
    simp only [numberJwt, decimalParse_repr, Option.bind_some, Encodable.encodek, Option.map_some,
      payloadOfTuple_tuple, if_neg (not_lt.mpr hissued), if_neg (not_le.mpr hlive)]
  expired := by
    intro payload now hissued hexpired
    show numberJwt.decode (numberJwt.encode payload) now = .error .expired
    simp only [numberJwt, decimalParse_repr, Option.bind_some, Encodable.encodek, Option.map_some,
      payloadOfTuple_tuple, if_neg (not_lt.mpr hissued), if_pos hexpired]
  text_ne := by
    intro id htext
    have hparse := PyRuntime.ascii.uuidParse_text id
    rw [show PyRuntime.ascii.uuidText id = "" from htext] at hparse
    cases hparse

def demoLogoutAll : AuthLabel where
  call := .logoutAll 1
  ids := ⟨21, 22, 23, 24, 25⟩
  now := 60000000

/--
Whatever calls follow, logouts included, an access token names the user that it was handed
to until it expires and is refused from then on; and no refresh token names anyone.
-/
theorem access_tokens_authenticate (svc : AuthService) (hlib : TokenLibraries svc.tokenService)
    {labels more : List AuthLabel} {s t u : AuthState} {label : AuthLabel}
    {response : AuthResponse} (hexec : exec (AuthState.step svc) {} labels = some s)
    (hstep : s.step svc label = some t)
    (hanswer : (svc.call s.store label).1 = .authenticated response)
    (hmore : exec (AuthState.step svc) t more = some u) {now : Timestamp}
    (hnow : label.now ≤ now) :
    (now < svc.accessExpiry label.now → ∃ user,
      svc.getCurrentUser u.store (some response.tokens.accessToken) now = .ok user ∧
        user.id = response.user.id ∧ user.email = response.user.email ∧
        user.username = response.user.username) ∧
    (svc.accessExpiry label.now ≤ now →
      svc.getCurrentUser u.store (some response.tokens.accessToken) now = .error tokenHasExpired) ∧
    ∀ user, svc.getCurrentUser u.store (some response.tokens.refreshToken) now ≠ .ok user := by
  obtain ⟨familyId, context, hissued⟩ := call_authenticated hanswer
  have haccess : response.tokens.accessToken =
      svc.tokenService.createAccessToken response.user.id label.ids.accessJti label.now := by
    rw [hissued.tokens]
    rfl
  have hrefresh : response.tokens.refreshToken =
      (svc.newSession response.user.id familyId context label.ids label.now).1 := by
    rw [hissued.tokens]
    rfl
  refine ⟨?_, ?_, ?_⟩
  · intro hlive
    obtain ⟨user, hget, hactive, hid, hemail, hname⟩ := issued_user hexec hstep hissued hmore
    rw [haccess]
    exact ⟨user.response, getCurrentUser_of_live hlib hget hactive hnow hlive, hid, hemail, hname⟩
  · intro hexpired
    simp only [AuthService.getCurrentUser, haccess, decode_access_expired hlib hnow hexpired, bind,
      Except.bind]
  · intro user hok
    rw [hrefresh] at hok
    obtain ⟨claims, hdecode, -⟩ := bind_eq_ok hok
    exact decode_refresh_access hdecode

theorem access_tokens_authenticate_logout :
    ∃ response u user, (numberService.call {} demoRegister).1 = .authenticated response ∧
      exec (AuthState.step numberService) {} [demoRegister, demoLogoutAll] = some u ∧
      numberService.getCurrentUser u.store (some response.tokens.accessToken) 120000000 =
        .ok user ∧ user.email = "user@example.com" := by
  have hrun : ∃ t response u, ({} : AuthState).step numberService demoRegister = some t ∧
      (numberService.call {} demoRegister).1 = .authenticated response ∧
      exec (AuthState.step numberService) t [demoLogoutAll] = some u ∧
      response.user.email = "user@example.com" := ⟨_, _, _, rfl, rfl, rfl, rfl⟩
  obtain ⟨t, response, u, hstep, hanswer, hmore, hemail⟩ := hrun
  have hempty : exec (AuthState.step numberService) {} [] = some {} := rfl
  have hlive := (access_tokens_authenticate numberService numberService_libraries
    hempty hstep hanswer hmore (show demoRegister.now ≤ 120000000 by decide)).1
  obtain ⟨user, huser, -, hsame, -⟩ := hlive (by decide)
  exact ⟨response, u, user, hanswer, exec_cons.mpr ⟨t, hstep, hmore⟩, huser, hsame.trans hemail⟩

/-! ## Refresh tokens -/

def SessionsDrawn (s : AuthState) : Prop :=
  ∀ r ∈ s.store.sessions, r.id ∈ s.drawn ∧ r.tokenJti ∈ s.drawn

def sessionKeys (rows : List RefreshSession) : List (UUID × UUID) :=
  rows.map fun r => (r.id, r.tokenJti)

section Sessions

variable {svc : AuthService} {store : AuthStore} {s t u : AuthState} {label : AuthLabel}
  {labels more : List AuthLabel} {r : RefreshSession}

theorem sessionKeys_revokeAll (scope : RevocationScope) (now : Timestamp)
    (rows : List RefreshSession) : sessionKeys (revokeAll scope now rows) = sessionKeys rows :=
  map_updateWhere _ fun _ _ _ => rfl

theorem sessionKeys_updateSession (id : UUID) (change : RefreshSession → RefreshSession)
    (hchange : ∀ r, (change r).id = r.id ∧ (change r).tokenJti = r.tokenJti)
    (rows : List RefreshSession) :
    sessionKeys (updateSession id change rows) = sessionKeys rows := by
  refine map_updateWhere _ fun r _ _ => ?_
  rw [(hchange r).1, (hchange r).2]

private theorem logout_sessionKeys {token : String} {now : Timestamp} {store' : AuthStore}
    (h : svc.logout store token now = .ok store') :
    sessionKeys store'.sessions = sessionKeys store.sessions := by
  obtain ⟨claims, -, h⟩ := bind_eq_ok h
  split at h
  · cases h
  · split at h
    · cases h
      rfl
    · split_ifs at h <;> cases h
      · rfl
      · exact sessionKeys_updateSession _ (RefreshSession.revoke now) (fun _ => ⟨rfl, rfl⟩) _

private theorem call_sessionKeys (svc : AuthService) (store : AuthStore) (label : AuthLabel) :
    sessionKeys (svc.call store label).2.sessions = sessionKeys store.sessions ∨
      sessionKeys (svc.call store label).2.sessions =
        sessionKeys store.sessions ++ [(label.ids.sessionId, label.ids.jti)] := by
  obtain ⟨call, ids, now⟩ := label
  cases call with
  | register request context salt =>
      cases hresult : svc.register store request context salt ids now with
      | error e => simp [AuthService.call, settle, hresult]
      | ok result =>
          right
          simp only [AuthService.call, settle, hresult, (register_opens hresult).sessions]
          exact List.map_append
  | login request context =>
      cases hresult : svc.login store request context ids now with
      | error e => simp [AuthService.call, settle, hresult]
      | ok result =>
          obtain ⟨userId, hopens⟩ := login_opens hresult
          right
          simp only [AuthService.call, settle, hresult, hopens.sessions]
          exact List.map_append
  | refresh token context =>
      have heffect := refreshTokens_effect svc store token context ids now
      simp only [AuthService.call]
      cases hresult : svc.refreshTokens store token context ids now with
      | mk answer store' =>
          rw [hresult] at heffect
          cases heffect with
          | refused e he => exact Or.inl rfl
          | reused claims r e hdecode hsession hr he =>
              exact Or.inl (sessionKeys_revokeAll _ now store.sessions)
          | rotated claims r user response =>
              refine Or.inr (Eq.trans (sessionKeys_updateSession _
                (RefreshSession.replace now ids.sessionId) (fun _ => ⟨rfl, rfl⟩) _) ?_)
              exact List.map_append
  | logout token =>
      cases hresult : svc.logout store token now with
      | error e => simp [AuthService.call, settle, hresult, Except.map]
      | ok store' =>
          left
          simp only [AuthService.call, settle, hresult, Except.map, logout_sessionKeys hresult]
  | logoutAll userId => exact Or.inl (sessionKeys_revokeAll _ now store.sessions)

theorem SessionsDrawn.step (h : SessionsDrawn s) (hstep : s.step svc label = some t) :
    SessionsDrawn t := by
  obtain ⟨-, -, rfl⟩ := step_eq_some hstep
  intro r hr
  have hkey : (r.id, r.tokenJti) ∈ sessionKeys (svc.call s.store label).2.sessions :=
    List.mem_map_of_mem hr
  have hsplit : (r.id, r.tokenJti) ∈ sessionKeys s.store.sessions ∨
      (r.id, r.tokenJti) = (label.ids.sessionId, label.ids.jti) := by
    rcases call_sessionKeys svc s.store label with hsame | hadd
    · exact Or.inl (hsame ▸ hkey)
    · rw [hadd, List.mem_append, List.mem_singleton] at hkey
      exact hkey
  simp only [List.mem_append]
  rcases hsplit with hold | hnew
  · obtain ⟨old, hold, heq⟩ := List.mem_map.mp hold
    rw [Prod.mk.injEq] at heq
    rw [← heq.1, ← heq.2]
    exact ⟨Or.inl (h old hold).1, Or.inl (h old hold).2⟩
  · rw [Prod.mk.injEq] at hnew
    rw [hnew.1, hnew.2]
    simp [AuthIds.toList]

theorem SessionsDrawn.exec (h : SessionsDrawn t)
    (hmore : exec (AuthState.step svc) t more = some u) : SessionsDrawn u :=
  exec_invariant' (fun _ _ _ hv hstep => hv.step hstep) h hmore

theorem SessionsDrawn.fresh (h : SessionsDrawn s) (hstep : s.step svc label = some t) :
    label.ids.sessionId ∉ s.store.sessions.map RefreshSession.id ∧
      label.ids.jti ∉ s.store.sessions.map RefreshSession.tokenJti := by
  obtain ⟨-, hnew, -⟩ := step_eq_some hstep
  constructor
  · intro hmem
    obtain ⟨old, hold, heq⟩ := List.mem_map.mp hmem
    exact hnew _ (by simp [AuthIds.toList]) (heq ▸ (h old hold).1)
  · intro hmem
    obtain ⟨old, hold, heq⟩ := List.mem_map.mp hmem
    exact hnew _ (by simp [AuthIds.toList]) (heq ▸ (h old hold).2)

/-- As long as a session is active, its row is the one that was inserted. -/
def Untouched (r : RefreshSession) (s : AuthState) : Prop :=
  r.id ∈ s.store.sessions.map RefreshSession.id ∧
    ∀ r' ∈ s.store.sessions, r'.id = r.id → r'.isRevoked = false → r' = r

theorem SessionEffect.active_old {rows rows' : List RefreshSession} {ids : AuthIds}
    (h : SessionEffect rows ids rows') (hr : r ∈ rows') (hactive : r.isRevoked = false)
    (hid : r.id ∈ rows.map RefreshSession.id) : r ∈ rows := by
  cases h with
  | revokes selected change hselected hchange => exact (mem_updateWhere_active hchange hr hactive).1
  | adds selected change new hselected hchange hfresh hfamily =>
      rcases List.mem_append.mp hr with hrow | hnew
      · exact (mem_updateWhere_active hchange hrow hactive).1
      · rw [List.mem_singleton] at hnew
        subst hnew
        exact absurd hid hfresh

theorem Untouched.step (hinv : FamilyInvariant s) (h : Untouched r s)
    (hstep : s.step svc label = some t) : Untouched r t := by
  have heffect := step_effect hinv hstep
  obtain ⟨old, hold, hid⟩ := List.mem_map.mp h.1
  obtain ⟨kept, hkept, hkid, -⟩ := heffect.keeps hold
  refine ⟨List.mem_map.mpr ⟨kept, hkept, hkid.trans hid⟩, ?_⟩
  intro r' hr' hid' hactive
  exact h.2 r' (heffect.active_old hr' hactive (hid' ▸ h.1)) hid' hactive

theorem Untouched.exec (hinv : FamilyInvariant t) (hr : r ∈ t.store.sessions)
    (hmore : exec (AuthState.step svc) t more = some u) : Untouched r u := by
  have hstart : FamilyInvariant t ∧ Untouched r t :=
    ⟨hinv, List.mem_map_of_mem hr, fun r' hr' hid _ => eq_of_key_eq hinv.ids hr' hr hid⟩
  have hstep (v : AuthState) (label : AuthLabel) (w : AuthState)
      (hv : FamilyInvariant v ∧ Untouched r v) (h : v.step svc label = some w) :
      FamilyInvariant w ∧ Untouched r w := ⟨step_invariant hv.1 h, hv.2.step hv.1 h⟩
  exact (exec_invariant' hstep hstart hmore).2

theorem judge_newSession {userId familyId : UUID} {context : DeviceContext} {ids : AuthIds}
    {issuedAt now : Timestamp} (hlive : now < svc.refreshExpiry issuedAt) :
    svc.judge (svc.newSession userId familyId context ids issuedAt).1
      { subject := userId, tokenType := "refresh", jti := ids.jti
        expiresAt := numericDate (svc.expiresAt issuedAt), sessionId := some ids.sessionId
        familyId := some familyId }
      (svc.newSession userId familyId context ids issuedAt).2 now = .rotate := by
  have hexpired : ¬ svc.expiresAt issuedAt ≤ now :=
    not_le.mpr (lt_of_lt_of_le hlive (expiryOf_le _))
  simp [AuthService.judge, AuthService.newSession, RefreshSession.isRevoked,
    RefreshSession.isExpired, TokenService.tokenHashMatches, hexpired]

theorem addSession_fresh {rows : List RefreshSession} (hid : r.id ∉ rows.map RefreshSession.id)
    (hjti : r.tokenJti ∉ rows.map RefreshSession.tokenJti) :
    addSession r rows = .ok (rows ++ [r]) := by
  have hfresh : rows.any (fun row => row.tokenJti == r.tokenJti) = false := by
    rw [List.any_eq_false]
    intro row hrow heq
    rw [beq_iff_eq] at heq
    exact hjti (List.mem_map.mpr ⟨row, hrow, heq⟩)
  unfold addSession
  rw [hfresh]
  exact addRow_eq_ok.mpr ⟨hid, rfl⟩

theorem refreshTokens_of_rotate {token : String} {context : DeviceContext} {ids : AuthIds}
    {now : Timestamp} {claims : TokenClaims} {user : User} {familyId : UUID}
    (hdecode : svc.tokenService.decode token "refresh" now = .ok claims)
    (hsession : claims.sessionId = some r.id) (hfamily : claims.familyId = some familyId)
    (hget : getSession store.sessions r.id = some r)
    (hjudge : svc.judge token claims r now = .rotate)
    (huser : getUser store.users r.userId = some user) (hactive : user.isActive = true)
    (hid : ids.sessionId ∉ store.sessions.map RefreshSession.id)
    (hjti : ids.jti ∉ store.sessions.map RefreshSession.tokenJti) :
    svc.refreshTokens store token context ids now =
      (.ok ⟨user.response, svc.buildTokenPair user.id ids.accessJti
          (svc.successor user r context ids now).1 now⟩,
        { store with
          sessions := updateSession r.id (RefreshSession.replace now ids.sessionId)
            (store.sessions ++ [(svc.successor user r context ids now).2]) }) := by
  have hadd : addSession (svc.successor user r context ids now).2 store.sessions =
      .ok (store.sessions ++ [(svc.successor user r context ids now).2]) :=
    addSession_fresh hid hjti
  have hrotation : AuthService.rotationUser store.users r.userId = .ok user := by
    simp only [AuthService.rotationUser, huser, hactive, if_true]
  simp only [AuthService.refreshTokens, hdecode, hsession, hfamily, hget, hjudge, hrotation,
    AuthService.rotate, hadd, bind, Except.bind]
  rfl

end Sessions

end Astra.Auth
