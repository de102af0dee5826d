import Astra.Auth.CurrentUser
import Astra.Chat.Wire

/-!
# Renewing a pair of tokens

`POST /auth/refresh` with its request and reply, and what the calls of others leave of the
session that a pair belongs to.
-/

namespace Astra.Auth

open Astra.Foundation Astra.Platform Astra.Persistence Astra.Chat

/-! ## The endpoint -/

structure RefreshTokenRequest where
  refreshToken : String
  deviceName : Option String := none

def RefreshTokenRequest.isValid (request : RefreshTokenRequest) : Bool :=
  20 ≤ request.refreshToken.length && request.deviceName.all fun name => name.length ≤ 120

/-- The `refresh` endpoint; `device` is what `get_device_context` reads from the headers. -/
def AuthService.refresh (svc : AuthService) (errors : RefreshTokenRequest → List ErrorDetails)
    (s : AuthState)
    (request : RefreshTokenRequest) (device : DeviceContext) (ids : AuthIds) (now : Timestamp) :
    Option (Except HandlerExn AuthResponse × AuthState) :=
  if request.isValid then
    let context := { device with deviceName := request.deviceName }
    (s.step svc ⟨.refresh request.refreshToken context, ids, now⟩).map fun t =>
      ((svc.refreshTokens s.store request.refreshToken context ids now).1.mapError .raised, t)
  else some (.error (.validation (errors request)), s)

section Reply

variable (rt : WireRuntime)

def userDump (u : UserResponse) : Dict :=
  [("id", .str (rt.uuidText u.id)), ("email", .str u.email), ("username", .str u.username),
    ("is_active", .bool u.isActive), ("is_verified", .bool u.isVerified),
    ("last_login_at", dumpTime rt u.lastLoginAt), ("created_at", .str (rt.isoText u.createdAt)),
    ("updated_at", .str (rt.isoText u.updatedAt))]

def tokenPairDump (tokens : TokenPairResponse) : Dict :=
  [("access_token", .str tokens.accessToken), ("refresh_token", .str tokens.refreshToken),
    ("token_type", .str tokens.tokenType), ("access_expires_in", .int tokens.accessExpiresIn),
    ("refresh_expires_in", .int tokens.refreshExpiresIn)]

def authDump (response : AuthResponse) : Dict :=
  [("user", .obj (userDump rt response.user)), ("tokens", .obj (tokenPairDump response.tokens))]

def authReply : Except HandlerExn AuthResponse → Nat × String
  | .ok response => (200, compactDumps rt.floats (.obj (okBody (.obj (authDump rt response)))))
  | .error e => ((exceptionReply e).statusCode, (exceptionReply e).body rt.floats)

end Reply

/-! ## Calls of others -/

/-- The call presents no token of the family and does not log the user out everywhere. -/
def LeavesFamily (svc : AuthService) (s : AuthState) (userId familyId : UUID) : AuthCall → Prop
  | .register .. | .login .. => True
  | .refresh token _ | .logout token => ¬ TokenOfFamily svc s token familyId
  | .logoutAll other => other ≠ userId

section Others

variable {svc : AuthService} {s t : AuthState} {label : AuthLabel} {r row : RefreshSession}
  {rows : List RefreshSession} {token : String} {now : Timestamp}

theorem mem_updateSession_of_ne {id : UUID} {change : RefreshSession → RefreshSession}
    (hr : r ∈ rows) (hne : r.id ≠ id) : r ∈ updateSession id change rows :=
  mem_updateWhere.mpr (Or.inr ⟨hr, by simpa using hne⟩)

theorem mem_revokeAll_of_not_covers {scope : RevocationScope} (hr : r ∈ rows)
    (hcovers : scope.covers r = false) : r ∈ revokeAll scope now rows :=
  mem_updateWhere.mpr (Or.inr ⟨hr, by simp [hcovers]⟩)

theorem ne_of_not_tokenOfFamily {claims : TokenClaims}
    (hother : ¬ TokenOfFamily svc s token r.tokenFamilyId)
    (hdecode : svc.tokenService.decode token "refresh" now = .ok claims)
    (hsession : claims.sessionId = some row.id) (hrow : row ∈ s.store.sessions) :
    row.tokenFamilyId ≠ r.tokenFamilyId :=
  fun hsame => hother ⟨claims, now, hdecode, Or.inr ⟨row, hrow, hsession, hsame⟩⟩

private theorem logout_leaves {store' : AuthStore} (hinv : FamilyInvariant s)
    (hother : ¬ TokenOfFamily svc s token r.tokenFamilyId) (hr : r ∈ s.store.sessions)
    (h : svc.logout s.store token now = .ok store') : r ∈ store'.sessions := by
  obtain ⟨claims, hdecode, h⟩ := bind_eq_ok h
  split at h
  · cases h
  · rename_i sessionId hsession
    split at h
    · cases h
      exact hr
    · rename_i row hget
      obtain ⟨hrow, rfl⟩ := getSession_mem hget
      have hne := ne_of_not_tokenOfFamily hother hdecode hsession hrow
      split_ifs at h <;> cases h
      · exact hr
      · refine mem_updateSession_of_ne hr ?_
        intro hid
        exact hne (congrArg _ (eq_of_key_eq hinv.ids hrow hr hid.symm))

private theorem step_leaves (hinv : FamilyInvariant s) (hr : r ∈ s.store.sessions)
    (hcall : LeavesFamily svc s r.userId r.tokenFamilyId label.call)
    (hstep : s.step svc label = some t) : r ∈ t.store.sessions := by
  obtain ⟨-, -, rfl⟩ := step_eq_some hstep
  obtain ⟨call, ids, now⟩ := label
  cases call with
  | register request context salt =>
      cases hresult : svc.register s.store request context salt ids now with
      | error e => simpa [AuthService.call, settle, hresult] using hr
      | ok result =>
          simp only [AuthService.call, settle, hresult, (register_opens hresult).sessions]
          exact List.mem_append_left _ hr
  | login request context =>
      cases hresult : svc.login s.store request context ids now with
      | error e => simpa [AuthService.call, settle, hresult] using hr
      | ok result =>
          obtain ⟨userId, hopens⟩ := login_opens hresult
          simp only [AuthService.call, settle, hresult, hopens.sessions]
          exact List.mem_append_left _ hr
  | refresh token context =>
      have heffect := refreshTokens_effect svc s.store token context ids now
      simp only [AuthService.call]
      cases hresult : svc.refreshTokens s.store token context ids now with
      | mk answer store' =>
          rw [hresult] at heffect
          cases heffect with
          | refused e he => exact hr
          | reused claims row e hdecode hsession hrow he =>
              have hne := ne_of_not_tokenOfFamily hcall hdecode hsession hrow
              refine mem_revokeAll_of_not_covers hr ?_
              simpa [RevocationScope.covers] using hne.symm
          | rotated claims row user response hdecode hsession hrow =>
              have hne := ne_of_not_tokenOfFamily hcall hdecode hsession hrow
              refine mem_updateSession_of_ne (List.mem_append_left _ hr) ?_
              intro hid
              exact hne (congrArg _ (eq_of_key_eq hinv.ids hrow hr hid.symm))
  | logout token =>
      cases hresult : svc.logout s.store token now with
      | error e => simpa [AuthService.call, settle, hresult, Except.map] using hr
      | ok store' =>
          simpa [AuthService.call, settle, hresult, Except.map] using
            logout_leaves hinv hcall hr hresult
  | logoutAll userId =>
      have hne : r.userId ≠ userId := fun h => hcall h.symm
      exact mem_revokeAll_of_not_covers hr (by simpa [RevocationScope.covers] using hne)

end Others

/-! ## The pair of a session -/

/-- The pair was handed out for a session that is still as it was inserted. -/
def Renewable (svc : AuthService) (store : AuthStore) (userId familyId : UUID)
    (issuedAt : Timestamp) (tokens : TokenPairResponse) : Prop :=
  ∃ ids context, (svc.newSession userId familyId context ids issuedAt).2 ∈ store.sessions ∧
    tokens = svc.buildTokenPair userId ids.accessJti
      (svc.newSession userId familyId context ids issuedAt).1 issuedAt

/-- The server, with a user whose row stays. -/
structure Serves (userId : UUID) (s : AuthState) : Prop where
  families : FamilyInvariant s
  users : UsersSound s.store.users
  drawn : SessionsDrawn s
  user : ∃ user ∈ s.store.users, user.id = userId

section Pairs

variable {svc : AuthService} {s t : AuthState} {label : AuthLabel} {userId familyId : UUID}
  {issuedAt now : Timestamp} {tokens : TokenPairResponse} {ids : AuthIds}
  {context : DeviceContext}

theorem Serves.step (h : Serves userId s) (hstep : s.step svc label = some t) :
    Serves userId t := by
  obtain ⟨user, huser, hid⟩ := h.user
  obtain ⟨user', huser', hsame⟩ := (step_users hstep).keeps user huser
  exact ⟨step_invariant h.families hstep, (step_users hstep).sound h.users, h.drawn.step hstep,
    user', huser', hsame.id.trans hid⟩

theorem Serves.getUser (h : Serves userId s) :
    ∃ user, getUser s.store.users userId = some user ∧ user.isActive = true ∧ user.id = userId := by
  obtain ⟨user, huser, rfl⟩ := h.user
  exact ⟨user, getUser_of_mem h.users huser, h.users.active user huser, rfl⟩

theorem Renewable.leaves (h : Renewable svc s.store userId familyId issuedAt tokens)
    (hinv : FamilyInvariant s) (hcall : LeavesFamily svc s userId familyId label.call)
    (hstep : s.step svc label = some t) :
    Renewable svc t.store userId familyId issuedAt tokens := by
  obtain ⟨ids, context, hrow, htokens⟩ := h
  exact ⟨ids, context, step_leaves hinv hrow hcall hstep, htokens⟩

private theorem Renewable.renew (hlib : TokenLibraries svc.tokenService) (hserves : Serves userId s)
    (h : Renewable svc s.store userId familyId issuedAt tokens) (hissued : issuedAt ≤ now)
    (hlive : now < svc.refreshExpiry issuedAt)
    (hstep : s.step svc ⟨.refresh tokens.refreshToken context, ids, now⟩ = some t) :
    ∃ response, (svc.refreshTokens s.store tokens.refreshToken context ids now).1 = .ok response ∧
      Renewable svc t.store userId familyId now response.tokens := by
  obtain ⟨oldIds, oldContext, hrow, htokens⟩ := h
  have hrefresh : tokens.refreshToken =
      (svc.newSession userId familyId oldContext oldIds issuedAt).1 := by
    rw [htokens]
    rfl
  obtain ⟨user, hget, hactive, rfl⟩ := hserves.getUser
  obtain ⟨hfresh, hjti⟩ := hserves.drawn.fresh hstep
  have hrenewed : svc.refreshTokens s.store tokens.refreshToken context ids now = _ :=
    refreshTokens_of_rotate (hrefresh ▸ decode_refresh hlib hissued hlive) rfl rfl
      (find?_key hserves.families.ids hrow) (hrefresh ▸ judge_newSession hlive) hget hactive hfresh
      hjti
  have htable : t.store =
      (svc.call s.store ⟨.refresh tokens.refreshToken context, ids, now⟩).2 := by
    rw [(step_eq_some hstep).2.2]
  simp only [AuthService.call, hrenewed] at htable
  refine ⟨_, congrArg Prod.fst hrenewed, ids, _, ?_, rfl⟩
  rw [htable]
  refine mem_updateSession_of_ne (List.mem_append_right _ List.mem_cons_self) ?_
  intro hid
  have hold : ids.sessionId ∈ s.store.sessions.map RefreshSession.id :=
    List.mem_map.mpr ⟨_, hrow, hid.symm⟩
  exact hfresh hold

theorem Renewable.refresh (hlib : TokenLibraries svc.tokenService) (hserves : Serves userId s)
    (h : Renewable svc s.store userId familyId issuedAt tokens) (hissued : issuedAt ≤ now)
    (hlive : now < svc.refreshExpiry issuedAt) {errors : RefreshTokenRequest → List ErrorDetails}
    {request : RefreshTokenRequest} {device : DeviceContext}
    {result : Except HandlerExn AuthResponse × AuthState}
    (htoken : request.refreshToken = tokens.refreshToken) (hvalid : request.isValid = true)
    (hresult : svc.refresh errors s request device ids now = some result) :
    ∃ response, result.1 = .ok response ∧ Serves userId result.2 ∧
      Renewable svc result.2.store userId familyId now response.tokens := by
  simp only [AuthService.refresh, hvalid, if_true, htoken] at hresult
  obtain ⟨t, hstep, rfl⟩ := Option.map_eq_some_iff.mp hresult
  obtain ⟨response, hanswer, hrenewable⟩ := h.renew hlib hserves hissued hlive hstep
  refine ⟨response, ?_, hserves.step hstep, hrenewable⟩
  rw [hanswer]
  rfl

theorem Renewable.accessToken {store : AuthStore}
    (h : Renewable svc store userId familyId issuedAt tokens) :
    ∃ jti, tokens.accessToken = svc.tokenService.createAccessToken userId jti issuedAt := by
  obtain ⟨ids, context, -, rfl⟩ := h
  exact ⟨ids.accessJti, rfl⟩

theorem Renewable.refreshToken {store : AuthStore}
    (h : Renewable svc store userId familyId issuedAt tokens) :
    ∃ payload, tokens.refreshToken = svc.tokenService.jwt.encode payload := by
  obtain ⟨ids, context, -, rfl⟩ := h
  exact ⟨_, rfl⟩

theorem Renewable.expiresIn {store : AuthStore}
    (h : Renewable svc store userId familyId issuedAt tokens) :
    tokens.accessExpiresIn = svc.tokenService.accessExpiresIn ∧
      tokens.refreshExpiresIn = svc.tokenService.refreshExpiresIn := by
  obtain ⟨ids, context, -, rfl⟩ := h
  exact ⟨rfl, rfl⟩

theorem Authenticated.serves {labels : List AuthLabel} {response : AuthResponse}
    (hexec : exec (AuthState.step svc) {} labels = some s) (hstep : s.step svc label = some t)
    (h : Authenticated svc label response t.store familyId context) :
    Serves response.user.id t := by
  have hempty : UsersSound ({} : AuthState).store.users := ⟨List.nodup_nil, by simp⟩
  have hnone : SessionsDrawn {} := fun r hr => absurd hr List.not_mem_nil
  obtain ⟨user, huser, hresponse⟩ := h.user
  exact ⟨step_invariant (run_invariant hexec) hstep,
    (step_users hstep).sound (run_users hempty hexec).1, (hnone.exec hexec).step hstep, user, huser,
    (congrArg UserResponse.id hresponse).symm⟩

end Pairs

end Astra.Auth
