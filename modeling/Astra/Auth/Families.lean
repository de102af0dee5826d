import Astra.Auth.Service
import Astra.Foundation.Transition

/-!
# Token families

Runs of the authentication service, each call atomic.  Every call revokes sessions
and adds at most one, and the invariant of the families follows from that.
-/

namespace Astra.Auth

open Astra.Foundation Astra.Platform Astra.Persistence

/-! ## Calls -/

inductive AuthCall where
  | register (request : RegisterRequest) (context : DeviceContext) (salt : String)
  | login (request : LoginRequest) (context : DeviceContext)
  | refresh (token : String) (context : DeviceContext)
  | logout (token : String)
  | logoutAll (userId : UUID)

structure AuthLabel where
  call : AuthCall
  ids : AuthIds
  now : Timestamp

inductive AuthAnswer where
  | authenticated (response : AuthResponse)
  | done
  | revoked (count : Nat)
  | failed (e : Exn)

def AuthAnswer.code? : AuthAnswer → Option ErrorCode
  | .failed e => e.code?
  | _ => none

def settle {α : Type} (store : AuthStore) (answer : α → AuthAnswer) :
    Except Exn (α × AuthStore) → AuthAnswer × AuthStore
  | .error e => (.failed e, store)
  | .ok (value, store') => (answer value, store')

def AuthService.call (svc : AuthService) (store : AuthStore) (label : AuthLabel) :
    AuthAnswer × AuthStore :=
  match label.call with
  | .register request context salt =>
      settle store .authenticated (svc.register store request context salt label.ids label.now)
  | .login request context =>
      settle store .authenticated (svc.login store request context label.ids label.now)
  | .refresh token context =>
      match svc.refreshTokens store token context label.ids label.now with
      | (.error e, store') => (.failed e, store')
      | (.ok response, store') => (.authenticated response, store')
  | .logout token =>
      settle store (fun _ => .done) ((svc.logout store token label.now).map fun s => ((), s))
  | .logoutAll userId =>
      let result := AuthService.logoutAll store userId label.now
      (.revoked result.1, result.2)

/-- The tables, and the ids that `uuid4()` has returned so far. -/
structure AuthState where
  store : AuthStore := {}
  drawn : List UUID := []

def AuthIds.toList (ids : AuthIds) : List UUID :=
  [ids.userId, ids.sessionId, ids.familyId, ids.jti, ids.accessJti]

def AuthState.step (svc : AuthService) (s : AuthState) (label : AuthLabel) : Option AuthState :=
  if label.ids.toList.Nodup ∧ ∀ id ∈ label.ids.toList, id ∉ s.drawn then
    some { store := (svc.call s.store label).2, drawn := s.drawn ++ label.ids.toList }
  else none

/-! ## What a call does to the sessions -/

structure Revokes (change : RefreshSession → RefreshSession) : Prop where
  id : ∀ r, (change r).id = r.id
  userId : ∀ r, (change r).userId = r.userId
  tokenFamilyId : ∀ r, (change r).tokenFamilyId = r.tokenFamilyId
  isRevoked : ∀ r, (change r).isRevoked = true

theorem revokes_revoke (now : Timestamp) : Revokes (RefreshSession.revoke now) :=
  ⟨fun _ => rfl, fun _ => rfl, fun _ => rfl, fun _ => rfl⟩

theorem revokes_replace (now : Timestamp) (id : UUID) : Revokes (RefreshSession.replace now id) :=
  ⟨fun _ => rfl, fun _ => rfl, fun _ => rfl, fun _ => rfl⟩

/--
Active sessions are revoked, and at most one session is added: in a new family, or
in that of a session revoked by the same call.
-/
inductive SessionEffect (rows : List RefreshSession) (ids : AuthIds) :
    List RefreshSession → Prop
  | revokes (selected : RefreshSession → Bool) (change : RefreshSession → RefreshSession)
      (hselected : ∀ r ∈ rows, selected r = true → r.isRevoked = false)
      (hchange : Revokes change) : SessionEffect rows ids (updateWhere selected change rows)
  | adds (selected : RefreshSession → Bool) (change : RefreshSession → RefreshSession)
      (new : RefreshSession)
      (hselected : ∀ r ∈ rows, selected r = true → r.isRevoked = false)
      (hchange : Revokes change) (hfresh : new.id ∉ rows.map RefreshSession.id)
      (hfamily : new.tokenFamilyId = ids.familyId ∨
        ∃ old ∈ rows, selected old = true ∧ new.tokenFamilyId = old.tokenFamilyId) :
      SessionEffect rows ids (updateWhere selected change rows ++ [new])

section Effect

variable {svc : AuthService} {store : AuthStore} {rows rows' : List RefreshSession}
  {r : RefreshSession} {ids : AuthIds} {now : Timestamp}

theorem getSession_mem {id : UUID} (h : getSession rows id = some r) : r ∈ rows ∧ r.id = id :=
  ⟨List.mem_of_find?_eq_some h, by simpa using List.find?_some h⟩

theorem addSession_eq_ok (h : addSession r rows = .ok rows') :
    r.id ∉ rows.map RefreshSession.id ∧ rows' = rows ++ [r] := by
  unfold addSession at h
  split at h
  · cases h
  · exact addRow_eq_ok.mp h

theorem addSession_error {e : Exn} (h : addSession r rows = .error e) : e = integrityError := by
  unfold addSession addRow at h
  split at h
  · exact (Except.error.inj h).symm
  · split at h
    · exact (Except.error.inj h).symm
    · cases h

structure Opens (svc : AuthService) (store : AuthStore) (userId : UUID) (context : DeviceContext)
    (ids : AuthIds) (now : Timestamp) (response : AuthResponse) (store' : AuthStore) : Prop where
  fresh : ids.sessionId ∉ store.sessions.map RefreshSession.id
  sessions : store'.sessions =
    store.sessions ++ [(svc.newSession userId ids.familyId context ids now).2]
  token : response.tokens.refreshToken =
    (svc.newSession userId ids.familyId context ids now).1
  user : response.user.id = userId

theorem createSession_eq_ok {userId : UUID} {context : DeviceContext} {tokens : TokenPairResponse}
    (h : svc.createSession userId context ids now rows = .ok (tokens, rows')) :
    ids.sessionId ∉ rows.map RefreshSession.id ∧
      rows' = rows ++ [(svc.newSession userId ids.familyId context ids now).2] ∧
      tokens.refreshToken = (svc.newSession userId ids.familyId context ids now).1 := by
  obtain ⟨rows₁, hadd, h⟩ := bind_eq_ok h
  obtain ⟨hfresh, rfl⟩ := addSession_eq_ok hadd
  simp only [Except.ok.injEq, Prod.mk.injEq] at h
  obtain ⟨rfl, rfl⟩ := h
  exact ⟨hfresh, rfl, rfl⟩

theorem register_opens {request : RegisterRequest} {context : DeviceContext} {salt : String}
    {response : AuthResponse} {store' : AuthStore}
    (h : svc.register store request context salt ids now = .ok (response, store')) :
    Opens svc store ids.userId context ids now response store' := by
  obtain ⟨-, -, h⟩ := bind_eq_ok h
  obtain ⟨passwordHash, -, h⟩ := bind_eq_ok h
  split at h
  · cases h
  · split at h
    · cases h
    · obtain ⟨users, -, h⟩ := bind_eq_ok h
      obtain ⟨⟨tokens, sessions⟩, hcreate, h⟩ := bind_eq_ok h
      obtain ⟨hfresh, hrows, htoken⟩ := createSession_eq_ok hcreate
      simp only [Except.ok.injEq, Prod.mk.injEq] at h
      obtain ⟨rfl, rfl⟩ := h
      exact ⟨hfresh, hrows, htoken, rfl⟩

theorem login_opens {request : LoginRequest} {context : DeviceContext}
    {response : AuthResponse} {store' : AuthStore}
    (h : svc.login store request context ids now = .ok (response, store')) :
    ∃ userId, Opens svc store userId context ids now response store' := by
  unfold AuthService.login at h
  split at h
  · cases h
  · rename_i user huser
    split at h
    · split at h
      · obtain ⟨⟨tokens, sessions⟩, hcreate, h⟩ := bind_eq_ok h
        obtain ⟨hfresh, hrows, htoken⟩ := createSession_eq_ok hcreate
        simp only [Except.ok.injEq, Prod.mk.injEq] at h
        obtain ⟨rfl, rfl⟩ := h
        exact ⟨user.id, hfresh, hrows, htoken, rfl⟩
      · cases h
    · cases h

/-! ## Rotation -/

private theorem judge_refuse {token : String} {claims : TokenClaims} {e : Exn}
    (h : svc.judge token claims r now = .refuse e) :
    e.code? ≠ some .authTokenReuseDetected := by
  unfold AuthService.judge at h
  split at h
  · split at h
    · cases h
    · cases h
      decide
  · split at h
    · cases h
      decide
    · split at h <;> cases h

private theorem judge_revokeFamily {token : String} {claims : TokenClaims} {e : Exn}
    (h : svc.judge token claims r now = .revokeFamily e) :
    e.code? = some .authTokenReuseDetected := by
  unfold AuthService.judge at h
  split at h
  · split at h
    · cases h
      rfl
    · cases h
  · split at h
    · cases h
    · split at h
      · cases h
        rfl
      · cases h

theorem judge_rotate {token : String} {claims : TokenClaims}
    (h : svc.judge token claims r now = .rotate) :
    r.isRevoked = false ∧ claims.familyId = some r.tokenFamilyId := by
  unfold AuthService.judge at h
  split at h
  · split at h <;> cases h
  · rename_i hrevoked
    split at h
    · cases h
    · split at h
      · cases h
      · rename_i hmatch
        simp only [not_or, not_not] at hmatch
        exact ⟨by simpa using hrevoked, hmatch.2.2.1.symm⟩

inductive RefreshEffect (svc : AuthService) (store : AuthStore) (token : String)
    (context : DeviceContext) (ids : AuthIds) (now : Timestamp) :
    Except Exn AuthResponse × AuthStore → Prop
  | refused (e : Exn) (he : e.code? ≠ some .authTokenReuseDetected) :
      RefreshEffect svc store token context ids now (.error e, store)
  | reused (claims : TokenClaims) (r : RefreshSession) (e : Exn)
      (hdecode : svc.tokenService.decode token "refresh" now = .ok claims)
      (hsession : claims.sessionId = some r.id) (hr : r ∈ store.sessions)
      (he : e.code? = some .authTokenReuseDetected) :
      RefreshEffect svc store token context ids now
        (.error e, { store with sessions := revokeFamily r.tokenFamilyId now store.sessions })
  | rotated (claims : TokenClaims) (r : RefreshSession) (user : User) (response : AuthResponse)
      (hdecode : svc.tokenService.decode token "refresh" now = .ok claims)
      (hsession : claims.sessionId = some r.id) (hr : r ∈ store.sessions)
      (hactive : r.isRevoked = false) (hfamily : claims.familyId = some r.tokenFamilyId)
      (huser : user.id = r.userId)
      (hfresh : ids.sessionId ∉ store.sessions.map RefreshSession.id)
      (htoken : response.tokens.refreshToken = (svc.successor user r context ids now).1)
      (howner : response.user.id = user.id) :
      RefreshEffect svc store token context ids now
        (.ok response, { store with
          sessions := updateSession r.id (RefreshSession.replace now ids.sessionId)
            (store.sessions ++ [(svc.successor user r context ids now).2]) })

theorem decode_error {t : TokenService} {token expectedType : String} {e : Exn}
    (h : t.decode token expectedType now = .error e) :
    e.code? ≠ some .authTokenReuseDetected := by
  unfold TokenService.decode at h
  split at h
  · cases h
    decide
  · cases h
    decide
  · split at h
    · cases h
      decide
    · split at h
      · cases h
        decide
      · cases h

theorem rotationUser_error {users : List User} {userId : UUID} {e : Exn}
    (h : AuthService.rotationUser users userId = .error e) :
    e.code? ≠ some .authTokenReuseDetected := by
  unfold AuthService.rotationUser at h
  split at h
  · cases h
    decide
  · split at h
    · cases h
    · cases h
      decide

theorem rotationUser_ok {users : List User} {userId : UUID} {user : User}
    (h : AuthService.rotationUser users userId = .ok user) : user.id = userId := by
  unfold AuthService.rotationUser at h
  split at h
  · cases h
  · rename_i hfind
    split at h
    · cases h
      unfold getUser at hfind
      simpa using List.find?_some hfind
    · cases h

theorem rotate_error {user : User} {context : DeviceContext} {e : Exn}
    (h : svc.rotate user r context ids now rows = .error e) :
    e.code? ≠ some .authTokenReuseDetected := by
  cases hadd : addSession (svc.successor user r context ids now).2 rows with
  | error e' =>
      simp only [AuthService.rotate, hadd, bind, Except.bind] at h
      cases h
      rw [addSession_error hadd]
      decide
  | ok rows' =>
      simp only [AuthService.rotate, hadd, bind, Except.bind] at h
      cases h

theorem rotate_ok {user : User} {context : DeviceContext} {response : AuthResponse}
    (h : svc.rotate user r context ids now rows = .ok (response, rows')) :
    ids.sessionId ∉ rows.map RefreshSession.id ∧
      rows' = updateSession r.id (RefreshSession.replace now ids.sessionId)
        (rows ++ [(svc.successor user r context ids now).2]) ∧
      response.tokens.refreshToken = (svc.successor user r context ids now).1 ∧
      response.user.id = user.id := by
  obtain ⟨rows₁, hadd, h⟩ := bind_eq_ok h
  obtain ⟨hfresh, rfl⟩ := addSession_eq_ok hadd
  simp only [Except.ok.injEq, Prod.mk.injEq] at h
  obtain ⟨rfl, rfl⟩ := h
  exact ⟨hfresh, rfl, rfl, rfl⟩

theorem refreshTokens_effect (svc : AuthService) (store : AuthStore) (token : String)
    (context : DeviceContext) (ids : AuthIds) (now : Timestamp) :
    RefreshEffect svc store token context ids now
      (svc.refreshTokens store token context ids now) := by
  unfold AuthService.refreshTokens
  split
  · rename_i e hdecode
    exact .refused e (decode_error hdecode)
  · rename_i claims hdecode
    split
    · rename_i sessionId familyId hsession hfamily
      split
      · exact .refused _ (by decide)
      · rename_i session hget
        obtain ⟨hr, rfl⟩ := getSession_mem hget
        split
        · rename_i e hjudge
          exact .refused e (judge_refuse hjudge)
        · rename_i e hjudge
          exact .reused claims session e hdecode hsession hr (judge_revokeFamily hjudge)
        · rename_i hjudge
          obtain ⟨hactive, hmatch⟩ := judge_rotate hjudge
          split
          · rename_i e huser
            exact .refused e (rotationUser_error huser)
          · rename_i user huser
            split
            · rename_i e hrotate
              exact .refused e (rotate_error hrotate)
            · rename_i response rows hrotate
              obtain ⟨hfresh, rfl, htoken, howner⟩ := rotate_ok hrotate
              exact .rotated claims session user response hdecode hsession hr hactive hmatch
                (rotationUser_ok huser) hfresh htoken howner
    · exact .refused _ (by decide)

/-! ## The session table after a call -/

theorem updateWhere_false (change : RefreshSession → RefreshSession) :
    updateWhere (fun _ => false) change rows = rows := by
  simp [updateWhere]

theorem SessionEffect.same : SessionEffect rows ids rows := by
  have h : SessionEffect rows ids (updateWhere (fun _ => false) (RefreshSession.revoke 0) rows) :=
    .revokes _ _ (by simp) (revokes_revoke 0)
  rwa [updateWhere_false] at h

theorem SessionEffect.opens (hfresh : r.id ∉ rows.map RefreshSession.id)
    (hfamily : r.tokenFamilyId = ids.familyId) : SessionEffect rows ids (rows ++ [r]) := by
  have h := SessionEffect.adds (fun _ => false) (RefreshSession.revoke 0) r (by simp)
    (revokes_revoke 0) hfresh (Or.inl hfamily)
  rwa [updateWhere_false] at h

theorem SessionEffect.rotates {new : RefreshSession}
    (hrows : (rows.map RefreshSession.id).Nodup) (hr : r ∈ rows) (hactive : r.isRevoked = false)
    (hfresh : new.id ∉ rows.map RefreshSession.id)
    (hfamily : new.tokenFamilyId = r.tokenFamilyId) :
    SessionEffect rows ids
      (updateSession r.id (RefreshSession.replace now new.id) (rows ++ [new])) := by
  have hne : new.id ≠ r.id := by
    rintro heq
    exact hfresh (heq ▸ List.mem_map_of_mem hr)
  have honly (row : RefreshSession) (hrow : row ∈ rows) (hid : (row.id == r.id) = true) :
      row.isRevoked = false := by
    rwa [eq_of_key_eq hrows hrow hr (by simpa using hid)]
  have h : SessionEffect rows ids
      (updateWhere (fun row => row.id == r.id) (RefreshSession.replace now new.id) rows ++ [new]) :=
    .adds _ _ new honly (revokes_replace now new.id) hfresh (Or.inr ⟨r, hr, by simp, hfamily⟩)
  simpa [updateSession, updateWhere, hne] using h

theorem SessionEffect.ends (hrows : (rows.map RefreshSession.id).Nodup) (hr : r ∈ rows)
    (hactive : r.isRevoked = false) :
    SessionEffect rows ids (updateSession r.id (RefreshSession.revoke now) rows) := by
  refine .revokes _ _ ?_ (revokes_revoke now)
  intro row hrow hid
  rwa [eq_of_key_eq hrows hrow hr (by simpa using hid)]

theorem SessionEffect.revokesAll (scope : RevocationScope) :
    SessionEffect rows ids (revokeAll scope now rows) := by
  refine .revokes _ _ ?_ (revokes_revoke now)
  intro row hrow hselected
  simp only [Bool.and_eq_true, Bool.not_eq_true'] at hselected
  exact hselected.2

theorem logout_effect {token : String} {store' : AuthStore}
    (hrows : (store.sessions.map RefreshSession.id).Nodup)
    (h : svc.logout store token now = .ok store') :
    SessionEffect store.sessions ids store'.sessions := by
  obtain ⟨claims, -, h⟩ := bind_eq_ok h
  split at h
  · cases h
  · split at h
    · cases h
      exact .same
    · rename_i session hget
      split at h
      · split at h
        · cases h
          exact .same
        · rename_i hactive
          cases h
          exact .ends hrows (getSession_mem hget).1 (by simpa using hactive)
      · cases h

theorem call_effect (svc : AuthService) (store : AuthStore) (label : AuthLabel)
    (hrows : (store.sessions.map RefreshSession.id).Nodup) :
    SessionEffect store.sessions label.ids (svc.call store label).2.sessions := by
  obtain ⟨call, ids, now⟩ := label
  cases call with
  | register request context salt =>
      cases hresult : svc.register store request context salt ids now with
      | error e => simpa [AuthService.call, settle, hresult] using SessionEffect.same
      | ok result =>
          have hopens := register_opens hresult
          simp only [AuthService.call, settle, hresult, hopens.sessions]
          exact .opens hopens.fresh rfl
  | login request context =>
      cases hresult : svc.login store request context ids now with
      | error e => simpa [AuthService.call, settle, hresult] using SessionEffect.same
      | ok result =>
          obtain ⟨userId, hopens⟩ := login_opens hresult
          simp only [AuthService.call, settle, hresult, hopens.sessions]
          exact .opens hopens.fresh rfl
  | refresh token context =>
      have heffect := refreshTokens_effect svc store token context ids now
      simp only [AuthService.call]
      cases hresult : svc.refreshTokens store token context ids now with
      | mk answer store' =>
          rw [hresult] at heffect
          cases heffect with
          | refused e he => exact .same
          | reused claims r e hdecode hsession hr he => exact .revokesAll _
          | rotated claims r user response hdecode hsession hr hactive hfamily huser hfresh =>
              have hnew : (svc.successor user r context ids now).2.id ∉
                  store.sessions.map RefreshSession.id := hfresh
              exact .rotates hrows hr hactive hnew rfl
  | logout token =>
      cases hresult : svc.logout store token now with
      | error e => simpa [AuthService.call, settle, hresult, Except.map] using SessionEffect.same
      | ok store' =>
          simpa [AuthService.call, settle, hresult, Except.map] using logout_effect hrows hresult
  | logoutAll userId => exact .revokesAll _

end Effect

section Table

variable {rows rows' : List RefreshSession} {ids : AuthIds} {r : RefreshSession}

theorem SessionEffect.nodup (h : SessionEffect rows ids rows')
    (hrows : (rows.map RefreshSession.id).Nodup) : (rows'.map RefreshSession.id).Nodup := by
  cases h with
  | revokes selected change hselected hchange =>
      exact updateWhere_nodup hrows hchange.id
  | adds selected change new hselected hchange hfresh hfamily =>
      apply nodup_append_row (updateWhere_nodup hrows hchange.id)
      rw [map_updateWhere RefreshSession.id fun row _ _ => hchange.id row]
      exact hfresh

theorem updateWhere_keeps {selected : RefreshSession → Bool}
    {change : RefreshSession → RefreshSession} (hchange : Revokes change) (hr : r ∈ rows) :
    ∃ r' ∈ updateWhere selected change rows, r'.id = r.id ∧ r'.userId = r.userId ∧
      r'.tokenFamilyId = r.tokenFamilyId ∧ (selected r = false → r' = r) := by
  cases hsel : selected r with
  | true =>
      refine ⟨change r, mem_updateWhere.mpr (Or.inl ⟨r, hr, hsel, rfl⟩), hchange.id r,
        hchange.userId r, hchange.tokenFamilyId r, ?_⟩
      simp
  | false => exact ⟨r, mem_updateWhere.mpr (Or.inr ⟨hr, hsel⟩), rfl, rfl, rfl, fun _ => rfl⟩

/-- A session is never deleted or handed to another user or family; a revoked one never changes. -/
theorem SessionEffect.keeps (h : SessionEffect rows ids rows') (hr : r ∈ rows) :
    ∃ r' ∈ rows', r'.id = r.id ∧ r'.userId = r.userId ∧ r'.tokenFamilyId = r.tokenFamilyId ∧
      (r.isRevoked = true → r' = r) := by
  have hskipped (selected : RefreshSession → Bool)
      (hselected : ∀ r ∈ rows, selected r = true → r.isRevoked = false)
      (hrevoked : r.isRevoked = true) : selected r = false := by
    by_contra hsel
    rw [hselected r hr (by simpa using hsel)] at hrevoked
    cases hrevoked
  cases h with
  | revokes selected change hselected hchange =>
      obtain ⟨r', hr', hid, huser, hfamily, hsame⟩ := updateWhere_keeps hchange hr
      exact ⟨r', hr', hid, huser, hfamily, fun h => hsame (hskipped selected hselected h)⟩
  | adds selected change new hselected hchange hfresh _ =>
      obtain ⟨r', hr', hid, huser, hfamily, hsame⟩ := updateWhere_keeps hchange hr
      exact ⟨r', List.mem_append_left _ hr', hid, huser, hfamily,
        fun h => hsame (hskipped selected hselected h)⟩

theorem mem_updateWhere_active {selected : RefreshSession → Bool}
    {change : RefreshSession → RefreshSession} (hchange : Revokes change)
    (hr : r ∈ updateWhere selected change rows) (hactive : r.isRevoked = false) :
    r ∈ rows ∧ selected r = false := by
  rcases mem_updateWhere.mp hr with ⟨old, -, -, rfl⟩ | hold
  · rw [hchange.isRevoked] at hactive
    cases hactive
  · exact hold

theorem SessionEffect.active (h : SessionEffect rows ids rows') (hr : r ∈ rows')
    (hactive : r.isRevoked = false) :
    r ∈ rows ∨ r.tokenFamilyId = ids.familyId ∨
      ∃ old ∈ rows, old.isRevoked = false ∧ r.tokenFamilyId = old.tokenFamilyId := by
  cases h with
  | revokes selected change hselected hchange =>
      exact Or.inl (mem_updateWhere_active hchange hr hactive).1
  | adds selected change new hselected hchange hfresh hfamily =>
      rcases List.mem_append.mp hr with hr | hr
      · exact Or.inl (mem_updateWhere_active hchange hr hactive).1
      · rw [List.mem_singleton] at hr
        subst hr
        rcases hfamily with hfamily | ⟨old, hold, hsel, hfamily⟩
        · exact Or.inr (Or.inl hfamily)
        · exact Or.inr (Or.inr ⟨old, hold, hselected old hold hsel, hfamily⟩)

theorem SessionEffect.families (h : SessionEffect rows ids rows') (hr : r ∈ rows') :
    r.tokenFamilyId = ids.familyId ∨ ∃ old ∈ rows, r.tokenFamilyId = old.tokenFamilyId := by
  have hkeep {selected : RefreshSession → Bool} {change : RefreshSession → RefreshSession}
      (hchange : Revokes change) (hr : r ∈ updateWhere selected change rows) :
      ∃ old ∈ rows, r.tokenFamilyId = old.tokenFamilyId := by
    rcases mem_updateWhere.mp hr with ⟨old, hold, -, rfl⟩ | ⟨hold, -⟩
    · exact ⟨old, hold, hchange.tokenFamilyId old⟩
    · exact ⟨r, hold, rfl⟩
  cases h with
  | revokes selected change hselected hchange => exact Or.inr (hkeep hchange hr)
  | adds selected change new hselected hchange hfresh hfamily =>
      rcases List.mem_append.mp hr with hr | hr
      · exact Or.inr (hkeep hchange hr)
      · rw [List.mem_singleton] at hr
        subst hr
        exact hfamily.imp_right fun ⟨old, hold, _, hsame⟩ => ⟨old, hold, hsame⟩

def SingleActive (rows : List RefreshSession) : Prop :=
  ∀ r ∈ rows, ∀ r' ∈ rows, r.isRevoked = false → r'.isRevoked = false →
    r.tokenFamilyId = r'.tokenFamilyId → r = r'

theorem SessionEffect.single (h : SessionEffect rows ids rows') (hsingle : SingleActive rows)
    (hfamilies : ∀ r ∈ rows, r.tokenFamilyId ≠ ids.familyId) : SingleActive rows' := by
  cases h with
  | revokes selected change hselected hchange =>
      intro r hr r' hr' hactive hactive' hfamily
      exact hsingle r (mem_updateWhere_active hchange hr hactive).1 r'
        (mem_updateWhere_active hchange hr' hactive').1 hactive hactive' hfamily
  | adds selected change new hselected hchange hfresh hfamily =>
      -- The family of the added session has no active session left.
      have hnew (r : RefreshSession) (hr : r ∈ updateWhere selected change rows)
          (hactive : r.isRevoked = false) : r.tokenFamilyId ≠ new.tokenFamilyId := by
        intro heq
        obtain ⟨hrow, hsel⟩ := mem_updateWhere_active hchange hr hactive
        rcases hfamily with hfamily | ⟨old, hold, hselold, hfamily⟩
        · exact hfamilies r hrow (heq.trans hfamily)
        · have hsame := hsingle r hrow old hold hactive (hselected old hold hselold)
            (heq.trans hfamily)
          rw [hsame, hselold] at hsel
          cases hsel
      intro r hr r' hr' hactive hactive' heq
      rcases List.mem_append.mp hr with hold | hadd <;>
        rcases List.mem_append.mp hr' with hold' | hadd'
      · exact hsingle r (mem_updateWhere_active hchange hold hactive).1 r'
          (mem_updateWhere_active hchange hold' hactive').1 hactive hactive' heq
      · rw [List.mem_singleton.mp hadd'] at heq
        exact absurd heq (hnew r hold hactive)
      · rw [List.mem_singleton.mp hadd] at heq
        exact absurd heq.symm (hnew r' hold' hactive')
      · rw [List.mem_singleton.mp hadd, List.mem_singleton.mp hadd']

def FamilyRevoked (family : UUID) (rows : List RefreshSession) : Prop :=
  ∀ r ∈ rows, r.tokenFamilyId = family → r.isRevoked = true

theorem SessionEffect.familyRevoked {family : UUID} (h : SessionEffect rows ids rows')
    (hrevoked : FamilyRevoked family rows) (hne : family ≠ ids.familyId) :
    FamilyRevoked family rows' := by
  intro r hr hfamily
  by_contra hactive
  rw [Bool.not_eq_true] at hactive
  rcases h.active hr hactive with hold | hnew | ⟨old, hold, holdactive, hsame⟩
  · rw [hrevoked r hold hfamily] at hactive
    cases hactive
  · exact hne (hfamily.symm.trans hnew)
  · rw [hrevoked old hold (hsame.symm.trans hfamily)] at holdactive
    cases holdactive

end Table

/-! ## Runs -/

structure FamilyInvariant (s : AuthState) : Prop where
  ids : (s.store.sessions.map RefreshSession.id).Nodup
  drawn : ∀ r ∈ s.store.sessions, r.tokenFamilyId ∈ s.drawn
  single : SingleActive s.store.sessions

def KeepsSessions (s t : AuthState) : Prop :=
  ∀ r ∈ s.store.sessions, ∃ r' ∈ t.store.sessions, r'.id = r.id ∧ r'.userId = r.userId ∧
    r'.tokenFamilyId = r.tokenFamilyId ∧ (r.isRevoked = true → r' = r)

section Runs

variable {svc : AuthService} {s t u : AuthState} {label : AuthLabel} {labels : List AuthLabel}

theorem step_eq_some (h : s.step svc label = some t) :
    label.ids.toList.Nodup ∧ (∀ id ∈ label.ids.toList, id ∉ s.drawn) ∧
      t = ⟨(svc.call s.store label).2, s.drawn ++ label.ids.toList⟩ := by
  unfold AuthState.step at h
  split at h
  · rename_i hfresh
    exact ⟨hfresh.1, hfresh.2, (Option.some.inj h).symm⟩
  · cases h

theorem step_effect (hinv : FamilyInvariant s) (h : s.step svc label = some t) :
    SessionEffect s.store.sessions label.ids t.store.sessions := by
  obtain ⟨-, -, rfl⟩ := step_eq_some h
  exact call_effect svc s.store label hinv.ids

theorem family_not_drawn (h : s.step svc label = some t) : label.ids.familyId ∉ s.drawn :=
  (step_eq_some h).2.1 _ (by simp [AuthIds.toList])

theorem step_invariant (hinv : FamilyInvariant s) (h : s.step svc label = some t) :
    FamilyInvariant t := by
  have heffect := step_effect hinv h
  have hfresh := family_not_drawn h
  have hdrawn : t.drawn = s.drawn ++ label.ids.toList := by
    rw [(step_eq_some h).2.2]
  refine ⟨heffect.nodup hinv.ids, ?_, ?_⟩
  · intro r hr
    rw [hdrawn, List.mem_append]
    rcases heffect.families hr with hnew | ⟨old, hold, hsame⟩
    · exact Or.inr (by simp [hnew, AuthIds.toList])
    · exact Or.inl (hsame ▸ hinv.drawn old hold)
  · refine heffect.single hinv.single fun r hr heq => ?_
    exact hfresh (heq ▸ hinv.drawn r hr)

theorem run_invariant (hexec : exec (AuthState.step svc) {} labels = some s) :
    FamilyInvariant s :=
  exec_invariant' (fun _ _ _ hinv h => step_invariant hinv h)
    ⟨by simp, by simp, by simp [SingleActive]⟩
    hexec

theorem KeepsSessions.trans (h : KeepsSessions s t) (h' : KeepsSessions t u) :
    KeepsSessions s u := by
  intro r hr
  obtain ⟨r₁, hr₁, hid₁, huser₁, hfamily₁, hsame₁⟩ := h r hr
  obtain ⟨r₂, hr₂, hid₂, huser₂, hfamily₂, hsame₂⟩ := h' r₁ hr₁
  refine ⟨r₂, hr₂, hid₂.trans hid₁, huser₂.trans huser₁, hfamily₂.trans hfamily₁, ?_⟩
  intro hrevoked
  have hsame := hsame₁ hrevoked
  rw [hsame₂ (by rw [hsame, hrevoked]), hsame]

theorem step_keepsSessions (hinv : FamilyInvariant s) (h : s.step svc label = some t) :
    KeepsSessions s t := fun _ hr => (step_effect hinv h).keeps hr

theorem run_keepsSessions (hinv : FamilyInvariant s)
    (hexec : exec (AuthState.step svc) s labels = some t) :
    FamilyInvariant t ∧ KeepsSessions s t := by
  have hstep (v : AuthState) (label : AuthLabel) (w : AuthState)
      (hv : FamilyInvariant v ∧ KeepsSessions s v) (h : v.step svc label = some w) :
      FamilyInvariant w ∧ KeepsSessions s w :=
    ⟨step_invariant hv.1 h, hv.2.trans (step_keepsSessions hv.1 h)⟩
  exact exec_invariant' hstep ⟨hinv, fun r hr => ⟨r, hr, rfl, rfl, rfl, fun _ => rfl⟩⟩ hexec

theorem run_familyRevoked {family : UUID} (hinv : FamilyInvariant s) (hdrawn : family ∈ s.drawn)
    (hrevoked : FamilyRevoked family s.store.sessions)
    (hexec : exec (AuthState.step svc) s labels = some t) :
    FamilyRevoked family t.store.sessions := by
  have hstep (v : AuthState) (label : AuthLabel) (w : AuthState)
      (hv : FamilyInvariant v ∧ family ∈ v.drawn ∧ FamilyRevoked family v.store.sessions)
      (h : v.step svc label = some w) :
      FamilyInvariant w ∧ family ∈ w.drawn ∧ FamilyRevoked family w.store.sessions := by
    obtain ⟨hv, hmem, hfamily⟩ := hv
    refine ⟨step_invariant hv h, ?_, (step_effect hv h).familyRevoked hfamily ?_⟩
    · rw [(step_eq_some h).2.2]
      exact List.mem_append_left _ hmem
    · rintro rfl
      exact family_not_drawn h hmem
  exact (exec_invariant' hstep ⟨hinv, hdrawn, hrevoked⟩ hexec).2.2

end Runs

/-! ## Accepted tokens -/

/-- The call is a refresh with `token` that returns a new token pair. -/
def Accepts (svc : AuthService) (s : AuthState) (label : AuthLabel) (token : String) : Prop :=
  ∃ context response, label.call = .refresh token context ∧
    (svc.call s.store label).1 = .authenticated response

/-- The call is a refresh whose token names a session of `family` and is reported as reused. -/
def DetectsReuse (svc : AuthService) (s : AuthState) (label : AuthLabel) (family : UUID) : Prop :=
  ∃ token context claims r, label.call = .refresh token context ∧
    (svc.call s.store label).1.code? = some .authTokenReuseDetected ∧
    svc.tokenService.decode token "refresh" label.now = .ok claims ∧
    claims.sessionId = some r.id ∧ r ∈ s.store.sessions ∧ r.tokenFamilyId = family

/-- The call hands `token` to `userId`. -/
def Issues (svc : AuthService) (s : AuthState) (label : AuthLabel) (userId : UUID)
    (token : String) : Prop :=
  ∃ response, (svc.call s.store label).1 = .authenticated response ∧
    response.user.id = userId ∧ response.tokens.refreshToken = token

/-- The claims of the token carry the family, or name one of its sessions. -/
def TokenOfFamily (svc : AuthService) (s : AuthState) (token : String) (family : UUID) : Prop :=
  ∃ claims now, svc.tokenService.decode token "refresh" now = .ok claims ∧
    (claims.familyId = some family ∨
      ∃ r ∈ s.store.sessions, claims.sessionId = some r.id ∧ r.tokenFamilyId = family)

section Tokens

variable {svc : AuthService} {s t u : AuthState} {label label' : AuthLabel} {token : String}
  {labels : List AuthLabel}

theorem Accepts.session (h : Accepts svc s label token) :
    ∃ claims r, svc.tokenService.decode token "refresh" label.now = .ok claims ∧
      claims.sessionId = some r.id ∧ claims.familyId = some r.tokenFamilyId ∧
      r ∈ s.store.sessions ∧ r.isRevoked = false ∧
      ∃ r' ∈ (svc.call s.store label).2.sessions, r'.id = r.id ∧ r'.isRevoked = true := by
  obtain ⟨context, response, hcall, hanswer⟩ := h
  have heffect := refreshTokens_effect svc s.store token context label.ids label.now
  simp only [AuthService.call, hcall] at hanswer ⊢
  cases hresult : svc.refreshTokens s.store token context label.ids label.now with
  | mk answer store' =>
      rw [hresult] at heffect hanswer
      cases heffect with
      | refused e he => cases hanswer
      | reused claims r e hdecode hsession hr he => cases hanswer
      | rotated claims r user response hdecode hsession hr hactive hfamily =>
          refine ⟨claims, r, hdecode, hsession, hfamily, hr, hactive,
            r.replace label.now label.ids.sessionId, ?_, rfl, rfl⟩
          exact mem_updateWhere.mpr (Or.inl ⟨r, List.mem_append_left _ hr, by simp, rfl⟩)

theorem revokeAll_covers {scope : RevocationScope} {now : Timestamp} {rows : List RefreshSession}
    {r : RefreshSession} (hr : r ∈ revokeAll scope now rows) (hcovers : scope.covers r = true) :
    r.isRevoked = true := by
  rcases mem_updateWhere.mp hr with ⟨old, -, -, rfl⟩ | ⟨-, hsel⟩
  · rfl
  · simpa [hcovers] using hsel

theorem DetectsReuse.familyRevoked {family : UUID} (hinv : FamilyInvariant s)
    (h : DetectsReuse svc s label family) :
    FamilyRevoked family (svc.call s.store label).2.sessions := by
  obtain ⟨token, context, claims, r, hcall, hcode, hdecode, hsession, hr, rfl⟩ := h
  have heffect := refreshTokens_effect svc s.store token context label.ids label.now
  simp only [AuthService.call, hcall] at hcode ⊢
  cases hresult : svc.refreshTokens s.store token context label.ids label.now with
  | mk answer store' =>
      rw [hresult] at heffect hcode
      cases heffect with
      | refused e he => exact absurd hcode he
      | reused claims' r' e hdecode' hsession' hr' he =>
          have hclaims := TokenService.decode_stable hdecode hdecode'
          rw [hclaims, hsession, Option.some.injEq] at hsession'
          rw [eq_of_key_eq hinv.ids hr hr' hsession']
          intro row hrow hfamily
          exact revokeAll_covers hrow (by simpa [RevocationScope.covers] using hfamily)
      | rotated claims r user response hdecode hsession hr hactive hfamily => cases hcode

theorem Issues.session {userId : UUID} (h : Issues svc s label userId token) :
    ∃ r ∈ (svc.call s.store label).2.sessions, r.userId = userId ∧
      ∀ claims now, svc.tokenService.decode token "refresh" now = .ok claims →
        claims.sessionId.isSome = true → claims.sessionId = some r.id := by
  obtain ⟨response, hanswer, rfl, rfl⟩ := h
  obtain ⟨call, ids, now⟩ := label
  -- The row of the session that the call opens.
  have hopened {userId : UUID} {context : DeviceContext} {store' : AuthStore}
      (hopens : Opens svc s.store userId context ids now response store') :
      ∃ r ∈ store'.sessions, r.userId = response.user.id ∧
        ∀ claims now, svc.tokenService.decode response.tokens.refreshToken "refresh" now =
          .ok claims → claims.sessionId.isSome = true → claims.sessionId = some r.id := by
    refine ⟨(svc.newSession userId ids.familyId context ids now).2, ?_, hopens.user.symm, ?_⟩
    · rw [hopens.sessions]
      exact List.mem_append_right _ List.mem_cons_self
    · intro claims now' hdecode hsome
      rw [hopens.token] at hdecode
      exact TokenService.decode_createRefreshToken hdecode hsome
  cases call with
  | register request context salt =>
      cases hresult : svc.register s.store request context salt ids now with
      | error e => simp [AuthService.call, settle, hresult] at hanswer
      | ok result =>
          simp only [AuthService.call, settle, hresult, AuthAnswer.authenticated.injEq] at hanswer ⊢
          obtain rfl := hanswer
          exact hopened (register_opens hresult)
  | login request context =>
      cases hresult : svc.login s.store request context ids now with
      | error e => simp [AuthService.call, settle, hresult] at hanswer
      | ok result =>
          simp only [AuthService.call, settle, hresult, AuthAnswer.authenticated.injEq] at hanswer ⊢
          obtain rfl := hanswer
          obtain ⟨userId, hopens⟩ := login_opens hresult
          exact hopened hopens
  | refresh token context =>
      have heffect := refreshTokens_effect svc s.store token context ids now
      simp only [AuthService.call] at hanswer ⊢
      cases hresult : svc.refreshTokens s.store token context ids now with
      | mk answer store' =>
          rw [hresult] at heffect hanswer
          cases heffect with
          | refused e he => cases hanswer
          | reused claims r e hdecode hsession hr he => cases hanswer
          | rotated claims r user response' hdecode hsession hr hactive hfamily huser hfresh htoken
              howner =>
              simp only [AuthAnswer.authenticated.injEq] at hanswer
              subst hanswer
              have hne : ids.sessionId ≠ r.id := by
                rintro heq
                exact hfresh (heq ▸ List.mem_map_of_mem hr)
              refine ⟨(svc.successor user r context ids now).2, ?_, howner.symm, ?_⟩
              · refine mem_updateWhere.mpr (Or.inr ⟨List.mem_append_right _ List.mem_cons_self, ?_⟩)
                simpa [AuthService.successor, AuthService.newSession] using hne
              · intro claims' now' hdecode' hsome
                rw [htoken] at hdecode'
                exact TokenService.decode_createRefreshToken hdecode' hsome
  | logout token =>
      cases hresult : svc.logout s.store token now <;>
        simp [AuthService.call, settle, hresult, Except.map] at hanswer
  | logoutAll userId => cases hanswer

theorem not_accepts_of_revoked (hinv : FamilyInvariant s) {claims : TokenClaims} {now : Timestamp}
    {r : RefreshSession} (hdecode : svc.tokenService.decode token "refresh" now = .ok claims)
    (hsession : claims.sessionId = some r.id) (hr : r ∈ s.store.sessions)
    (hrevoked : r.isRevoked = true) : ¬ Accepts svc s label token := by
  intro haccepts
  obtain ⟨claims', r', hdecode', hsession', -, hr', hactive, -⟩ := haccepts.session
  rw [TokenService.decode_stable hdecode hdecode', hsession, Option.some.injEq] at hsession'
  rw [← eq_of_key_eq hinv.ids hr hr' hsession', hrevoked] at hactive
  cases hactive

private theorem detectsReuse_of_code {context : DeviceContext}
    (hcall : label.call = .refresh token context)
    (hcode : (svc.call s.store label).1.code? = some .authTokenReuseDetected) :
    ∃ family, DetectsReuse svc s label family := by
  have heffect := refreshTokens_effect svc s.store token context label.ids label.now
  have hcode' := hcode
  simp only [AuthService.call, hcall] at hcode'
  cases hresult : svc.refreshTokens s.store token context label.ids label.now with
  | mk answer store' =>
      rw [hresult] at heffect hcode'
      cases heffect with
      | refused e he => exact absurd hcode' he
      | reused claims r e hdecode hsession hr he =>
          exact ⟨_, token, context, claims, r, hcall, hcode, hdecode, hsession, hr, rfl⟩
      | rotated => cases hcode'

private theorem accepted_once (hinv : FamilyInvariant s) (hstep : s.step svc label = some t)
    (hexec : exec (AuthState.step svc) t labels = some u) (h : Accepts svc s label token) :
    ¬ Accepts svc u label' token := by
  obtain ⟨claims, r, hdecode, hsession, -, -, -, r', hr', hid, hrevoked⟩ := h.session
  have ht : t.store = (svc.call s.store label).2 := by rw [(step_eq_some hstep).2.2]
  rw [← ht] at hr'
  obtain ⟨hu, hkeeps⟩ := run_keepsSessions (step_invariant hinv hstep) hexec
  obtain ⟨r'', hr'', hid', -, -, hsame⟩ := hkeeps r' hr'
  refine not_accepts_of_revoked hu hdecode ?_ hr'' ?_
  · rw [hid', hid, hsession]
  · rw [hsame hrevoked, hrevoked]

private theorem reused_family_closed {family : UUID} (hinv : FamilyInvariant s)
    (hstep : s.step svc label = some t) (hexec : exec (AuthState.step svc) t labels = some u)
    (h : DetectsReuse svc s label family) (htoken : TokenOfFamily svc u token family) :
    ¬ Accepts svc u label' token := by
  have ht : t.store = (svc.call s.store label).2 := by rw [(step_eq_some hstep).2.2]
  have hdrawn : family ∈ t.drawn := by
    obtain ⟨-, -, -, r, -, -, -, -, hr, rfl⟩ := h
    rw [(step_eq_some hstep).2.2]
    exact List.mem_append_left _ (hinv.drawn r hr)
  have htinv := step_invariant hinv hstep
  have hclosed := run_familyRevoked htinv hdrawn (ht ▸ h.familyRevoked hinv) hexec
  have hu := (run_keepsSessions htinv hexec).1
  intro haccepts
  obtain ⟨claims, r, hdecode, hsession, hfamily, hr, hactive, -⟩ := haccepts.session
  obtain ⟨claims', now, hdecode', hclaims⟩ := htoken
  have hsame : r.tokenFamilyId = family := by
    rw [TokenService.decode_stable hdecode hdecode'] at hclaims
    rcases hclaims with hclaims | ⟨r', hr', hsession', rfl⟩
    · rw [hfamily] at hclaims
      exact Option.some.inj hclaims
    · rw [hsession, Option.some.injEq] at hsession'
      rw [eq_of_key_eq hu.ids hr hr' hsession']
  rw [hclosed r hr hsame] at hactive
  cases hactive

private theorem logged_out_everywhere {v w : AuthState} {userId : UUID} {logoutLabel : AuthLabel}
    {mid more : List AuthLabel} (hinv : FamilyInvariant s)
    (hissues : Issues svc s label userId token)
    (hstep : s.step svc label = some t) (hmid : exec (AuthState.step svc) t mid = some v)
    (hcall : logoutLabel.call = .logoutAll userId) (hlogout : v.step svc logoutLabel = some w)
    (hmore : exec (AuthState.step svc) w more = some u) : ¬ Accepts svc u label' token := by
  have ht : t.store = (svc.call s.store label).2 := by rw [(step_eq_some hstep).2.2]
  obtain ⟨r, hr, huser, hnames⟩ := hissues.session
  rw [← ht] at hr
  have htinv := step_invariant hinv hstep
  obtain ⟨hvinv, hkeeps⟩ := run_keepsSessions htinv hmid
  -- The session of the token when `logout_all` comes, and after it.
  obtain ⟨r₁, hr₁, hid₁, huser₁, -, -⟩ := hkeeps r hr
  obtain ⟨r₂, hr₂, hid₂, huser₂, -, -⟩ := step_keepsSessions hvinv hlogout r₁ hr₁
  have hw : w.store.sessions = revokeAll (.user userId) logoutLabel.now v.store.sessions := by
    rw [(step_eq_some hlogout).2.2]
    simp [AuthService.call, hcall, AuthService.logoutAll, revokeAllForUser]
  have hrevoked : r₂.isRevoked = true := by
    rw [hw] at hr₂
    refine revokeAll_covers hr₂ ?_
    simp [RevocationScope.covers, huser₂, huser₁, huser]
  obtain ⟨huinv, hkeeps'⟩ := run_keepsSessions (step_invariant hvinv hlogout) hmore
  obtain ⟨r₃, hr₃, hid₃, -, -, hsame⟩ := hkeeps' r₂ hr₂
  intro haccepts
  obtain ⟨claims, r', hdecode, hsession, -, -, -, -⟩ := haccepts.session
  have hclaims := hnames claims _ hdecode (by simp [hsession])
  refine not_accepts_of_revoked huinv hdecode ?_ hr₃ ?_ haccepts
  · rw [hclaims, hid₃, hid₂, hid₁]
  · rw [hsame hrevoked, hrevoked]

theorem SingleActive.length_le {rows : List RefreshSession} (h : SingleActive rows)
    (hrows : (rows.map RefreshSession.id).Nodup) (family : UUID) :
    (rows.filter fun r => r.tokenFamilyId == family && !r.isRevoked).length ≤ 1 := by
  cases hfilter : rows.filter fun r => r.tokenFamilyId == family && !r.isRevoked with
  | nil => simp
  | cons r rest =>
      have hmem (x : RefreshSession) (hx : x ∈ r :: rest) :
          x ∈ rows ∧ x.tokenFamilyId = family ∧ x.isRevoked = false := by
        rw [← hfilter, List.mem_filter] at hx
        simpa using hx
      obtain ⟨hr, hrfamily, hractive⟩ := hmem r List.mem_cons_self
      have hnodup : (r :: rest).Nodup := hfilter ▸ (List.Nodup.of_map _ hrows).filter _
      have hrest : rest = [] := by
        rw [List.eq_nil_iff_forall_not_mem]
        intro x hx
        obtain ⟨hxrows, hxfamily, hxactive⟩ := hmem x (List.mem_cons_of_mem _ hx)
        have hsame := h r hr x hxrows hractive hxactive (hrfamily.trans hxfamily.symm)
        exact (List.nodup_cons.mp hnodup).1 (hsame ▸ hx)
      simp [hrest]

end Tokens

/--
In every state of every run: each family has at most one active session, a revoked
session stays as it is, a token is accepted at most once, none of a family after a
reuse was detected in it, and none of a user's tokens after `logout_all`.
-/
theorem token_families_safe (svc : AuthService) (labels : List AuthLabel) (s : AuthState)
    (hexec : exec (AuthState.step svc) {} labels = some s) :
    (∀ family, (s.store.sessions.filter fun r =>
        r.tokenFamilyId == family && !r.isRevoked).length ≤ 1) ∧
      (∀ more t, exec (AuthState.step svc) s more = some t →
        ∀ r ∈ s.store.sessions, r.isRevoked = true → r ∈ t.store.sessions) ∧
      (∀ label t more u label' token, s.step svc label = some t →
        exec (AuthState.step svc) t more = some u →
        Accepts svc s label token → ¬ Accepts svc u label' token) ∧
      (∀ label t more u label' token family, s.step svc label = some t →
        exec (AuthState.step svc) t more = some u →
        DetectsReuse svc s label family → TokenOfFamily svc u token family →
        ¬ Accepts svc u label' token) ∧
      ∀ label t mid v logoutLabel w more u label' token userId, s.step svc label = some t →
        exec (AuthState.step svc) t mid = some v → v.step svc logoutLabel = some w →
        exec (AuthState.step svc) w more = some u → Issues svc s label userId token →
        logoutLabel.call = .logoutAll userId → ¬ Accepts svc u label' token := by
  have hinv := run_invariant hexec
  refine ⟨fun family => hinv.single.length_le hinv.ids family, ?_, ?_, ?_, ?_⟩
  · intro more t hmore r hr hrevoked
    obtain ⟨r', hr', -, -, -, hsame⟩ := (run_keepsSessions hinv hmore).2 r hr
    exact hsame hrevoked ▸ hr'
  · intro label t more u label' token hstep hmore haccepts
    exact accepted_once hinv hstep hmore haccepts
  · intro label t more u label' token family hstep hmore hreuse htoken
    exact reused_family_closed hinv hstep hmore hreuse htoken
  · intro label t mid v logoutLabel w more u label' token userId hstep hmid hlogout hmore hissues
      hcall
    exact logged_out_everywhere hinv hissues hstep hmid hcall hlogout hmore

/-! ## A service for evaluation -/

def tableJwt (known : List (String × JwtPayload)) (hkeys : (known.map Prod.fst).Nodup)
    (hunknown : "" ∉ known.map Prod.fst) : Jwt where
  encode payload := ((known.find? fun entry => entry.2 == payload).map Prod.fst).getD ""
  decode token now :=
    match known.find? fun entry => entry.1 == token with
    | none => .error .invalid
    | some entry => if entry.2.exp ≤ numericDate now then .error .expired else .ok entry.2
  decode_stable := by
    intro token now now' p p' h h'
    split at h
    · cases h
    · rename_i entry hentry
      simp only [hentry] at h'
      split at h <;> split at h' <;> simp_all
  decode_encode := by
    intro payload now p h
    cases hfind : known.find? fun entry => entry.2 == payload with
    | none =>
        have hnone : known.find? (fun entry => entry.1 == "") = none := by
          rw [List.find?_eq_none]
          rintro entry hentry hkey
          exact hunknown (List.mem_map.mpr ⟨entry, hentry, by simpa using hkey⟩)
        simp [hfind, hnone] at h
    | some entry =>
        have hpayload : entry.2 = payload := by simpa using List.find?_some hfind
        have hkey := find?_key hkeys (List.mem_of_find?_eq_some hfind)
        simp only [hfind, Option.map_some, Option.getD_some, hkey, hpayload] at h
        split at h
        · cases h
        · exact (Except.ok.inj h).symm

def demoTokens : List (String × JwtPayload) :=
  [("access-1", ⟨"1", "access", "5", none, none, 0, 900⟩),
    ("refresh-1", ⟨"1", "refresh", "4", some "2", some "3", 0, 2592000⟩),
    ("access-2", ⟨"1", "access", "15", none, none, 60, 960⟩),
    ("refresh-2", ⟨"1", "refresh", "14", some "12", some "3", 60, 2592060⟩)]

def demoService : AuthService where
  py := PyRuntime.ascii
  passwordHasher :=
    { minimumLength := 8
      bcrypt :=
        { hashpw := fun password salt => salt ++ password
          checkpw := fun password hash => some (hash == "$" ++ password) } }
  tokenService :=
    { py := PyRuntime.ascii
      jwt := tableJwt demoTokens (by decide) (by decide)
      sha256 := fun token => "#" ++ token
      accessMinutes := 15
      refreshDays := 30 }
  refreshDays := 30

def demoRegister : AuthLabel where
  call := .register ⟨"user@example.com", "astra_user", "secure-password"⟩ {} "$"
  ids := ⟨1, 2, 3, 4, 5⟩
  now := 0

def demoRefresh (ids : AuthIds) (now : Timestamp) : AuthLabel where
  call := .refresh "refresh-1" {}
  ids := ids
  now := now

theorem token_families_safe_reuse :
    ∃ s t, exec (AuthState.step demoService) {}
        [demoRegister, demoRefresh ⟨11, 12, 13, 14, 15⟩ 60000000] = some s ∧
      s.step demoService (demoRefresh ⟨21, 22, 23, 24, 25⟩ 120000000) = some t ∧
      (demoService.call s.store (demoRefresh ⟨21, 22, 23, 24, 25⟩ 120000000)).1.code? =
        some .authTokenReuseDetected ∧
      ∀ label, ¬ Accepts demoService t label "refresh-2" := by
  have hrun : ∃ s t, exec (AuthState.step demoService) {}
        [demoRegister, demoRefresh ⟨11, 12, 13, 14, 15⟩ 60000000] = some s ∧
      s.step demoService (demoRefresh ⟨21, 22, 23, 24, 25⟩ 120000000) = some t ∧
      (demoService.call s.store (demoRefresh ⟨21, 22, 23, 24, 25⟩ 120000000)).1.code? =
        some .authTokenReuseDetected ∧
      ∀ r ∈ s.store.sessions, r.tokenFamilyId = 3 :=
    ⟨_, _, rfl, rfl, by decide, by decide⟩
  obtain ⟨s, t, hexec, hstep, hcode, hfamily⟩ := hrun
  refine ⟨s, t, hexec, hstep, hcode, fun label => ?_⟩
  obtain ⟨family, hreuse⟩ := detectsReuse_of_code rfl hcode
  have hthree : family = 3 := by
    obtain ⟨-, -, -, r, -, -, -, -, hr, rfl⟩ := hreuse
    exact hfamily r hr
  have htoken : ∃ claims, demoService.tokenService.decode "refresh-2" "refresh" 120000000 =
      .ok claims ∧ claims.familyId = some 3 := ⟨_, rfl, rfl⟩
  obtain ⟨claims, hdecode, hclaims⟩ := htoken
  have hsafe := token_families_safe demoService _ s hexec
  exact hsafe.2.2.2.1 _ t [] t label "refresh-2" family hstep rfl hreuse
    ⟨claims, _, hdecode, Or.inl (hthree ▸ hclaims)⟩

end Astra.Auth
