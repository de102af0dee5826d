import Astra.Auth.Families
import Mathlib.Logic.Function.Basic

/-!
# Session transactions under READ COMMITTED

`refresh_tokens`, `logout` and `logout_all` statement by statement.  `SELECT ...
FOR UPDATE` and `UPDATE` hold row locks to the end of their transaction, and the
writes of a transaction are visible to the others from its commit.  A bulk `UPDATE`
considers the rows that satisfy its condition among those committed when the
statement starts; it takes them one after the other, waits for a locked one, and
checks the condition again on the version it then finds.
-/

namespace Astra.Auth

open Astra.Foundation Astra.Platform Astra.Persistence

inductive SessionTxn where
  | refreshing (token : String) (claims : TokenClaims) (sessionId : UUID)
      (context : DeviceContext) (ids : AuthIds)
  | loggingOut (token : String) (sessionId : UUID)
  | revoking (scope : RevocationScope)
  /-- Inside the bulk `UPDATE`: the rows still to take, and the rows revoked so far. -/
  | updating (scope : RevocationScope) (now : Timestamp) (pending updated : List UUID)
  | rotating (session new : RefreshSession) (now : Timestamp)
  | ending (session : RefreshSession) (now : Timestamp)
  | ended

/-- The committed rows, the transactions, and the row locks. -/
structure SessionState where
  users : List User := []
  rows : List RefreshSession := []
  txns : Nat → Option SessionTxn := fun _ => none
  owner : UUID → Option Nat := fun _ => none

inductive SessionLabel where
  | openSession (userId : UUID) (context : DeviceContext) (ids : AuthIds) (now : Timestamp)
  | refresh (i : Nat) (token : String) (context : DeviceContext) (ids : AuthIds) (now : Timestamp)
  | logout (i : Nat) (token : String) (now : Timestamp)
  | logoutAll (i : Nat) (userId : UUID)
  | select (i : Nat) (now : Timestamp)
  | startUpdate (i : Nat) (now : Timestamp)
  | visit (i : Nat) (id : UUID)
  | commit (i : Nat)
  | rollback (i : Nat)

namespace SessionState

def set (s : SessionState) (i : Nat) (txn : SessionTxn) : SessionState :=
  { s with txns := Function.update s.txns i (some txn) }

def lock (s : SessionState) (i : Nat) (id : UUID) : SessionState :=
  { s with owner := Function.update s.owner id (some i) }

def finish (s : SessionState) (i : Nat) (rows : List RefreshSession) : SessionState :=
  { s with
    rows := rows
    txns := Function.update s.txns i (some .ended)
    owner := fun id => if s.owner id = some i then none else s.owner id }

def Available (s : SessionState) (i : Nat) (id : UUID) : Prop :=
  s.owner id = none ∨ s.owner id = some i

instance (s : SessionState) (i : Nat) (id : UUID) : Decidable (s.Available i id) :=
  inferInstanceAs (Decidable (_ ∨ _))

/-- The rows that the condition of a bulk `UPDATE` selects. -/
def candidates (scope : RevocationScope) (rows : List RefreshSession) : List UUID :=
  (rows.filter fun r => scope.covers r && !r.isRevoked).map RefreshSession.id

def selectForRefresh (svc : AuthService) (s : SessionState) (i : Nat) (token : String)
    (claims : TokenClaims) (sessionId : UUID) (context : DeviceContext) (ids : AuthIds)
    (now : Timestamp) : SessionState :=
  match getSession s.rows sessionId with
  | none => s.finish i s.rows
  | some session =>
      match svc.judge token claims session now with
      | .refuse _ => s.finish i s.rows
      | .revokeFamily _ =>
          (s.set i (.revoking (.family session.tokenFamilyId))).lock i session.id
      | .rotate =>
          match AuthService.rotationUser s.users session.userId with
          | .error _ => s.finish i s.rows
          | .ok user =>
              (s.set i (.rotating session (svc.successor user session context ids now).2 now)).lock
                i session.id

def selectForLogout (svc : AuthService) (s : SessionState) (i : Nat) (token : String)
    (sessionId : UUID) (now : Timestamp) : SessionState :=
  match getSession s.rows sessionId with
  | none => s.finish i s.rows
  | some session =>
      if svc.tokenService.tokenHashMatches token session.tokenHash && !session.isRevoked then
        (s.set i (.ending session now)).lock i session.id
      else s.finish i s.rows

/-- The condition is checked again on the row that is now locked. -/
def visitRow (s : SessionState) (i : Nat) (scope : RevocationScope) (now : Timestamp)
    (pending updated : List UUID) (id : UUID) : SessionState :=
  let left := pending.filter fun other => other != id
  match getSession s.rows id with
  | none => s.set i (.updating scope now left updated)
  | some r =>
      let updated := if scope.covers r && !r.isRevoked then updated ++ [id] else updated
      (s.set i (.updating scope now left updated)).lock i id

def step (svc : AuthService) (s : SessionState) : SessionLabel → Option SessionState
  | .openSession userId context ids now =>
      match addSession (svc.newSession userId ids.familyId context ids now).2 s.rows with
      | .error _ => none
      | .ok rows => some { s with rows := rows }
  | .refresh i token context ids now =>
      match s.txns i, svc.tokenService.decode token "refresh" now with
      | none, .ok claims =>
          match claims.sessionId, claims.familyId with
          | some sessionId, some _ =>
              some (s.set i (.refreshing token claims sessionId context ids))
          | _, _ => none
      | _, _ => none
  | .logout i token now =>
      match s.txns i, svc.tokenService.decode token "refresh" now with
      | none, .ok claims =>
          claims.sessionId.map fun sessionId => s.set i (.loggingOut token sessionId)
      | _, _ => none
  | .logoutAll i userId =>
      match s.txns i with
      | none => some (s.set i (.revoking (.user userId)))
      | some _ => none
  | .select i now =>
      match s.txns i with
      | some (.refreshing token claims sessionId context ids) =>
          if s.Available i sessionId then
            some (selectForRefresh svc s i token claims sessionId context ids now)
          else none
      | some (.loggingOut token sessionId) =>
          if s.Available i sessionId then some (selectForLogout svc s i token sessionId now)
          else none
      | _ => none
  | .startUpdate i now =>
      match s.txns i with
      | some (.revoking scope) =>
          some (s.set i (.updating scope now (candidates scope s.rows) []))
      | _ => none
  | .visit i id =>
      match s.txns i with
      | some (.updating scope now pending updated) =>
          if id ∈ pending ∧ s.Available i id then
            some (s.visitRow i scope now pending updated id)
          else none
      | _ => none
  | .commit i =>
      match s.txns i with
      | some (.updating _ now [] updated) =>
          some (s.finish i
            (updateWhere (fun r => r.id ∈ updated) (RefreshSession.revoke now) s.rows))
      | some (.rotating session new now) =>
          match addSession new s.rows with
          | .error _ => some (s.finish i s.rows)
          | .ok rows =>
              some (s.finish i (updateSession session.id (RefreshSession.replace now new.id) rows))
      | some (.ending session now) =>
          some (s.finish i (updateSession session.id (RefreshSession.revoke now) s.rows))
      | _ => none
  | .rollback i =>
      match s.txns i with
      | none | some .ended => none
      | some _ => some (s.finish i s.rows)

end SessionState

/-! ## Steps -/

def SessionTxn.Waiting : SessionTxn → Prop
  | .refreshing .. | .loggingOut .. | .revoking _ => True
  | .updating .. | .rotating .. | .ending .. | .ended => False

def SessionTxn.session? : SessionTxn → Option RefreshSession
  | .rotating session _ _ => some session
  | .ending session _ => some session
  | _ => none

/-- The new row takes the place of `session`. -/
structure Succeeds (new session : RefreshSession) : Prop where
  userId : new.userId = session.userId
  tokenFamilyId : new.tokenFamilyId = session.tokenFamilyId
  replacedBySessionId : new.replacedBySessionId = none

inductive SessionStep (s : SessionState) : SessionLabel → SessionState → Prop
  | opens {userId : UUID} {context : DeviceContext} {ids : AuthIds} {now : Timestamp}
      (r : RefreshSession) (hfresh : r.id ∉ s.rows.map RefreshSession.id)
      (hnone : r.replacedBySessionId = none) :
      SessionStep s (.openSession userId context ids now) { s with rows := s.rows ++ [r] }
  | begins {label : SessionLabel} (i : Nat) (txn : SessionTxn) (hidle : s.txns i = none)
      (hwaiting : txn.Waiting) (hlabel : ∀ j, label ≠ .commit j) : SessionStep s label (s.set i txn)
  | leaves {label : SessionLabel} (i : Nat) (txn : SessionTxn) (hlive : s.txns i = some txn)
      (hlabel : label = .commit i → ∀ scope now pending updated,
        txn ≠ .updating scope now pending updated) :
      SessionStep s label (s.finish i s.rows)
  | selects (i : Nat) (now : Timestamp) (old txn : SessionTxn) (session : RefreshSession)
      (hold : s.txns i = some old) (hwaiting : old.Waiting) (hfree : s.Available i session.id)
      (hr : session ∈ s.rows)
      (htxn : txn = .revoking (.family session.tokenFamilyId) ∨
        (session.isRevoked = false ∧ (txn = .ending session now ∨
          ∃ new, Succeeds new session ∧ txn = .rotating session new now))) :
      SessionStep s (.select i now) ((s.set i txn).lock i session.id)
  | starts (i : Nat) (now : Timestamp) (scope : RevocationScope)
      (hold : s.txns i = some (.revoking scope)) :
      SessionStep s (.startUpdate i now)
        (s.set i (.updating scope now (SessionState.candidates scope s.rows) []))
  | revokesRow (i : Nat) (id : UUID) (scope : RevocationScope) (now : Timestamp)
      (pending updated : List UUID) (hold : s.txns i = some (.updating scope now pending updated))
      (hpending : id ∈ pending) (hfree : s.Available i id) :
      SessionStep s (.visit i id)
        ((s.set i (.updating scope now (pending.filter fun other => other != id)
          (updated ++ [id]))).lock i id)
  | skipsRow (i : Nat) (id : UUID) (scope : RevocationScope) (now : Timestamp)
      (pending updated : List UUID) (hold : s.txns i = some (.updating scope now pending updated))
      (hpending : id ∈ pending) (hfree : s.Available i id)
      (hskip : ∀ r ∈ s.rows, r.id = id → scope.covers r = true → r.isRevoked = true)
      (t : SessionState)
      (ht : t = s.set i (.updating scope now (pending.filter fun other => other != id) updated) ∨
        t = (s.set i (.updating scope now (pending.filter fun other => other != id) updated)).lock
          i id) :
      SessionStep s (.visit i id) t
  | revokes (i : Nat) (scope : RevocationScope) (now : Timestamp) (updated : List UUID)
      (hold : s.txns i = some (.updating scope now [] updated)) :
      SessionStep s (.commit i) (s.finish i
        (updateWhere (fun r => r.id ∈ updated) (RefreshSession.revoke now) s.rows))
  | rotates (i : Nat) (session new : RefreshSession) (now : Timestamp)
      (hold : s.txns i = some (.rotating session new now))
      (hfresh : new.id ∉ s.rows.map RefreshSession.id) :
      SessionStep s (.commit i) (s.finish i
        (updateSession session.id (RefreshSession.replace now new.id) (s.rows ++ [new])))
  | ends (i : Nat) (session : RefreshSession) (now : Timestamp)
      (hold : s.txns i = some (.ending session now)) :
      SessionStep s (.commit i) (s.finish i
        (updateSession session.id (RefreshSession.revoke now) s.rows))

section Inversion

variable {svc : AuthService} {s t : SessionState} {label : SessionLabel}

theorem judge_available {i : Nat} {r : RefreshSession} {sessionId : UUID}
    (hget : getSession s.rows sessionId = some r) (hfree : s.Available i sessionId) :
    r ∈ s.rows ∧ s.Available i r.id := by
  obtain ⟨hr, rfl⟩ := getSession_mem hget
  exact ⟨hr, hfree⟩

theorem selectForRefresh_step {i : Nat} {token : String} {claims : TokenClaims} {sessionId : UUID}
    {context : DeviceContext} {ids : AuthIds} {now : Timestamp}
    (hold : s.txns i = some (.refreshing token claims sessionId context ids))
    (hfree : s.Available i sessionId) :
    SessionStep s (.select i now)
      (s.selectForRefresh svc i token claims sessionId context ids now) := by
  unfold SessionState.selectForRefresh
  split
  · exact .leaves i _ hold (by simp)
  · rename_i session hget
    obtain ⟨hr, hfree⟩ := judge_available hget hfree
    split
    · exact .leaves i _ hold (by simp)
    · exact .selects i now _ _ session hold trivial hfree hr (Or.inl rfl)
    · rename_i hjudge
      split
      · exact .leaves i _ hold (by simp)
      · rename_i user huser
        have hnew : Succeeds (svc.successor user session context ids now).2 session :=
          ⟨rotationUser_ok huser, rfl, rfl⟩
        exact .selects i now _ _ session hold trivial hfree hr
          (Or.inr ⟨(judge_rotate hjudge).1, Or.inr ⟨_, hnew, rfl⟩⟩)

theorem selectForLogout_step {i : Nat} {token : String} {sessionId : UUID} {now : Timestamp}
    (hold : s.txns i = some (.loggingOut token sessionId)) (hfree : s.Available i sessionId) :
    SessionStep s (.select i now) (s.selectForLogout svc i token sessionId now) := by
  unfold SessionState.selectForLogout
  split
  · exact .leaves i _ hold (by simp)
  · rename_i session hget
    obtain ⟨hr, hfree⟩ := judge_available hget hfree
    split
    · rename_i hmatch
      simp only [Bool.and_eq_true, Bool.not_eq_true'] at hmatch
      exact .selects i now _ _ session hold trivial hfree hr (Or.inr ⟨hmatch.2, Or.inl rfl⟩)
    · exact .leaves i _ hold (by simp)

theorem visitRow_step (hrows : (s.rows.map RefreshSession.id).Nodup) {i : Nat}
    {scope : RevocationScope} {now : Timestamp} {pending updated : List UUID} {id : UUID}
    (hold : s.txns i = some (.updating scope now pending updated)) (hpending : id ∈ pending)
    (hfree : s.Available i id) :
    SessionStep s (.visit i id) (s.visitRow i scope now pending updated id) := by
  unfold SessionState.visitRow
  cases hget : getSession s.rows id with
  | none =>
      refine .skipsRow i id scope now pending updated hold hpending hfree ?_ _ (Or.inl rfl)
      intro r hr hid
      have := List.find?_eq_none.mp hget r hr
      simp [hid] at this
  | some r =>
      obtain ⟨hr, hid⟩ := getSession_mem hget
      by_cases hcheck : (scope.covers r && !r.isRevoked) = true
      · simp only [hcheck, if_true]
        exact .revokesRow i id scope now pending updated hold hpending hfree
      · simp only [hcheck, Bool.false_eq_true, if_false]
        refine .skipsRow i id scope now pending updated hold hpending hfree ?_ _ (Or.inr rfl)
        intro row hrow hrowid hcovers
        rw [eq_of_key_eq hrows hrow hr (hrowid.trans hid.symm)] at hcovers ⊢
        simpa [hcovers] using hcheck

theorem sessionStep_of_step (hrows : (s.rows.map RefreshSession.id).Nodup)
    (h : s.step svc label = some t) : SessionStep s label t := by
  cases label with
  | openSession userId context ids now =>
      simp only [SessionState.step] at h
      split at h
      · cases h
      · rename_i rows hadd
        obtain ⟨hfresh, rfl⟩ := addSession_eq_ok hadd
        cases h
        exact .opens _ hfresh rfl
  | refresh i token context ids now =>
      simp only [SessionState.step] at h
      split at h
      · rename_i claims hidle hdecode
        split at h
        · cases h
          exact .begins i _ hidle trivial (by simp)
        · cases h
      · cases h
  | logout i token now =>
      simp only [SessionState.step] at h
      split at h
      · rename_i claims hidle hdecode
        obtain ⟨sessionId, -, rfl⟩ := Option.map_eq_some_iff.mp h
        exact .begins i _ hidle trivial (by simp)
      · cases h
  | logoutAll i userId =>
      simp only [SessionState.step] at h
      split at h
      · cases h
        exact .begins i _ ‹_› trivial (by simp)
      · cases h
  | select i now =>
      simp only [SessionState.step] at h
      split at h
      · rename_i hold
        split at h
        · cases h
          exact selectForRefresh_step hold ‹_›
        · cases h
      · rename_i hold
        split at h
        · cases h
          exact selectForLogout_step hold ‹_›
        · cases h
      · cases h
  | startUpdate i now =>
      simp only [SessionState.step] at h
      split at h
      · cases h
        exact .starts i now _ ‹_›
      · cases h
  | visit i id =>
      simp only [SessionState.step] at h
      split at h
      · rename_i hold
        split at h
        · rename_i hvisit
          cases h
          exact visitRow_step hrows hold hvisit.1 hvisit.2
        · cases h
      · cases h
  | commit i =>
      simp only [SessionState.step] at h
      split at h
      · cases h
        exact .revokes i _ _ _ ‹_›
      · rename_i hold
        split at h
        · cases h
          exact .leaves i _ hold (by simp)
        · rename_i rows hadd
          obtain ⟨hfresh, rfl⟩ := addSession_eq_ok hadd
          cases h
          exact .rotates i _ _ _ hold hfresh
      · cases h
        exact .ends i _ _ ‹_›
      · cases h
  | rollback i =>
      simp only [SessionState.step] at h
      split at h
      · cases h
      · cases h
      · cases h
        exact .leaves i _ ‹_› (by simp)

end Inversion

/-! ## The invariant -/

/-- What holds of the transaction of `i` while it runs. -/
structure ActorSound (s : SessionState) (i : Nat) : Prop where
  writing : ∀ txn session, s.txns i = some txn → txn.session? = some session →
    s.owner session.id = some i ∧ session ∈ s.rows ∧ session.isRevoked = false
  successor : ∀ session new now, s.txns i = some (.rotating session new now) →
    Succeeds new session
  updating : ∀ scope now pending updated, s.txns i = some (.updating scope now pending updated) →
    ∀ id ∈ updated, s.owner id = some i

structure SessionsSound (s : SessionState) : Prop where
  ids : (s.rows.map RefreshSession.id).Nodup
  chain : ∀ x ∈ s.rows, ∀ b, x.replacedBySessionId = some b →
    ∃ y ∈ s.rows, y.id = b ∧ y.userId = x.userId ∧ y.tokenFamilyId = x.tokenFamilyId
  actors : ∀ i, ActorSound s i

/-- What the step of `i` does to the committed rows. -/
inductive RowsEffect (s : SessionState) (label : SessionLabel) (i : Nat) :
    List RefreshSession → Prop
  | same : RowsEffect s label i s.rows
  | adds (r : RefreshSession) (hfresh : r.id ∉ s.rows.map RefreshSession.id)
      (hnone : r.replacedBySessionId = none) : RowsEffect s label i (s.rows ++ [r])
  | revokes (selected : RefreshSession → Bool) (now : Timestamp)
      (hselected : ∀ r ∈ s.rows, selected r = true → s.owner r.id = some i) :
      RowsEffect s label i (updateWhere selected (RefreshSession.revoke now) s.rows)
  | rotates (session new : RefreshSession) (now : Timestamp) (hlabel : label = .commit i)
      (hold : s.txns i = some (.rotating session new now))
      (hfresh : new.id ∉ s.rows.map RefreshSession.id) :
      RowsEffect s label i
        (updateSession session.id (RefreshSession.replace now new.id) (s.rows ++ [new]))

structure OthersKept (s t : SessionState) (i : Nat) : Prop where
  txns : ∀ j, j ≠ i → t.txns j = s.txns j
  owner : ∀ j, j ≠ i → ∀ id, s.owner id = some j → t.owner id = some j

section Frame

variable {s : SessionState} {i : Nat}

theorem othersKept_set (txn : SessionTxn) : OthersKept s (s.set i txn) i :=
  ⟨fun j hj => by simp [SessionState.set, hj], fun j _ id h => h⟩

theorem othersKept_setLock (txn : SessionTxn) {id : UUID} (hfree : s.Available i id) :
    OthersKept s ((s.set i txn).lock i id) i := by
  refine ⟨fun j hj => by simp [SessionState.set, SessionState.lock, hj], fun j hj id' h => ?_⟩
  have hne : id' ≠ id := by
    rintro rfl
    rcases hfree with hfree | hfree <;> rw [h] at hfree
    · cases hfree
    · exact hj (Option.some.inj hfree)
  simpa [SessionState.set, SessionState.lock, hne] using h

theorem othersKept_finish (rows : List RefreshSession) : OthersKept s (s.finish i rows) i := by
  refine ⟨fun j hj => by simp [SessionState.finish, hj], fun j hj id h => ?_⟩
  simp [SessionState.finish, h, hj]

theorem actorSound_of_waiting {t : SessionState} {txn : SessionTxn} (ht : t.txns i = some txn)
    (hwaiting : txn.Waiting) : ActorSound t i := by
  constructor
  · intro txn' session h hsession
    rw [ht, Option.some.injEq] at h
    subst h
    cases txn <;> simp [SessionTxn.session?, SessionTxn.Waiting] at hsession hwaiting
  · intro session new now h
    rw [ht, Option.some.injEq] at h
    subst h
    cases hwaiting
  · intro scope now pending updated h
    rw [ht, Option.some.injEq] at h
    subst h
    cases hwaiting

theorem actorSound_finish (rows : List RefreshSession) : ActorSound (s.finish i rows) i := by
  have ht : (s.finish i rows).txns i = some .ended := Function.update_self ..
  constructor
  · intro txn session h hsession
    rw [ht, Option.some.injEq] at h
    subst h
    cases hsession
  · intro session new now h
    rw [ht] at h
    cases h
  · intro scope now pending updated h
    rw [ht] at h
    cases h

theorem actorSound_updating {t : SessionState} {scope : RevocationScope} {now : Timestamp}
    {pending updated : List UUID} (ht : t.txns i = some (.updating scope now pending updated))
    (howner : ∀ id ∈ updated, t.owner id = some i) : ActorSound t i := by
  constructor
  · intro txn session h hsession
    rw [ht, Option.some.injEq] at h
    subst h
    cases hsession
  · intro session new now' h
    rw [ht] at h
    cases h
  · intro scope' now' pending' updated' h
    rw [ht, Option.some.injEq, SessionTxn.updating.injEq] at h
    obtain ⟨-, -, -, rfl⟩ := h
    exact howner

theorem actorSound_writing {t : SessionState} {txn : SessionTxn} {session : RefreshSession}
    (ht : t.txns i = some txn) (hsession : txn.session? = some session)
    (howner : t.owner session.id = some i) (hr : session ∈ t.rows)
    (hactive : session.isRevoked = false)
    (hsuccessor : ∀ old new now, txn = .rotating old new now → Succeeds new old) :
    ActorSound t i := by
  constructor
  · intro txn' session' h hsession'
    rw [ht, Option.some.injEq] at h
    subst h
    rw [hsession, Option.some.injEq] at hsession'
    subst hsession'
    exact ⟨howner, hr, hactive⟩
  · intro old new now h
    rw [ht, Option.some.injEq] at h
    exact hsuccessor old new now h
  · intro scope now pending updated h
    rw [ht, Option.some.injEq] at h
    subst h
    cases hsession

theorem SessionStep.effect {label : SessionLabel} {t : SessionState} (hs : SessionsSound s)
    (h : SessionStep s label t) :
    ∃ i, RowsEffect s label i t.rows ∧ OthersKept s t i ∧ ActorSound t i := by
  cases h with
  | opens r hfresh hnone =>
      refine ⟨0, .adds r hfresh hnone, ⟨fun _ _ => rfl, fun _ _ _ h => h⟩, ?_⟩
      have h0 := hs.actors 0
      refine ⟨fun txn session htxn hsession => ?_, h0.successor, h0.updating⟩
      obtain ⟨howner, hrow, hactive⟩ := h0.writing txn session htxn hsession
      exact ⟨howner, List.mem_append_left _ hrow, hactive⟩
  | begins i txn hidle hwaiting =>
      exact ⟨i, .same, othersKept_set txn, actorSound_of_waiting (Function.update_self ..) hwaiting⟩
  | leaves i txn hlive => exact ⟨i, .same, othersKept_finish _, actorSound_finish _⟩
  | selects i now old txn session hold hwaiting hfree hr htxn =>
      refine ⟨i, .same, othersKept_setLock txn hfree, ?_⟩
      have ht : ((s.set i txn).lock i session.id).txns i = some txn := Function.update_self ..
      have howner : ((s.set i txn).lock i session.id).owner session.id = some i :=
        Function.update_self ..
      rcases htxn with rfl | ⟨hactive, rfl | ⟨new, hnew, rfl⟩⟩
      · exact actorSound_of_waiting ht trivial
      · exact actorSound_writing ht rfl howner hr hactive (by simp)
      · refine actorSound_writing ht rfl howner hr hactive ?_
        intro old new' now' h
        cases h
        exact hnew
  | starts i now scope hold =>
      exact ⟨i, .same, othersKept_set _, actorSound_updating (Function.update_self ..) (by simp)⟩
  | revokesRow i id scope now pending updated hold hpending hfree =>
      refine ⟨i, .same, othersKept_setLock _ hfree,
        actorSound_updating (Function.update_self ..) ?_⟩
      intro id' hid'
      by_cases hne : id' = id
      · simp [SessionState.lock, hne]
      · have hmem : id' ∈ updated := by simpa [hne] using hid'
        simpa [SessionState.lock, SessionState.set, hne] using
          (hs.actors i).updating _ _ _ _ hold id' hmem
  | skipsRow i id scope now pending updated hold hpending hfree hskip t ht =>
      have howner := (hs.actors i).updating _ _ _ _ hold
      rcases ht with rfl | rfl
      · exact ⟨i, .same, othersKept_set _, actorSound_updating (Function.update_self ..) howner⟩
      · refine ⟨i, .same, othersKept_setLock _ hfree,
          actorSound_updating (Function.update_self ..) ?_⟩
        intro id' hid'
        by_cases hne : id' = id
        · simp [SessionState.lock, hne]
        · simpa [SessionState.lock, SessionState.set, hne] using howner id' hid'
  | revokes i scope now updated hold =>
      refine ⟨i, .revokes _ now ?_, othersKept_finish _, actorSound_finish _⟩
      intro r hr hsel
      exact (hs.actors i).updating _ _ _ _ hold r.id (by simpa using hsel)
  | rotates i session new now hold hfresh =>
      exact ⟨i, .rotates session new now rfl hold hfresh, othersKept_finish _,
        actorSound_finish _⟩
  | ends i session now hold =>
      refine ⟨i, .revokes _ now ?_, othersKept_finish _, actorSound_finish _⟩
      intro r hr hsel
      have hid : r.id = session.id := by simpa using hsel
      rw [hid]
      exact ((hs.actors i).writing _ session hold rfl).1

/-! ## Preservation -/

variable {label : SessionLabel} {rows' : List RefreshSession}

theorem RowsEffect.keys (h : RowsEffect s label i rows') {r : RefreshSession} (hr : r ∈ s.rows) :
    ∃ r' ∈ rows', r'.id = r.id ∧ r'.userId = r.userId ∧ r'.tokenFamilyId = r.tokenFamilyId := by
  cases h with
  | same => exact ⟨r, hr, rfl, rfl, rfl⟩
  | adds r' hfresh hnone => exact ⟨r, List.mem_append_left _ hr, rfl, rfl, rfl⟩
  | revokes selected now hselected =>
      obtain ⟨r', hr', hid, huser, hfamily, -⟩ := updateWhere_keeps (revokes_revoke now) hr
      exact ⟨r', hr', hid, huser, hfamily⟩
  | rotates session new now hlabel hold hfresh =>
      obtain ⟨r', hr', hid, huser, hfamily, -⟩ :=
        updateWhere_keeps (revokes_replace now new.id) (List.mem_append_left _ hr)
      exact ⟨r', hr', hid, huser, hfamily⟩

theorem RowsEffect.locked (hs : SessionsSound s) (h : RowsEffect s label i rows') {j : Nat}
    (hj : j ≠ i) {r : RefreshSession} (hr : r ∈ s.rows) (howner : s.owner r.id = some j) :
    r ∈ rows' := by
  cases h with
  | same => exact hr
  | adds r' hfresh hnone => exact List.mem_append_left _ hr
  | revokes selected now hselected =>
      refine mem_updateWhere.mpr (Or.inr ⟨hr, ?_⟩)
      by_contra hsel
      rw [Bool.not_eq_false] at hsel
      rw [hselected r hr hsel, Option.some.injEq] at howner
      exact hj howner.symm
  | rotates session new now hlabel hold hfresh =>
      refine mem_updateWhere.mpr (Or.inr ⟨List.mem_append_left _ hr, ?_⟩)
      by_contra hsel
      have hid : r.id = session.id := by simpa using hsel
      rw [hid, ((hs.actors i).writing _ session hold rfl).1, Option.some.injEq] at howner
      exact hj howner.symm

theorem RowsEffect.ids (hs : SessionsSound s) (h : RowsEffect s label i rows') :
    (rows'.map RefreshSession.id).Nodup := by
  cases h with
  | same => exact hs.ids
  | adds r hfresh hnone => exact nodup_append_row hs.ids hfresh
  | revokes selected now hselected =>
      exact updateWhere_nodup hs.ids fun row => row.revoke_id now
  | rotates session new now hlabel hold hfresh =>
      exact updateWhere_nodup (nodup_append_row hs.ids hfresh) fun row => row.replace_id now new.id

theorem RowsEffect.origin (hs : SessionsSound s) (h : RowsEffect s label i rows')
    {x : RefreshSession} (hx : x ∈ rows') :
    (∃ y ∈ s.rows, x.id = y.id ∧ x.userId = y.userId ∧ x.tokenFamilyId = y.tokenFamilyId ∧
      (x.isRevoked = false → x = y) ∧
      (x.replacedBySessionId = y.replacedBySessionId ∨
        ∃ new ∈ rows', label = .commit i ∧ (∃ now, s.txns i = some (.rotating y new now)) ∧
          x.replacedBySessionId = some new.id)) ∨
      (x.id ∉ s.rows.map RefreshSession.id ∧ x.replacedBySessionId = none) := by
  cases h with
  | same => exact Or.inl ⟨x, hx, rfl, rfl, rfl, fun _ => rfl, Or.inl rfl⟩
  | adds r hfresh hnone =>
      rcases List.mem_append.mp hx with hx | hx
      · exact Or.inl ⟨x, hx, rfl, rfl, rfl, fun _ => rfl, Or.inl rfl⟩
      · rw [List.mem_singleton.mp hx]
        exact Or.inr ⟨hfresh, hnone⟩
  | revokes selected now hselected =>
      rcases mem_updateWhere.mp hx with ⟨y, hy, -, rfl⟩ | ⟨hx, -⟩
      · exact Or.inl ⟨y, hy, rfl, rfl, rfl, by simp, Or.inl rfl⟩
      · exact Or.inl ⟨x, hx, rfl, rfl, rfl, fun _ => rfl, Or.inl rfl⟩
  | rotates session new now hlabel hold hfresh =>
      obtain ⟨-, hr, -⟩ := (hs.actors i).writing _ session hold rfl
      have hne : new.id ≠ session.id := by
        rintro heq
        exact hfresh (heq ▸ List.mem_map_of_mem hr)
      have hnew : new ∈ updateSession session.id (RefreshSession.replace now new.id)
          (s.rows ++ [new]) :=
        mem_updateWhere.mpr
          (Or.inr ⟨List.mem_append_right _ List.mem_cons_self, by simpa using hne⟩)
      rcases mem_updateWhere.mp hx with ⟨y, hy, hsel, rfl⟩ | ⟨hx, hsel⟩
      · have hid : y.id = session.id := by simpa using hsel
        rcases List.mem_append.mp hy with hy | hy
        · have hsame := eq_of_key_eq hs.ids hy hr hid
          subst hsame
          exact Or.inl ⟨y, hy, rfl, rfl, rfl, by simp,
            Or.inr ⟨new, hnew, hlabel, ⟨now, hold⟩, rfl⟩⟩
        · rw [List.mem_singleton.mp hy] at hid
          exact absurd hid hne
      · rcases List.mem_append.mp hx with hx | hx
        · exact Or.inl ⟨x, hx, rfl, rfl, rfl, fun _ => rfl, Or.inl rfl⟩
        · rw [List.mem_singleton.mp hx]
          exact Or.inr ⟨hfresh, ((hs.actors i).successor _ _ _ hold).replacedBySessionId⟩

theorem RowsEffect.chain (hs : SessionsSound s) (h : RowsEffect s label i rows')
    (x : RefreshSession) (hx : x ∈ rows') (b : UUID) (hb : x.replacedBySessionId = some b) :
    ∃ y ∈ rows', y.id = b ∧ y.userId = x.userId ∧ y.tokenFamilyId = x.tokenFamilyId := by
  rcases h.origin hs hx with ⟨y, hy, -, huser, hfamily, -, hreplaced⟩ | ⟨-, hnone⟩
  · rcases hreplaced with hsame | ⟨new, hnew, -, ⟨now, hold⟩, hreplaced⟩
    · obtain ⟨z, hz, hid, hzuser, hzfamily⟩ := hs.chain y hy b (hsame ▸ hb)
      obtain ⟨z', hz', hid', huser', hfamily'⟩ := h.keys hz
      exact ⟨z', hz', hid'.trans hid, by rw [huser', hzuser, huser],
        by rw [hfamily', hzfamily, hfamily]⟩
    · rw [hreplaced, Option.some.injEq] at hb
      have hsucc := (hs.actors i).successor _ _ _ hold
      exact ⟨new, hnew, hb, hsucc.userId.trans huser.symm,
        hsucc.tokenFamilyId.trans hfamily.symm⟩
  · rw [hnone] at hb
    cases hb

theorem SessionStep.sound {t : SessionState} (hs : SessionsSound s) (h : SessionStep s label t) :
    SessionsSound t := by
  obtain ⟨i, hrows, hothers, hactor⟩ := h.effect hs
  refine ⟨hrows.ids hs, hrows.chain hs, fun j => ?_⟩
  by_cases hj : j = i
  · exact hj ▸ hactor
  · have hj' := hs.actors j
    refine ⟨fun txn session htxn hsession => ?_, fun session new now htxn => ?_,
      fun scope now pending updated htxn id hid => ?_⟩
    · rw [hothers.txns j hj] at htxn
      obtain ⟨howner, hr, hactive⟩ := hj'.writing txn session htxn hsession
      exact ⟨hothers.owner j hj _ howner, hrows.locked hs hj hr howner, hactive⟩
    · rw [hothers.txns j hj] at htxn
      exact hj'.successor session new now htxn
    · rw [hothers.txns j hj] at htxn
      exact hothers.owner j hj _ (hj'.updating scope now pending updated htxn id hid)

end Frame

theorem SessionsSound.initial (users : List User) : SessionsSound { users := users } :=
  ⟨by simp, by simp, fun _ => ⟨by simp, by simp, by simp⟩⟩

end Astra.Auth
