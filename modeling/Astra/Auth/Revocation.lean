import Astra.Auth.Concurrency
import Mathlib.Logic.Relation

/-!
# Bulk revocation

Which sessions a bulk revocation reaches while refreshes run beside it.  A rotation
that commits after the `UPDATE` has started, and before it has taken the old row,
leaves a successor that the statement does not see.
-/

namespace Astra.Auth

open Astra.Foundation Astra.Platform Astra.Persistence

/-- The session `a` was replaced by `b`. -/
def Replaces (rows : List RefreshSession) (a b : UUID) : Prop :=
  ∃ x ∈ rows, x.id = a ∧ x.replacedBySessionId = some b

def Descends (rows : List RefreshSession) : UUID → UUID → Prop :=
  Relation.ReflTransGen (Replaces rows)

/--
In the run, every bulk revocation that commits leaves no active session in its scope
that descends from a session committed when its `UPDATE` started.
-/
def NoLostRevocation (svc : AuthService) (start : SessionState) (labels : List SessionLabel) :
    Prop :=
  ∀ pre i now mid post s t v w u scope,
    labels = pre ++ .startUpdate i now :: (mid ++ .commit i :: post) →
    exec (SessionState.step svc) start pre = some s → s.txns i = some (.revoking scope) →
    s.step svc (.startUpdate i now) = some t → exec (SessionState.step svc) t mid = some v →
    v.step svc (.commit i) = some w → exec (SessionState.step svc) w post = some u →
    ∀ r₀ ∈ s.rows, ∀ r ∈ u.rows, Descends u.rows r₀.id r.id → scope.covers r = true →
      r.isRevoked = true

/--
The step does not commit the rotation of a session that a bulk `UPDATE` in progress
still has ahead of it.
-/
def NoOvertaking (s : SessionState) : SessionLabel → Prop
  | .commit j => ∀ session new now, s.txns j = some (.rotating session new now) →
      ∀ i scope now' pending updated, s.txns i = some (.updating scope now' pending updated) →
        session.id ∉ pending
  | _ => True

/-! ## The sessions in the scope when the statement starts -/

def Watched (rows₀ : List RefreshSession) (scope : RevocationScope) (id : UUID) : Prop :=
  ∃ r ∈ rows₀, r.id = id ∧ scope.covers r = true

theorem covers_congr {scope : RevocationScope} {r r' : RefreshSession}
    (huser : r.userId = r'.userId) (hfamily : r.tokenFamilyId = r'.tokenFamilyId) :
    scope.covers r = scope.covers r' := by
  cases scope <;> simp [RevocationScope.covers, huser, hfamily]

/-- The sessions of the start are still there, and only they descend from the watched ones. -/
structure Watch (rows₀ : List RefreshSession) (scope : RevocationScope) (s : SessionState) :
    Prop where
  kept : ∀ r ∈ rows₀, ∃ x ∈ s.rows, x.id = r.id ∧ x.userId = r.userId ∧
    x.tokenFamilyId = r.tokenFamilyId
  closed : ∀ x ∈ s.rows, Watched rows₀ scope x.id → ∀ b, x.replacedBySessionId = some b →
    Watched rows₀ scope b

section Watch

variable {rows₀ : List RefreshSession} {scope : RevocationScope} {s t : SessionState}
  {label : SessionLabel}

theorem Watch.start (hs : SessionsSound s) : Watch s.rows scope s := by
  refine ⟨fun r hr => ⟨r, hr, rfl, rfl, rfl⟩, ?_⟩
  rintro x hx ⟨r, hr, hid, hcovers⟩ b hb
  obtain ⟨y, hy, hyid, huser, hfamily⟩ := hs.chain x hx b hb
  refine ⟨y, hy, hyid, ?_⟩
  rw [covers_congr huser hfamily, ← eq_of_key_eq hs.ids hr hx hid]
  exact hcovers

theorem Watch.covers (hs : SessionsSound s) (hw : Watch rows₀ scope s) {x : RefreshSession}
    (hx : x ∈ s.rows) (hwatched : Watched rows₀ scope x.id) : scope.covers x = true := by
  obtain ⟨r, hr, hid, hcovers⟩ := hwatched
  obtain ⟨x', hx', hid', huser, hfamily⟩ := hw.kept r hr
  rw [← eq_of_key_eq hs.ids hx' hx (hid'.trans hid), covers_congr huser hfamily]
  exact hcovers

theorem Watch.not_watched (hw : Watch rows₀ scope s) {id : UUID}
    (hfresh : id ∉ s.rows.map RefreshSession.id) : ¬ Watched rows₀ scope id := by
  rintro ⟨r, hr, rfl, -⟩
  obtain ⟨x, hx, hid, -, -⟩ := hw.kept r hr
  exact hfresh (hid ▸ List.mem_map_of_mem hx)

theorem Watch.step (hs : SessionsSound s) (hw : Watch rows₀ scope s)
    (h : SessionStep s label t)
    (hno : ∀ i session new now, label = .commit i →
      s.txns i = some (.rotating session new now) → ¬ Watched rows₀ scope session.id) :
    Watch rows₀ scope t := by
  obtain ⟨i, hrows, -, -⟩ := h.effect hs
  constructor
  · intro r hr
    obtain ⟨x, hx, hid, huser, hfamily⟩ := hw.kept r hr
    obtain ⟨x', hx', hid', huser', hfamily'⟩ := hrows.keys hx
    exact ⟨x', hx', hid'.trans hid, huser'.trans huser, hfamily'.trans hfamily⟩
  · intro x hx hwatched b hb
    rcases hrows.origin hs hx with ⟨y, hy, hid, -, -, -, hreplaced⟩ | ⟨hfresh, -⟩
    · rw [hid] at hwatched
      rcases hreplaced with hsame | ⟨new, -, hlabel, ⟨now, hold⟩, -⟩
      · exact hw.closed y hy hwatched b (hsame ▸ hb)
      · exact absurd hwatched (hno i y new now hlabel hold)
    · exact absurd hwatched (hw.not_watched hfresh)

/-! ## During the statement -/

/-- Every watched session that is active is one that the statement has taken or will take. -/
def Reaching (rows₀ : List RefreshSession) (scope : RevocationScope) (i : Nat)
    (s : SessionState) : Prop :=
  ∃ now pending updated, s.txns i = some (.updating scope now pending updated) ∧
    ∀ x ∈ s.rows, Watched rows₀ scope x.id → x.isRevoked = false →
      x.id ∈ pending ∨ x.id ∈ updated

variable {i : Nat}

private theorem Reaching.not_replaced (hs : SessionsSound s) (hreach : Reaching rows₀ scope i s)
    (hno : NoOvertaking s label) (j : Nat) (session new : RefreshSession) (now : Timestamp)
    (hlabel : label = .commit j) (hold : s.txns j = some (.rotating session new now)) :
    ¬ Watched rows₀ scope session.id := by
  intro hwatched
  obtain ⟨now', pending, updated, htxn, hleft⟩ := hreach
  obtain ⟨howner, hr, hactive⟩ := (hs.actors j).writing _ session hold rfl
  subst hlabel
  rcases hleft session hr hwatched hactive with hpending | hupdated
  · exact hno session new now hold i scope now' pending updated htxn hpending
  · -- Both transactions would hold the lock on the session.
    rw [(hs.actors i).updating _ _ _ _ htxn _ hupdated, Option.some.injEq] at howner
    rw [← howner, htxn] at hold
    cases hold

private theorem updating_step {now : Timestamp} {pending updated : List UUID}
    (htxn : s.txns i = some (.updating scope now pending updated)) (h : SessionStep s label t) :
    t.txns i = some .ended ∨ t.txns i = some (.updating scope now pending updated) ∨
      ∃ id, t.rows = s.rows ∧
        (t.txns i = some (.updating scope now (pending.filter fun other => other != id)
            (updated ++ [id])) ∨
          t.txns i = some (.updating scope now (pending.filter fun other => other != id) updated) ∧
            ∀ r ∈ s.rows, r.id = id → scope.covers r = true → r.isRevoked = true) := by
  have hother {j : Nat} (hj : j ≠ i) {txn : SessionTxn} :
      Function.update s.txns j (some txn) i = some (.updating scope now pending updated) :=
    (Function.update_of_ne hj.symm ..).trans htxn
  cases h with
  | opens r hfresh hnone => exact Or.inr (Or.inl htxn)
  | begins j txn hidle hwaiting =>
      refine Or.inr (Or.inl (hother ?_))
      rintro rfl
      rw [htxn] at hidle
      cases hidle
  | leaves j txn hlive =>
      by_cases hj : j = i
      · exact Or.inl (hj ▸ Function.update_self ..)
      · exact Or.inr (Or.inl (hother hj))
  | selects j now' old txn session hold hwaiting hfree hr =>
      refine Or.inr (Or.inl (hother ?_))
      rintro rfl
      rw [htxn, Option.some.injEq] at hold
      subst hold
      exact hwaiting
  | starts j now' scope' hold =>
      refine Or.inr (Or.inl (hother ?_))
      rintro rfl
      rw [htxn] at hold
      cases hold
  | revokesRow j id scope' now' pending' updated' hold hpending hfree =>
      by_cases hj : j = i
      · subst hj
        rw [htxn, Option.some.injEq, SessionTxn.updating.injEq] at hold
        obtain ⟨rfl, rfl, rfl, rfl⟩ := hold
        exact Or.inr (Or.inr ⟨id, rfl, Or.inl (Function.update_self ..)⟩)
      · exact Or.inr (Or.inl (hother hj))
  | skipsRow j id scope' now' pending' updated' hold hpending hfree hskip t ht =>
      by_cases hj : j = i
      · subst hj
        rw [htxn, Option.some.injEq, SessionTxn.updating.injEq] at hold
        obtain ⟨rfl, rfl, rfl, rfl⟩ := hold
        rcases ht with rfl | rfl <;>
          exact Or.inr (Or.inr ⟨id, rfl, Or.inr ⟨Function.update_self .., hskip⟩⟩)
      · rcases ht with rfl | rfl <;> exact Or.inr (Or.inl (hother hj))
  | revokes j scope' now' updated' hold =>
      by_cases hj : j = i
      · exact Or.inl (hj ▸ Function.update_self ..)
      · exact Or.inr (Or.inl (hother hj))
  | rotates j session new now' hold hfresh =>
      refine Or.inr (Or.inl (hother ?_))
      rintro rfl
      rw [htxn] at hold
      cases hold
  | ends j session now' hold =>
      refine Or.inr (Or.inl (hother ?_))
      rintro rfl
      rw [htxn] at hold
      cases hold

private theorem ended_step (hended : s.txns i = some .ended) (h : SessionStep s label t) :
    t.txns i = some .ended := by
  have hother {j : Nat} (hj : j ≠ i) {txn : SessionTxn} :
      Function.update s.txns j (some txn) i = some .ended :=
    (Function.update_of_ne hj.symm ..).trans hended
  have hne {j : Nat} {txn : SessionTxn} (hold : s.txns j = some txn) (hlive : txn ≠ .ended) :
      j ≠ i := by
    rintro rfl
    rw [hended, Option.some.injEq] at hold
    exact hlive hold.symm
  cases h with
  | opens r hfresh hnone => exact hended
  | begins j txn hidle hwaiting =>
      refine hother ?_
      rintro rfl
      rw [hended] at hidle
      cases hidle
  | leaves j txn hlive =>
      by_cases hj : j = i
      · exact hj ▸ Function.update_self ..
      · exact hother hj
  | selects j now' old txn session hold hwaiting hfree hr =>
      refine hother (hne hold ?_)
      rintro rfl
      exact hwaiting
  | starts j now' scope' hold => exact hother (hne hold (by simp))
  | revokesRow j id scope' now' pending' updated' hold hpending hfree =>
      exact hother (hne hold (by simp))
  | skipsRow j id scope' now' pending' updated' hold hpending hfree hskip t ht =>
      have hj := hne hold (by simp)
      rcases ht with rfl | rfl <;> exact hother hj
  | revokes j scope' now' updated' hold => exact hother (hne hold (by simp))
  | rotates j session new now' hold hfresh => exact hother (hne hold (by simp))
  | ends j session now' hold => exact hother (hne hold (by simp))

theorem Watch.active_old (hs : SessionsSound s) (hw : Watch rows₀ scope s)
    (h : SessionStep s label t) {x : RefreshSession} (hx : x ∈ t.rows)
    (hwatched : Watched rows₀ scope x.id) (hactive : x.isRevoked = false) : x ∈ s.rows := by
  obtain ⟨j, hrows, -, -⟩ := h.effect hs
  rcases hrows.origin hs hx with ⟨y, hy, -, -, -, hsame, -⟩ | ⟨hfresh, -⟩
  · exact hsame hactive ▸ hy
  · exact absurd hwatched (hw.not_watched hfresh)

theorem Reaching.step (hs : SessionsSound s) (hw : Watch rows₀ scope s)
    (hreach : Reaching rows₀ scope i s) (h : SessionStep s label t) :
    t.txns i = some .ended ∨ Reaching rows₀ scope i t := by
  obtain ⟨now, pending, updated, htxn, hleft⟩ := hreach
  rcases updating_step htxn h with hended | hsame | ⟨id, hrows, htook | ⟨hskipped, hskip⟩⟩
  · exact Or.inl hended
  · refine Or.inr ⟨now, pending, updated, hsame, fun x hx hwatched hactive => ?_⟩
    exact hleft x (hw.active_old hs h hx hwatched hactive) hwatched hactive
  · refine Or.inr ⟨now, _, _, htook, fun x hx hwatched hactive => ?_⟩
    rcases hleft x (hrows ▸ hx) hwatched hactive with hpending | hupdated
    · by_cases hid : x.id = id
      · exact Or.inr (by simp [hid])
      · exact Or.inl (by simp [hpending, hid])
    · exact Or.inr (List.mem_append_left _ hupdated)
  · refine Or.inr ⟨now, _, _, hskipped, fun x hx hwatched hactive => ?_⟩
    rw [hrows] at hx
    rcases hleft x hx hwatched hactive with hpending | hupdated
    · have hid : x.id ≠ id := by
        intro hid
        rw [hskip x hx hid (hw.covers hs hx hwatched)] at hactive
        cases hactive
      exact Or.inl (by simp [hpending, hid])
    · exact Or.inr hupdated

/-! ## After the statement -/

def AllRevoked (rows₀ : List RefreshSession) (scope : RevocationScope) (s : SessionState) : Prop :=
  ∀ x ∈ s.rows, Watched rows₀ scope x.id → x.isRevoked = true

theorem AllRevoked.step (hs : SessionsSound s) (hw : Watch rows₀ scope s)
    (hall : AllRevoked rows₀ scope s) (h : SessionStep s label t) :
    Watch rows₀ scope t ∧ AllRevoked rows₀ scope t := by
  constructor
  · refine hw.step hs h fun j session new now hlabel hold hwatched => ?_
    obtain ⟨-, hr, hactive⟩ := (hs.actors j).writing _ session hold rfl
    rw [hall session hr hwatched] at hactive
    cases hactive
  · intro x hx hwatched
    by_contra hactive
    rw [Bool.not_eq_true] at hactive
    rw [hall x (hw.active_old hs h hx hwatched hactive) hwatched] at hactive
    cases hactive

private theorem commit_ended {svc : AuthService} (hended : s.txns i = some .ended) :
    s.step svc (.commit i) = none := by
  simp [SessionState.step, hended]

theorem Reaching.commit {svc : AuthService} (hs : SessionsSound s) (hw : Watch rows₀ scope s)
    (hreach : Reaching rows₀ scope i s) (h : s.step svc (.commit i) = some t) :
    Watch rows₀ scope t ∧ AllRevoked rows₀ scope t := by
  have hstep := sessionStep_of_step hs.ids h
  obtain ⟨now, pending, updated, htxn, hleft⟩ := hreach
  constructor
  · refine hw.step hs hstep fun j session new now' hlabel hold => ?_
    cases hlabel
    rw [htxn] at hold
    cases hold
  · intro x hx hwatched
    by_contra hactive
    rw [Bool.not_eq_true] at hactive
    have hold := hw.active_old hs hstep hx hwatched hactive
    have hreached := hleft x hold hwatched hactive
    simp only [SessionState.step, htxn] at h
    cases pending with
    | cons id rest => cases h
    | nil =>
        cases h
        have hmem : x.id ∈ updated := by simpa using hreached
        rcases mem_updateWhere.mp hx with ⟨y, -, -, rfl⟩ | ⟨-, hsel⟩
        · cases hactive
        · simp [hmem] at hsel

end Watch

/-! ## Runs -/

section Runs

variable {svc : AuthService} {rows₀ : List RefreshSession} {scope : RevocationScope}
  {s t u : SessionState} {labels : List SessionLabel} {i : Nat}

theorem sound_step {label : SessionLabel} (hs : SessionsSound s)
    (h : s.step svc label = some t) : SessionsSound t :=
  (sessionStep_of_step hs.ids h).sound hs

theorem run_sound (hs : SessionsSound s) (hexec : exec (SessionState.step svc) s labels = some t) :
    SessionsSound t :=
  exec_invariant' (fun _ _ _ hs h => sound_step hs h) hs hexec

theorem run_reaching (hs : SessionsSound s) (hw : Watch rows₀ scope s)
    (hreach : Reaching rows₀ scope i s)
    (hok : AllSteps NoOvertaking (SessionState.step svc) s labels)
    (hexec : exec (SessionState.step svc) s labels = some t) :
    t.txns i = some .ended ∨ Watch rows₀ scope t ∧ Reaching rows₀ scope i t := by
  have hstep (v : SessionState) (label : SessionLabel) (w : SessionState)
      (hv : SessionsSound v ∧
        (v.txns i = some .ended ∨ Watch rows₀ scope v ∧ Reaching rows₀ scope i v))
      (hno : NoOvertaking v label) (h : v.step svc label = some w) :
      SessionsSound w ∧
        (w.txns i = some .ended ∨ Watch rows₀ scope w ∧ Reaching rows₀ scope i w) := by
    obtain ⟨hvs, hv⟩ := hv
    have hstep := sessionStep_of_step hvs.ids h
    refine ⟨hstep.sound hvs, ?_⟩
    rcases hv with hended | ⟨hvw, hvreach⟩
    · exact Or.inl (ended_step hended hstep)
    · exact (hvreach.step hvs hvw hstep).imp_right fun hreach =>
        ⟨hvw.step hvs hstep (hvreach.not_replaced hvs hno), hreach⟩
  exact (exec_invariant hstep ⟨hs, Or.inr ⟨hw, hreach⟩⟩ hok hexec).2

theorem run_allRevoked (hs : SessionsSound s) (hw : Watch rows₀ scope s)
    (hall : AllRevoked rows₀ scope s) (hexec : exec (SessionState.step svc) s labels = some t) :
    Watch rows₀ scope t ∧ AllRevoked rows₀ scope t := by
  have hstep (v : SessionState) (label : SessionLabel) (w : SessionState)
      (hv : SessionsSound v ∧ Watch rows₀ scope v ∧ AllRevoked rows₀ scope v)
      (h : v.step svc label = some w) :
      SessionsSound w ∧ Watch rows₀ scope w ∧ AllRevoked rows₀ scope w :=
    ⟨sound_step hv.1 h, hv.2.2.step hv.1 hv.2.1 (sessionStep_of_step hv.1.ids h)⟩
  exact (exec_invariant' hstep ⟨hs, hw, hall⟩ hexec).2

theorem Descends.covers (hs : SessionsSound s) {a b : UUID} (h : Descends s.rows a b)
    {x y : RefreshSession} (hx : x ∈ s.rows) (hy : y ∈ s.rows) (hxa : x.id = a) (hyb : y.id = b) :
    scope.covers x = scope.covers y := by
  induction h using Relation.ReflTransGen.head_induction_on generalizing x with
  | refl => rw [eq_of_key_eq hs.ids hx hy (hxa.trans hyb.symm)]
  | head hreplaces _ ih =>
      obtain ⟨x', hx', hid, hreplaced⟩ := hreplaces
      obtain ⟨z, hz, hzid, huser, hfamily⟩ := hs.chain x' hx' _ hreplaced
      rw [← ih hz hzid, covers_congr huser hfamily,
        eq_of_key_eq hs.ids hx hx' (hxa.trans hid.symm)]

private theorem Watch.descends (hw : Watch rows₀ scope s) {a b : UUID} (h : Descends s.rows a b)
    (ha : Watched rows₀ scope a) : Watched rows₀ scope b := by
  induction h with
  | refl => exact ha
  | tail _ hreplaces ih =>
      obtain ⟨x, hx, rfl, hreplaced⟩ := hreplaces
      exact hw.closed x hx ih _ hreplaced

private theorem AllRevoked.descendants (hs : SessionsSound s) (hw : Watch rows₀ scope s)
    (hall : AllRevoked rows₀ scope s) {r₀ r : RefreshSession} (hr₀ : r₀ ∈ rows₀) (hr : r ∈ s.rows)
    (hdescends : Descends s.rows r₀.id r.id) (hcovers : scope.covers r = true) :
    r.isRevoked = true := by
  obtain ⟨x, hx, hid, huser, hfamily⟩ := hw.kept r₀ hr₀
  have hcovers₀ : scope.covers r₀ = true := by
    rw [← covers_congr huser hfamily, hdescends.covers hs hx hr hid rfl, hcovers]
  exact hall r hr (hw.descends hdescends ⟨r₀, hr₀, rfl, hcovers₀⟩)

end Runs

/-- No revocation is lost in a run in which no rotation overtakes a bulk revocation. -/
theorem revocation_complete (svc : AuthService) (users : List User) (labels : List SessionLabel)
    (hok : AllSteps NoOvertaking (SessionState.step svc) { users := users } labels) :
    NoLostRevocation svc { users := users } labels := by
  intro pre i now mid post s t v w u scope hlabels hpre hscope hstart hmid hcommit hpost r₀ hr₀ r
    hr hdescends hcovers
  subst hlabels
  have hs := run_sound (SessionsSound.initial users) hpre
  have ht := sound_step hs hstart
  have hrest := ((hok.append hpre).2.2 t hstart).append hmid
  have hv := run_sound ht hmid
  -- The state when the statement starts.
  have hstate : t = s.set i (.updating scope now (SessionState.candidates scope s.rows) []) := by
    simpa [SessionState.step, hscope, eq_comm] using hstart
  have hwatch : Watch s.rows scope t := by
    have hwatch : Watch s.rows scope s := Watch.start hs
    exact hwatch.step hs (sessionStep_of_step hs.ids hstart) (by simp)
  have hreach : Reaching s.rows scope i t := by
    have htxn : t.txns i =
        some (.updating scope now (SessionState.candidates scope s.rows) []) := by
      rw [hstate]
      exact Function.update_self ..
    refine ⟨now, _, _, htxn, fun x hx hwatched hactive => Or.inl ?_⟩
    have hrow : x ∈ s.rows := by simpa [hstate, SessionState.set] using hx
    have hxcovers := Watch.covers hs (Watch.start hs) hrow hwatched
    exact List.mem_map_of_mem (List.mem_filter.mpr ⟨hrow, by simp [hxcovers, hactive]⟩)
  rcases run_reaching ht hwatch hreach hrest.1 hmid with hended | ⟨hvw, hvreach⟩
  · rw [commit_ended hended] at hcommit
    cases hcommit
  · obtain ⟨hww, hwall⟩ := hvreach.commit hv hvw hcommit
    have hw := sound_step hv hcommit
    obtain ⟨huw, huall⟩ := run_allRevoked hw hww hwall hpost
    exact huall.descendants (run_sound hw hpost) huw hr₀ hr hdescends hcovers

/-! ## Two runs -/

def demoUser : User where
  id := 1
  email := "user@example.com"
  username := "astra_user"
  passwordHash := "$secure-password"
  isActive := true
  isVerified := false
  lastLoginAt := none
  createdAt := 0
  updatedAt := 0

def refreshBesideLogoutAll : List SessionLabel :=
  [.openSession 1 {} ⟨1, 2, 3, 4, 5⟩ 0,
    .refresh 0 "refresh-1" {} ⟨11, 12, 13, 14, 15⟩ 60000000, .select 0 60000000,
    .logoutAll 1 1, .startUpdate 1 60000000]

theorem revocation_complete_rollback :
    ∃ s, exec (SessionState.step demoService) { users := [demoUser] }
        (refreshBesideLogoutAll ++ [.rollback 0, .visit 1 2, .commit 1]) = some s ∧
      NoLostRevocation demoService { users := [demoUser] }
        (refreshBesideLogoutAll ++ [.rollback 0, .visit 1 2, .commit 1]) := by
  refine ⟨_, rfl, revocation_complete demoService [demoUser] _ ?_⟩
  refine .cons trivial rfl (.cons trivial rfl (.cons trivial rfl (.cons trivial rfl
    (.cons trivial rfl (.cons trivial rfl (.cons trivial rfl (.cons ?_ rfl trivial)))))))
  intro session new now hold
  -- The transaction that commits is inside its `UPDATE`.
  have htxn : some (SessionTxn.updating (.user 1) 60000000 [] [2]) =
      some (SessionTxn.rotating session new now) := hold
  cases htxn

/-- The rotation commits first: the `UPDATE` skips session 2 and never sees session 12. -/
theorem rotation_escapes_logout_all :
    ∃ s, exec (SessionState.step demoService) { users := [demoUser] }
        (refreshBesideLogoutAll ++ [.commit 0, .visit 1 2, .commit 1]) = some s ∧
      s.rows.map (fun r => (r.id, r.userId, r.isRevoked, r.replacedBySessionId)) =
        [(2, 1, true, some 12), (12, 1, false, none)] ∧
      s.txns 0 = some .ended ∧ s.txns 1 = some .ended ∧
      ¬ NoLostRevocation demoService { users := [demoUser] }
        (refreshBesideLogoutAll ++ [.commit 0, .visit 1 2, .commit 1]) := by
  refine ⟨_, rfl, by decide, rfl, rfl, fun h => ?_⟩
  have hstart : ∃ s t w u,
      exec (SessionState.step demoService) { users := [demoUser] }
        (refreshBesideLogoutAll.take 4) = some s ∧
      s.step demoService (.startUpdate 1 60000000) = some t ∧
      exec (SessionState.step demoService) t [.commit 0, .visit 1 2] = some w ∧
      w.step demoService (.commit 1) = some u ∧ s.txns 1 = some (.revoking (.user 1)) ∧
      (∃ r₀ ∈ s.rows, r₀.id = 2) ∧
      (∃ x ∈ u.rows, x.id = 2 ∧ x.replacedBySessionId = some 12) ∧
      ∃ r ∈ u.rows, r.id = 12 ∧ r.userId = 1 ∧ r.isRevoked = false :=
    ⟨_, _, _, _, rfl, rfl, rfl, rfl, rfl, by decide, by decide, by decide⟩
  obtain ⟨s, t, w, u, hs, ht, hw, hu, hscope, ⟨r₀, hr₀, hid₀⟩, hreplaced, r, hr, hid, huser,
    hactive⟩ := hstart
  have hdescends : Descends u.rows r₀.id r.id := by
    rw [hid₀, hid]
    exact .single hreplaced
  have hrevoked := h _ 1 _ _ [] s t w u u (.user 1) rfl hs hscope ht hw hu rfl r₀ hr₀ r hr
    hdescends (by simp [RevocationScope.covers, huser])
  rw [hactive] at hrevoked
  cases hrevoked

end Astra.Auth
