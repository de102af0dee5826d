import Astra.Auth.Families
import Mathlib.Logic.Function.Basic

/-!
# Registrations side by side

`register` statement by statement.  The two lookups see what is committed; the `INSERT`
of the flush enters its row in the unique indexes on email and username one after the
other, waits for an entry of a transaction that has not ended, and raises
`IntegrityError` on a committed one.  `uow.flush` passes that on; only `uow.commit`
translates it, and no constraint is left to the commit.
-/

namespace Astra.Auth

open Astra.Foundation Astra.Platform Astra.Persistence

/-- What `register` has computed when its transaction starts. -/
structure Registration where
  email : String
  username : String
  passwordHash : String
  context : DeviceContext
  ids : AuthIds

structure Registered where
  user : User
  session : RefreshSession
  response : AuthResponse

inductive RegisterTxn where
  | refused (e : Exn)
  | readingEmail (r : Registration)
  | readingUsername (r : Registration)
  | inserting (r : Registration)
  | indexed (r : Registration)
  | inserted (r : Registration) (user : User)
  | opened (registered : Registered)
  | finished (result : Except Exn Registered)

/-- The committed rows, the requests, and the entries of open transactions in the indexes. -/
structure RegisterState where
  store : AuthStore := {}
  requests : Nat → Option RegisterTxn := fun _ => none
  emailOwner : String → Option Nat := fun _ => none
  usernameOwner : String → Option Nat := fun _ => none

inductive RegisterLabel where
  | register (i : Nat) (request : RegisterRequest) (context : DeviceContext) (salt : String)
      (ids : AuthIds)
  | readEmail (i : Nat)
  | readUsername (i : Nat)
  | enterEmail (i : Nat)
  | enterUsername (i : Nat) (now : Timestamp)
  | openSession (i : Nat) (now : Timestamp)
  | commit (i : Nat)
  | cancel (i : Nat)

def emailExists : Exn := conflictException "Email is already registered." .authEmailExists

def usernameExists : Exn := conflictException "Username is already registered." .authUsernameExists

def AuthService.prepareRegistration (svc : AuthService) (request : RegisterRequest)
    (context : DeviceContext) (salt : String) (ids : AuthIds) : Except Exn Registration := do
  let email := normalizeEmail svc.py request.email
  let username := normalizeUsername svc.py request.username
  validateUsername username
  let passwordHash ← svc.passwordHasher.hash salt request.password
  .ok { email, username, passwordHash, context, ids }

def Registration.user (r : Registration) (now : Timestamp) : User where
  id := r.ids.userId
  email := r.email
  username := r.username
  passwordHash := r.passwordHash
  isActive := true
  isVerified := false
  lastLoginAt := none
  createdAt := now
  updatedAt := now

def AuthService.registered (svc : AuthService) (r : Registration) (user : User) (now : Timestamp) :
    Registered :=
  let session := svc.newSession user.id r.ids.familyId r.context r.ids now
  { user := user
    session := session.2
    response := ⟨user.response, svc.buildTokenPair user.id r.ids.accessJti session.1 now⟩ }

namespace RegisterState

def set (s : RegisterState) (i : Nat) (txn : RegisterTxn) : RegisterState :=
  { s with requests := Function.update s.requests i (some txn) }

def finish (s : RegisterState) (i : Nat) (result : Except Exn Registered) (store : AuthStore) :
    RegisterState where
  store := store
  requests := Function.update s.requests i (some (.finished result))
  emailOwner := fun email => if s.emailOwner email = some i then none else s.emailOwner email
  usernameOwner := fun username =>
    if s.usernameOwner username = some i then none else s.usernameOwner username

def step (svc : AuthService) (s : RegisterState) : RegisterLabel → Option RegisterState
  | .register i request context salt ids =>
      match s.requests i with
      | some _ => none
      | none =>
          match svc.prepareRegistration request context salt ids with
          | .error e => some (s.set i (.refused e))
          | .ok r => some (s.set i (.readingEmail r))
  | .readEmail i =>
      match s.requests i with
      | some (.readingEmail r) =>
          if (getUserByEmail s.store.users r.email).isSome then
            some (s.finish i (.error emailExists) s.store)
          else some (s.set i (.readingUsername r))
      | _ => none
  | .readUsername i =>
      match s.requests i with
      | some (.readingUsername r) =>
          if (getUserByUsername s.store.users r.username).isSome then
            some (s.finish i (.error usernameExists) s.store)
          else some (s.set i (.inserting r))
      | _ => none
  | .enterEmail i =>
      match s.requests i with
      | some (.inserting r) =>
          match s.emailOwner r.email with
          | some _ => none
          | none =>
              if (getUserByEmail s.store.users r.email).isSome then
                some (s.finish i (.error integrityError) s.store)
              else
                some { s.set i (.indexed r) with
                  emailOwner := Function.update s.emailOwner r.email (some i) }
      | _ => none
  | .enterUsername i now =>
      match s.requests i with
      | some (.indexed r) =>
          match s.usernameOwner r.username with
          | some _ => none
          | none =>
              if (getUserByUsername s.store.users r.username).isSome then
                some (s.finish i (.error integrityError) s.store)
              else
                some { s.set i (.inserted r (r.user now)) with
                  usernameOwner := Function.update s.usernameOwner r.username (some i) }
      | _ => none
  | .openSession i now =>
      match s.requests i with
      | some (.inserted r user) => some (s.set i (.opened (svc.registered r user now)))
      | _ => none
  | .commit i =>
      match s.requests i with
      | some (.opened registered) =>
          some (s.finish i (.ok registered)
            ⟨s.store.users ++ [registered.user], s.store.sessions ++ [registered.session]⟩)
      | _ => none
  | .cancel i =>
      match s.requests i with
      | none | some (.refused _) | some (.finished _) => none
      | some _ => some (s.finish i (.error .cancelled) s.store)

end RegisterState

/-! ## What a run is to keep -/

structure UniqueUsers (store : AuthStore) : Prop where
  emails : (store.users.map User.email).Nodup
  usernames : (store.users.map User.username).Nodup

/-- The committed rows are those at the start and one user and one session for each success. -/
def Accounted (start : AuthStore) (s : RegisterState) : Prop :=
  ∃ successes : List (Nat × Registered), (successes.map Prod.fst).Nodup ∧
    (∀ success ∈ successes, s.requests success.1 = some (.finished (.ok success.2))) ∧
    s.store.users = start.users ++ successes.map (fun success => success.2.user) ∧
    s.store.sessions = start.sessions ++ successes.map (fun success => success.2.session)

def IsConflict (e : Exn) : Prop := ∃ message code, e = conflictException message code

/-- Every request that has lost has raised a `ConflictException`. -/
def LosersConflict (s : RegisterState) : Prop :=
  ∀ i e, s.requests i = some (.finished (.error e)) → e ≠ .cancelled → IsConflict e

def EntersFree (s : RegisterState) : RegisterLabel → Prop
  | .enterEmail i => ∀ r, s.requests i = some (.inserting r) →
      (getUserByEmail s.store.users r.email).isSome = false
  | .enterUsername i _ => ∀ r, s.requests i = some (.indexed r) →
      (getUserByUsername s.store.users r.username).isSome = false
  | _ => True

/-! ## Steps -/

def RegisterTxn.email? : RegisterTxn → Option String
  | .indexed r => some r.email
  | .inserted _ user => some user.email
  | .opened registered => some registered.user.email
  | _ => none

def RegisterTxn.username? : RegisterTxn → Option String
  | .inserted _ user => some user.username
  | .opened registered => some registered.user.username
  | _ => none

def RegisterTxn.isFinished : RegisterTxn → Bool
  | .finished _ => true
  | _ => false

def RegisterState.Open (s : RegisterState) (i : Nat) : Prop :=
  ∀ result, s.requests i ≠ some (.finished result)

inductive RegisterStep (s : RegisterState) : RegisterLabel → RegisterState → Prop
  | moves {label : RegisterLabel} (i : Nat) (txn : RegisterTxn) (hopen : s.Open i)
      (htxn : txn.isFinished = false) (hemail : txn.email? = (s.requests i).bind RegisterTxn.email?)
      (husername : txn.username? = (s.requests i).bind RegisterTxn.username?) :
      RegisterStep s label (s.set i txn)
  | fails {label : RegisterLabel} (i : Nat) (e : Exn) (hopen : s.Open i)
      (he : IsConflict e ∨ e = .cancelled ∨ e = integrityError ∧ ¬ EntersFree s label) :
      RegisterStep s label (s.finish i (.error e) s.store)
  | entersEmail (i : Nat) (r : Registration) (hold : s.requests i = some (.inserting r))
      (hfree : s.emailOwner r.email = none) (hnone : ∀ u ∈ s.store.users, u.email ≠ r.email) :
      RegisterStep s (.enterEmail i)
        { s.set i (.indexed r) with emailOwner := Function.update s.emailOwner r.email (some i) }
  | entersUsername (i : Nat) (now : Timestamp) (r : Registration)
      (hold : s.requests i = some (.indexed r)) (hfree : s.usernameOwner r.username = none)
      (hnone : ∀ u ∈ s.store.users, u.username ≠ r.username) :
      RegisterStep s (.enterUsername i now)
        { s.set i (.inserted r (r.user now)) with
          usernameOwner := Function.update s.usernameOwner r.username (some i) }
  | commits (i : Nat) (registered : Registered) (hold : s.requests i = some (.opened registered)) :
      RegisterStep s (.commit i) (s.finish i (.ok registered)
        ⟨s.store.users ++ [registered.user], s.store.sessions ++ [registered.session]⟩)

section Inversion

variable {svc : AuthService} {s t : RegisterState} {label : RegisterLabel} {i : Nat}

theorem open_of_eq {txn : RegisterTxn} (hold : s.requests i = some txn)
    (htxn : txn.isFinished = false) : s.Open i := by
  intro result hresult
  rw [hold, Option.some.injEq] at hresult
  subst hresult
  cases htxn

private theorem getUserByEmail_none {users : List User} {email : String}
    (h : ¬ (getUserByEmail users email).isSome = true) : ∀ u ∈ users, u.email ≠ email := by
  simpa [getUserByEmail] using h

private theorem getUserByUsername_none {users : List User} {username : String}
    (h : ¬ (getUserByUsername users username).isSome = true) :
    ∀ u ∈ users, u.username ≠ username := by
  simpa [getUserByUsername] using h

theorem registerStep_of_step (h : s.step svc label = some t) : RegisterStep s label t := by
  cases label with
  | register i request context salt ids =>
      simp only [RegisterState.step] at h
      split at h
      · cases h
      · rename_i hidle
        have hopen : s.Open i := fun result hresult => by rw [hidle] at hresult; cases hresult
        split at h
        · cases h
          exact .moves i _ hopen rfl (by rw [hidle]; rfl) (by rw [hidle]; rfl)
        · cases h
          exact .moves i _ hopen rfl (by rw [hidle]; rfl) (by rw [hidle]; rfl)
  | readEmail i =>
      simp only [RegisterState.step] at h
      split at h
      · rename_i r hold
        split_ifs at h with htaken
        · cases h
          exact .fails i _ (open_of_eq hold rfl) (Or.inl ⟨_, _, rfl⟩)
        · cases h
          exact .moves i _ (open_of_eq hold rfl) rfl (by rw [hold]; rfl) (by rw [hold]; rfl)
      · cases h
  | readUsername i =>
      simp only [RegisterState.step] at h
      split at h
      · rename_i r hold
        split_ifs at h with htaken
        · cases h
          exact .fails i _ (open_of_eq hold rfl) (Or.inl ⟨_, _, rfl⟩)
        · cases h
          exact .moves i _ (open_of_eq hold rfl) rfl (by rw [hold]; rfl) (by rw [hold]; rfl)
      · cases h
  | enterEmail i =>
      simp only [RegisterState.step] at h
      split at h
      · rename_i r hold
        split at h
        · cases h
        · rename_i hfree
          split_ifs at h with htaken
          · cases h
            refine .fails i _ (open_of_eq hold rfl) (Or.inr (Or.inr ⟨rfl, fun hok => ?_⟩))
            rw [hok r hold] at htaken
            cases htaken
          · cases h
            exact .entersEmail i r hold hfree (getUserByEmail_none htaken)
      · cases h
  | enterUsername i now =>
      simp only [RegisterState.step] at h
      split at h
      · rename_i r hold
        split at h
        · cases h
        · rename_i hfree
          split_ifs at h with htaken
          · cases h
            refine .fails i _ (open_of_eq hold rfl) (Or.inr (Or.inr ⟨rfl, fun hok => ?_⟩))
            rw [hok r hold] at htaken
            cases htaken
          · cases h
            exact .entersUsername i now r hold hfree (getUserByUsername_none htaken)
      · cases h
  | openSession i now =>
      simp only [RegisterState.step] at h
      split at h
      · rename_i r user hold
        cases h
        exact .moves i _ (open_of_eq hold rfl) rfl (by rw [hold]; rfl) (by rw [hold]; rfl)
      · cases h
  | commit i =>
      simp only [RegisterState.step] at h
      split at h
      · rename_i registered hold
        cases h
        exact .commits i registered hold
      · cases h
  | cancel i =>
      simp only [RegisterState.step] at h
      split at h
      · cases h
      · cases h
      · cases h
      · rename_i txn hfinished hold
        cases h
        refine .fails i _ (fun result hresult => hfinished result ?_) (Or.inr (Or.inl rfl))
        rw [hold] at hresult
        exact Option.some.inj hresult

end Inversion

/-! ## The two indexes -/

/--
A column is unique among the committed rows, and who is entered under a value owns it
against them and against the others.
-/
structure IndexHeld (requests : Nat → Option RegisterTxn) (owner : String → Option Nat)
    (key? : RegisterTxn → Option String) (column : User → String) (users : List User) : Prop where
  unique : (users.map column).Nodup
  owned : ∀ i txn value, requests i = some txn → key? txn = some value →
    owner value = some i ∧ ∀ u ∈ users, column u ≠ value

section Index

variable {requests : Nat → Option RegisterTxn} {owner : String → Option Nat}
  {key? : RegisterTxn → Option String} {column : User → String} {users : List User} {i : Nat}
  {txn : RegisterTxn}

theorem IndexHeld.set (h : IndexHeld requests owner key? column users)
    (hkey : key? txn = (requests i).bind key?) :
    IndexHeld (Function.update requests i (some txn)) owner key? column users := by
  refine ⟨h.unique, fun j txn' value hj hvalue => ?_⟩
  by_cases hji : j = i
  · subst hji
    rw [Function.update_self, Option.some.injEq] at hj
    subst hj
    rw [hkey] at hvalue
    obtain ⟨old, hold, hvalue⟩ := Option.bind_eq_some_iff.mp hvalue
    exact h.owned j old value hold hvalue
  · rw [Function.update_of_ne hji] at hj
    exact h.owned j txn' value hj hvalue

theorem IndexHeld.enter (h : IndexHeld requests owner key? column users) {value : String}
    (hfree : owner value = none) (hnone : ∀ u ∈ users, column u ≠ value)
    (hkey : key? txn = some value) :
    IndexHeld (Function.update requests i (some txn)) (Function.update owner value (some i)) key?
      column users := by
  refine ⟨h.unique, fun j txn' value' hj hvalue => ?_⟩
  by_cases hji : j = i
  · subst hji
    rw [Function.update_self, Option.some.injEq] at hj
    subst hj
    rw [hkey, Option.some.injEq] at hvalue
    subst hvalue
    exact ⟨Function.update_self .., hnone⟩
  · rw [Function.update_of_ne hji] at hj
    obtain ⟨howner, hothers⟩ := h.owned j txn' value' hj hvalue
    refine ⟨?_, hothers⟩
    rw [Function.update_of_ne, howner]
    rintro rfl
    rw [hfree] at howner
    cases howner

theorem IndexHeld.finish (h : IndexHeld requests owner key? column users) {rows : List User}
    (hkey : key? txn = none) (hrows : rows = [] ∨ ∃ old user, requests i = some old ∧
      key? old = some (column user) ∧ rows = [user]) :
    IndexHeld (Function.update requests i (some txn))
      (fun value => if owner value = some i then none else owner value) key? column
      (users ++ rows) := by
  constructor
  · rcases hrows with rfl | ⟨old, user, hold, hvalue, rfl⟩
    · simpa using h.unique
    · refine nodup_append_row h.unique ?_
      intro hmem
      obtain ⟨u, hu, heq⟩ := List.mem_map.mp hmem
      exact (h.owned i old _ hold hvalue).2 u hu heq
  · intro j txn' value hj hvalue
    by_cases hji : j = i
    · subst hji
      rw [Function.update_self, Option.some.injEq] at hj
      subst hj
      rw [hkey] at hvalue
      cases hvalue
    · rw [Function.update_of_ne hji] at hj
      obtain ⟨howner, hothers⟩ := h.owned j txn' value hj hvalue
      have hne : owner value ≠ some i := by
        rw [howner]
        simpa using hji
      refine ⟨by rw [if_neg hne, howner], fun u hu => ?_⟩
      rcases List.mem_append.mp hu with hu | hu
      · exact hothers u hu
      · rcases hrows with rfl | ⟨old, user, hold, hkey', rfl⟩
        · cases hu
        · obtain rfl := List.mem_singleton.mp hu
          rintro rfl
          exact hne (h.owned i old _ hold hkey').1

end Index

/-! ## The invariant -/

structure Indexed (s : RegisterState) : Prop where
  emails : IndexHeld s.requests s.emailOwner RegisterTxn.email? User.email s.store.users
  usernames :
    IndexHeld s.requests s.usernameOwner RegisterTxn.username? User.username s.store.users

section Run

variable {svc : AuthService} {s t : RegisterState} {label : RegisterLabel} {start : AuthStore}

private theorem Indexed.uniqueUsers (h : Indexed s) : UniqueUsers s.store :=
  ⟨h.emails.unique, h.usernames.unique⟩

theorem Indexed.initial (h : UniqueUsers start) : Indexed { store := start } := by
  constructor
  · exact ⟨h.emails, fun i txn value hi => by cases hi⟩
  · exact ⟨h.usernames, fun i txn value hi => by cases hi⟩

theorem Indexed.fail (h : Indexed s) (i : Nat) (e : Exn) :
    Indexed (s.finish i (.error e) s.store) := by
  constructor
  · have hfinish : IndexHeld (s.finish i (.error e) s.store).requests _ _ _ (_ ++ []) :=
      h.emails.finish rfl (Or.inl rfl)
    rwa [List.append_nil] at hfinish
  · have hfinish : IndexHeld (s.finish i (.error e) s.store).requests _ _ _ (_ ++ []) :=
      h.usernames.finish rfl (Or.inl rfl)
    rwa [List.append_nil] at hfinish

theorem Indexed.commit (h : Indexed s) {i : Nat} {registered : Registered}
    (hold : s.requests i = some (.opened registered)) :
    Indexed (s.finish i (.ok registered)
      ⟨s.store.users ++ [registered.user], s.store.sessions ++ [registered.session]⟩) := by
  constructor
  · exact h.emails.finish rfl (Or.inr ⟨_, registered.user, hold, rfl, rfl⟩)
  · exact h.usernames.finish rfl (Or.inr ⟨_, registered.user, hold, rfl, rfl⟩)

theorem Indexed.step (h : Indexed s) (hstep : RegisterStep s label t) : Indexed t := by
  cases hstep with
  | moves i txn hopen htxn hemail husername =>
      exact ⟨h.emails.set hemail, h.usernames.set husername⟩
  | fails i e hopen he => exact h.fail i e
  | entersEmail i r hold hfree hnone =>
      constructor
      · exact h.emails.enter hfree hnone rfl
      · exact h.usernames.set (by rw [hold]; rfl)
  | entersUsername i now r hold hfree hnone =>
      constructor
      · exact h.emails.set (by rw [hold]; rfl)
      · exact h.usernames.enter hfree hnone rfl
  | commits i registered hold => exact h.commit hold

theorem RegisterStep.request (hstep : RegisterStep s label t) :
    ∃ i txn, s.Open i ∧ t.requests = Function.update s.requests i (some txn) ∧
      ∀ e, txn = .finished (.error e) → IsConflict e ∨ e = .cancelled ∨
        e = integrityError ∧ ¬ EntersFree s label := by
  cases hstep with
  | moves i txn hopen htxn hemail husername =>
      refine ⟨i, txn, hopen, rfl, fun e he => ?_⟩
      subst he
      cases htxn
  | fails i e hopen he =>
      refine ⟨i, _, hopen, rfl, fun e' he' => ?_⟩
      cases he'
      exact he
  | entersEmail i r hold hfree hnone => exact ⟨i, _, open_of_eq hold rfl, rfl, by simp⟩
  | entersUsername i now r hold hfree hnone => exact ⟨i, _, open_of_eq hold rfl, rfl, by simp⟩
  | commits i registered hold => exact ⟨i, _, open_of_eq hold rfl, rfl, by simp⟩

theorem finished_step {i : Nat} {result : Except Exn Registered} (hstep : RegisterStep s label t)
    (hfinished : s.requests i = some (.finished result)) :
    t.requests i = some (.finished result) := by
  obtain ⟨j, txn, hopen, hrequests, -⟩ := hstep.request
  have hne : i ≠ j := by
    rintro rfl
    exact hopen result hfinished
  rw [hrequests, Function.update_of_ne hne, hfinished]

theorem Accounted.step (h : Accounted start s) (hstep : RegisterStep s label t) :
    Accounted start t := by
  obtain ⟨successes, hnodup, hfinished, husers, hsessions⟩ := h
  have hstay : ∀ success ∈ successes, t.requests success.1 = some (.finished (.ok success.2)) :=
    fun success hsuccess => finished_step hstep (hfinished success hsuccess)
  cases hstep with
  | commits i registered hold =>
      refine ⟨successes ++ [(i, registered)], ?_, ?_, ?_, ?_⟩
      · refine nodup_append_row hnodup fun hmem => ?_
        obtain ⟨success, hsuccess, rfl⟩ := List.mem_map.mp hmem
        have hended := hfinished success hsuccess
        rw [hold] at hended
        cases hended
      · intro success hsuccess
        rcases List.mem_append.mp hsuccess with hsuccess | hsuccess
        · exact hstay success hsuccess
        · obtain rfl := List.mem_singleton.mp hsuccess
          exact Function.update_self ..
      · show s.store.users ++ _ = _
        rw [husers]
        simp
      · show s.store.sessions ++ _ = _
        rw [hsessions]
        simp
  | _ => exact ⟨successes, hnodup, hstay, husers, hsessions⟩

private theorem failed_step {i : Nat} {e : Exn} (hstep : RegisterStep s label t)
    (hfailed : t.requests i = some (.finished (.error e))) :
    s.requests i = some (.finished (.error e)) ∨ IsConflict e ∨ e = .cancelled ∨
      e = integrityError ∧ ¬ EntersFree s label := by
  obtain ⟨j, txn, hopen, hrequests, herror⟩ := hstep.request
  rw [hrequests] at hfailed
  by_cases hij : i = j
  · subst hij
    rw [Function.update_self, Option.some.injEq] at hfailed
    exact Or.inr (herror e hfailed)
  · rw [Function.update_of_ne hij] at hfailed
    exact Or.inl hfailed

theorem LosersConflict.step (h : LosersConflict s) (hok : EntersFree s label)
    (hstep : RegisterStep s label t) : LosersConflict t := by
  intro i e hfailed hlost
  rcases failed_step hstep hfailed with hold | hconflict | hcancelled | ⟨-, htaken⟩
  · exact h i e hold hlost
  · exact hconflict
  · exact absurd hcancelled hlost
  · exact absurd hok htaken

private theorem integrityError_of_taken (hstep : s.step svc label = some t)
    (hok : ¬ EntersFree s label) :
    ∃ i, t.requests i = some (.finished (.error integrityError)) := by
  cases label with
  | enterEmail i =>
      simp only [RegisterState.step] at hstep
      split at hstep
      · rename_i r hold
        split at hstep
        · cases hstep
        · split_ifs at hstep with htaken
          · cases hstep
            exact ⟨i, Function.update_self ..⟩
          · refine absurd (fun r' hr' => ?_) hok
            rw [hold, Option.some.injEq, RegisterTxn.inserting.injEq] at hr'
            subst hr'
            simpa using htaken
      · cases hstep
  | enterUsername i now =>
      simp only [RegisterState.step] at hstep
      split at hstep
      · rename_i r hold
        split at hstep
        · cases hstep
        · split_ifs at hstep with htaken
          · cases hstep
            exact ⟨i, Function.update_self ..⟩
          · refine absurd (fun r' hr' => ?_) hok
            rw [hold, Option.some.injEq, RegisterTxn.indexed.injEq] at hr'
            subst hr'
            simpa using htaken
      · cases hstep
  | _ => exact absurd trivial hok

theorem run_finished {labels : List RegisterLabel} {i : Nat} {result : Except Exn Registered}
    (hexec : exec (RegisterState.step svc) s labels = some t)
    (hfinished : s.requests i = some (.finished result)) :
    t.requests i = some (.finished result) :=
  exec_invariant'
    (fun _ _ _ h hstep => finished_step (registerStep_of_step hstep) h) hfinished hexec

private theorem not_losersConflict {i : Nat}
    (h : s.requests i = some (.finished (.error integrityError))) :
    ¬ LosersConflict s := by
  intro hlosers
  have hraised : integrityError ≠ .cancelled := by
    intro heq
    cases heq
  obtain ⟨message, code, heq⟩ := hlosers i _ h hraised
  cases heq

/--
However the statements of registrations interleave, emails and usernames stay unique and
only the successes leave rows; and every loser has raised a conflict exactly when each
`INSERT` of the run has found no committed row in its way.
-/
theorem registrations_settled {labels : List RegisterLabel} (hstart : UniqueUsers start)
    (hexec : exec (RegisterState.step svc) { store := start } labels = some s) :
    UniqueUsers s.store ∧ Accounted start s ∧
      (LosersConflict s ↔
        AllSteps EntersFree (RegisterState.step svc) { store := start } labels) := by
  have hindexed : Indexed s := by
    refine exec_invariant' (fun _ _ _ h hstep => ?_) (Indexed.initial hstart) hexec
    exact h.step (registerStep_of_step hstep)
  have haccounted : Accounted start s := by
    refine exec_invariant' (fun _ _ _ h hstep => ?_) ?_ hexec
    · exact h.step (registerStep_of_step hstep)
    · refine ⟨[], List.nodup_nil, ?_, (List.append_nil _).symm, (List.append_nil _).symm⟩
      intro success hsuccess
      cases hsuccess
  refine ⟨hindexed.uniqueUsers, haccounted, ?_, ?_⟩
  · intro hlosers
    rcases AllSteps.or_violation EntersFree hexec with
      hall | ⟨pre, label, post, u, v, -, -, -, hbad, hstep, hpost⟩
    · exact hall
    · obtain ⟨i, hfailed⟩ := integrityError_of_taken hstep hbad
      exact absurd hlosers (not_losersConflict (run_finished hpost hfailed))
  · intro hok
    refine exec_invariant (fun _ _ _ h hlabel hstep => ?_) ?_ hok hexec
    · exact LosersConflict.step h hlabel (registerStep_of_step hstep)
    · intro i e hfailed
      cases hfailed

end Run

/-! ## One registration alone -/

def registerLabels (i : Nat) (request : RegisterRequest) (context : DeviceContext) (salt : String)
    (ids : AuthIds) (now : Timestamp) : List RegisterLabel :=
  [.register i request context salt ids, .readEmail i, .readUsername i, .enterEmail i,
    .enterUsername i now, .openSession i now, .commit i]

/-- With no other transaction open, the statements of a request amount to `register`. -/
theorem register_alone {svc : AuthService} {s : RegisterState} {i : Nat}
    {request : RegisterRequest} {context : DeviceContext} {salt : String} {ids : AuthIds}
    {now : Timestamp} {response : AuthResponse} {store : AuthStore} (hidle : s.requests i = none)
    (hemails : ∀ email, s.emailOwner email = none)
    (husernames : ∀ username, s.usernameOwner username = none)
    (h : svc.register s.store request context salt ids now = .ok (response, store)) :
    ∃ t registered, exec (RegisterState.step svc) s
        (registerLabels i request context salt ids now) = some t ∧ t.store = store ∧
      t.requests i = some (.finished (.ok registered)) ∧ registered.response = response := by
  unfold AuthService.register at h
  obtain ⟨_, hvalid, h⟩ := bind_eq_ok h
  obtain ⟨passwordHash, hhash, h⟩ := bind_eq_ok h
  split_ifs at h with hemail husername
  obtain ⟨users, husers, h⟩ := bind_eq_ok h
  obtain ⟨⟨tokens, sessions⟩, hsessions, h⟩ := bind_eq_ok h
  cases h
  let r : Registration :=
    ⟨normalizeEmail svc.py request.email, normalizeUsername svc.py request.username, passwordHash,
      context, ids⟩
  have hprepare : svc.prepareRegistration request context salt ids = .ok r := by
    simp only [AuthService.prepareRegistration, hvalid, hhash]
    rfl
  -- both inserts append their row
  unfold addUser at husers
  split_ifs at husers
  obtain ⟨-, rfl⟩ := addRow_eq_ok.mp husers
  unfold AuthService.createSession at hsessions
  obtain ⟨rows, hrows, hsessions⟩ := bind_eq_ok hsessions
  obtain ⟨-, rfl⟩ := addSession_eq_ok hrows
  cases hsessions
  refine ⟨?_, svc.registered r (r.user now) now, ?exec, ?store, ?request, rfl⟩
  case exec =>
    simp [registerLabels, exec, RegisterState.step, RegisterState.set, hidle, hprepare, r, hemail,
      husername, hemails, husernames]
    rfl
  case store => rfl
  case request => exact Function.update_self ..

/-! ## Two registrations of one email -/

def raceRequest : RegisterRequest := ⟨"user@example.com", "astra_user", "secure-password"⟩

def otherRequest : RegisterRequest := ⟨" USER@example.com ", "other_user", "secure-password"⟩

def registrationsInTurn : List RegisterLabel :=
  [.register 0 raceRequest {} "$" ⟨1, 2, 3, 4, 5⟩, .readEmail 0, .readUsername 0, .enterEmail 0,
    .enterUsername 0 0, .openSession 0 0, .commit 0,
    .register 1 otherRequest {} "$" ⟨11, 12, 13, 14, 15⟩, .readEmail 1]

def RegisterLabel.isInsert : RegisterLabel → Bool
  | .enterEmail _ | .enterUsername .. => true
  | _ => false

private theorem entersFree_of_isEmpty {s : RegisterState} {label : RegisterLabel}
    (h : s.store.users.isEmpty = true ∨ label.isInsert = false) : EntersFree s label := by
  rcases h with hempty | hother
  · rw [List.isEmpty_iff] at hempty
    cases label <;> simp [EntersFree, hempty, getUserByEmail, getUserByUsername]
  · cases label <;> trivial

theorem registrations_settled_in_turn :
    ∃ s, exec (RegisterState.step demoService) {} registrationsInTurn = some s ∧
      s.store.users.map User.email = ["user@example.com"] ∧ UniqueUsers s.store ∧
      Accounted {} s ∧ LosersConflict s := by
  have husers : ((exec (RegisterState.step demoService) {} registrationsInTurn).map fun s =>
      s.store.users.map User.email) = some ["user@example.com"] := by decide +kernel
  obtain ⟨s, hexec, husers⟩ := Option.map_eq_some_iff.mp husers
  have hstart : UniqueUsers {} := ⟨List.nodup_nil, List.nodup_nil⟩
  obtain ⟨hunique, haccounted, hlosers⟩ := registrations_settled hstart hexec
  have hfree : AllSteps (fun (s : RegisterState) (label : RegisterLabel) =>
      s.store.users.isEmpty = true ∨ label.isInsert = false)
        (RegisterState.step demoService) {} registrationsInTurn := by decide +kernel
  exact ⟨s, hexec, husers, hunique, haccounted,
    hlosers.mpr (hfree.mono fun _ _ => entersFree_of_isEmpty)⟩

def RegisterTxn.raisedKind? : RegisterTxn → Option String
  | .finished (.error (.other kind _)) => some kind
  | _ => none

private theorem RegisterTxn.raisedKind?_eq_some {t : RegisterTxn} {kind : String}
    (h : t.raisedKind? = some kind) : ∃ message, t = .finished (.error (.other kind message)) := by
  unfold raisedKind? at h
  split at h
  · cases h
    exact ⟨_, rfl⟩
  · cases h

def racingRegistrations : List RegisterLabel :=
  [.register 0 raceRequest {} "$" ⟨1, 2, 3, 4, 5⟩,
    .register 1 otherRequest {} "$" ⟨11, 12, 13, 14, 15⟩, .readEmail 0, .readUsername 0,
    .readEmail 1, .readUsername 1, .enterEmail 0, .enterUsername 0 0, .openSession 0 0, .commit 0,
    .enterEmail 1]

/-- The second request fails with a raw `IntegrityError`. -/
theorem racing_registration_raises_integrityError :
    ∃ s message, exec (RegisterState.step demoService) {} racingRegistrations = some s ∧
      s.requests 1 = some (.finished (.error (.other "IntegrityError" message))) ∧
      ¬ LosersConflict s := by
  have hraised : ((exec (RegisterState.step demoService) {} racingRegistrations).bind fun s =>
      (s.requests 1).bind RegisterTxn.raisedKind?) = some "IntegrityError" := by decide +kernel
  obtain ⟨s, hexec, hkind⟩ := Option.bind_eq_some_iff.mp hraised
  obtain ⟨t, hfailed, hkind⟩ := Option.bind_eq_some_iff.mp hkind
  obtain ⟨message, rfl⟩ := RegisterTxn.raisedKind?_eq_some hkind
  refine ⟨s, message, hexec, hfailed, fun hlosers => ?_⟩
  obtain ⟨message', code, heq⟩ := hlosers 1 _ hfailed (by simp)
  cases heq

end Astra.Auth
