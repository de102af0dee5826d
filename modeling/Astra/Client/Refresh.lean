import Astra.Client.Session

/-!
# What a refresh does to the stored tokens

Two results over the runs of the client.  A refresh writes or clears the store only
while the store holds what it has read, as long as no session operation changes the store
in between; and a rotated refresh token is not sent again, as long as every reply that
rotates one either expires the session or is stored.
-/

namespace Astra.Client

open Astra.Foundation Astra.Platform

/-! ## Steps of the token session -/

def ClientState.emits (s : ClientState) (label : ClientLabel) : Option SessionLabel :=
  (s.move label).bind ClientMove.session

theorem client_projects :
    Projects ClientState.step TokenSession.step ClientState.session ClientState.emits := by
  intro s label t h
  simp only [ClientState.step, Option.bind_eq_some_iff] at h
  obtain ⟨move, hmove, h⟩ := h
  simp only [ClientState.emits, hmove, Option.bind_some]
  cases hsession : move.session with
  | none =>
      simp only [hsession, Option.some.injEq] at h
      simp [← h]
  | some label =>
      simp only [hsession, Option.map_eq_some_iff] at h
      obtain ⟨session, hstep, rfl⟩ := h
      exact hstep

def TokenSession.afterReply (c : TokenSession) (reply : RefreshReply) (tokens : AuthTokens) :
    TokenSession :=
  { c with rotated := if reply.rotates then tokens.refreshToken :: c.rotated else c.rotated }

inductive SessionStep (c : TokenSession) : SessionLabel → TokenSession → Prop
  | load (answer : StorageAnswer) :
      SessionStep c (.load answer) { c with store := (c.store.load answer).1 }
  | startRefresh (hfree : c.refresh = none) :
      SessionStep c .startRefresh { c with refresh := some c.startRefresh }
  | refreshLoaded (answer : StorageAnswer) (since : Nat) (stage : RefreshStage)
      (hold : c.refresh = some ⟨since, .loading⟩)
      (hstage : (∃ tokens, (c.store.load answer).2 = .ok tokens ∧ stage = .read tokens) ∨
        stage = .finished (.error .other)) :
      SessionStep c (.refreshLoaded answer)
        { c with store := (c.store.load answer).1, refresh := some ⟨c.changes, stage⟩ }
  | resumeEmpty (since : Nat) (hold : c.refresh = some ⟨since, .read none⟩) :
      SessionStep c .resumeRefresh (c.expire since none)
  | post (since : Nat) (tokens : AuthTokens)
      (hold : c.refresh = some ⟨since, .read (some tokens)⟩) :
      SessionStep c .resumeRefresh
        { c with
          refresh := some ⟨since, .posting tokens⟩
          sent := c.sent ++ [tokens.refreshToken] }
  | replyStores (reply : RefreshReply) (since : Nat) (tokens next : AuthTokens)
      (hold : c.refresh = some ⟨since, .posting tokens⟩) (houtcome : reply.outcome = .store next) :
      SessionStep c (.reply reply)
        { c.afterReply reply tokens with
          touched := true
          refresh := some ⟨since, .storing tokens next⟩ }
  | replyExpires (reply : RefreshReply) (since : Nat) (tokens : AuthTokens)
      (hold : c.refresh = some ⟨since, .posting tokens⟩) (houtcome : reply.outcome = .expire) :
      SessionStep c (.reply reply) ((c.afterReply reply tokens).expire since (some tokens))
  | replyRaises (reply : RefreshReply) (since : Nat) (tokens : AuthTokens) (error : RefreshError)
      (hold : c.refresh = some ⟨since, .posting tokens⟩)
      (houtcome : reply.outcome = .raise error) :
      SessionStep c (.reply reply)
        { c.afterReply reply tokens with refresh := some ⟨since, .finished (.error error)⟩ }
  | refreshStored (stores : Bool) (since : Nat) (tokens next : AuthTokens)
      (result : Except RefreshError (Option String))
      (hold : c.refresh = some ⟨since, .storing tokens next⟩) :
      SessionStep c (.refreshStored stores)
        { c with
          store := c.store.write next stores
          refresh := some ⟨since, .finished result⟩ }
  | refreshExpired (deletes : Bool) (since : Nat) (tokens : Option AuthTokens)
      (result : Except RefreshError (Option String))
      (hold : c.refresh = some ⟨since, .expiring tokens⟩) :
      SessionStep c (.refreshExpired deletes)
        { c with
          store := c.store.deleted deletes
          refresh := some ⟨since, .finished result⟩ }
  | completeRefresh (since : Nat) (result : Except RefreshError (Option String))
      (hold : c.refresh = some ⟨since, .finished result⟩) :
      SessionStep c .completeRefresh { c with refresh := none }
  | beginWrite : SessionStep c .beginWrite { c with touched := true }
  | write (tokens : AuthTokens) :
      SessionStep c (.write tokens true)
        { c with
          store := c.store.write tokens true
          changes := c.changes + 1
          touched := true
          loggedOut := false }
  | writeFails (tokens : AuthTokens) : SessionStep c (.write tokens false) c
  | clear (logout : Bool) :
      SessionStep c (.clear logout)
        { c with
          store := c.store.clear
          changes := c.changes + 1
          touched := true
          loggedOut := c.loggedOut || logout }
  | deleted (deletes : Bool) :
      SessionStep c (.deleted deletes) { c with store := c.store.deleted deletes, touched := true }

theorem sessionStep_of_step {c d : TokenSession} {label : SessionLabel}
    (h : c.step label = some d) : SessionStep c label d := by
  cases label with
  | load answer =>
      cases h
      exact .load answer
  | startRefresh =>
      simp only [TokenSession.step] at h
      split at h <;> cases h
      exact .startRefresh ‹_›
  | refreshLoaded answer =>
      simp only [TokenSession.step] at h
      split at h <;> cases h
      rename_i since hold
      refine .refreshLoaded answer since _ hold ?_
      cases hload : (c.store.load answer).2 with
      | ok tokens => exact Or.inl ⟨tokens, rfl, rfl⟩
      | error _ => exact Or.inr rfl
  | resumeRefresh =>
      simp only [TokenSession.step] at h
      split at h <;> cases h
      · exact .resumeEmpty _ ‹_›
      · exact .post _ _ ‹_›
  | reply reply =>
      simp only [TokenSession.step] at h
      split at h
      · split at h <;> cases h
        · exact .replyStores reply _ _ _ ‹_› ‹_›
        · exact .replyExpires reply _ _ ‹_› ‹_›
        · exact .replyRaises reply _ _ _ ‹_› ‹_›
      · cases h
  | refreshStored stores =>
      simp only [TokenSession.step] at h
      split at h <;> cases h
      exact .refreshStored stores _ _ _ _ ‹_›
  | refreshExpired deletes =>
      simp only [TokenSession.step] at h
      split at h <;> cases h
      exact .refreshExpired deletes _ _ _ ‹_›
  | completeRefresh =>
      simp only [TokenSession.step] at h
      split at h <;> cases h
      exact .completeRefresh _ _ ‹_›
  | beginWrite =>
      cases h
      exact .beginWrite
  | write tokens stores =>
      cases stores with
      | true =>
          cases h
          exact .write tokens
      | false =>
          cases h
          exact .writeFails tokens
  | clear logout =>
      cases h
      exact .clear logout
  | deleted deletes =>
      cases h
      exact .deleted deletes

/-! ## The first load -/

/-- The cache is what the storage holds, once it has been loaded. -/
def SecureTokenStore.Settled (store : SecureTokenStore) : Prop :=
  store.memoryCache = if store.hasLoaded then store.storage.tokens? else none

section Load

variable {store : SecureTokenStore}

/--
A load leaves the cache as the storage has it: unchanged when it comes late, and what it
returns otherwise.
-/
theorem load_spec (answer : StorageAnswer) (h : store.Settled) :
    (store.load answer).1.Settled ∧
      (store.hasLoaded = true →
        (store.load answer).1.memoryCache = store.memoryCache ∧
          (store.load answer).1.hasLoaded = true) ∧
      ∀ tokens, (store.load answer).2 = .ok tokens →
        (store.load answer).1.memoryCache = tokens ∧ (store.load answer).1.hasLoaded = true := by
  obtain ⟨storage, cache, loaded⟩ := store
  simp only [SecureTokenStore.Settled] at h
  subst h
  cases answer with
  | failed => cases loaded <;> simp [SecureTokenStore.load, SecureTokenStore.Settled]
  | value deletes =>
      cases storage with
      | missing =>
          cases loaded <;>
            simp [SecureTokenStore.load, SecureTokenStore.Settled, StoredValue.tokens?]
      | malformed =>
          cases loaded <;> cases deletes <;>
            simp [SecureTokenStore.load, SecureTokenStore.Settled, StoredValue.tokens?]
      | json value =>
          cases value with
          | obj fields =>
              cases htokens : AuthTokens.fromJson fields <;> cases loaded <;>
                simp [SecureTokenStore.load, SecureTokenStore.Settled, StoredValue.tokens?, htokens,
                  Except.toOption]
          | _ =>
              cases loaded <;> cases deletes <;>
                simp [SecureTokenStore.load, SecureTokenStore.Settled, StoredValue.tokens?]

end Load

/-! ## A refresh and the session operations -/

def RefreshStage.isOpen : RefreshStage → Bool
  | read _ | posting _ | storing _ _ => true
  | _ => false

/-- What the refresh has read from the store. -/
def RefreshStage.tokens : RefreshStage → Option AuthTokens
  | read tokens | expiring tokens => tokens
  | posting tokens | storing tokens _ => some tokens
  | _ => none

def RefreshStage.changesStore : RefreshStage → SessionLabel → Bool
  | read none, .resumeRefresh => true
  | posting _, .reply reply =>
      match reply.outcome with
      | .raise _ => false
      | _ => true
  | storing _ _, .refreshStored stores => stores
  | _, _ => false

def SessionLabel.loads : SessionLabel → Bool
  | load _ | refreshLoaded _ => true
  | _ => false

/-- The refresh writes or clears the store only while the store holds what it has read. -/
def KeepsDecision (c : TokenSession) (label : SessionLabel) : Prop :=
  ∀ r ∈ c.refresh, r.stage.changesStore label = true → c.store.memoryCache = r.stage.tokens

/--
No session operation has changed the store between the refresh's read and its own change,
and a first load is not overtaken by a write or a clear.
-/
def Undisturbed (c : TokenSession) (label : SessionLabel) : Prop :=
  (∀ r ∈ c.refresh, r.stage.changesStore label = true → c.changes = r.since) ∧
    (label.loads = true → c.touched = false)

instance (c : TokenSession) (label : SessionLabel) : Decidable (KeepsDecision c label) :=
  inferInstanceAs (Decidable (∀ r ∈ c.refresh, _))

instance (c : TokenSession) (label : SessionLabel) : Decidable (Undisturbed c label) :=
  inferInstanceAs (Decidable (_ ∧ _))

structure Tracked (c : TokenSession) : Prop where
  settled : c.touched = false → c.store.Settled
  since : ∀ since stage, c.refresh = some ⟨since, stage⟩ → since ≤ c.changes
  held : ∀ since stage, c.refresh = some ⟨since, stage⟩ → stage.isOpen = true →
    c.store.hasLoaded = true ∧ (c.changes = since → c.store.memoryCache = stage.tokens)
  expiring : ∀ since tokens, c.refresh = some ⟨since, .expiring tokens⟩ → c.touched = true
  out : c.loggedOut = true → c.touched = true ∧ c.store.memoryCache = none

private theorem isOpen_of_changesStore {stage : RefreshStage} {label : SessionLabel}
    (h : stage.changesStore label = true) : stage.isOpen = true := by
  cases stage <;> cases label <;> simp_all [RefreshStage.changesStore, RefreshStage.isOpen]

theorem Tracked.keepsDecision {c : TokenSession} {label : SessionLabel} (h : Tracked c)
    (hok : Undisturbed c label) : KeepsDecision c label := by
  rintro ⟨since, stage⟩ hr hchanges
  exact (h.held since stage hr (isOpen_of_changesStore hchanges)).2 (hok.1 _ hr hchanges)

section Tracked

variable {c d : TokenSession} {since : Nat} {old stage : RefreshStage}

@[simp] theorem deleted_memoryCache (store : SecureTokenStore) (deletes : Bool) :
    (store.deleted deletes).memoryCache = store.memoryCache := by
  cases deletes <;> rfl

@[simp] theorem deleted_hasLoaded (store : SecureTokenStore) (deletes : Bool) :
    (store.deleted deletes).hasLoaded = store.hasLoaded := by
  cases deletes <;> rfl

theorem Tracked.goesOn (h : Tracked c) (hold : c.refresh = some ⟨since, old⟩)
    (hrefresh : d.refresh = some ⟨since, stage⟩)
    (hstage : stage.isOpen = true → old.isOpen = true ∧ stage.tokens = old.tokens)
    (hexpiring : ∀ tokens, stage ≠ .expiring tokens)
    (hsettled : d.touched = false → d.store.Settled)
    (hcache : d.store.memoryCache = c.store.memoryCache)
    (hloaded : d.store.hasLoaded = c.store.hasLoaded) (hchanges : d.changes = c.changes)
    (hout : d.loggedOut = c.loggedOut) (htouched : c.touched = true → d.touched = true) :
    Tracked d := by
  refine ⟨hsettled, fun n stage' hr => ?_, fun n stage' hr hopen => ?_, fun n tokens hr => ?_,
    fun hlogout => ?_⟩
  · rw [hrefresh] at hr
    cases hr
    rw [hchanges]
    exact h.since since old hold
  · rw [hrefresh] at hr
    cases hr
    obtain ⟨hold', htokens⟩ := hstage hopen
    rw [hcache, hloaded, hchanges, htokens]
    exact h.held since old hold hold'
  · rw [hrefresh] at hr
    cases hr
    exact absurd rfl (hexpiring tokens)
  · rw [hcache]
    rw [hout] at hlogout
    exact ⟨htouched (h.out hlogout).1, (h.out hlogout).2⟩

theorem Tracked.expire (h : Tracked c) {tokens : Option AuthTokens}
    (hold : c.refresh = some ⟨since, old⟩) : Tracked (c.expire since tokens) := by
  refine ⟨by simp [TokenSession.expire], fun n stage hr => ?_, fun n stage hr hopen => ?_,
    fun _ _ _ => rfl, fun _ => ⟨rfl, rfl⟩⟩
  · cases hr
    exact h.since since old hold
  · cases hr
    cases hopen

theorem Tracked.changed (h : Tracked c) (hrefresh : d.refresh = c.refresh)
    (hchanges : d.changes = c.changes + 1) (htouched : d.touched = true)
    (hloaded : d.store.hasLoaded = true)
    (hout : d.loggedOut = true → d.store.memoryCache = none) : Tracked d := by
  have hlater (n : Nat) (stage : RefreshStage) (hr : d.refresh = some ⟨n, stage⟩) :
      n ≤ c.changes := h.since n stage (hrefresh ▸ hr)
  refine ⟨by simp [htouched], fun n stage hr => ?_, fun n stage hr _ => ⟨hloaded, fun hsince => ?_⟩,
    fun _ _ _ => htouched, fun hlogout => ⟨htouched, hout hlogout⟩⟩
  · have := hlater n stage hr
    omega
  · have := hlater n stage hr
    omega

theorem Tracked.load (h : Tracked c) (hnew : c.touched = false) (answer : StorageAnswer) :
    Tracked { c with store := (c.store.load answer).1 } := by
  obtain ⟨hsettled, hlate, -⟩ := load_spec answer (h.settled hnew)
  refine ⟨fun _ => hsettled, h.since, fun n stage hr hopen => ?_, h.expiring, fun hout => ?_⟩
  · obtain ⟨hloaded, hheld⟩ := h.held n stage hr hopen
    obtain ⟨hcache, hloaded'⟩ := hlate hloaded
    exact ⟨hloaded', fun hsince => hcache.trans (hheld hsince)⟩
  · exact absurd (h.out hout).1 (by simp [hnew])

theorem Tracked.startRefresh (h : Tracked c) :
    Tracked { c with refresh := some c.startRefresh } := by
  refine ⟨h.settled, fun n stage hr => ?_, fun n stage hr hopen => ?_, fun n tokens hr => ?_,
    h.out⟩
  · cases hr
    exact le_rfl
  · cases hr
    cases hloaded : c.store.hasLoaded <;>
      simp_all [RefreshStage.isOpen, RefreshStage.tokens]
  · simp only [TokenSession.startRefresh, Option.some.injEq, Refresh.mk.injEq] at hr
    split at hr <;> simp at hr

theorem Tracked.refreshLoaded (h : Tracked c) (hnew : c.touched = false) (answer : StorageAnswer)
    (hstage : (∃ tokens, (c.store.load answer).2 = .ok tokens ∧ stage = .read tokens) ∨
      stage = .finished (.error .other)) :
    Tracked { c with
      store := (c.store.load answer).1
      refresh := some ⟨c.changes, stage⟩ } := by
  obtain ⟨hsettled, -, hresult⟩ := load_spec answer (h.settled hnew)
  refine ⟨fun _ => hsettled, fun n stage' hr => ?_, fun n stage' hr hopen => ?_,
    fun n tokens hr => ?_, fun hout => ?_⟩
  · cases hr
    exact le_rfl
  · cases hr
    rcases hstage with ⟨tokens, hload, rfl⟩ | rfl
    · exact ⟨(hresult tokens hload).2, fun _ => (hresult tokens hload).1⟩
    · cases hopen
  · cases hr
    rcases hstage with ⟨_, _, hstage⟩ | hstage <;> cases hstage
  · exact absurd (h.out hout).1 (by simp [hnew])

theorem Tracked.stored (h : Tracked c) {tokens next : AuthTokens}
    {result : Except RefreshError (Option String)}
    (hold : c.refresh = some ⟨since, .storing tokens next⟩)
    (hkept : c.store.memoryCache = some tokens) :
    Tracked { c with
      store := c.store.write next true
      refresh := some ⟨since, .finished result⟩ } := by
  refine ⟨fun _ => ?_, fun n stage hr => ?_, fun n stage hr hopen => ?_, fun n tokens hr => ?_,
    fun hout => ?_⟩
  · simp [SecureTokenStore.Settled, SecureTokenStore.write, StoredValue.tokens?,
      AuthTokens.fromJson_toJson, Except.toOption]
  · cases hr
    exact h.since since _ hold
  · cases hr
    cases hopen
  · cases hr
  · rw [(h.out hout).2] at hkept
    cases hkept

theorem Tracked.step {label : SessionLabel} (h : Tracked c) (hok : Undisturbed c label)
    (hstep : SessionStep c label d) : Tracked d := by
  cases hstep with
  | load answer => exact h.load (hok.2 rfl) answer
  | startRefresh hfree => exact h.startRefresh
  | refreshLoaded answer since stage hold hstage => exact h.refreshLoaded (hok.2 rfl) answer hstage
  | resumeEmpty since hold => exact h.expire hold
  | post since tokens hold =>
      exact h.goesOn hold rfl (fun _ => ⟨rfl, rfl⟩) nofun h.settled rfl rfl rfl rfl id
  | replyStores reply since tokens next hold houtcome =>
      exact h.goesOn hold rfl (fun _ => ⟨rfl, rfl⟩) nofun (by simp) rfl rfl rfl rfl fun _ => rfl
  | replyExpires reply since tokens hold houtcome =>
      have hreply : Tracked (c.afterReply reply tokens) :=
        ⟨h.settled, h.since, h.held, h.expiring, h.out⟩
      exact hreply.expire hold
  | replyRaises reply since tokens error hold houtcome =>
      exact h.goesOn hold rfl nofun nofun h.settled rfl rfl rfl rfl id
  | refreshStored stores since tokens next result hold =>
      cases stores with
      | false => exact h.goesOn hold rfl nofun nofun h.settled rfl rfl rfl rfl id
      | true => exact h.stored hold (h.keepsDecision hok _ hold rfl)
  | refreshExpired deletes since tokens result hold =>
      have htouched := h.expiring since tokens hold
      exact h.goesOn hold rfl nofun nofun (by simp [htouched]) (by simp) (by simp) rfl rfl id
  | completeRefresh since result hold =>
      exact ⟨h.settled, by simp, by simp, by simp, h.out⟩
  | beginWrite =>
      exact ⟨by simp, h.since, h.held, fun _ _ _ => rfl, fun hout => ⟨rfl, (h.out hout).2⟩⟩
  | write tokens => exact h.changed rfl rfl rfl rfl (by simp)
  | writeFails tokens => exact h
  | clear logout => exact h.changed rfl rfl rfl rfl fun _ => rfl
  | deleted deletes =>
      refine ⟨by simp, h.since, fun n stage hr hopen => ?_, fun _ _ _ => rfl, fun hout => ?_⟩
      · simpa using h.held n stage hr hopen
      · simpa using (h.out hout).2

end Tracked

def ClientState.initial (storage : StoredValue) : ClientState where
  session := { store := { storage := storage } }

theorem Tracked.initial (storage : StoredValue) :
    Tracked (ClientState.initial storage).session := by
  constructor <;> simp [ClientState.initial, SecureTokenStore.Settled]

/-- A step of the client whose effect on the token session satisfies `ok`. -/
def OnSession (ok : TokenSession → SessionLabel → Prop) : ClientState → ClientLabel → Prop :=
  OnCore ClientState.session ClientState.emits ok

/--
In a run in which no session operation changes the store under a refresh, a refresh writes
or clears the store only while it holds what the refresh has read; and behind a logout the
store stays empty up to the next login or register.
-/
theorem refresh_keeps_decisions {storage : StoredValue} {labels : List ClientLabel}
    (hok : AllSteps (OnSession Undisturbed) ClientState.step (.initial storage) labels) :
    AllSteps (OnSession KeepsDecision) ClientState.step (.initial storage) labels ∧
      ∀ pre s, pre <+: labels → exec ClientState.step (.initial storage) pre = some s →
        s.session.loggedOut = true → s.session.store.memoryCache = none := by
  constructor
  · exact client_projects.allSteps (fun c b d h hok hstep => h.step hok (sessionStep_of_step hstep))
      (fun c b h hok => h.keepsDecision hok) (Tracked.initial storage) hok
  · rintro pre s ⟨post, rfl⟩ hpre hout
    have htracked : Tracked s.session :=
      client_projects.exec_invariant
        (fun c b d h hok hstep => h.step hok (sessionStep_of_step hstep))
        (Tracked.initial storage) (hok.append hpre).1 hpre
    exact (htracked.out hout).2

/-! ### A logout beside a refresh -/

def firstTokens : AuthTokens := ⟨"access-1", "refresh-1", "bearer", 900, 2592000⟩

def nextTokens : AuthTokens := ⟨"access-2", "refresh-2", "bearer", 900, 2592000⟩

def refreshBody (tokens : AuthTokens) : Json :=
  .obj [("success", .bool true), ("data", .obj [("tokens", .obj tokens.toJson)])]

def signedIn : StoredValue := .json (.obj firstTokens.toJson)

def refreshThenLogout : List ClientLabel :=
  [.request 0 "conversations" false, .attach 0 (.value true), .error 0 (some 401), .resumeRefresh,
    .reply (.answered (refreshBody nextTokens)), .refreshStored true, .completeRefresh, .resume 0,
    .start 0 .logout, .operationReply 0 .succeeded, .operationCleared 0 true]

theorem refresh_keeps_decisions_then_logout :
    AllSteps (OnSession KeepsDecision) ClientState.step (.initial signedIn) refreshThenLogout ∧
      ∀ pre s, pre <+: refreshThenLogout →
        exec ClientState.step (.initial signedIn) pre = some s →
        s.session.loggedOut = true → s.session.store.memoryCache = none :=
  refresh_keeps_decisions (by unfold OnSession; decide +kernel)

def logoutUnderRefresh : List ClientLabel :=
  [.request 0 "conversations" false, .attach 0 (.value true), .error 0 (some 401), .resumeRefresh,
    .start 0 .logout, .operationReply 0 .succeeded, .operationCleared 0 true,
    .reply (.answered (refreshBody nextTokens)), .refreshStored true]

/-- The refresh stores its pair behind the logout. -/
theorem logout_under_refresh_undone :
    ∃ s, exec ClientState.step (.initial signedIn) logoutUnderRefresh = some s ∧
      s.session.loggedOut = true ∧ s.session.store.memoryCache = some nextTokens ∧
      ¬ AllSteps (OnSession KeepsDecision) ClientState.step (.initial signedIn)
        logoutUnderRefresh := by
  have hbroken : ¬ AllSteps (OnSession KeepsDecision) ClientState.step (.initial signedIn)
      logoutUnderRefresh := by
    unfold OnSession
    decide +kernel
  have hrun : ((exec ClientState.step (.initial signedIn) logoutUnderRefresh).any fun s =>
      s.session.loggedOut && s.session.store.memoryCache == some nextTokens) = true := by
    decide +kernel
  obtain ⟨s, hexec, hend⟩ := (Option.any_eq_true _ _).mp hrun
  simp only [Bool.and_eq_true, beq_iff_eq] at hend
  exact ⟨s, hexec, hend.1, hend.2, hbroken⟩

/-! ## Rotated tokens -/

def RefreshStage.sends : RefreshStage → SessionLabel → Option AuthTokens
  | read tokens, .resumeRefresh => tokens
  | _, _ => none

/-- A refresh token that the server has rotated is not sent. -/
def NeverResends (c : TokenSession) (label : SessionLabel) : Prop :=
  ∀ r ∈ c.refresh, ∀ tokens ∈ r.stage.sends label, tokens.refreshToken ∉ c.rotated

/--
A reply that rotates the token expires the session or brings a pair with another refresh
token than those rotated so far, and that pair is stored.
-/
def RefreshStage.settles (rotated : List String) : RefreshStage → SessionLabel → Bool
  | posting tokens, .reply reply =>
      !reply.rotates ||
        match reply.outcome with
        | .store next => decide (next.refreshToken ∉ tokens.refreshToken :: rotated)
        | .expire => true
        | .raise _ => false
  | storing _ _, .refreshStored stores => stores
  | _, _ => true

def SessionLabel.written : SessionLabel → Option AuthTokens
  | write tokens true => some tokens
  | _ => none

/-- No rotated token stays in the store, or comes back into it. -/
def SettlesRotation (c : TokenSession) (label : SessionLabel) : Prop :=
  (∀ r ∈ c.refresh, r.stage.settles c.rotated label = true) ∧
    (∀ tokens ∈ label.written, tokens.refreshToken ∉ c.rotated) ∧
    (label.loads = true → c.touched = false)

instance (c : TokenSession) (label : SessionLabel) : Decidable (NeverResends c label) :=
  inferInstanceAs (Decidable (∀ r ∈ c.refresh, _))

instance (c : TokenSession) (label : SessionLabel) : Decidable (SettlesRotation c label) :=
  inferInstanceAs (Decidable (_ ∧ _ ∧ _))

structure Fresh (c : TokenSession) : Prop where
  cache : ∀ tokens, c.store.memoryCache = some tokens → tokens.refreshToken ∈ c.rotated →
    ∃ since old next, c.refresh = some ⟨since, .storing old next⟩
  read : ∀ since tokens, c.refresh = some ⟨since, .read (some tokens)⟩ →
    tokens.refreshToken ∉ c.rotated
  storing : ∀ since old next, c.refresh = some ⟨since, .storing old next⟩ →
    next.refreshToken ∉ c.rotated
  untouched : c.touched = false → c.rotated = []

private theorem Fresh.neverResends {c : TokenSession} {label : SessionLabel} (h : Fresh c) :
    NeverResends c label := by
  rintro ⟨since, stage⟩ hr tokens hsends
  cases stage <;> cases label <;> simp [RefreshStage.sends] at hsends
  subst hsends
  exact h.read since tokens hr

section Fresh

variable {c d : TokenSession} {since : Nat} {stage : RefreshStage}

private theorem rotates_of_store {reply : RefreshReply} {next : AuthTokens}
    (h : reply.outcome = .store next) : reply.rotates = true := by
  cases reply with
  | answered body => rfl
  | unreadable => rfl
  | rejected statusCode =>
      simp only [RefreshReply.outcome] at h
      split at h <;> cases h
  | failed => cases h

theorem Fresh.clean (h : Fresh c)
    (hnot : ∀ n old next, c.refresh ≠ some ⟨n, .storing old next⟩) :
    ∀ tokens, c.store.memoryCache = some tokens → tokens.refreshToken ∉ c.rotated := by
  intro tokens hcache hrotated
  obtain ⟨n, old, next, hr⟩ := h.cache tokens hcache hrotated
  exact hnot n old next hr

theorem Fresh.of_clean
    (hcache : ∀ tokens, d.store.memoryCache = some tokens → tokens.refreshToken ∉ d.rotated)
    (hread : ∀ n tokens, d.refresh ≠ some ⟨n, .read (some tokens)⟩)
    (hstoring : ∀ n old next, d.refresh ≠ some ⟨n, .storing old next⟩)
    (huntouched : d.touched = false → d.rotated = []) : Fresh d where
  cache := fun tokens htokens hrotated => absurd hrotated (hcache tokens htokens)
  read := fun n tokens hr => absurd hr (hread n tokens)
  storing := fun n old next hr => absurd hr (hstoring n old next)
  untouched := huntouched

theorem Fresh.startRefresh (h : Fresh c) (hfree : c.refresh = none) :
    Fresh { c with refresh := some c.startRefresh } := by
  have hclean := h.clean (by simp [hfree])
  refine ⟨fun tokens hcache hrotated => absurd hrotated (hclean tokens hcache),
    fun n tokens hr => ?_, fun n old next hr => ?_, h.untouched⟩
  · simp only [TokenSession.startRefresh, Option.some.injEq, Refresh.mk.injEq] at hr
    split at hr
    · simp only [RefreshStage.read.injEq] at hr
      exact hclean tokens hr.2
    · simp at hr
  · simp only [TokenSession.startRefresh, Option.some.injEq, Refresh.mk.injEq] at hr
    split at hr <;> simp at hr

theorem Fresh.step {label : SessionLabel} (h : Fresh c) (hok : SettlesRotation c label)
    (hstep : SessionStep c label d) : Fresh d := by
  obtain ⟨hsettles, hwritten, hloads⟩ := hok
  cases hstep with
  | load answer =>
      have hnone := h.untouched (hloads rfl)
      exact ⟨by simp [hnone], by simp [hnone], by simp [hnone], fun _ => hnone⟩
  | startRefresh hfree => exact h.startRefresh hfree
  | refreshLoaded answer since stage hold hstage =>
      have hnone := h.untouched (hloads rfl)
      exact ⟨by simp [hnone], by simp [hnone], by simp [hnone], fun _ => hnone⟩
  | resumeEmpty since hold =>
      exact .of_clean (by simp [TokenSession.expire, SecureTokenStore.clear])
        (by simp [TokenSession.expire]) (by simp [TokenSession.expire])
        (by simp [TokenSession.expire])
  | post since tokens hold =>
      exact .of_clean (h.clean (by simp [hold])) (by simp) (by simp) h.untouched
  | replyStores reply since tokens next hold houtcome =>
      have hsettled := hsettles _ hold
      refine ⟨fun tokens' _ _ => ⟨since, tokens, next, rfl⟩, by simp, fun n old next' hr => ?_,
        by simp⟩
      cases hr
      have hrotates := rotates_of_store houtcome
      simpa [RefreshStage.settles, TokenSession.afterReply, hrotates, houtcome] using hsettled
  | replyExpires reply since tokens hold houtcome =>
      exact .of_clean (by simp [TokenSession.expire, SecureTokenStore.clear])
        (by simp [TokenSession.expire]) (by simp [TokenSession.expire])
        (by simp [TokenSession.expire])
  | replyRaises reply since tokens error hold houtcome =>
      have hsettled := hsettles _ hold
      have hnot : reply.rotates = false := by
        simpa [RefreshStage.settles, houtcome] using hsettled
      refine .of_clean ?_ (by simp) (by simp) ?_
      · simpa [TokenSession.afterReply, hnot] using h.clean (by simp [hold])
      · simpa [TokenSession.afterReply, hnot] using h.untouched
  | refreshStored stores since tokens next result hold =>
      obtain rfl : stores = true := by
        simpa [RefreshStage.settles] using hsettles _ hold
      refine .of_clean (fun tokens' hcache => ?_) (by simp) (by simp) h.untouched
      cases hcache
      exact h.storing since tokens next hold
  | refreshExpired deletes since tokens result hold =>
      exact .of_clean (by simpa using h.clean (by simp [hold])) (by simp) (by simp) h.untouched
  | completeRefresh since result hold =>
      exact .of_clean (h.clean (by simp [hold])) (by simp) (by simp) h.untouched
  | beginWrite => exact ⟨h.cache, h.read, h.storing, by simp⟩
  | write tokens =>
      have hnew := hwritten tokens rfl
      refine ⟨fun tokens' hcache hrotated => ?_, h.read, h.storing, by simp⟩
      cases hcache
      exact absurd hrotated hnew
  | writeFails tokens => exact h
  | clear logout => exact ⟨by simp [SecureTokenStore.clear], h.read, h.storing, by simp⟩
  | deleted deletes => exact ⟨by simpa using h.cache, h.read, h.storing, by simp⟩

end Fresh

theorem Fresh.initial (storage : StoredValue) : Fresh (ClientState.initial storage).session := by
  constructor <;> simp [ClientState.initial]

/--
In a run in which every reply that rotates a token expires the session or is stored with a
new one, and nothing else brings a rotated token back, no rotated token is sent again.
-/
theorem rotated_never_resent {storage : StoredValue} {labels : List ClientLabel}
    (hok : AllSteps (OnSession SettlesRotation) ClientState.step (.initial storage) labels) :
    AllSteps (OnSession NeverResends) ClientState.step (.initial storage) labels :=
  client_projects.allSteps (fun _ _ _ h hok hstep => h.step hok (sessionStep_of_step hstep))
    (fun _ _ h _ => h.neverResends) (Fresh.initial storage) hok

/-! ### Two refreshes in turn -/

def refreshTwice (body : Json) (stored : List ClientLabel) : List ClientLabel :=
  [.request 0 "conversations" false, .attach 0 (.value true), .error 0 (some 401), .resumeRefresh,
    .reply (.answered body)] ++ stored ++ [.completeRefresh, .resume 0,
    .request 1 "characters" false, .error 1 (some 401), .resumeRefresh]

theorem rotated_never_resent_twice :
    AllSteps (OnSession NeverResends) ClientState.step (.initial signedIn)
      (refreshTwice (refreshBody nextTokens) [.refreshStored true]) :=
  rotated_never_resent (by unfold OnSession; decide +kernel)

def emptyTokens : Json :=
  .obj [("success", .bool true), ("data", .obj [("tokens", .obj [])])]

theorem malformed_reply_resends :
    ∃ s, exec ClientState.step (.initial signedIn) (refreshTwice emptyTokens []) = some s ∧
      s.session.rotated = ["refresh-1"] ∧ s.session.sent = ["refresh-1", "refresh-1"] ∧
      ¬ AllSteps (OnSession NeverResends) ClientState.step (.initial signedIn)
        (refreshTwice emptyTokens []) := by
  have hbroken : ¬ AllSteps (OnSession NeverResends) ClientState.step (.initial signedIn)
      (refreshTwice emptyTokens []) := by
    unfold OnSession
    decide +kernel
  have hrun : ((exec ClientState.step (.initial signedIn) (refreshTwice emptyTokens [])).any
      fun s => s.session.rotated == ["refresh-1"] &&
        s.session.sent == ["refresh-1", "refresh-1"]) = true := by
    decide +kernel
  obtain ⟨s, hexec, hend⟩ := (Option.any_eq_true _ _).mp hrun
  simp only [Bool.and_eq_true, beq_iff_eq] at hend
  exact ⟨s, hexec, hend.1, hend.2, hbroken⟩

end Astra.Client
