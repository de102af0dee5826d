import Astra.Auth.Refresh
import Astra.Client.Envelope
import Astra.Client.Refresh

/-!
# Staying signed in

The client with its token store and `AuthInterceptor` against the authentication service,
which serves others in between.  A pair of tokens is renewed again and again; the client and
the service have to agree on the last one.
-/

namespace Astra.Client

open Astra.Foundation Astra.Platform Astra.Auth Astra.Chat

/-! ## The refresh over the wire -/

def AuthTokens.ofResponse (tokens : TokenPairResponse) : AuthTokens where
  accessToken := tokens.accessToken
  refreshToken := tokens.refreshToken
  tokenType := tokens.tokenType
  accessExpiresIn := tokens.accessExpiresIn
  refreshExpiresIn := tokens.refreshExpiresIn

def RefreshReply.ofReply (rt : ClientRuntime) (reply : Nat × String) : RefreshReply :=
  match receiveReply rt .json reply.1 reply.2 with
  | .ok response =>
      match response.data with
      | some body => .answered body
      | none => .unreadable
  | .error e =>
      match e.response with
      | some response => .rejected response.statusCode
      | none => if 200 ≤ reply.1 ∧ reply.1 < 300 then .unreadable else .failed

structure SignInSite where
  service : AuthService
  wire : ClientRuntime
  deviceName : String
  errors : RefreshTokenRequest → List ErrorDetails

/-- The libraries behave, and what one side sends is in the range of the other. -/
structure SignInSite.Fits (site : SignInSite) : Prop where
  libraries : TokenLibraries site.service.tokenService
  tokens : ∀ payload, 20 ≤ (site.service.tokenService.jwt.encode payload).length
  device : site.deviceName.length ≤ 120
  access : int64 site.service.tokenService.accessExpiresIn = true
  refresh : int64 site.service.tokenService.refreshExpiresIn = true

section Wire

variable {rt : ClientRuntime}

private theorem portable_dumpTime (timestamp : Option Timestamp) :
    Portable rt.floats (dumpTime rt.toWireRuntime timestamp) := by
  cases timestamp
  · exact .null
  · exact .str _

private theorem portable_authDump {response : AuthResponse}
    (haccess : int64 response.tokens.accessExpiresIn = true)
    (hrefresh : int64 response.tokens.refreshExpiresIn = true) :
    Portable rt.floats (.obj (okBody (.obj (authDump rt.toWireRuntime response)))) := by
  have huser : Portable rt.floats (.obj (userDump rt.toWireRuntime response.user)) := by
    refine .obj _ (show ["id", "email", "username", "is_active", "is_verified", "last_login_at",
      "created_at", "updated_at"].Nodup by decide) ?_
    simp only [userDump, List.forall_mem_cons, List.not_mem_nil, false_imp_iff, implies_true,
      and_true]
    exact ⟨.str _, .str _, .str _, .bool _, .bool _, portable_dumpTime _, .str _, .str _⟩
  have htokens : Portable rt.floats (.obj (tokenPairDump response.tokens)) := by
    refine .obj _ (show ["access_token", "refresh_token", "token_type", "access_expires_in",
      "refresh_expires_in"].Nodup by decide) ?_
    simp only [tokenPairDump, List.forall_mem_cons, List.not_mem_nil, false_imp_iff, implies_true,
      and_true]
    exact ⟨.str _, .str _, .str _, .int _ haccess, .int _ hrefresh⟩
  have hauth : Portable rt.floats (.obj (authDump rt.toWireRuntime response)) := by
    refine .obj _ (show ["user", "tokens"].Nodup by decide) ?_
    simp only [authDump, List.forall_mem_cons, List.not_mem_nil, false_imp_iff, implies_true,
      and_true]
    exact ⟨huser, htokens⟩
  refine .obj _ (show ["success", "data", "error"].Nodup by decide) ?_
  simp only [okBody, List.forall_mem_cons, List.not_mem_nil, false_imp_iff, implies_true, and_true]
  exact ⟨.bool _, hauth, .null⟩

private theorem outcome_authReply {response : AuthResponse}
    (haccess : int64 response.tokens.accessExpiresIn = true)
    (hrefresh : int64 response.tokens.refreshExpiresIn = true) :
    (RefreshReply.ofReply rt (authReply rt.toWireRuntime (.ok response))).outcome =
      .store (.ofResponse response.tokens) := by
  have hportable : Portable rt.floats
      (.obj (okBody (.obj (authDump rt.toWireRuntime response)))) :=
    portable_authDump haccess hrefresh
  simp only [RefreshReply.ofReply, authReply,
    receiveReply_ok (jsonDecode_compactDumps hportable)]
  rfl

end Wire

/-! ## The system -/

/--
`reply` is under way to the client; `handed` are the pairs that the service has handed out
to this client with the clock readings, the last one first.
-/
structure SignedInWorld where
  server : AuthState
  client : ClientState
  reply : Option RefreshReply := none
  handed : List (TokenPairResponse × Timestamp)

inductive SignedInLabel where
  | call (label : AuthLabel)
  | client (label : ClientLabel)
  | served (device : DeviceContext) (ids : AuthIds) (now : Timestamp)
  | arrived
  | refused (statusCode : Nat)
  | lost
  /-- The app is closed and started again. -/
  | restarted

def ClientState.posting (s : ClientState) : Option AuthTokens :=
  match s.session.refresh with
  | some ⟨_, .posting tokens⟩ => some tokens
  | _ => none

def SessionLabel.keepsPair : SessionLabel → Bool
  | refreshStored stores => stores
  | reply _ | beginWrite | write .. | clear _ | deleted _ => false
  | _ => true

/-- The pair may have changed on the server but not in the store. -/
def RefreshStage.inExchange : RefreshStage → Bool
  | posting _ | storing .. => true
  | _ => false

namespace SignedInWorld

def step (site : SignInSite) (w : SignedInWorld) : SignedInLabel → Option SignedInWorld
  | .call label => (w.server.step site.service label).map fun server => { w with server := server }
  | .client (.reply _) => none
  | .client label => (w.client.step label).map fun client => { w with client := client }
  | .served device ids now =>
      match w.client.posting, w.reply with
      | some tokens, none =>
          (site.service.refresh site.errors w.server
              { refreshToken := tokens.refreshToken, deviceName := some site.deviceName }
              device ids now).map fun result =>
            { w with
              server := result.2
              reply := some (.ofReply site.wire (authReply site.wire.toWireRuntime result.1))
              handed :=
                match result.1 with
                | .ok response => (response.tokens, now) :: w.handed
                | .error _ => w.handed }
      | _, _ => none
  | .arrived =>
      match w.reply with
      | some reply =>
          (w.client.step (.reply reply)).map fun client =>
            { w with client := client, reply := none }
      | none => none
  | .refused statusCode =>
      match w.reply with
      | some _ => none
      | none =>
          (w.client.step (.reply (.rejected statusCode))).map fun client =>
            { w with client := client }
  | .lost =>
      (w.client.step (.reply .failed)).map fun client => { w with client := client, reply := none }
  | .restarted =>
      some { w with client := .initial w.client.session.store.storage, reply := none }

/--
Nobody else uses the tokens of the family or logs the user out everywhere.  The client runs
no session operation, and its first read of the storage is over before anything is written.
A pair is renewed in its time, and stored once it is renewed.
-/
def Undisturbed (site : SignInSite) (userId familyId : UUID) (w : SignedInWorld) :
    SignedInLabel → Prop
  | .call label => LeavesFamily site.service w.server userId familyId label.call
  | .client label => ∀ emitted, w.client.emits label = some emitted →
      emitted.keepsPair = true ∧ (emitted.loads = true → w.client.session.touched = false)
  | .served _ _ now => ∀ last ∈ w.handed.head?,
      last.2 ≤ now ∧ now < site.service.refreshExpiry last.2
  | .arrived => True
  | .refused statusCode => statusCode ≠ 401 ∧ statusCode ≠ 403
  | .lost => w.reply = none
  | .restarted => ∀ r ∈ w.client.session.refresh, r.stage.inExchange = false

def started (server : AuthState) (tokens : TokenPairResponse) (now : Timestamp) :
    SignedInWorld where
  server := server
  client := .initial (.json (.obj (AuthTokens.ofResponse tokens).toJson))
  handed := [(tokens, now)]

end SignedInWorld

/-! ## The pair on the client -/

def StoresPair (store : SecureTokenStore) (stored : AuthTokens) : Prop :=
  store.storage = .json (.obj stored.toJson) ∧
    store.memoryCache = if store.hasLoaded then some stored else none

/--
Where the last pair is: in the store, on its way to the client, or about to be stored.  The
session is not being expired.
-/
def LastPair (stored last : AuthTokens) (reply : Option RefreshReply) :
    Option RefreshStage → Prop
  | none | some .loading => stored = last ∧ reply = none
  | some (.read tokens) => tokens = some stored ∧ stored = last ∧ reply = none
  | some (.posting tokens) => tokens = stored ∧
      match reply with
      | none => stored = last
      | some reply => reply.outcome = .store last
  | some (.storing _ next) => next = last ∧ reply = none
  | some (.expiring _) => False
  | some (.finished result) => stored = last ∧ reply = none ∧
      ∀ accessToken, result = .ok accessToken → accessToken = some last.accessToken

section Session

variable {c d : TokenSession} {store : SecureTokenStore} {stored last : AuthTokens}
  {reply : Option RefreshReply} {label : SessionLabel}

theorem StoresPair.load (h : StoresPair store stored) (answer : StorageAnswer) :
    StoresPair (store.load answer).1 stored ∧
      ∀ tokens, (store.load answer).2 = .ok tokens → tokens = some stored := by
  obtain ⟨hstorage, hcache⟩ := h
  cases answer with
  | failed => exact ⟨⟨hstorage, hcache⟩, by rintro tokens ⟨⟩⟩
  | value deletes =>
      have hload : store.load (.value deletes) =
          ({ store with hasLoaded := true, memoryCache := some stored }, .ok (some stored)) := by
        simp only [SecureTokenStore.load, hstorage, AuthTokens.fromJson_toJson]
      rw [hload]
      exact ⟨⟨hstorage, rfl⟩, by rintro tokens ⟨⟩; rfl⟩

theorem StoresPair.cache (h : StoresPair store stored) {tokens : AuthTokens}
    (htokens : store.memoryCache = some tokens) : tokens = stored := by
  rw [h.2] at htokens
  split at htokens
  · exact (Option.some.inj htokens).symm
  · cases htokens

theorem LastPair.step (hstore : StoresPair c.store stored)
    (h : LastPair stored last reply (c.refresh.map Refresh.stage))
    (hlabel : label.keepsPair = true) (hstep : c.step label = some d) :
    ∃ stored', (stored' = stored ∨ stored' = last) ∧ StoresPair d.store stored' ∧
      LastPair stored' last reply (d.refresh.map Refresh.stage) := by
  cases label with
  | load answer =>
      cases hstep
      exact ⟨stored, Or.inl rfl, (hstore.load answer).1, h⟩
  | startRefresh =>
      simp only [TokenSession.step] at hstep
      split at hstep <;> cases hstep
      rename_i hfree
      rw [hfree] at h
      refine ⟨stored, Or.inl rfl, hstore, ?_⟩
      cases hloaded : c.store.hasLoaded <;>
        simp_all [TokenSession.startRefresh, StoresPair, LastPair]
  | refreshLoaded answer =>
      simp only [TokenSession.step] at hstep
      split at hstep <;> cases hstep
      rename_i since hold
      rw [hold] at h
      obtain ⟨hstore', hread⟩ := hstore.load answer
      refine ⟨stored, Or.inl rfl, hstore', ?_⟩
      cases hload : (c.store.load answer).2 with
      | ok tokens => exact ⟨hread tokens hload, h⟩
      | error e => exact ⟨h.1, h.2, by rintro accessToken ⟨⟩⟩
  | resumeRefresh =>
      simp only [TokenSession.step] at hstep
      split at hstep <;> cases hstep
      · rename_i since hold
        rw [hold] at h
        cases h.1
      · rename_i since tokens hold
        rw [hold] at h
        obtain ⟨htokens, hlast, rfl⟩ := h
        exact ⟨stored, Or.inl rfl, hstore, Option.some.inj htokens, hlast⟩
  | refreshStored stores =>
      obtain rfl : stores = true := hlabel
      simp only [TokenSession.step] at hstep
      split at hstep <;> cases hstep
      rename_i since tokens next hold
      rw [hold] at h
      obtain ⟨rfl, rfl⟩ := h
      exact ⟨next, Or.inr rfl, ⟨rfl, rfl⟩, rfl, rfl, by rintro accessToken ⟨⟩; rfl⟩
  | refreshExpired deletes =>
      simp only [TokenSession.step] at hstep
      split at hstep <;> cases hstep
      rename_i since tokens hold
      rw [hold] at h
      cases h
  | completeRefresh =>
      simp only [TokenSession.step] at hstep
      split at hstep <;> cases hstep
      rename_i since result hold
      rw [hold] at h
      exact ⟨stored, Or.inl rfl, hstore, h.1, h.2.1⟩
  | _ => cases hlabel

theorem LastPair.arrived {arriving : RefreshReply} (hstore : StoresPair c.store stored)
    (h : LastPair stored last (some arriving) (c.refresh.map Refresh.stage))
    (hstep : c.step (.reply arriving) = some d) :
    StoresPair d.store stored ∧ LastPair stored last none (d.refresh.map Refresh.stage) := by
  have hlast (since : Nat) (tokens : AuthTokens)
      (hold : c.refresh = some ⟨since, .posting tokens⟩) : arriving.outcome = .store last := by
    rw [hold] at h
    exact h.2
  cases sessionStep_of_step hstep with
  | replyStores _ since tokens next hold houtcome =>
      obtain rfl : next = last := by
        have hsame := houtcome.symm.trans (hlast since tokens hold)
        cases hsame
        rfl
      exact ⟨hstore, rfl, rfl⟩
  | replyExpires _ since tokens hold houtcome =>
      have hsame := houtcome.symm.trans (hlast since tokens hold)
      cases hsame
  | replyRaises _ since tokens error hold houtcome =>
      have hsame := houtcome.symm.trans (hlast since tokens hold)
      cases hsame

theorem LastPair.raised {arriving : RefreshReply} {error : RefreshError}
    (hraises : arriving.outcome = .raise error) (hstore : StoresPair c.store stored)
    (h : LastPair stored last none (c.refresh.map Refresh.stage))
    (hstep : c.step (.reply arriving) = some d) :
    StoresPair d.store stored ∧ LastPair stored last none (d.refresh.map Refresh.stage) := by
  cases sessionStep_of_step hstep with
  | replyStores _ since tokens next hold houtcome =>
      rw [hraises] at houtcome
      cases houtcome
  | replyExpires _ since tokens hold houtcome =>
      rw [hraises] at houtcome
      cases houtcome
  | replyRaises _ since tokens error' hold houtcome =>
      rw [hold] at h
      exact ⟨hstore, h.2, rfl, by rintro accessToken ⟨⟩⟩

end Session

/-! ## The headers of the requests -/

def Carried (handed : List (TokenPairResponse × Timestamp)) (accessToken : String) : Prop :=
  ∃ pair ∈ handed, pair.1.accessToken = accessToken

/-- The header of a request, and the token that it is to be sent again with. -/
structure RequestCarries (handed : List (TokenPairResponse × Timestamp)) (options : RequestOptions)
    (stage : RequestStage) : Prop where
  header : ∀ value, options.authorization = some value →
    ∃ accessToken, Carried handed accessToken ∧ value = "Bearer " ++ accessToken
  refreshed : ∀ result, stage = .refreshed (.ok result) →
    ∃ accessToken, Carried handed accessToken ∧ result = some accessToken

def RequestsCarry (handed : List (TokenPairResponse × Timestamp))
    (requests : Nat → Option (RequestOptions × RequestStage)) : Prop :=
  ∀ i options stage, requests i = some (options, stage) → RequestCarries handed options stage

section Requests

variable {handed handed' : List (TokenPairResponse × Timestamp)} {s : ClientState}
  {options : RequestOptions} {stage old : RequestStage} {next : ClientMove} {label : ClientLabel}
  {stored last : AuthTokens} {reply : Option RefreshReply}

theorem RequestsCarry.mono {requests : Nat → Option (RequestOptions × RequestStage)}
    (h : RequestsCarry handed requests) (hsub : ∀ pair ∈ handed, pair ∈ handed') :
    RequestsCarry handed' requests := by
  have hcarried (accessToken : String) :
      Carried handed accessToken → Carried handed' accessToken := by
    rintro ⟨pair, hpair, rfl⟩
    exact ⟨pair, hsub pair hpair, rfl⟩
  intro i options stage hi
  obtain ⟨hheader, hrefreshed⟩ := h i options stage hi
  refine ⟨fun value hvalue => ?_, fun result hresult => ?_⟩
  · obtain ⟨accessToken, htoken, rfl⟩ := hheader value hvalue
    exact ⟨accessToken, hcarried _ htoken, rfl⟩
  · obtain ⟨accessToken, htoken, rfl⟩ := hrefreshed result hresult
    exact ⟨accessToken, hcarried _ htoken, rfl⟩

theorem RequestCarries.goesOn (h : RequestCarries handed options old)
    (hstage : ∀ result, stage ≠ .refreshed (.ok result)) : RequestCarries handed options stage :=
  ⟨h.header, fun result hresult => absurd hresult (hstage result)⟩

theorem RequestCarries.attach (h : RequestCarries handed options old)
    (hstage : ∀ result, stage ≠ .refreshed (.ok result)) {tokens : Option AuthTokens}
    (htokens : ∀ pair, tokens = some pair → Carried handed pair.accessToken) :
    RequestCarries handed (options.attach tokens) stage := by
  cases tokens with
  | none => exact h.goesOn hstage
  | some pair =>
      refine ⟨?_, fun result hresult => absurd hresult (hstage result)⟩
      rintro value ⟨⟩
      exact ⟨pair.accessToken, htokens pair rfl, rfl⟩

theorem RequestsCarry.moveRequest (h : RequestsCarry handed s.requests) (i : Nat)
    (session : Option SessionLabel) (hrequest : RequestCarries handed options stage) :
    RequestsCarry handed (s.moveRequest i options stage session).requests := by
  intro j options' stage' hj
  simp only [ClientState.moveRequest, Function.update_apply] at hj
  split at hj
  · cases hj
    exact hrequest
  · exact h j options' stage' hj

theorem RequestsCarry.onRequest (h : RequestsCarry handed s.requests)
    (hstore : StoresPair s.session.store stored) (hstored : Carried handed stored.accessToken)
    (i : Nat) (hrequest : RequestCarries handed options old) :
    RequestsCarry handed (s.onRequest i options).requests := by
  unfold ClientState.onRequest
  split
  · exact h.moveRequest i none (hrequest.goesOn nofun)
  · split
    · refine h.moveRequest i none (hrequest.attach (by nofun) ?_)
      intro pair hpair
      rw [hstore.cache hpair]
      exact hstored
    · exact h.moveRequest i none (hrequest.goesOn nofun)

theorem RequestsCarry.onError (h : RequestsCarry handed s.requests) (i : Nat)
    (statusCode : Option Nat) (hrequest : RequestCarries handed options old) :
    RequestsCarry handed (s.onError i options statusCode).requests := by
  unfold ClientState.onError
  split
  · exact h.moveRequest i none (hrequest.goesOn nofun)
  · exact h.moveRequest i _ (hrequest.goesOn nofun)

theorem RequestsCarry.afterRefresh (h : RequestsCarry handed s.requests)
    (hstore : StoresPair s.session.store stored) (hstored : Carried handed stored.accessToken)
    (i : Nat) {result : Except RefreshError (Option String)}
    (hrequest : RequestCarries handed options (.refreshed result)) :
    RequestsCarry handed (s.afterRefresh i options result).requests := by
  cases result with
  | ok accessToken =>
      obtain ⟨accessToken, htoken, rfl⟩ := hrequest.refreshed _ rfl
      have hretried : RequestCarries handed
          { options with retried := true, authorization := some ("Bearer " ++ accessToken) }
          .sent := by
        refine ⟨?_, nofun⟩
        rintro value ⟨⟩
        exact ⟨accessToken, htoken, rfl⟩
      exact h.onRequest hstore hstored i hretried
  | error e => cases e <;> exact h.moveRequest i none (hrequest.goesOn nofun)

private theorem start_requests (i : Nat) (operation : Operation) :
    (s.start i operation).requests = s.requests := by
  unfold ClientState.start
  split
  · rfl
  · rfl
  · rfl
  · split <;> rfl
  · split <;> rfl

private theorem onReply_requests (i : Nat) (operation : Operation) (tokens : Option AuthTokens)
    (reply : OperationReply) : (s.onReply i operation tokens reply).requests = s.requests := by
  unfold ClientState.onReply
  split
  case h_5 => split <;> rfl
  all_goals rfl

theorem RequestsCarry.move (h : RequestsCarry handed s.requests)
    (hstore : StoresPair s.session.store stored) (hstored : Carried handed stored.accessToken)
    (hlast : LastPair stored last reply (s.session.refresh.map Refresh.stage))
    (hmove : s.move label = some next) : RequestsCarry handed next.requests := by
  cases label with
  | request i path skipAuth =>
      simp only [ClientState.move] at hmove
      split at hmove <;> cases hmove
      have hnew : RequestCarries handed { path, skipAuth } .sent := ⟨nofun, nofun⟩
      exact h.onRequest hstore hstored i hnew
  | attach i answer =>
      simp only [ClientState.move] at hmove
      split at hmove
      · rename_i options hrequest
        have hold := h i options _ hrequest
        split at hmove <;> cases hmove
        · rename_i tokens hload
          refine h.moveRequest i _ (hold.attach (by nofun) ?_)
          intro pair hpair
          have hread := (hstore.load answer).2 tokens hload
          rw [hpair] at hread
          rw [Option.some.inj hread]
          exact hstored
        · exact h.moveRequest i _ (hold.goesOn nofun)
      · cases hmove
  | response i =>
      simp only [ClientState.move] at hmove
      split at hmove <;> cases hmove
      rename_i options hrequest
      exact h.moveRequest i none ((h i options _ hrequest).goesOn nofun)
  | error i statusCode =>
      simp only [ClientState.move] at hmove
      split at hmove <;> cases hmove
      rename_i options hrequest
      exact h.onError i statusCode (h i options _ hrequest)
  | resume i =>
      simp only [ClientState.move] at hmove
      split at hmove <;> cases hmove
      rename_i options result hrequest
      exact h.afterRefresh hstore hstored i (h i options _ hrequest)
  | completeRefresh =>
      simp only [ClientState.move] at hmove
      split at hmove <;> cases hmove
      rename_i since result hold
      rw [hold] at hlast
      obtain ⟨rfl, -, hresult⟩ := hlast
      intro i options stage hi
      simp only [ClientState.completeRefresh] at hi
      split at hi
      · rename_i options' hrequest
        cases hi
        refine ⟨(h i options _ hrequest).header, ?_⟩
        rintro accessToken ⟨⟩
        exact ⟨stored.accessToken, hstored, hresult accessToken rfl⟩
      · exact h i options stage hi
  | refreshLoaded _ | resumeRefresh | reply _ | refreshStored _ | refreshExpired _ =>
      cases hmove
      exact h
  | start i operation =>
      simp only [ClientState.move] at hmove
      split at hmove <;> cases hmove
      rwa [start_requests]
  | operationLoaded i answer =>
      simp only [ClientState.move] at hmove
      split at hmove
      · split at hmove <;> cases hmove <;> exact h
      · cases hmove
  | operationReply i reply =>
      simp only [ClientState.move] at hmove
      split at hmove <;> cases hmove
      rwa [onReply_requests]
  | operationStored i _ | operationCleared i _ =>
      simp only [ClientState.move] at hmove
      split at hmove <;> cases hmove
      exact h

end Requests

/-! ## Runs -/

structure SignedIn (site : SignInSite) (userId familyId : UUID) (w : SignedInWorld) : Prop where
  serves : Serves userId w.server
  handed : ∀ pair ∈ w.handed, ∃ jti,
    pair.1.accessToken = site.service.tokenService.createAccessToken userId jti pair.2
  requests : RequestsCarry w.handed w.client.requests
  agrees : ∃ last earlier stored, w.handed = last :: earlier ∧ stored ∈ w.handed ∧
    Renewable site.service w.server.store userId familyId last.2 last.1 ∧
    StoresPair w.client.session.store (.ofResponse stored.1) ∧
    LastPair (.ofResponse stored.1) (.ofResponse last.1) w.reply
      (w.client.session.refresh.map Refresh.stage)

section Runs

variable {site : SignInSite} {userId familyId : UUID} {w w' : SignedInWorld}
  {client : ClientState}

private theorem requests_of_step {s t : ClientState} {label : ClientLabel}
    (h : s.step label = some t) :
    ∃ next, s.move label = some next ∧ t.requests = next.requests := by
  obtain ⟨next, hmove, h⟩ := Option.bind_eq_some_iff.mp h
  refine ⟨next, hmove, ?_⟩
  split at h
  · cases h
    rfl
  · obtain ⟨session, -, rfl⟩ := Option.map_eq_some_iff.mp h
    rfl

theorem SignedIn.requestsStep (h : SignedIn site userId familyId w) {label : ClientLabel}
    (hstep : w.client.step label = some client) : RequestsCarry w.handed client.requests := by
  obtain ⟨last, earlier, stored, -, hstored, -, hstore, hlast⟩ := h.agrees
  obtain ⟨next, hmove, hrequests⟩ := requests_of_step hstep
  rw [hrequests]
  exact h.requests.move hstore ⟨stored, hstored, rfl⟩ hlast hmove

private theorem SignedIn.callStep (h : SignedIn site userId familyId w) {label : AuthLabel}
    (hok : LeavesFamily site.service w.server userId familyId label.call) {server : AuthState}
    (hstep : w.server.step site.service label = some server) :
    SignedIn site userId familyId { w with server := server } := by
  obtain ⟨last, earlier, stored, hhanded, hstored, hrenewable, hrest⟩ := h.agrees
  exact ⟨h.serves.step hstep, h.handed, h.requests, last, earlier, stored, hhanded, hstored,
    hrenewable.leaves h.serves.families hok hstep, hrest⟩

private theorem SignedIn.clientStep (h : SignedIn site userId familyId w) {label : ClientLabel}
    (hok : ∀ emitted, w.client.emits label = some emitted → emitted.keepsPair = true)
    (hstep : w.client.step label = some client) :
    SignedIn site userId familyId { w with client := client } := by
  obtain ⟨last, earlier, stored, hhanded, hstored, hrenewable, hstore, hlast⟩ := h.agrees
  refine ⟨h.serves, h.handed, h.requestsStep hstep, last, earlier, ?_⟩
  have hproject := client_projects w.client label client hstep
  cases hemits : w.client.emits label with
  | none =>
      rw [hemits] at hproject
      have hsame : client.session = w.client.session := hproject
      exact ⟨stored, hhanded, hstored, hrenewable, hsame ▸ hstore, hsame ▸ hlast⟩
  | some emitted =>
      rw [hemits] at hproject
      obtain ⟨stored', hone, hstore', hlast'⟩ := hlast.step hstore (hok emitted hemits) hproject
      rcases hone with rfl | rfl
      · exact ⟨stored, hhanded, hstored, hrenewable, hstore', hlast'⟩
      · exact ⟨last, hhanded, hhanded ▸ List.mem_cons_self, hrenewable, hstore', hlast'⟩

theorem SignedIn.replyStep (h : SignedIn site userId familyId w) {reply : RefreshReply}
    (hreply : w.reply = some reply ∨ w.reply = none ∧ ∃ error, reply.outcome = .raise error)
    (hstep : w.client.step (.reply reply) = some client) :
    SignedIn site userId familyId { w with client := client, reply := none } := by
  obtain ⟨last, earlier, stored, hhanded, hstored, hrenewable, hstore, hlast⟩ := h.agrees
  have hsession : w.client.session.step (.reply reply) = some client.session :=
    client_projects w.client (.reply reply) client hstep
  refine ⟨h.serves, h.handed, h.requestsStep hstep, last, earlier, stored, hhanded, hstored,
    hrenewable, ?_⟩
  rcases hreply with harrived | ⟨hnone, error, hraises⟩
  · rw [harrived] at hlast
    exact hlast.arrived hstore hsession
  · rw [hnone] at hlast
    exact hlast.raised hraises hstore hsession

private theorem posting_eq_some {s : ClientState} {tokens : AuthTokens}
    (h : s.posting = some tokens) :
    s.session.refresh.map Refresh.stage = some (.posting tokens) := by
  unfold ClientState.posting at h
  split at h
  · rename_i since tokens' hold
    rw [hold, ← Option.some.inj h]
    rfl
  · cases h

theorem SignedIn.served (hfits : site.Fits) (h : SignedIn site userId familyId w)
    {device : DeviceContext} {ids : AuthIds} {now : Timestamp}
    (hok : w.Undisturbed site userId familyId (.served device ids now))
    (hstep : w.step site (.served device ids now) = some w') :
    ∃ tokens, w'.client = w.client ∧ w'.handed = (tokens, now) :: w.handed ∧
      (∃ reply, w'.reply = some reply ∧ reply.outcome = .store (.ofResponse tokens)) ∧
      SignedIn site userId familyId w' := by
  obtain ⟨last, earlier, stored, hhanded, hstored, hrenewable, hstore, hlast⟩ := h.agrees
  obtain ⟨hissued, hlive⟩ := hok last (by rw [hhanded]; rfl)
  simp only [SignedInWorld.step] at hstep
  split at hstep
  · rename_i tokens hposting hnone
    obtain ⟨⟨answer, server⟩, hresult, rfl⟩ := Option.map_eq_some_iff.mp hstep
    have hstage := posting_eq_some hposting
    rw [hstage, hnone] at hlast
    obtain ⟨hsent, hsame⟩ := hlast
    have htoken : tokens.refreshToken = last.1.refreshToken := by
      rw [hsent, hsame]
      rfl
    obtain ⟨payload, hpayload⟩ := hrenewable.refreshToken
    have hvalid : RefreshTokenRequest.isValid
        { refreshToken := tokens.refreshToken, deviceName := some site.deviceName } = true := by
      simp [RefreshTokenRequest.isValid, htoken, hpayload, hfits.tokens payload, hfits.device]
    obtain ⟨response, rfl, hserves, hrenewed⟩ :=
      hrenewable.refresh hfits.libraries h.serves hissued hlive htoken hvalid hresult
    obtain ⟨haccess, hrefresh⟩ := hrenewed.expiresIn
    have hreply : (RefreshReply.ofReply site.wire
        (authReply site.wire.toWireRuntime (.ok response))).outcome =
          .store (.ofResponse response.tokens) :=
      outcome_authReply (haccess ▸ hfits.access) (hrefresh ▸ hfits.refresh)
    refine ⟨response.tokens, rfl, rfl, ⟨_, rfl, hreply⟩, hserves, ?_, ?_,
      (response.tokens, now), w.handed, stored, rfl, List.mem_cons_of_mem _ hstored, hrenewed,
      hstore, ?_⟩
    · intro pair hpair
      rcases List.mem_cons.mp hpair with rfl | hold
      · exact hrenewed.accessToken
      · exact h.handed pair hold
    · exact h.requests.mono fun pair hpair => List.mem_cons_of_mem _ hpair
    · rw [hstage]
      exact ⟨hsent, hreply⟩
  · cases hstep

theorem SignedIn.restarted (h : SignedIn site userId familyId w)
    (hok : w.Undisturbed site userId familyId .restarted) :
    SignedIn site userId familyId
      { w with client := .initial w.client.session.store.storage, reply := none } := by
  obtain ⟨last, earlier, stored, hhanded, hstored, hrenewable, hstore, hlast⟩ := h.agrees
  have hsame : AuthTokens.ofResponse stored.1 = .ofResponse last.1 := by
    cases hrefresh : w.client.session.refresh with
    | none =>
        rw [hrefresh] at hlast
        exact hlast.1
    | some refresh =>
        obtain ⟨since, stage⟩ := refresh
        have hidle : stage.inExchange = false := hok _ hrefresh
        rw [hrefresh] at hlast
        cases stage with
        | loading => exact hlast.1
        | read tokens => exact hlast.2.1
        | posting tokens => cases hidle
        | storing tokens next => cases hidle
        | expiring tokens => cases hlast
        | finished result => exact hlast.1
  exact ⟨h.serves, h.handed, nofun, last, earlier, stored, hhanded, hstored, hrenewable,
    ⟨hstore.1, rfl⟩, hsame, rfl⟩

theorem SignedIn.step (hfits : site.Fits) (h : SignedIn site userId familyId w)
    {label : SignedInLabel} (hok : w.Undisturbed site userId familyId label)
    (hstep : w.step site label = some w') : SignedIn site userId familyId w' := by
  cases label with
  | call label =>
      obtain ⟨server, hserver, rfl⟩ := Option.map_eq_some_iff.mp hstep
      exact h.callStep hok hserver
  | client label =>
      have hkeeps (emitted : SessionLabel) (hemits : w.client.emits label = some emitted) :
          emitted.keepsPair = true := (hok emitted hemits).1
      cases label with
      | reply reply => cases hstep
      | _ =>
          obtain ⟨client, hclient, rfl⟩ := Option.map_eq_some_iff.mp hstep
          exact h.clientStep hkeeps hclient
  | served device ids now =>
      obtain ⟨_, -, -, -, hserved⟩ := h.served hfits hok hstep
      exact hserved
  | arrived =>
      simp only [SignedInWorld.step] at hstep
      split at hstep
      · rename_i reply hreply
        obtain ⟨client, hclient, rfl⟩ := Option.map_eq_some_iff.mp hstep
        exact h.replyStep (Or.inl hreply) hclient
      · cases hstep
  | refused statusCode =>
      simp only [SignedInWorld.step] at hstep
      split at hstep
      · cases hstep
      · rename_i hnone
        obtain ⟨client, hclient, rfl⟩ := Option.map_eq_some_iff.mp hstep
        have hraises : (RefreshReply.rejected statusCode).outcome = .raise .dio :=
          if_neg (not_or.mpr hok)
        have hstepped := h.replyStep (Or.inr ⟨hnone, _, hraises⟩) hclient
        rwa [← hnone] at hstepped
  | lost =>
      obtain ⟨client, hclient, rfl⟩ := Option.map_eq_some_iff.mp hstep
      exact h.replyStep (Or.inr ⟨hok, _, rfl⟩) hclient
  | restarted =>
      cases hstep
      exact h.restarted hok

theorem SignedIn.started {server : AuthState} {tokens : TokenPairResponse} {now : Timestamp}
    (hserves : Serves userId server)
    (hrenewable : Renewable site.service server.store userId familyId now tokens) :
    SignedIn site userId familyId (.started server tokens now) := by
  refine ⟨hserves, ?_, nofun, (tokens, now), [], (tokens, now), rfl, List.mem_cons_self,
    hrenewable, ⟨rfl, rfl⟩, rfl, rfl⟩
  rintro pair (_ | ⟨_, ⟨⟩⟩)
  exact hrenewable.accessToken

end Runs

end Astra.Client
