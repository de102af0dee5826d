import Astra.Agents.CallIds
import Astra.Foundation.Fallible
import Astra.LLM.Ollama

/-!
# Runs over Ollama

The adapter gives a native call without an id one that is made from its place in the
reply.  Here the ids of a run are traced to the replies of the server.
-/

namespace Astra.Agents

open Astra.Foundation Astra.Platform Astra.LLM Program

/-! ## The calls of a transcript -/

def messageCallIds (messages : List LLMMessage) : List String :=
  messages.flatMap fun m => m.toolCalls.map LLMToolCall.id

def answeredIds (messages : List LLMMessage) : List (Option String) :=
  (messages.filter fun m => m.role == .tool).map LLMMessage.toolCallId

/-- Every call of a run has an id of its own, wherever the run shows it. -/
structure CallsDistinct (request : LLMRequest) (es : List AgentEvent) : Prop where
  steps : (persistedIds es).Nodup
  sent : ∀ before after name asked answer,
    es = before ++ ⟨.generate name asked, answer⟩ :: after →
      ∃ instructed ran, Instructed request.messages instructed ∧
        asked.messages = instructed ++ ran ∧ (messageCallIds ran).Nodup ∧ (answeredIds ran).Nodup

section Transcripts

variable {request : LLMRequest} {response : LLMResponse} {messages : List LLMMessage}

theorem answers_ids {calls : List LLMToolCall} {replies : List LLMMessage}
    (h : List.Forall₂ Answers calls replies) :
    messageCallIds replies = [] ∧
      answeredIds replies = (calls.map LLMToolCall.id).map some := by
  induction h with
  | nil => exact ⟨rfl, rfl⟩
  | cons hcall _ ih =>
      obtain ⟨hrole, hid, -, hnone⟩ := hcall
      unfold messageCallIds answeredIds at ih ⊢
      rw [List.flatMap_cons, List.filter_cons_of_pos (by simp [hrole])]
      simp [hnone, hid, ih.1, ih.2]

theorem Round.ids (h : Round response messages) :
    messageCallIds messages = callIds response ∧
      answeredIds messages = (callIds response).map some := by
  obtain ⟨assistant, replies, rfl, hrole, -, hcalls, hreplies⟩ := h
  obtain ⟨hnone, hanswered⟩ := answers_ids hreplies
  constructor
  · show assistant.toolCalls.map LLMToolCall.id ++ messageCallIds replies = _
    rw [hnone, List.append_nil, hcalls]
    rfl
  · unfold answeredIds at hanswered ⊢
    rw [List.filter_cons_of_neg (by simp [hrole]), hanswered]
    rfl

theorem rounds_ids {answered : List LLMResponse} {rounds : List (List LLMMessage)}
    (h : List.Forall₂ Round answered rounds) :
    messageCallIds rounds.flatten = askedIds answered ∧
      answeredIds rounds.flatten = (askedIds answered).map some := by
  induction h with
  | nil => exact ⟨rfl, rfl⟩
  | cons hround _ ih =>
      obtain ⟨hcalls, hanswered⟩ := hround.ids
      unfold messageCallIds answeredIds at *
      rw [List.flatten_cons, List.flatMap_append, List.filter_append, List.map_append, hcalls,
        hanswered, ih.1, ih.2, ← List.map_append]
      exact ⟨rfl, rfl⟩

theorem askedIds_filter (rs : List LLMResponse) :
    askedIds (rs.filter asksForTools) = askedIds rs := by
  induction rs with
  | nil => rfl
  | cons r rs ih =>
      by_cases hasks : asksForTools r = true
      · rw [List.filter_cons_of_pos hasks]
        show callIds r ++ askedIds _ = callIds r ++ askedIds _
        rw [ih]
      · have hnone : callIds r = [] := by
          simp only [asksForTools, Bool.not_eq_true', Bool.not_eq_false, List.isEmpty_iff] at hasks
          rw [callIds, hasks]
          rfl
        rw [List.filter_cons_of_neg hasks, ih]
        show askedIds rs = callIds r ++ askedIds rs
        rw [hnone, List.nil_append]

variable {rt : PyRuntime} {runtime : AgentRuntime} {runId : UUID} {provider : String}
  {es : List AgentEvent} {result : Option (Except Exn LLMResponse)}

theorem run_calls_distinct (htrace : Trace (runtime.run rt runId provider request) es result)
    (hids : (askedIds (takenResponses runtime.policy.maxToolCalls (responses es))).Nodup) :
    CallsDistinct request es := by
  constructor
  · exact (hids.map (Option.some_injective String)).sublist (run_persists_calls htrace)
  · intro before after name asked answer hes
    obtain ⟨instructed, rounds, hinstructed, hmessages, hrounds⟩ :=
      run_sends_transcripts htrace before after name asked answer hes
    obtain ⟨hcalls, hanswered⟩ := rounds_ids hrounds
    obtain ⟨later, hlater⟩ := run_takes_up htrace hes
    rw [← hlater, askedIds_append] at hids
    have hbefore : (askedIds (responses before)).Nodup := (List.nodup_append.mp hids).1
    refine ⟨instructed, rounds.flatten, hinstructed, hmessages, ?_, ?_⟩
    · rwa [hcalls, askedIds_filter]
    · rw [hanswered, askedIds_filter]
      exact hbefore.map (Option.some_injective String)

end Transcripts

/-! ## The replies of the server -/

def replyCalls (data : Json) : List Json :=
  match nativeCalls data with
  | .ok items => items
  | .error _ => []

/-- The text of the id that the server has supplied, if any, and the place of the call. -/
def nativeRecord (py : PyRuntime) (entry : Json × Nat) : Option String × Nat :=
  match getKey entry.1 "id" with
  | .ok supplied => (if supplied.truthy then some (py.str supplied) else none, entry.2)
  | .error _ => (none, entry.2)

def replyRecords (py : PyRuntime) (data : Json) : List (Option String × Nat) :=
  (replyCalls data).zipIdx.map (nativeRecord py)

abbrev takenReplies (budget : Int) (replies : List Json) : List Json :=
  takenUp (fun data => (replyCalls data).length) budget 0 replies

/--
Two supplied ids have different texts, two calls without an id stand at different places
of their replies, and no supplied id looks like one made for a place.
-/
def Apart : Option String × Nat → Option String × Nat → Prop
  | (some text, _), (some text', _) => text ≠ text'
  | (none, place), (none, place') => place ≠ place'
  | (some text, _), (none, place) | (none, place), (some text, _) => text ≠ syntheticId place

def Distinguishable (py : PyRuntime) (replies : List Json) : Prop :=
  (replies.flatMap (replyRecords py)).Pairwise Apart

def recordId : Option String × Nat → String
  | (some text, _) => text
  | (none, place) => syntheticId place

def Chats (py : PyRuntime) (response : LLMResponse) (data : Json) : Prop :=
  ∃ post defaultModel request, post (buildPayload defaultModel request false) = .ok data ∧
    ollamaChat py post defaultModel request = .ok response

section Replies

variable {py : PyRuntime} {data : Json} {response : LLMResponse}

private theorem syntheticId_inj {place place' : Nat} : syntheticId place = syntheticId place' ↔
    place = place' := by
  constructor
  · intro h
    have hrepr : Nat.repr place = Nat.repr place' := by
      unfold syntheticId at h
      exact String.append_right_inj _ |>.mp h
    have hparse := congrArg decimalParse hrepr
    rwa [decimalParse_repr, decimalParse_repr, Option.some.injEq] at hparse
  · rintro rfl
    rfl

theorem apart_iff (r r' : Option String × Nat) : Apart r r' ↔ recordId r ≠ recordId r' := by
  rcases r with ⟨_ | text, place⟩ <;> rcases r' with ⟨_ | text', place'⟩
  · exact syntheticId_inj.symm.not
  · exact ne_comm
  · exact Iff.rfl
  · exact Iff.rfl

private theorem readNativeCall_id {entry : Json × Nat} {call : LLMToolCall}
    (h : readNativeCall py entry = .ok call) : call.id = recordId (nativeRecord py entry) := by
  unfold readNativeCall at h
  obtain ⟨function, -, h⟩ := bind_eq_ok h
  obtain ⟨arguments, -, h⟩ := bind_eq_ok h
  obtain ⟨supplied, hsupplied, h⟩ := bind_eq_ok h
  obtain ⟨name, -, h⟩ := bind_eq_ok h
  cases h
  have hrecord : nativeRecord py entry =
      (if supplied.truthy then some (py.str supplied) else none, entry.2) := by
    rw [nativeRecord, hsupplied]
  rw [hrecord]
  show py.str (if supplied.truthy then supplied else .str (syntheticId entry.2)) = _
  split_ifs
  · rfl
  · exact py.str_str _

theorem readNativeCalls_ids {entries : List (Json × Nat)} {calls : List LLMToolCall}
    (h : List.Forall₂ (fun entry call => readNativeCall py entry = .ok call) entries calls) :
    calls.map LLMToolCall.id = (entries.map (nativeRecord py)).map recordId := by
  induction h with
  | nil => rfl
  | cons hcall _ ih =>
      rw [List.map_cons, List.map_cons, List.map_cons, ih, readNativeCall_id hcall]

theorem readReply_ids {model : String} (h : readReply py model data = .ok response) :
    callIds response = (replyRecords py data).map recordId ∧
      callCount response = (replyCalls data).length := by
  unfold readReply at h
  obtain ⟨items, hitems, h⟩ := bind_eq_ok h
  obtain ⟨calls, hcalls, h⟩ := bind_eq_ok h
  obtain ⟨usage, -, h⟩ := bind_eq_ok h
  obtain ⟨message, -, h⟩ := bind_eq_ok h
  obtain ⟨content, -, h⟩ := bind_eq_ok h
  obtain ⟨label, -, h⟩ := bind_eq_ok h
  obtain ⟨reason, -, h⟩ := bind_eq_ok h
  cases h
  have hread := mapM_eq_ok.mp hcalls
  have hreply : replyCalls data = items := by rw [replyCalls, hitems]
  unfold callIds callCount replyRecords
  rw [hreply]
  constructor
  · exact readNativeCalls_ids hread
  · show calls.length = _
    rw [← hread.length_eq, List.length_zipIdx]

theorem Chats.ids (h : Chats py response data) :
    callIds response = (replyRecords py data).map recordId ∧
      callCount response = (replyCalls data).length := by
  obtain ⟨post, defaultModel, request, hpost, hchat⟩ := h
  unfold ollamaChat at hchat
  rw [hpost] at hchat
  exact readReply_ids hchat

private theorem askedIds_replies {rs : List LLMResponse} {replies : List Json}
    (h : List.Forall₂ (Chats py) rs replies) :
    askedIds rs = (replies.flatMap (replyRecords py)).map recordId := by
  induction h with
  | nil => rfl
  | cons hchat _ ih =>
      show callIds _ ++ askedIds _ = _
      rw [ih, hchat.ids.1, List.flatMap_cons, List.map_append]

end Replies

/-! ## Ids across the replies -/

/--
In every run over Ollama whose replies the ids and places of the calls tell apart, each
call has an id of its own; no other replies give the calls such ids.
-/
theorem ollama_calls_distinct {rt : PyRuntime} {runtime : AgentRuntime} {runId : UUID}
    {provider : String} {request : LLMRequest} {es : List AgentEvent}
    {result : Option (Except Exn LLMResponse)}
    (htrace : Trace (runtime.run rt runId provider request) es result) {replies : List Json}
    (hreplies : List.Forall₂ (Chats rt) (responses es) replies) :
    (Distinguishable rt (takenReplies runtime.policy.maxToolCalls replies) →
        CallsDistinct request es) ∧
      (Distinguishable rt (takenReplies runtime.policy.maxToolCalls replies) ↔
        (askedIds (takenResponses runtime.policy.maxToolCalls (responses es))).Nodup) := by
  have htaken : List.Forall₂ (Chats rt)
      (takenResponses runtime.policy.maxToolCalls (responses es))
      (takenReplies runtime.policy.maxToolCalls replies) :=
    takenUp_forall₂ (fun _ _ hchat => hchat.ids.2) hreplies
  have hiff : Distinguishable rt (takenReplies runtime.policy.maxToolCalls replies) ↔
      (askedIds (takenResponses runtime.policy.maxToolCalls (responses es))).Nodup := by
    rw [askedIds_replies htaken, List.Nodup, List.pairwise_map]
    simp only [← apart_iff]
    exact Iff.rfl
  exact ⟨fun hdistinct => run_calls_distinct htrace (hiff.mp hdistinct), hiff⟩

/-! ## Two lookups over Ollama -/

def nativeLookup (id : Option String) : Json :=
  .obj (textEntry "id" id ++
    [("function", .obj [("name", .str "lookup"), ("arguments", .obj [("query", .str "Harbor")])])])

def lookupReply (id : Option String) : Json :=
  .obj [("message", .obj [("content", .str ""), ("tool_calls", .arr [nativeLookup id])]),
    ("done", .bool true)]

def finalReply : Json :=
  .obj [("message", .obj [("content", .str "Found it.")]), ("done", .bool true)]

def serverReply (first second : Option String) (history : List AgentEvent) : Json :=
  if history.countP isModelCall = 0 then lookupReply first
  else if history.countP isModelCall = 1 then lookupReply second
  else finalReply

def ollamaAnswers (first second : Option String) (history : List AgentEvent) :
    (o : AgentOp) → o.Answer
  | .generate _ asked =>
      ollamaChat .ascii (fun _ => .ok (serverReply first second history)) "roleplay-engine" asked
  | o => lookupAnswers history o

def twoLookups (first second : Option String) : List AgentEvent :=
  ((lookupRuntime.run .ascii 7 "ollama" lookupRequest).follow (ollamaAnswers first second) []).1

private theorem twoLookups_trace (first second : Option String) :
    Trace (lookupRuntime.run .ascii 7 "ollama" lookupRequest) (twoLookups first second)
      (some ((lookupRuntime.run .ascii 7 "ollama" lookupRequest).follow
        (ollamaAnswers first second) []).2) :=
  follow_trace _ _ _

theorem chats_of_reply {response : LLMResponse} {data : Json}
    (h : ollamaChat .ascii (fun _ => .ok data) "roleplay-engine" lookupRequest = .ok response) :
    Chats .ascii response data :=
  ⟨fun _ => .ok data, "roleplay-engine", lookupRequest, rfl, h⟩

theorem ollama_calls_distinct_mixed :
    List.Forall₂ (Chats .ascii) (responses (twoLookups (some "call-7") none))
        [lookupReply (some "call-7"), lookupReply none, finalReply] ∧
      CallsDistinct lookupRequest (twoLookups (some "call-7") none) := by
  have hreplies : List.Forall₂ (Chats .ascii) (responses (twoLookups (some "call-7") none))
      [lookupReply (some "call-7"), lookupReply none, finalReply] :=
    .cons (chats_of_reply rfl) (.cons (chats_of_reply rfl) (.cons (chats_of_reply rfl) .nil))
  refine ⟨hreplies, (ollama_calls_distinct (twoLookups_trace _ _) hreplies).1 ?_⟩
  have hrecords : (takenReplies lookupRuntime.policy.maxToolCalls
      [lookupReply (some "call-7"), lookupReply none, finalReply]).flatMap (replyRecords .ascii) =
        [(some "call-7", 0), (none, 0)] := rfl
  unfold Distinguishable
  rw [hrecords, List.pairwise_pair]
  show "call-7" ≠ syntheticId 0
  decide

/-- Both calls come without an id, each as the first of its reply. -/
theorem lookups_share_an_id :
    List.Forall₂ (Chats .ascii) (responses (twoLookups none none))
        [lookupReply none, lookupReply none, finalReply] ∧
      (∀ item ∈ [lookupReply none, lookupReply none, finalReply].flatMap replyCalls,
        getKey item "id" = .ok .null) ∧
      persistedIds (twoLookups none none) = [some "ollama-tool-0", some "ollama-tool-0"] ∧
      ¬ CallsDistinct lookupRequest (twoLookups none none) := by
  have hids : persistedIds (twoLookups none none) = [some "ollama-tool-0", some "ollama-tool-0"] :=
    rfl
  refine ⟨.cons (chats_of_reply rfl) (.cons (chats_of_reply rfl) (.cons (chats_of_reply rfl) .nil)),
    ?_, hids, ?_⟩
  · have hcalls : [lookupReply none, lookupReply none, finalReply].flatMap replyCalls =
        [nativeLookup none, nativeLookup none] := rfl
    rw [hcalls]
    simp only [List.forall_mem_cons, List.not_mem_nil, false_implies, implies_true, and_true]
    exact ⟨rfl, rfl⟩
  · intro h
    have hsteps := h.steps
    rw [hids] at hsteps
    exact absurd hsteps (by decide)

end Astra.Agents
