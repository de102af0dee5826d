import Astra.Agents.Budget
import Astra.Chat.Aggregation
import Astra.Platform.Dicts

/-!
# Agent replies in the chat

`AgentChatService` hands the response of a run to the chat at once, or cuts it into
chunks for the stream to put together again.  The pieces make up the content; whether
the two rows agree depends on the labels of the response.
-/

namespace Astra.Agents

open Astra.Foundation Astra.Foundation.Program Astra.Platform Astra.Persistence Astra.LLM
  Astra.Chat

/-! ## The service -/

def offsets (size length : Nat) : List Nat := List.range' 0 ((length + size - 1) / size) size

def emptyChunk (response : LLMResponse) : LLMChunk where
  content := ""
  model := response.model
  provider := response.provider
  finishReason := response.finishReason
  providerResponseId := response.providerResponseId
  usage := response.usage
  metadata := response.metadata

def chunkAt (size : Nat) (response : LLMResponse) (offset : Nat) : LLMChunk :=
  let stop := min (offset + size) response.content.length
  let last := stop = response.content.length
  { content := String.ofList (slice response.content.toList offset stop)
    model := response.model
    provider := response.provider
    finishReason := if last then response.finishReason else none
    providerResponseId := response.providerResponseId
    usage := if last then response.usage else none
    metadata := if last then response.metadata else [] }

def streamChunks (size : Nat) (response : LLMResponse) : List LLMChunk :=
  if response.content = "" then [emptyChunk response]
  else (offsets size response.content.length).map (chunkAt size response)

structure AgentChatService where
  runtime : AgentRuntime
  chunkChars : Nat

def AgentChatService.generate (service : AgentChatService) (rt : PyRuntime) (runId : UUID)
    (provider : String) (request : LLMRequest) : AgentProgram LLMResponse :=
  service.runtime.run rt runId provider request

def AgentChatService.stream (service : AgentChatService) : Except Exn LLMResponse → ChunkSource
  | .ok response => { chunks := streamChunks service.chunkChars response, ending := none }
  | .error e => { chunks := [], ending := some e }

/-! ## What a run returns -/

section Answer

variable {rt : PyRuntime} {runtime : AgentRuntime} {runId : UUID} {provider : String}
  {request : LLMRequest} {scope : RunScope} {s : LoopState} {es : List AgentEvent}
  {r : LLMResponse}

private theorem finish_answers {response : LLMResponse}
    (htrace : Trace (finish rt scope s response) es (some (.ok r))) : strip r.content ≠ "" := by
  unfold finish at htrace
  split_ifs at htrace with hempty
  · cases htrace
  · obtain ⟨es₁, a, es₂, -, -, hdone⟩ | ⟨e, -, herror⟩ := htrace.of_andThen
    · cases hdone
      exact hempty
    · cases herror

private theorem modelLoop_answers {tools : List LLMToolDefinition} {remaining iteration : Nat}
    (htrace : Trace (modelLoop rt runtime scope tools remaining iteration s) es (some (.ok r))) :
    strip r.content ≠ "" := by
  induction remaining generalizing iteration s es with
  | zero => cases htrace
  | succ remaining ih =>
      obtain ⟨es₁, response, es₂, -, -, hrest⟩ | ⟨e, -, herror⟩ := htrace.of_andThen
      · replace hrest : Trace (if response.toolCalls.isEmpty then _ else _) es₂ _ := hrest
        split_ifs at hrest
        · exact finish_answers hrest
        · cases hrest
        · obtain ⟨es₃, s', es₄, -, -, hloop⟩ | ⟨e, -, herror⟩ := hrest.of_andThen
          · exact ih hloop
          · cases herror
      · cases herror

private theorem settle_ok {result : Except Exn LLMResponse}
    (htrace : Trace (settle runId result) es (some (.ok r))) : result = .ok r := by
  cases result with
  | ok response =>
      cases htrace
      rfl
  | error e =>
      cases e with
      | generatorExit => cases htrace
      | cancelled | deadline | timeoutError | app | other =>
          obtain ⟨es₁, a, es₂, -, -, hfail⟩ | ⟨e, -, herror⟩ := htrace.of_andThen
          · cases hfail
          · cases herror

theorem run_answers (htrace : Trace (runtime.run rt runId provider request) es (some (.ok r))) :
    strip r.content ≠ "" := by
  unfold AgentRuntime.run at htrace
  cases hprepare : prepareRun rt runtime runId provider request with
  | error e =>
      rw [hprepare] at htrace
      cases htrace
  | ok scope =>
      rw [hprepare] at htrace
      obtain ⟨es₁, a, es₂, -, -, hrun⟩ | ⟨e, -, herror⟩ := htrace.of_andThen
      · obtain ⟨es₃, result, es₄, -, hloop, hsettle⟩ := hrun.of_bind
        obtain rfl := settle_ok hsettle
        obtain ⟨es₅, tools, es₆, -, -, hmodel⟩ | ⟨e, -, herror⟩ := hloop.of_andThen
        · exact modelLoop_answers hmodel
        · cases herror
      · cases herror

end Answer

/-! ## The pieces of a content -/

private theorem flatMap_slices {α : Type} (size count start : Nat) (cs : List α) :
    ((List.range' start count size).flatMap fun offset => (cs.drop offset).take size) =
      (cs.drop start).take (size * count) := by
  induction count generalizing start with
  | zero => simp
  | succ count ih =>
      rw [List.range'_succ, List.flatMap_cons, ih, Nat.mul_succ, Nat.add_comm (size * count),
        List.take_add, List.drop_drop]

section Pieces

variable {size : Nat} {r : LLMResponse} {offset : Nat}

theorem chunkAt_content (size : Nat) (r : LLMResponse) (offset : Nat) :
    (chunkAt size r offset).content.toList = (r.content.toList.drop offset).take size := by
  unfold chunkAt slice
  rw [String.toList_ofList, List.take_eq_take_iff, List.length_drop,
    String.length_toList]
  omega

theorem offsets_split {length : Nat} (hsize : 1 ≤ size) (hlength : 0 < length) :
    ∃ count, offsets size length = List.range' 0 count size ++ [size * count] ∧
      size * count < length ∧ length ≤ size * (count + 1) := by
  obtain ⟨count, hcount⟩ : ∃ count, (length + size - 1) / size = count + 1 := by
    have hpos : 0 < (length + size - 1) / size := Nat.div_pos (by omega) hsize
    exact ⟨_, (Nat.succ_pred_eq_of_pos hpos).symm⟩
  have hlow : size * (count + 1) ≤ length + size - 1 := by
    rw [← hcount]
    exact Nat.mul_div_le _ _
  have hhigh : length + size - 1 < size * (count + 1 + 1) := by
    rw [← hcount]
    exact Nat.lt_mul_div_succ _ hsize
  rw [Nat.mul_succ] at hlow hhigh
  refine ⟨count, ?_, by omega, by omega⟩
  unfold offsets
  rw [hcount, List.range'_concat, Nat.zero_add]

theorem mem_range'_lt {count : Nat} (h : offset ∈ List.range' 0 count size) :
    offset + size ≤ size * count := by
  obtain ⟨i, hi, rfl⟩ := List.mem_range'.mp h
  rw [Nat.zero_add, ← Nat.mul_succ]
  exact Nat.mul_le_mul_left size hi

private theorem chunkAt_size (hoffset : offset < r.content.length) (hsize : 1 ≤ size) :
    (chunkAt size r offset).content ≠ "" ∧ (chunkAt size r offset).content.length ≤ size := by
  have hlength : (chunkAt size r offset).content.length =
      min size (r.content.length - offset) := by
    rw [← String.length_toList, chunkAt_content, List.length_take, List.length_drop,
      String.length_toList]
  constructor
  · intro hempty
    rw [hempty, String.length_empty] at hlength
    omega
  · omega

theorem length_pos_of_ne (h : r.content ≠ "") : 0 < r.content.length := by
  rw [Nat.pos_iff_ne_zero, ne_eq, ← String.length_toList, List.length_eq_zero_iff,
    String.toList_eq_nil_iff]
  exact h

private theorem mem_offsets_lt {length : Nat} (hsize : 1 ≤ size) (hlength : 0 < length)
    (h : offset ∈ offsets size length) : offset < length := by
  obtain ⟨count, hoffsets, hcount, -⟩ := offsets_split hsize hlength
  rw [hoffsets, List.mem_append, List.mem_singleton] at h
  rcases h with h | rfl
  · have hbound := mem_range'_lt h
    omega
  · exact hcount

theorem streamChunks_sizes (hsize : 1 ≤ size) (hcontent : r.content ≠ "") :
    ∀ chunk ∈ streamChunks size r, chunk.content ≠ "" ∧ chunk.content.length ≤ size := by
  intro chunk hchunk
  unfold streamChunks at hchunk
  rw [if_neg hcontent] at hchunk
  obtain ⟨offset, hoffset, rfl⟩ := List.mem_map.mp hchunk
  exact chunkAt_size (mem_offsets_lt hsize (length_pos_of_ne hcontent) hoffset) hsize

theorem streamChunks_join (hsize : 1 ≤ size) (hcontent : r.content ≠ "") :
    String.join ((streamChunks size r).map LLMChunk.content) = r.content := by
  obtain ⟨count, hoffsets, -, hlength⟩ := offsets_split hsize (length_pos_of_ne hcontent)
  have hconcat : offsets size r.content.length = List.range' 0 (count + 1) size := by
    rw [hoffsets, List.range'_concat, Nat.zero_add]
  unfold streamChunks
  rw [if_neg hcontent, hconcat, ← String.toList_inj, String.toList_join, List.map_map,
    List.flatMap_map]
  simp only [Function.comp_apply, chunkAt_content]
  rw [flatMap_slices, List.drop_zero, List.take_of_length_le]
  rw [String.length_toList]
  exact hlength

end Pieces

/-! ## The pieces put together again -/

section Fold

variable {size : Nat} {r : LLMResponse}

private theorem aggregate_contentParts (chunks : List LLMChunk) :
    (aggregate chunks).contentParts = deltaTexts chunks := by
  induction chunks using List.reverseRecOn with
  | nil => rfl
  | append_singleton chunks chunk ih =>
      have hfeed := (aggregate chunks).feed_texts chunk []
      rw [aggregate_concat, ← List.append_nil (StreamLocals.contentParts _)]
      refine hfeed.trans ?_
      rw [ih]
      simp [deltaTexts]

theorem orPrevious_self (text : Option String) :
    orPrevious text (orPrevious text none) = orPrevious text none := by
  cases text with
  | none => rfl
  | some text => by_cases h : text = "" <;> simp [orPrevious, h]

structure Interim (r : LLMResponse) (locals : StreamLocals) : Prop where
  providerResponseId : locals.providerResponseId = none ∨
    locals.providerResponseId = orPrevious r.providerResponseId none
  finishReason : locals.finishReason = none
  tokenUsage : locals.tokenUsage = none
  runtimeMetadata : locals.runtimeMetadata = []

theorem Interim.feed {locals : StreamLocals} {offset : Nat} (h : Interim r locals)
    (hoffset : offset + size < r.content.length) :
    Interim r (locals.feed (chunkAt size r offset)) := by
  have hlast : ¬ min (offset + size) r.content.length = r.content.length := by omega
  refine ⟨Or.inr ?_, ?_, ?_, ?_⟩
  · show orPrevious r.providerResponseId locals.providerResponseId = _
    rcases h.providerResponseId with hid | hid
    · rw [hid]
    · rw [hid, orPrevious_self]
  · simp [StreamLocals.feed, chunkAt, hlast, orPrevious, h.finishReason]
  · simp [StreamLocals.feed, chunkAt, hlast, h.tokenUsage]
  · simp [StreamLocals.feed, chunkAt, hlast, Dict.merge, h.runtimeMetadata]

private theorem Interim.feeds {found : List Nat} {locals : StreamLocals} (h : Interim r locals)
    (hfound : ∀ offset ∈ found, offset + size < r.content.length) :
    Interim r ((found.map (chunkAt size r)).foldl StreamLocals.feed locals) := by
  induction found generalizing locals with
  | nil => exact h
  | cons offset found ih =>
      obtain ⟨hoffset, hrest⟩ := List.forall_mem_cons.mp hfound
      exact ih (h.feed hoffset) hrest

/-- What the stream knows of a response behind the last of its chunks. -/
structure Whole (r : LLMResponse) (locals : StreamLocals) : Prop where
  content : locals.content = r.content
  providerResponseId : locals.providerResponseId = orPrevious r.providerResponseId none
  finishReason : locals.finishReason = orPrevious r.finishReason none
  tokenUsage : locals.tokenUsage = r.usage.map LLMUsage.modelDump
  runtimeMetadata : locals.runtimeMetadata = Dict.merge [] r.metadata

private theorem aggregate_streamChunks (hsize : 1 ≤ size) (hcontent : r.content ≠ "") :
    Whole r (aggregate (streamChunks size r)) := by
  have htext : (aggregate (streamChunks size r)).content = r.content := by
    have hall : deltaTexts (streamChunks size r) = (streamChunks size r).map LLMChunk.content := by
      refine List.filter_eq_self.mpr fun text htext => ?_
      obtain ⟨chunk, hchunk, rfl⟩ := List.mem_map.mp htext
      simpa using (streamChunks_sizes hsize hcontent chunk hchunk).1
    rw [StreamLocals.content, aggregate_contentParts, hall, streamChunks_join hsize hcontent]
  obtain ⟨count, hoffsets, hcount, hlength⟩ := offsets_split hsize (length_pos_of_ne hcontent)
  rw [Nat.mul_succ] at hlength
  have hchunks : streamChunks size r =
      (List.range' 0 count size).map (chunkAt size r) ++ [chunkAt size r (size * count)] := by
    rw [streamChunks, if_neg hcontent, hoffsets, List.map_append, List.map_singleton]
  have hinterim : Interim r (aggregate ((List.range' 0 count size).map (chunkAt size r))) := by
    refine Interim.feeds ⟨Or.inl rfl, rfl, rfl, rfl⟩ fun offset hoffset => ?_
    have hbound := mem_range'_lt hoffset
    omega
  have hlast : min (size * count + size) r.content.length = r.content.length := by omega
  refine ⟨htext, ?_, ?_, ?_, ?_⟩
  · rw [hchunks, aggregate_concat]
    show orPrevious r.providerResponseId _ = _
    rcases hinterim.providerResponseId with hid | hid
    · rw [hid]
    · rw [hid, orPrevious_self]
  · rw [hchunks, aggregate_concat]
    simp [StreamLocals.feed, chunkAt, hlast, hinterim.finishReason]
  · rw [hchunks, aggregate_concat]
    cases husage : r.usage <;>
      simp [StreamLocals.feed, chunkAt, hlast, husage, hinterim.tokenUsage]
  · rw [hchunks, aggregate_concat]
    simp [StreamLocals.feed, chunkAt, hlast, hinterim.runtimeMetadata]

end Fold

/-! ## The two rows -/

structure SameReply (row row' : Message) : Prop where
  content : row.content = row'.content
  status : row.status = row'.status
  providerMessageId : row.providerMessageId = row'.providerMessageId
  tokenUsage : row.tokenUsage = row'.tokenUsage
  messageMetadata : Dict.Same row.messageMetadata row'.messageMetadata

def Overrides (r : LLMResponse) (key : String) : Prop := (r.metadata.get? key).isSome = true

/-- The stream's own labels are those of the response, where they are not replaced. -/
structure LabelsAgree (p : PreparedExchange) (r : LLMResponse) : Prop where
  providerResponseId : r.providerResponseId ≠ some ""
  provider : Overrides r "provider" ∨ p.provider = r.provider
  model : Overrides r "model" ∨ p.llmRequest.model = some r.model
  finishReason : Overrides r "finish_reason" ∨ r.finishReason ≠ some ""

theorem orPrevious_eq_iff (text : Option String) :
    orPrevious text none = text ↔ text ≠ some "" := by
  cases text with
  | none => simp [orPrevious]
  | some text => by_cases h : text = "" <;> simp [orPrevious, h]

def labels (provider model finishReason : Option String) : Dict :=
  [("provider", optStr provider), ("model", optStr model), ("finish_reason", optStr finishReason)]

def shown (label : Option String) : Option Json := label.map .str

section Labels

variable {provider model finishReason provider' model' finishReason' : Option String}
  {metadata : Dict}

theorem optStr_filter (label : Option String) :
    (some (optStr label)).filter (fun value => !value.isNull) = shown label := by
  cases label <;> rfl

theorem shown_inj {label label' : Option String} : shown label = shown label' ↔ label = label' :=
  (Option.map_injective fun _ _ h => Json.str.inj h).eq_iff

private theorem get?_labels (key : String) :
    ((labels provider model finishReason).get? key).filter (fun value => !value.isNull) =
      if key = "provider" then shown provider
      else if key = "model" then shown model
      else if key = "finish_reason" then shown finishReason
      else none := by
  unfold labels
  simp only [Dict.get?_cons, eq_comm (b := key)]
  split_ifs
  · exact optStr_filter provider
  · exact optStr_filter model
  · exact optStr_filter finishReason
  · rfl

theorem get?_stored (key : String) :
    ((labels provider model finishReason).merge metadata).dropNone.get? key =
      ((Dict.get? metadata.reverse key).or
        ((labels provider model finishReason).get? key)).filter fun value => !value.isNull := by
  have hkeyed : Dict.Keyed (labels provider model finishReason) := by
    simp [Dict.Keyed, labels]
  rw [Dict.get?_dropNone (hkeyed.merge metadata), Dict.get?_merge]

private theorem get?_stored_copy (key : String) :
    ((labels provider model finishReason).merge (Dict.merge [] metadata)).dropNone.get? key =
      ((labels provider model finishReason).merge metadata).dropNone.get? key := by
  have hkeyed : Dict.Keyed (labels provider model finishReason) := by
    simp [Dict.Keyed, labels]
  rw [Dict.get?_dropNone (hkeyed.merge _), Dict.get?_dropNone (hkeyed.merge _),
    Dict.get?_merge_copy]

theorem stored_eq_iff (key : String) :
    ((labels provider model finishReason).merge metadata).dropNone.get? key =
        ((labels provider' model' finishReason').merge metadata).dropNone.get? key ↔
      (metadata.get? key).isSome = true ∨
        ((labels provider model finishReason).get? key).filter (fun value => !value.isNull) =
          ((labels provider' model' finishReason').get? key).filter fun value => !value.isNull := by
  rw [get?_stored, get?_stored, ← Dict.get?_isSome_reverse]
  cases Dict.get? metadata.reverse key <;> simp

theorem same_labels_iff :
    Dict.Same ((labels provider model finishReason).merge (Dict.merge [] metadata)).dropNone
        ((labels provider' model' finishReason').merge metadata).dropNone ↔
      ((metadata.get? "provider").isSome = true ∨ provider = provider') ∧
        ((metadata.get? "model").isSome = true ∨ model = model') ∧
        ((metadata.get? "finish_reason").isSome = true ∨ finishReason = finishReason') := by
  unfold Dict.Same
  simp only [get?_stored_copy, stored_eq_iff, get?_labels]
  constructor
  · intro h
    exact ⟨by simpa [shown_inj] using h "provider", by simpa [shown_inj] using h "model",
      by simpa [shown_inj] using h "finish_reason"⟩
  · rintro ⟨hprovider, hmodel, hfinish⟩ key
    split_ifs with h₁ h₂ h₃
    · rwa [h₁, shown_inj]
    · rwa [h₂, shown_inj]
    · rwa [h₃, shown_inj]
    · exact Or.inr rfl

end Labels

theorem sameReply_iff {p : PreparedExchange} {r : LLMResponse} {locals : StreamLocals}
    (h : Whole r locals) {now now' : Timestamp} {m m' : Message} :
    SameReply (completeMessage (replyOfStream p locals) now m)
        (completeMessage (replyOfResponse r) now' m') ↔ LabelsAgree p r := by
  have hmetadata : Dict.Same (replyOfStream p locals).metadata.dropNone
      (replyOfResponse r).metadata.dropNone ↔
        (Overrides r "provider" ∨ some p.provider = some r.provider) ∧
          (Overrides r "model" ∨ p.llmRequest.model = some r.model) ∧
          (Overrides r "finish_reason" ∨ orPrevious r.finishReason none = r.finishReason) := by
    rw [← h.finishReason]
    unfold replyOfStream
    rw [h.runtimeMetadata]
    exact @same_labels_iff (some p.provider) p.llmRequest.model locals.finishReason
      (some r.provider) (some r.model) r.finishReason r.metadata
  rw [Option.some.injEq, orPrevious_eq_iff] at hmetadata
  have hid : locals.providerResponseId = r.providerResponseId ↔ r.providerResponseId ≠ some "" := by
    rw [h.providerResponseId, orPrevious_eq_iff]
  constructor
  · rintro ⟨-, -, hsame, -, hlabels⟩
    obtain ⟨hprovider, hmodel, hfinish⟩ := hmetadata.mp hlabels
    exact ⟨hid.mp hsame, hprovider, hmodel, hfinish⟩
  · rintro ⟨hnonempty, hprovider, hmodel, hfinish⟩
    exact ⟨h.content, rfl, hid.mpr hnonempty, h.tokenUsage,
      hmetadata.mpr ⟨hprovider, hmodel, hfinish⟩⟩

/--
The chunks of every response of a run are pieces of its content.  The rows of the two
paths agree exactly when the stream's own labels are those of the response.
-/
theorem agent_replies_agree_iff (d : Deployment) {labels : List ChatLabel} {s : ChatState}
    (hrun : exec (ChatState.step d) {} labels = some s) {userId conversationId : UUID}
    {request : MessageSendRequest} {gen : Generated} {p q : PreparedExchange}
    {streamStore sendStore : Store}
    (hstream : prepareExchange d.py d.config s.store userId conversationId request true gen =
      (.ok p, streamStore))
    (hsend : prepareExchange d.py d.config s.store userId conversationId request false gen =
      (.ok q, sendStore))
    (hneeds : p.needsGeneration = true) (hneeds' : q.needsGeneration = true)
    {service : AgentChatService} (hsize : 1 ≤ service.chunkChars) {runId : UUID}
    {llmRequest : LLMRequest} {provider : String} {es : List AgentEvent} {r : LLMResponse}
    (htrace : Trace (service.generate d.py runId provider llmRequest) es (some (.ok r)))
    {wire : List WireLabel} {t : WireState}
    (hwire : exec WireState.step (WireState.start p streamStore (service.stream (.ok r))) wire =
      some t)
    {p' : PreparedExchange} {row : Message} (hcompleted : t.phase = .completedEvent p' row)
    {now : Timestamp} {inputs : List (Input × Timestamp)} {response : ChatExchangeResponse}
    {store : Store}
    (hinputs : exec requestStep (.generating q, sendStore) ((.response r, now) :: inputs) =
      some (.exited (.returned response), store)) :
    (∀ chunk ∈ streamChunks service.chunkChars r,
        chunk.content ≠ "" ∧ chunk.content.length ≤ service.chunkChars) ∧
      String.join ((streamChunks service.chunkChars r).map LLMChunk.content) = r.content ∧
      ∃ streamed sent, getMessage t.store.messages p.assistantMessage.id = some streamed ∧
        getMessage store.messages q.assistantMessage.id = some sent ∧
          (SameReply streamed sent ↔ LabelsAgree p r) := by
  have hcontent : r.content ≠ "" := by
    intro hempty
    have hanswer := run_answers htrace
    rw [hempty] at hanswer
    exact hanswer rfl
  refine ⟨streamChunks_sizes hsize hcontent, streamChunks_join hsize hcontent, ?_⟩
  obtain ⟨hstreamed, _, now₁, m₁, ⟨-, rfl⟩, rfl⟩ :=
    stream_aggregates hrun hstream hneeds hwire hcompleted
  obtain ⟨hsent, _, now₂, m₂, rfl, heq⟩ := send_answers hrun hsend hneeds' hinputs
  rw [heq] at hsent
  exact ⟨_, _, hstreamed, hsent, sameReply_iff (aggregate_streamChunks hsize hcontent)⟩

/-! ## Two exchanges with the lookup agent -/

def lookupService : AgentChatService where
  runtime := lookupRuntime
  chunkChars := 4

def openLocal (model : Option String) : List ChatLabel :=
  [.service 1 (.createConversation { provider := some "ollama", model := model } 10 0)]

def agentRequest : MessageSendRequest where
  content := "Find Astra Harbor"
  clientMessageId := 5
  executionMode := .agent

def takeDelta : List WireLabel := [.finish, .collect 110, .resume .next 110]

def readThree : List WireLabel :=
  [.resume .next 100, .resume .next 100] ++ takeDelta ++ takeDelta ++ takeDelta ++
    [.finish, .collect 120] ++ List.replicate 6 (.resume (.awaited .done) 130)

def commitReply : List (Input × Timestamp) := List.replicate 5 (.awaited .done, 130)

theorem agent_replies_agree_iff_lookup :
    ∃ s p q streamStore sendStore es r t row response store streamed sent,
      exec (ChatState.step defaultDeployment) {} (openLocal (some "roleplay-engine")) = some s ∧
        prepareExchange defaultDeployment.py defaultDeployment.config s.store 1 10 agentRequest
          true ⟨20, 21, 100⟩ = (.ok p, streamStore) ∧
        prepareExchange defaultDeployment.py defaultDeployment.config s.store 1 10 agentRequest
          false ⟨20, 21, 100⟩ = (.ok q, sendStore) ∧
        Trace (lookupService.generate defaultDeployment.py 7 p.provider p.llmRequest) es
          (some (.ok r)) ∧
        exec WireState.step (WireState.start p streamStore (lookupService.stream (.ok r)))
          readThree = some t ∧
        t.phase = .completedEvent p row ∧
        exec requestStep (.generating q, sendStore) ((.response r, 120) :: commitReply) =
          some (.exited (.returned response), store) ∧
        (streamChunks 4 r).map LLMChunk.content = ["Foun", "d it", "."] ∧
        getMessage t.store.messages p.assistantMessage.id = some streamed ∧
        getMessage store.messages q.assistantMessage.id = some sent ∧ SameReply streamed sent := by
  have hrun : ∃ s,
      exec (ChatState.step defaultDeployment) {} (openLocal (some "roleplay-engine")) = some s ∧
        ∃ p q streamStore sendStore,
          prepareExchange defaultDeployment.py defaultDeployment.config s.store 1 10 agentRequest
            true ⟨20, 21, 100⟩ = (.ok p, streamStore) ∧
          prepareExchange defaultDeployment.py defaultDeployment.config s.store 1 10 agentRequest
            false ⟨20, 21, 100⟩ = (.ok q, sendStore) ∧
          p.needsGeneration = true ∧ q.needsGeneration = true ∧
          ∃ es r, (lookupService.generate defaultDeployment.py 7 p.provider p.llmRequest).follow
              lookupAnswers [] = (es, .ok r) ∧
            (streamChunks 4 r).map LLMChunk.content = ["Foun", "d it", "."] ∧
            LabelsAgree p r ∧
            ∃ t row, exec WireState.step (WireState.start p streamStore
                (lookupService.stream (.ok r))) readThree = some t ∧
              t.phase = .completedEvent p row ∧
              ∃ response store, exec requestStep (.generating q, sendStore)
                ((.response r, 120) :: commitReply) = some (.exited (.returned response), store) :=
    ⟨_, rfl, _, _, _, _, rfl, rfl, rfl, rfl, _, _, rfl, by decide,
      ⟨nofun, Or.inr rfl, Or.inr rfl, Or.inr nofun⟩, _, _, rfl, rfl, _, _, rfl⟩
  obtain ⟨s, hs, p, q, streamStore, sendStore, hstream, hsend, hneeds, hneeds', es, r, hfollow,
    hpieces, hlabels, t, row, hwire, hcompleted, response, store, hinputs⟩ := hrun
  have htrace := follow_trace lookupAnswers
    (lookupService.generate defaultDeployment.py 7 p.provider p.llmRequest) []
  rw [hfollow] at htrace
  obtain ⟨-, -, streamed, sent, hstreamed, hsent, hagree⟩ := agent_replies_agree_iff
    defaultDeployment hs hstream hsend hneeds hneeds' (by decide) htrace hwire hcompleted hinputs
  exact ⟨s, p, q, streamStore, sendStore, es, r, t, row, response, store, streamed, sent, hs,
    hstream, hsend, htrace, hwire, hcompleted, hinputs, hpieces, hstreamed, hsent,
    hagree.mpr hlabels⟩

/-- The model that answers calls itself by another name than the one that was asked for. -/
theorem renamed_model_differs :
    ∃ s p q streamStore sendStore es r t row response store streamed sent,
      exec (ChatState.step defaultDeployment) {} (openLocal (some "roleplay-engine:latest")) =
          some s ∧
        prepareExchange defaultDeployment.py defaultDeployment.config s.store 1 10 agentRequest
          true ⟨20, 21, 100⟩ = (.ok p, streamStore) ∧
        prepareExchange defaultDeployment.py defaultDeployment.config s.store 1 10 agentRequest
          false ⟨20, 21, 100⟩ = (.ok q, sendStore) ∧
        Trace (lookupService.generate defaultDeployment.py 7 p.provider p.llmRequest) es
          (some (.ok r)) ∧
        exec WireState.step (WireState.start p streamStore (lookupService.stream (.ok r)))
          readThree = some t ∧
        t.phase = .completedEvent p row ∧
        exec requestStep (.generating q, sendStore) ((.response r, 120) :: commitReply) =
          some (.exited (.returned response), store) ∧
        getMessage t.store.messages p.assistantMessage.id = some streamed ∧
        getMessage store.messages q.assistantMessage.id = some sent ∧
        streamed.messageMetadata.get? "model" = some (.str "roleplay-engine:latest") ∧
        sent.messageMetadata.get? "model" = some (.str "roleplay-engine") ∧
        ¬ SameReply streamed sent := by
  have hrun : ∃ s,
      exec (ChatState.step defaultDeployment) {} (openLocal (some "roleplay-engine:latest")) =
          some s ∧
        ∃ p q streamStore sendStore,
          prepareExchange defaultDeployment.py defaultDeployment.config s.store 1 10 agentRequest
            true ⟨20, 21, 100⟩ = (.ok p, streamStore) ∧
          prepareExchange defaultDeployment.py defaultDeployment.config s.store 1 10 agentRequest
            false ⟨20, 21, 100⟩ = (.ok q, sendStore) ∧
          ∃ es r, (lookupService.generate defaultDeployment.py 7 p.provider p.llmRequest).follow
              lookupAnswers [] = (es, .ok r) ∧
            ∃ t row, exec WireState.step (WireState.start p streamStore
                (lookupService.stream (.ok r))) readThree = some t ∧
              t.phase = .completedEvent p row ∧
              ∃ response store, exec requestStep (.generating q, sendStore)
                  ((.response r, 120) :: commitReply) =
                    some (.exited (.returned response), store) ∧
                ∃ streamed sent, getMessage t.store.messages p.assistantMessage.id = some streamed ∧
                  getMessage store.messages q.assistantMessage.id = some sent ∧
                  streamed.messageMetadata.get? "model" = some (.str "roleplay-engine:latest") ∧
                  sent.messageMetadata.get? "model" = some (.str "roleplay-engine") :=
    ⟨_, rfl, _, _, _, _, rfl, rfl, _, _, rfl, _, _, rfl, rfl, _, _, rfl, _, _, rfl, rfl, rfl, rfl⟩
  obtain ⟨s, hs, p, q, streamStore, sendStore, hstream, hsend, es, r, hfollow, t, row, hwire,
    hcompleted, response, store, hinputs, streamed, sent, hstreamed, hsent, hmodel, hmodel'⟩ := hrun
  have htrace := follow_trace lookupAnswers
    (lookupService.generate defaultDeployment.py 7 p.provider p.llmRequest) []
  rw [hfollow] at htrace
  refine ⟨s, p, q, streamStore, sendStore, es, r, t, row, response, store, streamed, sent, hs,
    hstream, hsend, htrace, hwire, hcompleted, hinputs, hstreamed, hsent, hmodel, hmodel', ?_⟩
  intro hsame
  have hlabels := hsame.messageMetadata "model"
  rw [hmodel, hmodel', Option.some.injEq, Json.str.injEq] at hlabels
  exact absurd hlabels (by decide)

end Astra.Agents
