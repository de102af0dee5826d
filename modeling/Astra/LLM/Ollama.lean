import Astra.LLM.Json
import Mathlib.Data.List.Basic

/-!
# The Ollama adapter

`llm/providers/ollama.py`: the payload of a request, the response made of a reply, and
the chunks made of the lines of a stream.  What `httpx` delivers is a parameter.
-/

namespace Astra.LLM

open Astra.Platform

/-! ## Requests -/

def LLMMessageRole.value : LLMMessageRole → String
  | .system => "system"
  | .user => "user"
  | .assistant => "assistant"
  | .tool => "tool"

def textEntry (key : String) (text : Option String) : Dict :=
  match text with
  | none => []
  | some text => if text = "" then [] else [(key, .str text)]

def payloadCall (call : LLMToolCall) : Json :=
  .obj [("id", .str call.id),
    ("function", .obj [("name", .str call.name), ("arguments", .obj call.arguments)])]

def payloadMessage (message : LLMMessage) : Json :=
  .obj ([("role", .str message.role.value), ("content", .str message.content)] ++
    textEntry "name" message.name ++ textEntry "tool_call_id" message.toolCallId ++
    (if message.toolCalls.isEmpty then []
      else [("tool_calls", .arr (message.toolCalls.map payloadCall))]))

def payloadTool (tool : LLMToolDefinition) : Json :=
  .obj [("type", .str "function"),
    ("function", .obj [("name", .str tool.name), ("description", .str tool.description),
      ("parameters", .obj tool.inputSchema)])]

def payloadOptions (request : LLMRequest) : Dict :=
  (match request.temperature with
    | none => []
    | some temperature => [("temperature", .float temperature)]) ++
  (match request.maxTokens with
    | none => []
    | some count => [("num_predict", .int count)])

def buildPayload (defaultModel : String) (request : LLMRequest) (stream : Bool) : Dict :=
  [("model", .str (orText request.model defaultModel)),
    ("messages", .arr (request.messages.map payloadMessage)), ("stream", .bool stream)] ++
  (if request.tools.isEmpty then [] else [("tools", .arr (request.tools.map payloadTool))]) ++
  (if (payloadOptions request).isEmpty then [] else [("options", .obj (payloadOptions request))])

/-! ## Replies -/

/-- What can be raised by the request, by `raise_for_status` or by decoding the body. -/
inductive PostError where
  | httpError
  | valueError
  | other (e : Exn)

def iterate : Json → Except Exn (List Json)
  | .arr items => .ok items
  | .obj fields => .ok (fields.map fun entry => .str entry.1)
  | .str text => .ok (text.toList.map fun c => .str (String.ofList [c]))
  | value => .error (.other "TypeError" ("'" ++ typeName value ++ "' object is not iterable"))

def syntheticId (index : Nat) : String := "ollama-tool-" ++ toString index

/-- The id of a native call: its own, or one for its place in the reply. -/
def callId (py : PyRuntime) (supplied : Json) (index : Nat) : String :=
  py.str (orValue supplied (.str (syntheticId index)))

def readNativeCall (py : PyRuntime) (entry : Json × Nat) : Except Exn LLMToolCall := do
  let function ← getKey entry.1 "function"
  let function := orValue function (.obj [])
  let arguments ← getKey function "arguments"
  let supplied ← getKey entry.1 "id"
  let name ← getKey function "name"
  .ok
    { id := callId py supplied entry.2
      name := py.str (orValue name (.str ""))
      arguments :=
        match arguments with
        | .obj fields => fields
        | _ => [] }

def nativeCalls (data : Json) : Except Exn (List Json) := do
  let message ← getKey data "message"
  let calls ← getKey (orValue message (.obj [])) "tool_calls"
  iterate (orValue calls (.arr []))

def intOrNone : Json → Option Int
  | .int value => some value
  | .bool value => some (if value then 1 else 0)
  | _ => none

def usageCount : Option Int → Except Exn (Option Nat)
  | none => .ok none
  | some count => if count < 0 then .error (validationError "LLMUsage") else .ok (some count.toNat)

def readTokens (data : Json) : Except Exn LLMUsage := do
  let inputTokens ← getKey data "prompt_eval_count"
  let outputTokens ← getKey data "eval_count"
  let inputTokens := intOrNone inputTokens
  let outputTokens := intOrNone outputTokens
  let totalTokens :=
    match inputTokens, outputTokens with
    | some input, some output => some (input + output)
    | _, _ => none
  let inputTokens ← usageCount inputTokens
  let outputTokens ← usageCount outputTokens
  let totalTokens ← usageCount totalTokens
  .ok { inputTokens, outputTokens, totalTokens }

def doneFlag : Json → Bool
  | .obj fields => ((Dict.get? fields "done").getD (.bool true)).truthy
  | _ => true

def readReply (py : PyRuntime) (model : String) (data : Json) : Except Exn LLMResponse := do
  let items ← nativeCalls data
  let toolCalls ← items.zipIdx.mapM (readNativeCall py)
  let usage ← readTokens data
  let message ← getKey data "message"
  let content ← getKey (orValue message (.obj [])) "content"
  let label ← getKey data "model"
  let reason ← getKey data "done_reason"
  .ok
    { content := py.str (orValue content (.str ""))
      model := py.str (orValue label (.str model))
      provider := "ollama"
      finishReason := some (py.str (orValue reason (.str "stop")))
      toolCalls := toolCalls
      usage := some usage
      metadata := [("done", .bool (doneFlag data))] }

def ollamaChat (py : PyRuntime) (post : Dict → Except PostError Json) (defaultModel : String)
    (request : LLMRequest) : Except Exn LLMResponse :=
  match post (buildPayload defaultModel request false) with
  | .error (.other e) => .error e
  | .error .httpError | .error .valueError =>
      .error (llmException "Ollama request failed." .llmProviderError 502)
  | .ok data => readReply py (orText request.model defaultModel) data

/-! ## Streams -/

/-- How the transport ends behind its lines. -/
inductive TransportEnd where
  | closed
  | httpError
  deriving DecidableEq

def invalidPayload : Exn :=
  llmException "Ollama returned an invalid streaming payload." .llmProviderError 502

def streamingFailed : Exn :=
  llmException "Ollama streaming request failed." .llmProviderError 502

def readChunk (py : PyRuntime) (model : String) (data : Json) : Except Exn LLMChunk := do
  let message ← getKey data "message"
  let content ← getKey (orValue message (.obj [])) "content"
  let label ← getKey data "model"
  let reason ← getKey data "done_reason"
  let done ← getKey data "done"
  .ok
    { content := py.str (orValue content (.str ""))
      model := py.str (orValue label (.str model))
      provider := "ollama"
      finishReason := if done.truthy then some (py.str (orValue reason (.str "stop"))) else none }

def readLine (json : JsonModule) (py : PyRuntime) (model line : String) : Except Exn LLMChunk :=
  match json.loads line with
  | .ok data => readChunk py model data
  | .error e => .error (if isJsonDecodeError e then invalidPayload else e)

def ollamaStream (json : JsonModule) (py : PyRuntime) (model : String) :
    List String → TransportEnd → List LLMChunk × Option Exn
  | [], .closed => ([], none)
  | [], .httpError => ([], some streamingFailed)
  | line :: lines, ending =>
      if strip line = "" then ollamaStream json py model lines ending
      else
        match readLine json py model line with
        | .error e => ([], some e)
        | .ok chunk =>
            let rest := ollamaStream json py model lines ending
            (chunk :: rest.1, rest.2)

/-! ## What a stream reports -/

def IsLLMException (e : Exn) : Prop := ∃ message, e = llmException message .llmProviderError 502

def HasFinishReason (chunks : List LLMChunk) : Prop :=
  ∃ chunk ∈ chunks, chunk.finishReason.isSome = true

/-- The stream ends behind a finish reason, or with an `LLMException`. -/
def Reported (stream : List LLMChunk × Option Exn) : Prop :=
  (stream.2 = none ∧ HasFinishReason stream.1) ∨ ∃ e, stream.2 = some e ∧ IsLLMException e

def Undecodable (json : JsonModule) (line : String) : Prop :=
  strip line ≠ "" ∧ ∃ e, json.loads line = .error e ∧ isJsonDecodeError e = true

def WellShaped (data : Json) : Prop :=
  ∃ fields, data = .obj fields ∧
    (((Dict.get? fields "message").getD .null).truthy = false ∨
      ∃ inner, Dict.get? fields "message" = some (.obj inner))

/-- A line that the adapter cannot read and does not expect. -/
def Crashing (json : JsonModule) (line : String) : Prop :=
  strip line ≠ "" ∧
    ((∃ e, json.loads line = .error e ∧ isJsonDecodeError e = false) ∨
      ∃ data, json.loads line = .ok data ∧ ¬ WellShaped data)

def Completing (json : JsonModule) (line : String) : Prop :=
  strip line ≠ "" ∧ ∃ fields, json.loads line = .ok (.obj fields) ∧
    ((Dict.get? fields "done").getD .null).truthy = true

def Legible (json : JsonModule) (line : String) : Prop :=
  ¬ Undecodable json line ∧ ¬ Crashing json line

/--
The first line that is not legible is no JSON; or there is none, and the transport fails
or some line says that the answer is done.
-/
def Conclusive (json : JsonModule) (lines : List String) (ending : TransportEnd) : Prop :=
  (∃ before line after, lines = before ++ line :: after ∧ (∀ l ∈ before, Legible json l) ∧
      Undecodable json line) ∨
    (∀ l ∈ lines, Legible json l) ∧
      (ending = .httpError ∨ ∃ l ∈ lines, Completing json l)

section Lines

variable {json : JsonModule} {py : PyRuntime} {model line : String} {lines : List String}
  {ending : TransportEnd}

theorem readChunk_obj (fields : Dict) (message : Json)
    (hmessage : orValue ((Dict.get? fields "message").getD .null) (.obj []) = message) :
    readChunk py model (.obj fields) =
      (getKey message "content").map fun content =>
        { content := py.str (orValue content (.str ""))
          model := py.str (orValue ((Dict.get? fields "model").getD .null) (.str model))
          provider := "ollama"
          finishReason :=
            if ((Dict.get? fields "done").getD .null).truthy then
              some (py.str (orValue ((Dict.get? fields "done_reason").getD .null) (.str "stop")))
            else none } := by
  unfold readChunk
  simp only [getKey, bind, Except.bind, hmessage]
  cases message <;> rfl

private theorem readChunk_of_wellShaped {data : Json} (h : WellShaped data) :
    ∃ fields chunk, data = .obj fields ∧ readChunk py model data = .ok chunk ∧
      (chunk.finishReason.isSome = true ↔
        ((Dict.get? fields "done").getD .null).truthy = true) := by
  obtain ⟨fields, rfl, hmessage⟩ := h
  have hinner : ∃ inner, orValue ((Dict.get? fields "message").getD .null) (.obj []) =
      .obj inner := by
    unfold orValue
    rcases hmessage with hfalsy | ⟨inner, hinner⟩
    · exact ⟨[], if_neg (by simp [hfalsy])⟩
    · rw [hinner]
      cases inner with
      | nil => exact ⟨[], rfl⟩
      | cons entry inner => exact ⟨entry :: inner, rfl⟩
  obtain ⟨inner, hinner⟩ := hinner
  refine ⟨fields, _, rfl, readChunk_obj fields _ hinner, ?_⟩
  cases ((Dict.get? fields "done").getD .null).truthy <;> simp

private theorem readChunk_of_not_wellShaped {data : Json} (h : ¬ WellShaped data) :
    ∃ message, readChunk py model data = .error (attributeError message) := by
  cases data with
  | obj fields =>
      have hmessage : ∀ inner, orValue ((Dict.get? fields "message").getD .null) (.obj []) ≠
          .obj inner := by
        intro inner hinner
        refine h ⟨fields, rfl, ?_⟩
        unfold orValue at hinner
        split_ifs at hinner with htruthy
        · cases hget : Dict.get? fields "message" with
          | none => simp [hget, Json.truthy] at htruthy
          | some message =>
              rw [hget, Option.getD_some] at hinner
              exact Or.inr ⟨inner, by rw [hinner]⟩
        · exact Or.inl (by simpa using htruthy)
      rw [readChunk_obj fields _ rfl]
      cases hvalue : orValue ((Dict.get? fields "message").getD .null) (.obj []) with
      | obj inner => exact absurd hvalue (hmessage inner)
      | _ => exact ⟨_, rfl⟩
  | _ => exact ⟨_, rfl⟩

inductive LineCase (json : JsonModule) (py : PyRuntime) (model line : String) : Prop
  | blank (hblank : strip line = "")
  | invalid (htext : strip line ≠ "") (hline : Undecodable json line)
      (hread : readLine json py model line = .error invalidPayload)
  | crashes (htext : strip line ≠ "") (hline : Crashing json line) (kind message : String)
      (hread : readLine json py model line = .error (.other kind message))
  | reads (htext : strip line ≠ "") (hline : Legible json line) (chunk : LLMChunk)
      (hread : readLine json py model line = .ok chunk)
      (hdone : chunk.finishReason.isSome = true ↔ Completing json line)

theorem line_cases (json : JsonModule) (py : PyRuntime) (model line : String) :
    LineCase json py model line := by
  by_cases hblank : strip line = ""
  · exact .blank hblank
  · cases hloads : json.loads line with
    | error e =>
        have hread : readLine json py model line =
            .error (if isJsonDecodeError e then invalidPayload else e) := by
          simp only [readLine, hloads]
        cases hdecode : isJsonDecodeError e with
        | true =>
            rw [hdecode, if_pos rfl] at hread
            exact .invalid hblank ⟨hblank, e, hloads, hdecode⟩ hread
        | false =>
            rw [hdecode, if_neg Bool.false_ne_true] at hread
            obtain ⟨kind, message, rfl⟩ := json.loads_raises line e hloads
            exact .crashes hblank ⟨hblank, Or.inl ⟨_, hloads, hdecode⟩⟩ kind message hread
    | ok data =>
        have hread : readLine json py model line = readChunk py model data := by
          simp only [readLine, hloads]
        by_cases hshape : WellShaped data
        · obtain ⟨fields, chunk, rfl, hchunk, hdone⟩ := readChunk_of_wellShaped hshape
          refine .reads hblank ⟨?_, ?_⟩ chunk (hread.trans hchunk) ?_
          · rintro ⟨-, e, herror, -⟩
            rw [hloads] at herror
            cases herror
          · rintro ⟨-, ⟨e, herror, -⟩ | ⟨data, hdata, hnot⟩⟩
            · rw [hloads] at herror
              cases herror
            · rw [hloads] at hdata
              cases hdata
              exact hnot hshape
          · rw [hdone]
            constructor
            · exact fun htruthy => ⟨hblank, fields, hloads, htruthy⟩
            · rintro ⟨-, fields', hfields, htruthy⟩
              rw [hloads] at hfields
              cases hfields
              exact htruthy
        · obtain ⟨message, hchunk⟩ := readChunk_of_not_wellShaped hshape
          exact .crashes hblank ⟨hblank, Or.inr ⟨data, hloads, hshape⟩⟩ "AttributeError" message
            (hread.trans hchunk)

theorem Undecodable.not_crashing (h : Undecodable json line) : ¬ Crashing json line := by
  obtain ⟨-, e, herror, hdecode⟩ := h
  rintro ⟨-, ⟨e', herror', hdecode'⟩ | ⟨data, hdata, -⟩⟩
  · rw [herror] at herror'
    cases herror'
    rw [hdecode] at hdecode'
    cases hdecode'
  · rw [herror] at hdata
    cases hdata

/-! ## Whole streams -/

theorem ollamaStream_blank (h : strip line = "") :
    ollamaStream json py model (line :: lines) ending =
      ollamaStream json py model lines ending := if_pos h

theorem ollamaStream_raises {e : Exn} (htext : strip line ≠ "")
    (hread : readLine json py model line = .error e) :
    ollamaStream json py model (line :: lines) ending = ([], some e) := by
  rw [ollamaStream, if_neg htext, hread]

theorem ollamaStream_yields {chunk : LLMChunk} (htext : strip line ≠ "")
    (hread : readLine json py model line = .ok chunk) :
    ollamaStream json py model (line :: lines) ending =
      (chunk :: (ollamaStream json py model lines ending).1,
        (ollamaStream json py model lines ending).2) := by
  rw [ollamaStream, if_neg htext, hread]

theorem ollamaStream_ending_append {before : List String} (h : ∀ l ∈ before, Legible json l) :
    (ollamaStream json py model (before ++ lines) ending).2 =
      (ollamaStream json py model lines ending).2 := by
  induction before with
  | nil => rfl
  | cons line before ih =>
      obtain ⟨hline, hbefore⟩ := List.forall_mem_cons.mp h
      rw [List.cons_append]
      cases line_cases json py model line with
      | blank hblank => rw [ollamaStream_blank hblank, ih hbefore]
      | invalid htext hinvalid hread => exact absurd hinvalid hline.1
      | crashes htext hcrashing kind message hread => exact absurd hcrashing hline.2
      | reads htext hlegible chunk hread hdone =>
          rw [ollamaStream_yields htext hread]
          exact ih hbefore

theorem hasFinishReason_iff (h : ∀ l ∈ lines, Legible json l) :
    HasFinishReason (ollamaStream json py model lines ending).1 ↔
      ∃ l ∈ lines, Completing json l := by
  induction lines with
  | nil => cases ending <;> simp [ollamaStream, HasFinishReason]
  | cons line lines ih =>
      obtain ⟨hline, hlines⟩ := List.forall_mem_cons.mp h
      rw [List.exists_mem_cons_iff, ← ih hlines]
      cases line_cases json py model line with
      | blank hblank =>
          rw [ollamaStream_blank hblank]
          exact ⟨Or.inr, Or.rec (fun hdone => absurd hblank hdone.1) id⟩
      | invalid htext hinvalid hread => exact absurd hinvalid hline.1
      | crashes htext hcrashing kind message hread => exact absurd hcrashing hline.2
      | reads htext hlegible chunk hread hdone =>
          rw [ollamaStream_yields htext hread, ← hdone]
          exact List.exists_mem_cons_iff ..

private theorem first_illegible (json : JsonModule) (lines : List String) :
    (∀ l ∈ lines, Legible json l) ∨ ∃ before line after, lines = before ++ line :: after ∧
      (∀ l ∈ before, Legible json l) ∧ (Undecodable json line ∨ Crashing json line) := by
  induction lines with
  | nil => exact Or.inl (by simp)
  | cons line lines ih =>
      by_cases hline : Legible json line
      · rcases ih with hall | ⟨before, line', after, rfl, hbefore, hstop⟩
        · exact Or.inl (List.forall_mem_cons.mpr ⟨hline, hall⟩)
        · exact Or.inr ⟨line :: before, line', after, rfl,
            List.forall_mem_cons.mpr ⟨hline, hbefore⟩, hstop⟩
      · refine Or.inr ⟨[], line, lines, rfl, by simp, ?_⟩
        by_contra hneither
        exact hline (not_or.mp hneither)

theorem ollamaStream_undecodable {before after : List String}
    (hbefore : ∀ l ∈ before, Legible json l) (hline : Undecodable json line) :
    (ollamaStream json py model (before ++ line :: after) ending).2 = some invalidPayload := by
  rw [ollamaStream_ending_append hbefore]
  cases line_cases json py model line with
  | blank hblank => exact absurd hblank hline.1
  | invalid htext hinvalid hread => rw [ollamaStream_raises htext hread]
  | crashes htext hcrashing kind message hread => exact absurd hcrashing hline.not_crashing
  | reads htext hlegible chunk hread hdone => exact absurd hline hlegible.1

private theorem ollamaStream_crashing {before after : List String}
    (hbefore : ∀ l ∈ before, Legible json l) (hline : Crashing json line) :
    ∃ kind message, (ollamaStream json py model (before ++ line :: after) ending).2 =
      some (.other kind message) := by
  rw [ollamaStream_ending_append hbefore]
  cases line_cases json py model line with
  | blank hblank => exact absurd hblank hline.1
  | invalid htext hinvalid hread => exact absurd hline hinvalid.not_crashing
  | crashes htext hcrashing kind message hread =>
      exact ⟨kind, message, by rw [ollamaStream_raises htext hread]⟩
  | reads htext hlegible chunk hread hdone => exact absurd hline hlegible.2

private theorem ollamaStream_ending (h : ∀ l ∈ lines, Legible json l) :
    (ollamaStream json py model lines ending).2 =
      if ending = .closed then none else some streamingFailed := by
  have happend : (ollamaStream json py model (lines ++ []) ending).2 =
      (ollamaStream json py model [] ending).2 := ollamaStream_ending_append h
  rw [List.append_nil] at happend
  rw [happend]
  cases ending <;> rfl

theorem ollamaStream_reported_iff :
    Reported (ollamaStream json py model lines ending) ↔ Conclusive json lines ending := by
  rcases first_illegible json lines with hall | ⟨before, line, after, rfl, hbefore, hstop⟩
  · have hending : (ollamaStream json py model lines ending).2 =
        if ending = .closed then none else some streamingFailed := ollamaStream_ending hall
    unfold Reported Conclusive
    rw [hending, hasFinishReason_iff hall]
    cases ending with
    | closed =>
        simp only [if_true, true_and, reduceCtorEq, false_and, exists_false, or_false, false_or]
        constructor
        · exact fun hdone => Or.inr ⟨hall, hdone⟩
        · rintro (⟨before, line, after, rfl, -, hline⟩ | ⟨-, hdone⟩)
          · exact absurd hline (hall line (by simp)).1
          · exact hdone
    | httpError =>
        refine iff_of_true (Or.inr ⟨_, rfl, _, rfl⟩) (Or.inr ⟨hall, Or.inl rfl⟩)
  · rcases hstop with hline | hline
    · refine iff_of_true (Or.inr ⟨_, ollamaStream_undecodable hbefore hline, _, rfl⟩) ?_
      exact Or.inl ⟨before, line, after, rfl, hbefore, hline⟩
    · have hraised : ∃ kind message,
          (ollamaStream json py model (before ++ line :: after) ending).2 =
            some (.other kind message) := ollamaStream_crashing hbefore hline
      obtain ⟨kind, message, hraised⟩ := hraised
      refine iff_of_false ?_ ?_
      · rintro (⟨hnone, -⟩ | ⟨e, he, message', hllm⟩)
        · rw [hraised] at hnone
          cases hnone
        · rw [hraised, hllm] at he
          cases he
      · rintro (⟨before', line', after', heq, hbefore', hline'⟩ | ⟨hall, -⟩)
        · rw [heq, ollamaStream_undecodable hbefore' hline'] at hraised
          cases hraised
        · exact (hall line (by simp)).2 hline

end Lines

end Astra.LLM
