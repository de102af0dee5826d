import Astra.Chat.Sse
import Astra.Client.Text
import Astra.Foundation.Framing

/-!
# Decoding the event stream

`SseDecoder` cuts its buffer at blank lines and reads the `event:` and `data:` lines of
each block.  It reads back what `encode_sse` has written, for any arrival of the text.
-/

namespace Astra.Client

open Astra.Foundation Astra.Platform Astra.Chat

structure SseFrame where
  event : DartString
  data : DartString

def blankLine : Separator UInt16 where
  text := [lf, lf]
  ne_nil := by simp

def parseLine (fields : DartString × List DartString) (line : DartString) :
    DartString × List DartString :=
  if utf16 ":" <+: line then fields
  else if utf16 "event:" <+: line then (trim (line.drop 6), fields.2)
  else if utf16 "data:" <+: line then (fields.1, fields.2 ++ [trimLeft (line.drop 5)])
  else fields

def parseBlock (block : DartString) : Option SseFrame :=
  let fields := (splitLines block).foldl parseLine (utf16 "message", [])
  if fields.2.isEmpty then none
  else some { event := fields.1, data := List.intercalate [lf] fields.2 }

structure SseDecoder where
  buffer : DartString := []

/-- `add`: the loop takes blocks off the buffer while there is a blank line. -/
def SseDecoder.add (decoder : SseDecoder) (chunk : DartString) : SseDecoder × List SseFrame :=
  let cut := blocks blankLine (decoder.buffer ++ replaceCrLf chunk)
  ({ buffer := cut.2 }, cut.1.filterMap parseBlock)

def SseDecoder.addAll (decoder : SseDecoder) : List DartString → SseDecoder × List SseFrame
  | [] => (decoder, [])
  | chunk :: chunks =>
      let now := decoder.add chunk
      let later := SseDecoder.addAll now.1 chunks
      (later.1, now.2 ++ later.2)

/-- The frame that the client should see, if any. -/
def decoded (json : JsonDumps) : ServerFrame → Option SseFrame
  | .event name data => some { event := utf16 name.text, data := utf16 (json.dumps data) }
  | .keepAlive => none

/-! ## The blocks of the encoder -/

def frameBlock (json : JsonDumps) : ServerFrame → DartString
  | .event name data =>
      utf16 ("event: " ++ name.text) ++ lf :: utf16 ("data: " ++ json.dumps data)
  | .keepAlive => utf16 ": keep-alive"

section Blocks

variable (json : JsonDumps)

theorem utf16_frame (frame : ServerFrame) :
    utf16 (frame.text json) = frameBlock json frame ++ blankLine.text := by
  cases frame with
  | event name data =>
      have hbreak : utf16 "\ndata: " = lf :: utf16 "data: " := by decide
      have hblank : utf16 "\n\n" = blankLine.text := by decide
      simp only [ServerFrame.text, encodeSse, frameBlock, utf16_append, hbreak, hblank]
      simp
  | keepAlive =>
      have hcomment : utf16 ": keep-alive\n\n" = utf16 ": keep-alive" ++ [lf, lf] := by decide
      exact hcomment

theorem eventLine_plain (name : EventName) :
    lf ∉ utf16 ("event: " ++ name.text) ∧ cr ∉ utf16 ("event: " ++ name.text) := by
  cases name <;> decide

theorem dataLine_plain (data : Dict) :
    lf ∉ utf16 ("data: " ++ json.dumps data) ∧ cr ∉ utf16 ("data: " ++ json.dumps data) := by
  have hlabel : lf ∉ utf16 "data: " ∧ cr ∉ utf16 "data: " := by decide
  have hlf : lf ∉ utf16 (json.dumps data) := by
    apply not_mem_utf16 (by decide)
    intro c hc heq
    have hchar : c = '\n' := Char.ext (UInt32.toNat_inj.mp heq)
    exact json.no_lf data (hchar ▸ hc)
  have hcr : cr ∉ utf16 (json.dumps data) := by
    apply not_mem_utf16 (by decide)
    intro c hc heq
    have hchar : c = '\r' := Char.ext (UInt32.toNat_inj.mp heq)
    exact json.no_cr data (hchar ▸ hc)
  rw [utf16_append, List.mem_append, List.mem_append, not_or, not_or]
  exact ⟨⟨hlabel.1, hlf⟩, hlabel.2, hcr⟩

theorem cutAt_frameBlock (frame : ServerFrame) :
    cutAt blankLine.text (frameBlock json frame ++ blankLine.text) =
      some (frameBlock json frame, []) := by
  show cutAt [lf, lf] (frameBlock json frame ++ [lf, lf]) = _
  cases frame with
  | event name data =>
      have hne : utf16 ("data: " ++ json.dumps data) ≠ [] := by
        rw [utf16_append]
        exact List.append_ne_nil_of_left_ne_nil (by decide) _
      unfold frameBlock
      rw [List.append_assoc, List.cons_append, cutAt_line (eventLine_plain name).1,
        cutAt_break (dataLine_plain json data).1 hne, cutAt_pair]
      simp
  | keepAlive =>
      have hplain : lf ∉ utf16 ": keep-alive" := by decide
      unfold frameBlock
      rw [cutAt_line hplain, cutAt_pair]
      simp

theorem cr_not_mem_frame (frame : ServerFrame) : cr ∉ utf16 (frame.text json) := by
  rw [utf16_frame]
  cases frame with
  | event name data =>
      have hlf : ¬ (cr = lf) := by decide
      simp [frameBlock, blankLine, (eventLine_plain name).2, (dataLine_plain json data).2, hlf]
  | keepAlive =>
      have hplain : cr ∉ utf16 ": keep-alive" ++ [lf, lf] := by decide
      exact hplain

private theorem parseLine_event (name : EventName) (event : DartString)
    (dataLines : List DartString) :
    parseLine (event, dataLines) (utf16 ("event: " ++ name.text)) =
      (utf16 name.text, dataLines) := by
  have hread : trim ((utf16 ("event: " ++ name.text)).drop 6) = utf16 name.text := by
    cases name <;> decide
  have hcomment : ¬ utf16 ":" <+: utf16 ("event: " ++ name.text) := by cases name <;> decide
  have hevent : utf16 "event:" <+: utf16 ("event: " ++ name.text) := by cases name <;> decide
  rw [parseLine, if_neg hcomment, if_pos hevent, hread]

private theorem parseLine_data (data : Dict) (event : DartString) (dataLines : List DartString) :
    parseLine (event, dataLines) (utf16 ("data: " ++ json.dumps data)) =
      (event, dataLines ++ [utf16 (json.dumps data)]) := by
  obtain ⟨rest, hopens⟩ := json.opens data
  have hpayload : utf16 (json.dumps data) = 123 :: rest.flatMap codeUnits := by
    unfold utf16
    rw [hopens]
    rfl
  have hline : utf16 ("data: " ++ json.dumps data) =
      [100, 97, 116, 97, 58, 32] ++ utf16 (json.dumps data) := by
    rw [utf16_append]
    rfl
  have hcomment : ¬ utf16 ":" <+: [100, 97, 116, 97, 58, 32] ++ utf16 (json.dumps data) := by
    have hsign : utf16 ":" = [58] := by decide
    simp [hsign]
  have hevent : ¬ utf16 "event:" <+: [100, 97, 116, 97, 58, 32] ++ utf16 (json.dumps data) := by
    have hsign : utf16 "event:" = [101, 118, 101, 110, 116, 58] := by decide
    simp [hsign]
  have hdata : utf16 "data:" <+: [100, 97, 116, 97, 58, 32] ++ utf16 (json.dumps data) := by
    have hsign : utf16 "data:" = [100, 97, 116, 97, 58] := by decide
    simp [hsign]
  rw [hline, parseLine, if_neg hcomment, if_neg hevent, if_pos hdata]
  -- `trimLeft` stops at the opening brace
  simp [hpayload, trimLeft, isWhiteSpace]

theorem parseBlock_frameBlock (frame : ServerFrame) :
    parseBlock (frameBlock json frame) = decoded json frame := by
  cases frame with
  | event name data =>
      obtain ⟨hlf, hcr⟩ := eventLine_plain name
      obtain ⟨hlf', hcr'⟩ := dataLine_plain json data
      have hne : utf16 ("data: " ++ json.dumps data) ≠ [] := by
        rw [utf16_append]
        exact List.append_ne_nil_of_left_ne_nil (by decide) _
      unfold parseBlock frameBlock
      rw [splitLines_pair hlf hcr hlf' hcr' hne, List.foldl_cons, List.foldl_cons, List.foldl_nil,
        parseLine_event, parseLine_data]
      simp [decoded]
  | keepAlive =>
      have hcomment : (splitLines (utf16 ": keep-alive")).foldl parseLine (utf16 "message", []) =
          (utf16 "message", []) := by decide
      unfold parseBlock frameBlock
      rw [hcomment]
      rfl

end Blocks

/-! ## Any arrival of the text -/

/-- Each chunk is normalised on its own, and the blocks are cut from what has arrived. -/
theorem addAll_blocks (buffer : DartString) (chunks : List DartString) :
    SseDecoder.addAll { buffer } chunks =
      ({ buffer := (blocksOf blankLine buffer (chunks.map replaceCrLf)).2 },
        (blocksOf blankLine buffer (chunks.map replaceCrLf)).1.filterMap parseBlock) := by
  induction chunks generalizing buffer with
  | nil => rfl
  | cons chunk chunks ih =>
      have hrest := ih (blocks blankLine (buffer ++ replaceCrLf chunk)).2
      simp only [SseDecoder.addAll, SseDecoder.add, hrest, List.map_cons, blocksOf,
        List.filterMap_append]

theorem addAll_eq (buffer : DartString) {chunks : List DartString}
    (hplain : ∀ chunk ∈ chunks, cr ∉ chunk) :
    SseDecoder.addAll { buffer } chunks =
      ({ buffer := (blocksOf blankLine buffer chunks).2 },
        (blocksOf blankLine buffer chunks).1.filterMap parseBlock) := by
  have hchunks : chunks.map replaceCrLf = chunks := by
    conv_rhs => rw [← List.map_id chunks]
    exact List.map_congr_left fun chunk hchunk => replaceCrLf_eq (hplain chunk hchunk)
  rw [addAll_blocks, hchunks]

def streamText (json : JsonDumps) (frames : List ServerFrame) : DartString :=
  frames.flatMap fun frame => utf16 (frame.text json)

private theorem streamText_blocks (json : JsonDumps) (frames : List ServerFrame) :
    blocks blankLine (streamText json frames) = (frames.map (frameBlock json), []) := by
  have htext : streamText json frames =
      frames.flatMap fun frame => frameBlock json frame ++ blankLine.text := by
    unfold streamText
    simp only [utf16_frame]
  rw [htext]
  exact blocks_flatMap (cutAt_frameBlock json) frames

/-- The decoder gives back the encoded events, however the text is cut into chunks. -/
theorem decoder_inverts_encoder (json : JsonDumps) (frames : List ServerFrame)
    {chunks : List DartString} (hchunks : chunks.flatten = streamText json frames) :
    SseDecoder.addAll {} chunks = ({}, frames.filterMap (decoded json)) := by
  have hplain : ∀ chunk ∈ chunks, cr ∉ chunk := by
    intro chunk hchunk hcr
    have hmem : cr ∈ chunks.flatten := List.mem_flatten.mpr ⟨chunk, hchunk, hcr⟩
    rw [hchunks] at hmem
    obtain ⟨frame, -, hframe⟩ := List.mem_flatMap.mp hmem
    exact cr_not_mem_frame json frame hframe
  rw [addAll_eq [] hplain, blocksOf_eq blocks_nil, List.nil_append, hchunks, streamText_blocks,
    List.filterMap_map]
  have hparse : parseBlock ∘ frameBlock json = decoded json := by
    funext frame
    exact parseBlock_frameBlock json frame
  rw [hparse]

/-! ## A stream with a keep-alive -/

def unescaped (text : String) : Bool :=
  text.toList.all fun c => 32 ≤ c.toNat && c.toNat != 34 && c.toNat != 92

def textField : Dict → String
  | [(key, .str text)] =>
      if unescaped key && unescaped text then "\x22" ++ key ++ "\x22:\x22" ++ text ++ "\x22" else ""
  | _ => ""

theorem le_of_printable {text : String} {c : Char}
    (htext : (text.toList.all fun c => decide (32 ≤ c.toNat)) = true) (hc : c ∈ text.toList) :
    32 ≤ c.toNat := by
  simpa using List.all_eq_true.mp htext c hc

theorem textField_plain (data : Dict) {c : Char} (hc : c ∈ (textField data).toList) :
    32 ≤ c.toNat := by
  unfold textField at hc
  split at hc
  · split at hc
    · rename_i hplain
      simp only [unescaped, Bool.and_eq_true, List.all_eq_true, decide_eq_true_eq] at hplain
      simp only [String.toList_append, List.mem_append] at hc
      rcases hc with (((hc | hc) | hc) | hc) | hc
      · exact le_of_printable (by decide) hc
      · exact (hplain.1 c hc).1.1
      · exact le_of_printable (by decide) hc
      · exact (hplain.2 c hc).1.1
      · exact le_of_printable (by decide) hc
    · cases hc
  · cases hc

theorem mem_braces {text : String} {c : Char}
    (hc : c ∈ ("\x7b" ++ text ++ "\x7d").toList) (hlow : c.toNat < 32) : c ∈ text.toList := by
  simp only [String.toList_append, List.mem_append] at hc
  rcases hc with (hc | hc) | hc
  · exact absurd hlow (Nat.not_lt.mpr (le_of_printable (by decide) hc))
  · exact hc
  · exact absurd hlow (Nat.not_lt.mpr (le_of_printable (by decide) hc))

def textDumps : JsonDumps where
  dumps data := "\x7b" ++ textField data ++ "\x7d"
  no_lf data hc := absurd (textField_plain data (mem_braces hc (by decide))) (by decide)
  no_cr data hc := absurd (textField_plain data (mem_braces hc (by decide))) (by decide)
  opens data := ⟨(textField data ++ "\x7d").toList, by simp⟩

def greeting : List ServerFrame := [.keepAlive, .event .messageDelta [("delta", .str "Xin chào")]]

theorem decoder_inverts_encoder_units :
    SseDecoder.addAll {} ((streamText textDumps greeting).map fun unit => [unit]) =
      ({}, [{ event := utf16 "message.delta",
              data := utf16 "\x7b\x22delta\x22:\x22Xin chào\x22\x7d" }]) := by
  have hunits : ((streamText textDumps greeting).map fun unit => [unit]).flatten =
      streamText textDumps greeting := by
    simp [← List.flatMap_def]
  have hdata : utf16 (textDumps.dumps [("delta", .str "Xin chào")]) =
      utf16 "\x7b\x22delta\x22:\x22Xin chào\x22\x7d" := by decide
  rw [decoder_inverts_encoder textDumps greeting hunits]
  simp only [greeting, decoded, List.filterMap_cons, List.filterMap_nil, hdata]
  rfl

end Astra.Client
