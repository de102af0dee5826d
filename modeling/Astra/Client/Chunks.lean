import Astra.Client.Lines

/-!
# When chunks make no difference

A blank line whose `\r\n` is cut closes no block, so that the blocks around it come out as
one.  That goes unnoticed only where at most one of them has data and names the event.
-/

namespace Astra.Client

/-! ## Blocks that come out together -/

/--
The blocks between two blank lines that are not cut, each by its fields, and at the end the
blocks behind the last such line that a cut blank line should have closed.
-/
def stretches : List (List DartString) → List DartString → List TextLine →
    List (List (List DartString)) × List (List DartString)
  | closed, _, [] => ([], closed)
  | closed, fields, line :: lines =>
      if line.text = [] then
        if line.cut then stretches (closed ++ [fields]) [] lines
        else
          let later := stretches [] [] lines
          ((closed ++ [fields]) :: later.1, later.2)
      else stretches closed (fields ++ fieldLines line.text) lines

def stretchesOf (chunks : List DartString) :
    List (List (List DartString)) × List (List DartString) :=
  stretches [] [] (linesOfChunks chunks)

/-- At most one of the blocks has data, and the others do not name another event. -/
structure Unmerged (stretch : List (List DartString)) : Prop where
  single : stretch.countP hasData ≤ 1
  event : ∀ block ∈ stretch, hasData block = true → eventName stretch.flatten = eventName block

structure CutsHarmless (chunks : List DartString) : Prop where
  closed : ∀ stretch ∈ (stretchesOf chunks).1, Unmerged stretch
  pending : ∀ block ∈ (stretchesOf chunks).2, hasData block = false

section Stretches

variable {closed : List (List DartString)} {fields : List DartString} {lines : List TextLine}

private theorem framesOf_whole (closed : List (List DartString)) (fields : List DartString)
    (lines : List TextLine) :
    closed.filterMap frameOf ++ framesOf fields (lines.map (TextLine.shown false)) =
      (stretches closed fields lines).1.flatMap (List.filterMap frameOf) ++
        (stretches closed fields lines).2.filterMap frameOf := by
  induction lines generalizing closed fields with
  | nil => simp [framesOf, stretches]
  | cons line lines ih =>
      have hshown : line.shown false = line.text := rfl
      have hclosed : (closed ++ [fields]).filterMap frameOf =
          closed.filterMap frameOf ++ (frameOf fields).toList := by
        cases hframe : frameOf fields <;> simp [hframe]
      rw [List.map_cons, framesOf, stretches, hshown]
      by_cases hblank : line.text = []
      · rw [if_pos hblank, if_pos hblank, ← List.append_assoc, ← hclosed]
        split
        · exact ih (closed ++ [fields]) []
        · have hlater := ih [] []
          rw [List.filterMap_nil, List.nil_append] at hlater
          rw [hlater, List.flatMap_cons, List.append_assoc]
      · rw [if_neg hblank, if_neg hblank]
        exact ih closed _

private theorem framesOf_chunks (closed : List (List DartString)) (fields : List DartString)
    (lines : List TextLine) :
    framesOf (closed.flatten ++ fields) (lines.map (TextLine.shown true)) =
      (stretches closed fields lines).1.filterMap fun stretch => frameOf stretch.flatten := by
  induction lines generalizing closed fields with
  | nil => simp [framesOf, stretches]
  | cons line lines ih =>
      have hclosed : (closed ++ [fields]).flatten = closed.flatten ++ fields := by simp
      have hfields : fieldLines (line.shown true) = fieldLines line.text := by
        unfold TextLine.shown
        split
        · exact fieldLines_append_cr line.text
        · rfl
      rw [List.map_cons, framesOf, stretches, hfields]
      by_cases hblank : line.text = []
      · rw [if_pos hblank]
        have hnone : fieldLines line.text = [] := by
          rw [hblank]
          rfl
        cases hcut : line.cut with
        | true =>
            have hne : line.shown true ≠ [] := by simp [TextLine.shown, hcut]
            have hnext := ih (closed ++ [fields]) []
            rw [if_neg hne, hnone, List.append_nil]
            rw [hclosed, List.append_nil] at hnext
            exact hnext
        | false =>
            have heq : line.shown true = [] := by simp [TextLine.shown, hcut, hblank]
            have hlater := ih [] []
            rw [List.flatten_nil, List.nil_append] at hlater
            rw [if_pos heq, hlater, ← hclosed]
            simp only [Bool.false_eq_true, if_false, List.filterMap_cons]
            cases frameOf (closed ++ [fields]).flatten <;> rfl
      · have hne : line.shown true ≠ [] := by
          unfold TextLine.shown
          split <;> simp [hblank]
        rw [if_neg hne, if_neg hblank, List.append_assoc]
        exact ih closed _

end Stretches

/-! ## The frames of a stretch -/

section Merging

variable {stretch : List (List DartString)} {block : List DartString}

theorem frameOf_isSome (block : List DartString) : (frameOf block).isSome = hasData block := by
  unfold frameOf
  cases hasData block <;> rfl

theorem frameOf_eq_none : frameOf block = none ↔ hasData block = false := by
  rw [← frameOf_isSome, Option.isSome_eq_false_iff, Option.isNone_iff_eq_none]

theorem length_filterMap_frameOf (stretch : List (List DartString)) :
    (stretch.filterMap frameOf).length = stretch.countP hasData := by
  rw [List.length_filterMap_eq_countP]
  simp only [frameOf_isSome]

theorem data_flatten (h : ∀ block ∈ stretch, hasData block = false) :
    stretch.flatten.filterMap dataOf = [] := by
  rw [List.filterMap_flatten, List.flatten_eq_nil_iff]
  intro lines hlines
  obtain ⟨block, hblock, rfl⟩ := List.mem_map.mp hlines
  simpa [hasData] using h block hblock

theorem frames_none (h : ∀ block ∈ stretch, hasData block = false) :
    stretch.filterMap frameOf = [] ∧ frameOf stretch.flatten = none := by
  constructor
  · exact List.filterMap_eq_nil_iff.mpr fun block hblock => frameOf_eq_none.mpr (h block hblock)
  · rw [frameOf_eq_none, hasData, data_flatten h]
    rfl

theorem event_of_frame {frame : SseFrame} (h : frameOf block = some frame) :
    frame.event = eventName block := by
  unfold frameOf at h
  split at h <;> cases h
  rfl

private theorem frameOf_congr {other : List DartString}
    (hdata : block.filterMap dataOf = other.filterMap dataOf)
    (hevent : hasData block = true → eventName other = eventName block) :
    frameOf other = frameOf block := by
  have hsame : hasData other = hasData block := by
    rw [hasData, hasData, hdata]
  unfold frameOf
  rw [hsame, hdata]
  cases hblock : hasData block with
  | false => rfl
  | true => rw [hevent hblock]

theorem Unmerged.frame (h : Unmerged stretch) (hblock : block ∈ stretch)
    (hdata : hasData block = true) :
    stretch.filterMap frameOf = (frameOf block).toList ∧
      frameOf stretch.flatten = frameOf block := by
  have hevent := h.event block hblock hdata
  have hsingle := h.single
  obtain ⟨before, behind, rfl⟩ := List.append_of_mem hblock
  rw [List.countP_append, List.countP_cons_of_pos hdata] at hsingle
  have hbefore : ∀ b ∈ before, hasData b = false := by
    simpa using List.countP_eq_zero.mp (show before.countP hasData = 0 by omega)
  have hbehind : ∀ b ∈ behind, hasData b = false := by
    simpa using List.countP_eq_zero.mp (show behind.countP hasData = 0 by omega)
  constructor
  · rw [List.filterMap_append, List.filterMap_cons, (frames_none hbefore).1,
      (frames_none hbehind).1]
    cases frameOf block <;> rfl
  · refine frameOf_congr ?_ fun _ => hevent
    rw [List.flatten_append, List.flatten_cons, List.filterMap_append, List.filterMap_append,
      data_flatten hbefore, data_flatten hbehind, List.append_nil, List.nil_append]

theorem frames_unmerged_iff :
    stretch.filterMap frameOf = (frameOf stretch.flatten).toList ↔ Unmerged stretch := by
  constructor
  · intro h
    constructor
    · rw [← length_filterMap_frameOf, h]
      cases frameOf stretch.flatten <;> simp
    · intro block hblock hdata
      obtain ⟨frame, hframe⟩ := Option.isSome_iff_exists.mp ((frameOf_isSome block).trans hdata)
      have hmem : frame ∈ stretch.filterMap frameOf :=
        List.mem_filterMap.mpr ⟨block, hblock, hframe⟩
      rw [h, Option.mem_toList] at hmem
      rw [← event_of_frame hmem, event_of_frame hframe]
  · intro h
    by_cases hdata : ∃ block ∈ stretch, hasData block = true
    · obtain ⟨block, hblock, hdata⟩ := hdata
      obtain ⟨hframes, hflatten⟩ := h.frame hblock hdata
      rw [hframes, hflatten]
    · have hnone : ∀ block ∈ stretch, hasData block = false := by
        simpa using hdata
      rw [(frames_none hnone).1, (frames_none hnone).2]
      rfl

private theorem frame_length_le (stretch : List (List DartString)) :
    (frameOf stretch.flatten).toList.length ≤ (stretch.filterMap frameOf).length := by
  by_cases hnone : ∀ block ∈ stretch, hasData block = false
  · rw [(frames_none hnone).2]
    exact Nat.zero_le _
  · have hpos : 0 < stretch.countP hasData := by
      simpa [List.countP_pos_iff] using hnone
    rw [length_filterMap_frameOf]
    cases frameOf stretch.flatten with
    | none => exact Nat.zero_le _
    | some frame => exact hpos

end Merging

section Parts

variable {α β : Type*} {f g : α → List β} {items : List α} {rest : List β}

private theorem length_flatMap_le (hlength : ∀ item ∈ items, (g item).length ≤ (f item).length) :
    (items.flatMap g).length ≤ (items.flatMap f).length := by
  induction items with
  | nil => exact Nat.le_refl _
  | cons item items ih =>
      obtain ⟨hitem, hrest⟩ := List.forall_mem_cons.mp hlength
      have hle := ih hrest
      rw [List.flatMap_cons, List.flatMap_cons, List.length_append, List.length_append]
      omega

theorem flatMap_append_eq_iff (hlength : ∀ item ∈ items, (g item).length ≤ (f item).length) :
    items.flatMap f ++ rest = items.flatMap g ↔ (∀ item ∈ items, f item = g item) ∧ rest = [] := by
  induction items with
  | nil => simp
  | cons item items ih =>
      obtain ⟨hitem, hrest⟩ := List.forall_mem_cons.mp hlength
      rw [List.forall_mem_cons, and_assoc, ← ih hrest, List.flatMap_cons, List.flatMap_cons,
        List.append_assoc]
      constructor
      · intro h
        have hle := length_flatMap_le hrest
        have htotal := congrArg List.length h
        simp only [List.length_append] at htotal
        exact List.append_inj h (by omega)
      · rintro ⟨hhead, htail⟩
        rw [hhead, htail]

end Parts

/-! ## The chunks of a text -/

/-- The chunks give the frames of the whole text exactly where the cut blank lines do no harm. -/
theorem chunk_safe_iff (chunks : List DartString) :
    (SseDecoder.addAll {} chunks).2 = (SseDecoder.add {} chunks.flatten).2 ↔
      CutsHarmless chunks := by
  have hwhole := framesOf_whole [] [] (linesOfChunks chunks)
  have hchunks := framesOf_chunks [] [] (linesOfChunks chunks)
  rw [List.filterMap_nil, List.nil_append] at hwhole
  rw [List.flatten_nil, List.nil_append, List.filterMap_eq_flatMap_toList] at hchunks
  rw [addAll_frames, add_frames, hwhole, hchunks, eq_comm,
    flatMap_append_eq_iff fun stretch _ => frame_length_le stretch]
  simp only [frames_unmerged_iff, List.filterMap_eq_nil_iff, frameOf_eq_none]
  exact ⟨fun h => ⟨h.1, h.2⟩, fun h => ⟨h.closed, h.pending⟩⟩

private theorem stretches_uncut {lines : List TextLine}
    (huncut : ∀ line ∈ lines, line.text = [] → line.cut = false) (fields : List DartString) :
    (∀ stretch ∈ (stretches [] fields lines).1, stretch.length = 1) ∧
      (stretches [] fields lines).2 = [] := by
  induction lines generalizing fields with
  | nil => exact ⟨fun _ hmem => absurd hmem List.not_mem_nil, rfl⟩
  | cons line lines ih =>
      obtain ⟨hline, hrest⟩ := List.forall_mem_cons.mp huncut
      rw [stretches]
      split
      · rename_i hblank
        obtain ⟨hlater, hpending⟩ := ih hrest []
        rw [hline hblank]
        exact ⟨List.forall_mem_cons.mpr ⟨rfl, hlater⟩, hpending⟩
      · exact ih hrest _

theorem chunk_safe_of_uncut {chunks : List DartString}
    (huncut : ∀ line ∈ linesOfChunks chunks, line.text = [] → line.cut = false) :
    (SseDecoder.addAll {} chunks).2 = (SseDecoder.add {} chunks.flatten).2 := by
  obtain ⟨hclosed, hpending⟩ := stretches_uncut huncut []
  refine (chunk_safe_iff chunks).mpr ⟨fun stretch hmem => ?_, fun block hmem => ?_⟩
  · obtain ⟨block, rfl⟩ := List.length_eq_one_iff.mp (hclosed stretch hmem)
    refine ⟨List.countP_le_length, fun other hother _ => ?_⟩
    rw [List.mem_singleton.mp hother, List.flatten_singleton]
  · rw [stretchesOf, hpending] at hmem
    exact absurd hmem List.not_mem_nil

def cutBlankLine : List DartString := [utf16 "data: a\r\n\r", utf16 "\n"]

/-- The frame that the text as a whole has does not come out of its chunks. -/
theorem cut_blank_line_loses_frame :
    cutBlankLine.flatten = utf16 "data: a\r\n\r\n" ∧ (SseDecoder.addAll {} cutBlankLine).2 = [] ∧
      (SseDecoder.add {} cutBlankLine.flatten).2 =
        [{ event := utf16 "message", data := utf16 "a" }] := by
  rw [addAll_frames, add_frames]
  exact ⟨by decide, rfl, rfl⟩

end Astra.Client
