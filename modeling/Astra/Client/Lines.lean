import Astra.Client.SseDecoder

/-!
# The lines of a text in chunks

`add` replaces `\r\n` within each chunk, so that one whose characters arrive in two chunks
stays.  The frames are described here by the lines of the text, each with a mark where its
line ending has been cut.
-/

namespace Astra.Client

open Astra.Foundation

/-! ## Lines -/

structure TextLine where
  text : DartString
  cut : Bool
  deriving DecidableEq

def markChunk : DartString → List (UInt16 × Bool)
  | [] => []
  | c :: cs => (c, true) :: cs.map fun c => (c, false)

def endLine (line : DartString) (first : Bool) : TextLine :=
  if line.getLast? = some cr then { text := line.dropLast, cut := first }
  else { text := line, cut := false }

def linesOf : DartString → List (UInt16 × Bool) → List TextLine × DartString
  | line, [] => ([], line)
  | line, (c, first) :: rest =>
      if c = lf then
        let later := linesOf [] rest
        (endLine line first :: later.1, later.2)
      else linesOf (line ++ [c]) rest

def linesOfChunks (chunks : List DartString) : List TextLine :=
  (linesOf [] (chunks.flatMap markChunk)).1

/-- A line as `add` sees it: of the whole text, or as it arrives, with the `\r` of a cut. -/
def TextLine.shown (arriving : Bool) (line : TextLine) : DartString :=
  if arriving && line.cut then line.text ++ [cr] else line.text

def joinLines (lines : List DartString) : DartString := lines.flatMap fun line => line ++ [lf]

/-! ## Replacing line endings -/

/-- `\r\n` becomes `\n`, except where it is cut and `arriving` is set. -/
def replaceMarked (arriving : Bool) : List (UInt16 × Bool) → DartString
  | [] => []
  | [(c, _)] => [c]
  | (c, _) :: (d, first) :: rest =>
      if c = cr ∧ d = lf ∧ (arriving && first) = false then lf :: replaceMarked arriving rest
      else c :: replaceMarked arriving ((d, first) :: rest)

section Replace

variable {arriving first : Bool} {line rest : List (UInt16 × Bool)}

private theorem replaceMarked_false (marks : List (UInt16 × Bool)) :
    replaceMarked false marks = replaceCrLf (marks.map Prod.fst) := by
  induction marks using replaceMarked.induct false with
  | case1 => rfl
  | case2 c first => rfl
  | case3 c first' d first rest hbreak ih =>
      rw [replaceMarked, if_pos hbreak, ih]
      simp [replaceCrLf, hbreak.1, hbreak.2.1]
  | case4 c first' d first rest hbreak ih =>
      have hbreak' : ¬ (c = cr ∧ d = lf) := fun h => hbreak ⟨h.1, h.2, rfl⟩
      rw [replaceMarked, if_neg hbreak, ih]
      simp [replaceCrLf, hbreak']

theorem replaceMarked_first (h : ∀ mark ∈ rest.head?, mark.2 = true) (c : UInt16) (first : Bool) :
    replaceMarked true ((c, first) :: rest) = c :: replaceMarked true rest := by
  cases rest with
  | nil => rfl
  | cons mark rest =>
      have hmark : mark.2 = true := h mark rfl
      rw [replaceMarked, if_neg (by simp [hmark])]

theorem replaceMarked_chunk (hrest : ∀ mark ∈ rest.head?, mark.2 = true) :
    ∀ (c : UInt16) (cs : DartString) (first : Bool),
      replaceMarked true (((c, first) :: cs.map fun c => (c, false)) ++ rest) =
        replaceCrLf (c :: cs) ++ replaceMarked true rest
  | c, [], first => replaceMarked_first hrest c first
  | c, [d], first => by
      have hlast := replaceMarked_first hrest d false
      simp only [List.map_cons, List.map_nil, List.cons_append, List.nil_append, replaceMarked,
        replaceCrLf, Bool.and_false, and_true]
      split
      · rfl
      · rw [hlast]
        rfl
  | c, d :: e :: cs, first => by
      have hbehind := replaceMarked_chunk hrest e cs false
      have hnext := replaceMarked_chunk hrest d (e :: cs) false
      simp only [List.map_cons, List.cons_append] at hbehind hnext ⊢
      rw [replaceMarked, replaceCrLf]
      simp only [Bool.and_false, and_true]
      split
      · rw [hbehind]
        rfl
      · rw [hnext]
        rfl

private theorem head_markChunk (chunks : List DartString) :
    ∀ mark ∈ (chunks.flatMap markChunk).head?, mark.2 = true := by
  induction chunks with
  | nil => simp
  | cons chunk chunks ih =>
      cases chunk with
      | nil => exact ih
      | cons c cs =>
          intro mark hmark
          cases hmark
          rfl

private theorem replaceMarked_chunks (chunks : List DartString) :
    replaceMarked true (chunks.flatMap markChunk) = (chunks.map replaceCrLf).flatten := by
  induction chunks with
  | nil => rfl
  | cons chunk chunks ih =>
      rw [List.flatMap_cons, List.map_cons, List.flatten_cons, ← ih]
      cases chunk with
      | nil => rfl
      | cons c cs => exact replaceMarked_chunk (head_markChunk chunks) c cs true

private theorem map_markChunk (chunks : List DartString) :
    (chunks.flatMap markChunk).map Prod.fst = chunks.flatten := by
  induction chunks with
  | nil => rfl
  | cons chunk chunks ih =>
      rw [List.flatMap_cons, List.map_append, ih, List.flatten_cons]
      cases chunk with
      | nil => rfl
      | cons c cs => simp [markChunk, Function.comp_def]

private theorem shown_endLine_cons (c d : UInt16) (line : DartString) :
    (endLine (c :: d :: line) first).shown arriving =
      c :: (endLine (d :: line) first).shown arriving := by
  have hlast : (c :: d :: line).getLast? = (d :: line).getLast? := List.getLast?_cons_cons
  unfold endLine
  rw [hlast]
  split
  · unfold TextLine.shown
    split <;> rfl
  · simp [TextLine.shown]

private theorem replaceMarked_line (hline : ∀ mark ∈ line, mark.1 ≠ lf) :
    replaceMarked arriving (line ++ (lf, first) :: rest) =
      (endLine (line.map Prod.fst) first).shown arriving ++ lf :: replaceMarked arriving rest := by
  have hlf : ¬ (lf = cr) := by decide
  have hbreak : replaceMarked arriving ((lf, first) :: rest) =
      lf :: replaceMarked arriving rest := by
    cases rest <;> simp [replaceMarked, hlf]
  induction line with
  | nil => simpa [endLine, TextLine.shown] using hbreak
  | cons mark line ih =>
      obtain ⟨c, b⟩ := mark
      cases line with
      | nil =>
          rw [List.singleton_append, replaceMarked, hbreak]
          by_cases hc : c = cr
          · cases hkeep : arriving && first <;> simp [hc, hkeep, endLine, TextLine.shown]
          · simp [hc, endLine, TextLine.shown]
      | cons mark line =>
          obtain ⟨d, b'⟩ := mark
          have hd : d ≠ lf := hline (d, b') (by simp)
          have hnext := ih fun mark hmark => hline mark (List.mem_cons_of_mem _ hmark)
          simp only [List.cons_append, List.map_cons] at hnext ⊢
          rw [replaceMarked, if_neg (by simp [hd]), hnext, shown_endLine_cons, List.cons_append]

theorem replaceMarked_plain (hline : ∀ mark ∈ line, mark.1 ≠ lf) :
    replaceMarked arriving line = line.map Prod.fst := by
  induction line with
  | nil => rfl
  | cons mark line ih =>
      have hnext := ih fun mark hmark => hline mark (List.mem_cons_of_mem _ hmark)
      cases line with
      | nil => rfl
      | cons mark' line =>
          have hd : mark'.1 ≠ lf := hline mark' (by simp)
          rw [replaceMarked, if_neg (by simp [hd]), hnext]
          rfl

theorem replaceMarked_eq (hline : ∀ mark ∈ line, mark.1 ≠ lf) (rest : List (UInt16 × Bool)) :
    replaceMarked arriving (line ++ rest) =
      joinLines ((linesOf (line.map Prod.fst) rest).1.map (TextLine.shown arriving)) ++
        (linesOf (line.map Prod.fst) rest).2 := by
  induction rest generalizing line with
  | nil =>
      rw [List.append_nil, replaceMarked_plain hline, linesOf]
      rfl
  | cons mark rest ih =>
      obtain ⟨c, first⟩ := mark
      by_cases hc : c = lf
      · have hnext := @ih [] (by simp)
        subst hc
        rw [replaceMarked_line hline, linesOf, if_pos rfl]
        rw [List.nil_append, List.map_nil] at hnext
        rw [hnext]
        simp [joinLines]
      · have hnext := @ih (line ++ [(c, first)]) fun mark hmark => by
          rcases List.mem_append.mp hmark with hmark | hmark
          · exact hline mark hmark
          · rw [List.mem_singleton.mp hmark]
            exact hc
        rw [linesOf, if_neg hc]
        simpa using hnext

theorem linesOf_plain {line : DartString} (hline : lf ∉ line) (marks : List (UInt16 × Bool)) :
    (∀ l ∈ (linesOf line marks).1, lf ∉ l.text) ∧ lf ∉ (linesOf line marks).2 := by
  induction marks generalizing line with
  | nil => exact ⟨fun _ hmem => absurd hmem List.not_mem_nil, hline⟩
  | cons mark marks ih =>
      obtain ⟨c, first⟩ := mark
      rw [linesOf]
      split
      · obtain ⟨hlines, htail⟩ := @ih [] (by simp)
        refine ⟨fun l hl => ?_, htail⟩
        rcases List.mem_cons.mp hl with rfl | hl
        · unfold endLine
          split
          · exact fun hmem => hline (List.mem_of_mem_dropLast hmem)
          · exact hline
        · exact hlines l hl
      · rename_i hc
        exact ih (by simp [hline, Ne.symm hc])

end Replace

/-! ## The whole text and its chunks, line by line -/

theorem shown_plain {line : TextLine} (h : lf ∉ line.text) (arriving : Bool) :
    lf ∉ line.shown arriving := by
  have hlf : ¬ (lf = cr) := by decide
  unfold TextLine.shown
  split <;> simp [h, hlf]

private theorem whole_lines (chunks : List DartString) :
    replaceCrLf chunks.flatten =
      joinLines ((linesOfChunks chunks).map (TextLine.shown false)) ++
        (linesOf [] (chunks.flatMap markChunk)).2 := by
  rw [← map_markChunk, ← replaceMarked_false]
  exact @replaceMarked_eq _ [] (by simp) _

private theorem chunk_lines (chunks : List DartString) :
    (chunks.map replaceCrLf).flatten =
      joinLines ((linesOfChunks chunks).map (TextLine.shown true)) ++
        (linesOf [] (chunks.flatMap markChunk)).2 := by
  rw [← replaceMarked_chunks]
  exact @replaceMarked_eq _ [] (by simp) _

/-! ## The fields of a block -/

/-- The lines of a block that are not empty; `_parseBlock` reads nothing else. -/
def fieldLines (block : DartString) : List DartString := (splitLines block).filter (· ≠ [])

def eventOf (line : DartString) : Option DartString :=
  if utf16 "event:" <+: line then some (trim (line.drop 6)) else none

def dataOf (line : DartString) : Option DartString :=
  if utf16 "data:" <+: line then some (trimLeft (line.drop 5)) else none

def hasData (lines : List DartString) : Bool := !(lines.filterMap dataOf).isEmpty

def eventName (lines : List DartString) : DartString :=
  (lines.filterMap eventOf).getLast?.getD (utf16 "message")

def frameOf (lines : List DartString) : Option SseFrame :=
  if hasData lines then
    some { event := eventName lines, data := List.intercalate [lf] (lines.filterMap dataOf) }
  else none

section Fields

variable {line : DartString} {lines : List DartString}

theorem not_both_prefixes {a b : UInt16} (hne : a ≠ b) {before after : DartString}
    (h : a :: before <+: line) : ¬ b :: after <+: line := by
  intro h'
  obtain ⟨rest, rfl⟩ := h
  exact hne (List.cons_prefix_cons.mp h').1.symm

theorem parseLine_eq (fields : DartString × List DartString) (line : DartString) :
    parseLine fields line =
      ((eventOf line).getD fields.1, fields.2 ++ (dataOf line).toList) := by
  have hevent : utf16 "event:" <+: line → ¬ utf16 ":" <+: line := not_both_prefixes (by decide)
  have hdata : utf16 "data:" <+: line → ¬ utf16 ":" <+: line := not_both_prefixes (by decide)
  have hdata' : utf16 "data:" <+: line → ¬ utf16 "event:" <+: line :=
    not_both_prefixes (by decide)
  unfold parseLine eventOf dataOf
  by_cases hd : utf16 "data:" <+: line
  · simp [hd, hdata hd, hdata' hd]
  · by_cases he : utf16 "event:" <+: line
    · simp [hd, he, hevent he]
    · simp [hd, he]

private theorem foldl_parseLine (fields : DartString × List DartString) (lines : List DartString) :
    lines.foldl parseLine fields =
      ((lines.filterMap eventOf).getLast?.getD fields.1, fields.2 ++ lines.filterMap dataOf) := by
  induction lines generalizing fields with
  | nil => simp
  | cons line lines ih =>
      rw [List.foldl_cons, ih, parseLine_eq]
      congr 1
      · cases hevent : eventOf line with
        | none => simp [hevent]
        | some name =>
            rw [List.filterMap_cons_some hevent, List.getLast?_cons]
            rfl
      · cases hdata : dataOf line <;> simp [hdata]

theorem filterMap_filter_ne {f : DartString → Option DartString} (hf : f [] = none)
    (lines : List DartString) : (lines.filter (· ≠ [])).filterMap f = lines.filterMap f := by
  rw [List.filterMap_filter]
  congr 1
  funext line
  cases line with
  | nil => simp [hf]
  | cons c line => simp

theorem parseBlock_eq (block : DartString) : parseBlock block = frameOf (fieldLines block) := by
  have hevent : eventOf [] = none := by decide
  have hdata : dataOf [] = none := by decide
  unfold parseBlock frameOf hasData eventName fieldLines
  rw [foldl_parseLine, filterMap_filter_ne hevent, filterMap_filter_ne hdata]
  dsimp only
  rw [List.nil_append]
  cases (List.filterMap dataOf (splitLines block)).isEmpty <;> rfl

end Fields

/-! ## The lines of two texts -/

section LineBreaks

variable {slice : DartString}

private theorem fieldLines_afterCr (text : DartString) :
    (lineLoop true [] text).filter (· ≠ []) = (lineLoop false [] text).filter (· ≠ []) := by
  cases text with
  | nil => rfl
  | cons c text =>
      by_cases hc : c = lf
      · have hbreak : decide (lf = cr) = false := by decide
        simp [lineLoop, hc, hbreak]
      · simp [lineLoop, hc]

private theorem fieldLines_next (c : UInt16) (text : DartString) :
    (lineLoop (c = cr) [] text).filter (· ≠ []) = fieldLines text := by
  by_cases hc : c = cr
  · simpa [hc, fieldLines, splitLines] using fieldLines_afterCr text
  · simp [hc, fieldLines, splitLines]

theorem fieldLines_break {afterCr : Bool} (hslice : afterCr = true → slice = []) {c : UInt16}
    (hc : c = lf ∨ c = cr) (before behind : DartString) :
    (lineLoop afterCr slice (before ++ c :: behind)).filter (· ≠ []) =
      (lineLoop afterCr slice before).filter (· ≠ []) ++ fieldLines behind := by
  induction before generalizing slice afterCr with
  | nil =>
      rw [List.nil_append, lineLoop, lineLoop]
      by_cases hskip : c = lf ∧ afterCr = true
      · rw [if_pos hskip, if_pos (hslice hskip.2)]
        rfl
      · rw [if_neg hskip, if_pos hc, List.filter_cons, fieldLines_next]
        by_cases hempty : slice = [] <;> simp [hempty]
  | cons d before ih =>
      rw [List.cons_append, lineLoop, lineLoop]
      by_cases hskip : d = lf ∧ afterCr = true
      · rw [if_pos hskip, if_pos hskip]
        exact ih (by simp)
      · rw [if_neg hskip, if_neg hskip]
        by_cases hbreak : d = lf ∨ d = cr
        · rw [if_pos hbreak, if_pos hbreak, List.filter_cons, List.filter_cons,
            @ih [] (decide (d = cr)) fun _ => rfl]
          split <;> rfl
        · rw [if_neg hbreak, if_neg hbreak]
          exact ih (by simp)

private theorem fieldLines_append_lf (before behind : DartString) :
    fieldLines (before ++ lf :: behind) = fieldLines before ++ fieldLines behind :=
  fieldLines_break (by simp) (Or.inl rfl) before behind

theorem fieldLines_append_cr (line : DartString) : fieldLines (line ++ [cr]) = fieldLines line := by
  have h := @fieldLines_break [] false (by simp) cr (Or.inr rfl) line []
  simpa [fieldLines, splitLines, lineLoop] using h

end LineBreaks

/-! ## The frames, line by line -/

def framesOf : List DartString → List DartString → List SseFrame
  | _, [] => []
  | fields, line :: lines =>
      if line = [] then (frameOf fields).toList ++ framesOf [] lines
      else framesOf (fields ++ fieldLines line) lines

def blockText (first : DartString) (others : List DartString) : DartString :=
  first ++ others.flatMap fun line => lf :: line

section Frames

variable {first line tail : DartString} {others lines : List DartString}

private theorem cutAt_others (hothers : ∀ line ∈ others, lf ∉ line ∧ line ≠ [])
    (stream : DartString) :
    cutAt [lf, lf] ((others.flatMap fun line => lf :: line) ++ stream) =
      (cutAt [lf, lf] stream).map fun cut =>
        ((others.flatMap fun line => lf :: line) ++ cut.1, cut.2) := by
  induction others with
  | nil => simp
  | cons line others ih =>
      obtain ⟨⟨hplain, hne⟩, hrest⟩ := List.forall_mem_cons.mp hothers
      rw [List.flatMap_cons, List.append_assoc, List.cons_append, cutAt_break hplain hne, ih hrest,
        Option.map_map]
      congr 1
      funext cut
      simp

theorem cutAt_blockText (hfirst : lf ∉ first) (hothers : ∀ line ∈ others, lf ∉ line ∧ line ≠ [])
    (stream : DartString) :
    cutAt [lf, lf] (blockText first others ++ stream) =
      (cutAt [lf, lf] stream).map fun cut => (blockText first others ++ cut.1, cut.2) := by
  unfold blockText
  rw [List.append_assoc, cutAt_line hfirst, cutAt_others hothers, Option.map_map]
  congr 1
  funext cut
  simp

theorem cutAt_plain (htail : lf ∉ tail) : cutAt [lf, lf] tail = none := by
  have h := cutAt_line htail []
  rw [List.append_nil] at h
  rw [h]
  rfl

private theorem cutAt_tail (htail : lf ∉ tail) : cutAt [lf, lf] (lf :: tail) = none := by
  by_cases hne : tail = []
  · subst hne
    decide
  · have h := cutAt_break htail hne []
    rw [List.append_nil] at h
    rw [h]
    rfl

private theorem cutAt_blank (stream : DartString) :
    cutAt [lf, lf] (lf :: lf :: stream) = some ([], stream) :=
  cutAt_append (cutAt_pair lf) stream

private theorem blockText_snoc (first line : DartString) (others : List DartString) :
    blockText first (others ++ [line]) = blockText first others ++ lf :: line := by
  simp [blockText]

theorem frames_eq (hlines : ∀ line ∈ lines, lf ∉ line) (htail : lf ∉ tail) :
    (blocks blankLine (joinLines lines ++ tail)).1.filterMap parseBlock = framesOf [] lines ∧
      ∀ first others, lf ∉ first → (∀ line ∈ others, lf ∉ line ∧ line ≠ []) →
        (blocks blankLine (blockText first others ++ lf :: (joinLines lines ++ tail))).1.filterMap
            parseBlock =
          framesOf (fieldLines (blockText first others)) lines := by
  induction lines with
  | nil =>
      constructor
      · rw [blocks_of_none (cutAt_plain htail)]
        rfl
      · intro first others hfirst hothers
        have hnone : cutAt blankLine.text (blockText first others ++ lf :: tail) = none := by
          show cutAt [lf, lf] _ = none
          rw [cutAt_blockText hfirst hothers, cutAt_tail htail]
          rfl
        have hblocks := blocks_of_none hnone
        simp only [joinLines, List.flatMap_nil, List.nil_append, hblocks, List.filterMap_nil,
          framesOf]
  | cons line lines ih =>
      obtain ⟨hline, hrest⟩ := List.forall_mem_cons.mp hlines
      obtain ⟨hstart, hwithin⟩ := ih hrest
      have hjoin : joinLines (line :: lines) ++ tail = line ++ lf :: (joinLines lines ++ tail) := by
        simp [joinLines]
      rw [hjoin]
      constructor
      · have hnext := hwithin line [] hline (by simp)
        rw [show blockText line [] = line by simp [blockText]] at hnext
        rw [hnext, framesOf]
        split
        · rename_i hempty
          rw [hempty]
          rfl
        · rfl
      · intro first others hfirst hothers
        rw [framesOf]
        split
        · rename_i hempty
          rw [hempty, List.nil_append]
          have hcut : cutAt blankLine.text (blockText first others ++
              lf :: lf :: (joinLines lines ++ tail)) =
                some (blockText first others, joinLines lines ++ tail) := by
            show cutAt [lf, lf] _ = _
            rw [cutAt_blockText hfirst hothers, cutAt_blank]
            simp
          rw [blocks_of_cut hcut, List.filterMap_cons, hstart, parseBlock_eq]
          cases frameOf (fieldLines (blockText first others)) <;> rfl
        · rename_i hne
          have hothers' : ∀ l ∈ others ++ [line], lf ∉ l ∧ l ≠ [] := by
            intro l hl
            rcases List.mem_append.mp hl with hl | hl
            · exact hothers l hl
            · rw [List.mem_singleton.mp hl]
              exact ⟨hline, hne⟩
          have hnext := hwithin first (others ++ [line]) hfirst hothers'
          rw [blockText_snoc, fieldLines_append_lf, List.append_assoc, List.cons_append] at hnext
          exact hnext

theorem frames_shown (chunks : List DartString) (arriving : Bool) :
    (blocks blankLine (joinLines ((linesOfChunks chunks).map (TextLine.shown arriving)) ++
        (linesOf [] (chunks.flatMap markChunk)).2)).1.filterMap parseBlock =
      framesOf [] ((linesOfChunks chunks).map (TextLine.shown arriving)) := by
  have hplain := @linesOf_plain [] (by simp) (chunks.flatMap markChunk)
  refine (frames_eq (fun line hline => ?_) hplain.2).1
  obtain ⟨l, hl, rfl⟩ := List.mem_map.mp hline
  exact shown_plain (hplain.1 l hl) arriving

theorem addAll_frames (chunks : List DartString) :
    (SseDecoder.addAll {} chunks).2 =
      framesOf [] ((linesOfChunks chunks).map (TextLine.shown true)) := by
  rw [addAll_blocks, blocksOf_eq blocks_nil, List.nil_append, chunk_lines]
  exact frames_shown chunks true

theorem add_frames (chunks : List DartString) :
    (SseDecoder.add {} chunks.flatten).2 =
      framesOf [] ((linesOfChunks chunks).map (TextLine.shown false)) := by
  rw [SseDecoder.add, whole_lines]
  exact frames_shown chunks false

end Frames

end Astra.Client
