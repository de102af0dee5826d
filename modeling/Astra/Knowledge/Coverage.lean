import Astra.Foundation.Windows
import Astra.Knowledge.Chunker
import Astra.Platform.Words

/-!
# What the chunks of a text cover

`chunk_text` walks over the collapsed text in windows.  Each chunk is the text of a window
without its outer whitespace, and a window may start in the middle of a word; it is never
cut in front of a word that it has room for.
-/

namespace Astra.Knowledge

open Astra.Foundation Astra.Platform

/-! ## The end of a window -/

def halfWindow (size : Nat) : Nat := max (size / 2) 1

section End

variable {cs : List Char} {size start lo hi k : Nat}

private theorem rfindSpace_some (h : rfindSpace cs lo hi = some k) :
    lo ≤ k ∧ k < hi ∧ cs[k]? = some ' ' ∧ ∀ j, k < j → j < hi → cs[j]? ≠ some ' ' := by
  induction hi with
  | zero => cases h
  | succ hi ih =>
      unfold rfindSpace at h
      split_ifs at h with hlo hblank
      · cases h
        exact ⟨by omega, by omega, hblank, fun j hj hj' => by omega⟩
      · obtain ⟨hle, hlt, hk, hafter⟩ := ih h
        refine ⟨hle, by omega, hk, fun j hj hj' => ?_⟩
        rcases Nat.lt_succ_iff_lt_or_eq.mp hj' with hj' | rfl
        · exact hafter j hj hj'
        · exact hblank

private theorem rfindSpace_none (h : rfindSpace cs lo hi = none) :
    ∀ j, lo ≤ j → j < hi → cs[j]? ≠ some ' ' := by
  induction hi with
  | zero =>
      intro j _ hj
      omega
  | succ hi ih =>
      unfold rfindSpace at h
      intro j hj hj'
      split_ifs at h with hlo hblank
      · omega
      · rcases Nat.lt_succ_iff_lt_or_eq.mp hj' with hj' | rfl
        · exact ih h j hj hj'
        · exact hblank

/-- Where a window ends: with the text, at the last blank of its second half, or full. -/
inductive WindowEnd (cs : List Char) (size start : Nat) : Nat → Prop
  | last (h : cs.length ≤ start + size) : WindowEnd cs size start cs.length
  | blank (stop : Nat) (hshort : start + size < cs.length) (hlo : start + halfWindow size ≤ stop)
      (hhi : stop < start + size) (hblank : cs[stop]? = some ' ')
      (hafter : ∀ j, stop < j → j < start + size → cs[j]? ≠ some ' ') :
      WindowEnd cs size start stop
  | full (hshort : start + size < cs.length)
      (hnone : ∀ j, start + halfWindow size ≤ j → j < start + size → cs[j]? ≠ some ' ') :
      WindowEnd cs size start (start + size)

theorem halfWindow_pos (size : Nat) : 0 < halfWindow size := by
  unfold halfWindow
  omega

theorem chunkEnd_spec (cs : List Char) (size start : Nat) :
    WindowEnd cs size start (chunkEnd cs size start) := by
  simp only [chunkEnd]
  split_ifs with hshort
  · have hstop : min (start + size) cs.length = start + size := by omega
    have hhalf := halfWindow_pos size
    rw [hstop]
    cases hfind : rfindSpace cs (start + max (size / 2) 1) (start + size) with
    | none => exact .full (by omega) (rfindSpace_none hfind)
    | some k =>
        obtain ⟨hlo, hhi, hblank, hafter⟩ := rfindSpace_some hfind
        have hgt : start < k := by
          unfold halfWindow at hhalf
          omega
        simp only [if_pos hgt]
        exact .blank k (by omega) hlo hhi hblank hafter
  · have hstop : min (start + size) cs.length = cs.length := by omega
    rw [hstop]
    exact .last (by omega)

theorem chunkEnd_bounds (hsize : 0 < size) (hstart : start < cs.length) :
    start < chunkEnd cs size start ∧ chunkEnd cs size start ≤ cs.length ∧
      chunkEnd cs size start ≤ start + size := by
  have hhalf := halfWindow_pos size
  have hspec := chunkEnd_spec cs size start
  generalize chunkEnd cs size start = stop at hspec
  cases hspec <;> omega

end End

/-! ## The windows of a text -/

def windowing (cs : List Char) {size : Nat} (hsize : 0 < size) (overlap : Nat) : Windowing where
  length := cs.length
  stop := chunkEnd cs size
  next start := max (chunkEnd cs size start - overlap) (start + 1)
  lt_stop start hstart := (chunkEnd_bounds hsize hstart).1
  stop_le start hstart := (chunkEnd_bounds hsize hstart).2.1
  lt_next start := by omega
  next_le start hstart := by
    have hlt := (chunkEnd_bounds hsize hstart).1
    omega

def windowText (cs : List Char) (v : Window) : List Char := stripChars (slice cs v.start v.stop)

def chunkWindows (cs : List Char) {size : Nat} (hsize : 0 < size) (overlap start : Nat) :
    List Window :=
  ((windowing cs hsize overlap).windows start).filter fun v => windowText cs v ≠ []

def numbered (ordinal : Nat) (contents : List (List Char)) : List TextChunk :=
  (contents.zipIdx ordinal).map fun entry => ⟨entry.2, String.ofList entry.1⟩

section Loop

variable {cs : List Char} {size : Nat} {hsize : 0 < size} {overlap start ordinal : Nat} {v : Window}

theorem numbered_emitted (ordinal : Nat) (content : List Char) :
    (if content.isEmpty then [] else [⟨ordinal, String.ofList content⟩] : List TextChunk) =
      numbered ordinal ([content].filter fun content => content ≠ []) := by
  cases content <;> rfl

private theorem numbered_filter_cons (ordinal : Nat) (content : List Char)
    (contents : List (List Char)) :
    numbered ordinal ((content :: contents).filter fun content => content ≠ []) =
      numbered ordinal ([content].filter fun content => content ≠ []) ++
        numbered (if content.isEmpty then ordinal else ordinal + 1)
          (contents.filter fun content => content ≠ []) := by
  cases content <;> simp [numbered]

private theorem chunkLoop_contents (hsize : 0 < size) :
    chunkLoop cs size overlap start ordinal =
      numbered ordinal ((((windowing cs hsize overlap).windows start).map (windowText cs)).filter
        fun content => content ≠ []) := by
  fun_induction Windowing.windows (windowing cs hsize overlap) start generalizing ordinal with
  | case1 start hstart hstop =>
      have hlt : start < cs.length := hstart
      have hlast : cs.length ≤ chunkEnd cs size start := hstop
      rw [chunkLoop, if_pos hlt]
      simp only [if_pos hlast, numbered_emitted]
      rfl
  | case2 start hstart hstop ih =>
      have hlt : start < cs.length := hstart
      have hmore : ¬ cs.length ≤ chunkEnd cs size start := hstop
      rw [chunkLoop, if_pos hlt, List.map_cons, numbered_filter_cons, ← ih]
      simp only [if_neg hmore, numbered_emitted]
      rfl
  | case3 start hstart =>
      have hlt : ¬ start < cs.length := hstart
      rw [chunkLoop, if_neg hlt]
      rfl

private theorem chunkLoop_eq (hsize : 0 < size) :
    chunkLoop cs size overlap start ordinal =
      numbered ordinal ((chunkWindows cs hsize overlap start).map (windowText cs)) := by
  rw [chunkLoop_contents hsize, List.filter_map]
  rfl

private theorem forall₂_numbered {P : Window → TextChunk → Prop} {ws : List Window}
    {f : Window → List Char} (h : ∀ v ∈ ws, ∀ ordinal, P v ⟨ordinal, String.ofList (f v)⟩)
    (ordinal : Nat) : List.Forall₂ P ws (numbered ordinal (ws.map f)) := by
  induction ws generalizing ordinal with
  | nil => exact .nil
  | cons v ws ih =>
      obtain ⟨hv, hws⟩ := List.forall_mem_cons.mp h
      exact .cons (hv ordinal) (ih hws (ordinal + 1))

theorem exists_numbered {ws : List Window} {f : Window → List Char} {v : Window} (h : v ∈ ws)
    (ordinal : Nat) :
    ∃ n, (v, (⟨n, String.ofList (f v)⟩ : TextChunk)) ∈ ws.zip (numbered ordinal (ws.map f)) := by
  induction ws generalizing ordinal with
  | nil => cases h
  | cons w ws ih =>
      rcases List.mem_cons.mp h with rfl | h
      · exact ⟨ordinal, List.mem_cons_self⟩
      · obtain ⟨n, hn⟩ := ih h (ordinal + 1)
        exact ⟨n, List.mem_cons_of_mem _ hn⟩

theorem numbered_ordinals (contents : List (List Char)) :
    (numbered 0 contents).map TextChunk.ordinal = List.range contents.length := by
  unfold numbered
  rw [List.map_map]
  show (contents.zipIdx 0).map Prod.snd = _
  rw [List.zipIdx_map_snd, List.range_eq_range']

end Loop

/-! ## What a chunk contains -/

structure ChunkOf (cs : List Char) (size : Nat) (v : Window) (chunk : TextChunk) : Prop where
  start_lt : v.start < v.stop
  stop_le : v.stop ≤ cs.length
  width_le : v.stop ≤ v.start + size
  content : chunk.content.toList = windowText cs v
  nonempty : chunk.content ≠ ""
  substring : chunk.content.toList <:+: cs
  length_le : chunk.content.length ≤ size

/-- The chunk holds the text from `lo` to `hi`. -/
def Covers (cs : List Char) (chunk : TextChunk) (lo hi : Nat) : Prop :=
  ∃ place, place ≤ lo ∧ hi ≤ place + chunk.content.length ∧
    chunk.content.toList = slice cs place (place + chunk.content.length)

section Content

variable {cs : List Char} {size overlap : Nat} {hsize : 0 < size} {start p : Nat} {v : Window}

private theorem slice_length (hle : v.stop ≤ cs.length) :
    (slice cs v.start v.stop).length = v.stop - v.start := by
  unfold slice
  rw [List.length_take, List.length_drop]
  omega

private theorem slice_getElem? (hlo : v.start ≤ p) (hhi : p < v.stop) :
    (slice cs v.start v.stop)[p - v.start]? = cs[p]? := by
  unfold slice
  rw [List.getElem?_take_of_lt (by omega), List.getElem?_drop]
  congr 1
  omega

theorem windowText_place (hlt : v.start ≤ v.stop) (hle : v.stop ≤ cs.length) :
    ∃ place, v.start ≤ place ∧ place + (windowText cs v).length ≤ v.stop ∧
      windowText cs v = slice cs place (place + (windowText cs v).length) ∧
      ∀ p c, v.start ≤ p → p < v.stop → cs[p]? = some c → isSpace c = false →
        place ≤ p ∧ p < place + (windowText cs v).length := by
  obtain ⟨leading, trailing, hsplit, hleading, htrailing⟩ :=
    stripChars_split (slice cs v.start v.stop)
  change slice cs v.start v.stop = leading ++ windowText cs v ++ trailing at hsplit
  have hlength := slice_length (v := v) hle
  have hsum : leading.length + (windowText cs v).length + trailing.length = v.stop - v.start := by
    rw [← hlength, hsplit, List.length_append, List.length_append]
  refine ⟨v.start + leading.length, by omega, by omega, ?_, ?_⟩
  · have hdrop : (slice cs v.start v.stop).drop leading.length = windowText cs v ++ trailing := by
      rw [hsplit, List.append_assoc, List.drop_left]
    have htext : ((slice cs v.start v.stop).drop leading.length).take (windowText cs v).length =
        windowText cs v := by
      rw [hdrop, List.take_left]
    have hwidth : min (windowText cs v).length (v.stop - v.start - leading.length) =
        v.start + leading.length + (windowText cs v).length - (v.start + leading.length) := by
      omega
    unfold slice at htext ⊢
    rw [List.drop_take, List.drop_drop, List.take_take, hwidth] at htext
    exact htext.symm
  · intro p c hlo hhi hc hspace
    have hget : (slice cs v.start v.stop)[p - v.start]? = cs[p]? := slice_getElem? hlo hhi
    rw [hc, hsplit, List.append_assoc] at hget
    have hinside : leading.length ≤ p - v.start := by
      by_contra hout
      rw [List.getElem?_append_left (by omega)] at hget
      rw [hleading c (List.mem_of_getElem? hget)] at hspace
      cases hspace
    refine ⟨by omega, ?_⟩
    by_contra hout
    rw [List.getElem?_append_right hinside, List.getElem?_append_right (by omega)] at hget
    rw [htrailing c (List.mem_of_getElem? hget)] at hspace
    cases hspace

private theorem mem_chunkWindows (h : v ∈ chunkWindows cs hsize overlap start) :
    v.start < cs.length ∧ v.stop = chunkEnd cs size v.start ∧ windowText cs v ≠ [] := by
  obtain ⟨hmem, htext⟩ := List.mem_filter.mp h
  obtain ⟨-, hlt, hv⟩ := Windowing.mem_windows hmem
  exact ⟨hlt, congrArg Window.stop hv, by simpa using htext⟩

private theorem chunkOf_window (h : v ∈ chunkWindows cs hsize overlap start) (ordinal : Nat) :
    ChunkOf cs size v ⟨ordinal, String.ofList (windowText cs v)⟩ := by
  obtain ⟨hlt, hstop, htext⟩ := mem_chunkWindows h
  obtain ⟨hstart, hle, hwidth⟩ := chunkEnd_bounds hsize hlt
  rw [← hstop] at hstart hle hwidth
  obtain ⟨place, hplace, hend, hslice, -⟩ := windowText_place (by omega) hle
  constructor
  · exact hstart
  · exact hle
  · exact hwidth
  · exact String.toList_ofList
  · exact fun hempty => htext (by simpa using congrArg String.toList hempty)
  · rw [String.toList_ofList, hslice]
    exact (List.take_prefix _ _).isInfix.trans (List.drop_suffix _ _).isInfix
  · rw [String.length_ofList]
    omega

theorem exists_chunk {lo hi : Nat}
    (h : v ∈ (windowing cs hsize overlap).windows start) (hlo : v.start ≤ lo) (hhi : hi ≤ v.stop)
    (hlt : lo < hi) (hletters : ∀ p c, lo ≤ p → p < hi → cs[p]? = some c → isSpace c = false) :
    v ∈ chunkWindows cs hsize overlap start ∧
      ∀ ordinal, Covers cs ⟨ordinal, String.ofList (windowText cs v)⟩ lo hi := by
  obtain ⟨-, hin, hv⟩ := Windowing.mem_windows h
  have hstop : v.stop = chunkEnd cs size v.start := congrArg Window.stop hv
  obtain ⟨hstart, hle, -⟩ := chunkEnd_bounds hsize hin
  rw [← hstop] at hstart hle
  obtain ⟨place, hplace, hend, hslice, hheld⟩ := windowText_place (by omega) hle
  have hletter : ∀ p, lo ≤ p → p < hi → place ≤ p ∧ p < place + (windowText cs v).length := by
    intro p hp hp'
    have hget : cs[p]? = some cs[p] := List.getElem?_eq_getElem (by omega)
    exact hheld p _ (by omega) (by omega) hget (hletters p _ hp hp' hget)
  have hfirst := hletter lo le_rfl hlt
  have hlast := hletter (hi - 1) (by omega) (by omega)
  refine ⟨List.mem_filter.mpr ⟨h, ?_⟩, fun ordinal => ⟨place, hfirst.1, ?_, ?_⟩⟩
  · simp only [ne_eq, decide_not, Bool.not_eq_eq_eq_not, Bool.not_true, decide_eq_false_iff_not]
    rintro hempty
    rw [hempty, List.length_nil] at hfirst
    omega
  · rw [String.length_ofList]
    omega
  · rw [String.toList_ofList, String.length_ofList]
    exact hslice

/-- A word from `lo` to `hi`: a maximal run of letters. -/
structure IsWord (cs : List Char) (lo hi : Nat) : Prop where
  lt : lo < hi
  le : hi ≤ cs.length
  letters : ∀ p c, lo ≤ p → p < hi → cs[p]? = some c → isSpace c = false
  before : ∀ c, 0 < lo → cs[lo - 1]? = some c → isSpace c = true
  after : ∀ c, cs[hi]? = some c → isSpace c = true

theorem IsWord.le_stop {lo hi : Nat} (hword : IsWord cs lo hi) (hspaced : SingleSpaced cs)
    (hfits : hi - lo + halfWindow size ≤ size) (h : v ∈ (windowing cs hsize overlap).windows start)
    (hlo : v.start ≤ lo) (hreach : lo < v.stop) : hi ≤ v.stop := by
  obtain ⟨-, -, hv⟩ := Windowing.mem_windows h
  have hstop : v.stop = chunkEnd cs size v.start := congrArg Window.stop hv
  have hhalf := halfWindow_pos size
  have hle := hword.le
  have hspec := chunkEnd_spec cs size v.start
  rw [← hstop] at hspec
  generalize v.stop = stop at hspec hreach
  by_contra hcut
  cases hspec with
  | last hend => exact hcut hle
  | blank stop hshort hhalf' hhi hblank hafter =>
      have hletter := hword.letters stop ' ' (by omega) (by omega) hblank
      exact absurd hletter (by decide)
  | full hshort hnone =>
      -- the word starts so late that the blank in front of it is in the second half
      have hget : cs[lo - 1]? = some cs[lo - 1] := List.getElem?_eq_getElem (by omega)
      have hspace := hword.before _ (by omega) hget
      rw [hspaced.blank _ (List.getElem_mem _) hspace] at hget
      exact hnone (lo - 1) (by omega) (by omega) hget

end Content

/-! ## Whole texts -/

section Text

variable {text : String} {size overlap : Int}

def textWindows (text : String) {size : Int} (hsize : 0 < size) (overlap : Int) : List Window :=
  chunkWindows (collapse text).toList (Int.lt_toNat.mpr hsize) overlap.toNat 0

theorem chunkText_eq (hsize : 0 < size) (hoverlap : 0 ≤ overlap) (hlt : overlap < size) :
    chunkText text size overlap =
      .ok (numbered 0
        ((textWindows text hsize overlap).map (windowText (collapse text).toList))) := by
  unfold chunkText textWindows
  rw [if_neg (by omega), if_neg (by omega)]
  exact congrArg Except.ok (chunkLoop_eq _)

/--
Every text is cut into numbered chunks of its windows, which start one behind the other, and
every letter of the collapsed text is in the window and in the content of a chunk.
-/
theorem chunkText_loses_nothing (text : String) {size overlap : Int} (hsize : 0 < size)
    (hoverlap : 0 ≤ overlap) (hlt : overlap < size) :
    ∃ chunks, chunkText text size overlap = .ok chunks ∧
      chunks.map TextChunk.ordinal = List.range chunks.length ∧
      List.Forall₂ (ChunkOf (collapse text).toList size.toNat) (textWindows text hsize overlap)
        chunks ∧
      (textWindows text hsize overlap).Pairwise (fun u v => u.start < v.start) ∧
      ∀ p c, (collapse text).toList[p]? = some c → isSpace c = false →
        ∃ v chunk, (v, chunk) ∈ (textWindows text hsize overlap).zip chunks ∧
          v.start ≤ p ∧ p < v.stop ∧ Covers (collapse text).toList chunk p (p + 1) := by
  refine ⟨_, chunkText_eq hsize hoverlap hlt, ?_, ?_, ?_, ?_⟩
  · rw [numbered_ordinals]
    simp [numbered]
  · exact forall₂_numbered (fun v hv => chunkOf_window hv) 0
  · exact (Windowing.windows_pairwise _ 0).filter _
  · intro p c hc hletter
    have hp : p < (collapse text).toList.length := (List.getElem?_eq_some_iff.mp hc).1
    obtain ⟨v, hv, hlo, hhi⟩ := Windowing.exists_window
      (w := windowing (collapse text).toList (Int.lt_toNat.mpr hsize) overlap.toNat)
      (Nat.zero_le p) hp
    obtain ⟨hchunk, hcovers⟩ := exists_chunk hv hlo hhi (Nat.lt_succ_self p) (by
      intro q d hq hq' hd
      obtain rfl : q = p := by omega
      rw [hc, Option.some.injEq] at hd
      rwa [← hd])
    obtain ⟨n, hn⟩ := exists_numbered hchunk 0
    exact ⟨v, _, hn, hlo, hhi, hcovers n⟩

theorem chunkText_loses_nothing_lore :
    ∃ chunks, chunkText "The  silver bridge leads" 8 3 = .ok chunks ∧
      chunks.map TextChunk.ordinal = List.range chunks.length ∧
      List.Forall₂ (ChunkOf "The silver bridge leads".toList 8)
        (textWindows "The  silver bridge leads" (by decide : (0 : Int) < 8) 3) chunks := by
  have hcollapse : collapse "The  silver bridge leads" = "The silver bridge leads" := by
    decide +kernel
  obtain ⟨chunks, hchunks, hordinals, hwindows, -⟩ :=
    chunkText_loses_nothing "The  silver bridge leads" (by decide : (0 : Int) < 8)
      (by decide : (0 : Int) ≤ 3) (by decide)
  rw [hcollapse] at hwindows
  exact ⟨chunks, hchunks, hordinals, hwindows⟩

/--
Every word that is short enough to fit between the middle and the end of a window is whole
in a chunk.
-/
theorem chunkText_keeps_words (text : String) {size overlap : Int} (hsize : 0 < size)
    (hoverlap : 0 ≤ overlap) (hlt : overlap < size) :
    ∃ chunks, chunkText text size overlap = .ok chunks ∧
      ∀ lo hi : Nat, IsWord (collapse text).toList lo hi →
        (hi : Int) - lo ≤ size - max (size / 2) 1 →
        ∃ chunk ∈ chunks, Covers (collapse text).toList chunk lo hi := by
  refine ⟨_, chunkText_eq hsize hoverlap hlt, fun lo hi hword hfits => ?_⟩
  have hlt := hword.lt
  have hfits : hi - lo + halfWindow size.toNat ≤ size.toNat := by
    unfold halfWindow
    omega
  obtain ⟨v, hv, hlo, hreach⟩ := Windowing.exists_window
    (w := windowing (collapse text).toList (Int.lt_toNat.mpr hsize) overlap.toNat)
    (Nat.zero_le lo) (Nat.lt_of_lt_of_le hlt hword.le)
  have hhi := hword.le_stop (collapse_singleSpaced text) hfits hv hlo hreach
  obtain ⟨hchunk, hcovers⟩ := exists_chunk hv hlo hhi hlt hword.letters
  obtain ⟨n, hn⟩ := exists_numbered hchunk 0
  exact ⟨_, (List.of_mem_zip hn).2, hcovers n⟩

theorem chunkText_keeps_words_silver :
    ∃ chunks, chunkText "The  silver bridge leads" 16 3 = .ok chunks ∧
      ∃ chunk ∈ chunks, Covers "The silver bridge leads".toList chunk 4 10 := by
  have hcollapse : collapse "The  silver bridge leads" = "The silver bridge leads" := by
    decide +kernel
  have hletters : ∀ p < 10, 4 ≤ p →
      ("The silver bridge leads".toList[p]?).all (fun c => !isSpace c) = true := by decide
  have hword : IsWord "The silver bridge leads".toList 4 10 := by
    refine ⟨by decide, by decide, ?_, ?_, ?_⟩
    · intro p c hlo hhi hc
      have hletter := hletters p hhi hlo
      rw [hc] at hletter
      simpa using hletter
    · intro c _ hc
      cases hc
      decide
    · intro c hc
      cases hc
      decide
  obtain ⟨chunks, hchunks, hkept⟩ :=
    chunkText_keeps_words "The  silver bridge leads" (by decide : (0 : Int) < 16)
      (by decide : (0 : Int) ≤ 3) (by decide)
  rw [hcollapse] at hkept
  exact ⟨chunks, hchunks, hkept 4 10 hword (by decide)⟩

end Text

end Astra.Knowledge
