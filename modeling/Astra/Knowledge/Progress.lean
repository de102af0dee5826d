import Astra.Knowledge.Coverage

/-!
# Progress of the chunks

The start of a window lies behind that of its predecessor; its end need not.  When the
overlap reaches past half a window, the search for a blank can find the one again at which
the predecessor has ended, as long as a word behind it runs past the window.
-/

namespace Astra.Knowledge

open Astra.Foundation Astra.Platform

/-- What `AppConfig` admits as `rag_chunk_size_chars` and `rag_chunk_overlap_chars`. -/
structure AdmittedChunking (size overlap : Int) : Prop where
  size_ge : 256 ≤ size
  size_le : size ≤ 12000
  overlap_nonneg : 0 ≤ overlap
  overlap_le : overlap ≤ 4000
  overlap_lt : overlap < size

theorem AdmittedChunking.size_pos {size overlap : Int} (h : AdmittedChunking size overlap) :
    0 < size := by
  have := h.size_ge
  omega

def EndsIncrease (ws : List Window) : Prop := ws.IsChain fun u v => u.stop < v.stop

/--
The window ends at a blank in the second half of the next one, and no other blank follows
in the next one, nor the end of the text.
-/
structure Stalls (cs : List Char) (size overlap : Nat) (v : Window) : Prop where
  blank : cs[v.stop]? = some ' '
  within : max (v.stop - overlap) (v.start + 1) + halfWindow size ≤ v.stop
  short : max (v.stop - overlap) (v.start + 1) + size < cs.length
  letters : ∀ j, v.stop < j → j < max (v.stop - overlap) (v.start + 1) + size → cs[j]? ≠ some ' '

/-! ## Two windows -/

section Windows

variable {cs : List Char} {size overlap start : Nat} {hsize : 0 < size} {v : Window}

theorem next_stop_iff (h : v ∈ (windowing cs hsize overlap).windows start)
    (hshort : v.stop < cs.length) :
    v.stop < chunkEnd cs size (max (v.stop - overlap) (v.start + 1)) ↔
      ¬ Stalls cs size overlap v := by
  obtain ⟨-, hin, hv⟩ := Windowing.mem_windows h
  have hstop : v.stop = chunkEnd cs size v.start := congrArg Window.stop hv
  obtain ⟨hlt, hle, hwidth⟩ := chunkEnd_bounds hsize hin
  rw [← hstop] at hlt hle hwidth
  have hend := chunkEnd_spec cs size v.start
  have hnext := chunkEnd_spec cs size (max (v.stop - overlap) (v.start + 1))
  rw [← hstop] at hend
  generalize chunkEnd cs size (max (v.stop - overlap) (v.start + 1)) = stop at hnext
  cases hnext with
  | last hlast =>
      refine ⟨fun _ hstalls => ?_, fun _ => hshort⟩
      have := hstalls.short
      omega
  | full hshort' hnone =>
      refine ⟨fun _ hstalls => ?_, fun _ => by omega⟩
      exact hnone v.stop hstalls.within (by omega) hstalls.blank
  | blank stop hshort' hlo hhi hblank hafter =>
      refine ⟨fun hbehind hstalls => hstalls.letters stop hbehind hhi hblank, fun hmoves => ?_⟩
      by_contra hback
      -- the blank of the next window is the one at which this window ends
      have hsame : cs[v.stop]? = some ' ' := by
        generalize hstop' : v.stop = stop' at hend
        cases hend with
        | last hlast => omega
        | blank _ _ _ _ hblank' _ => exact hblank'
        | full _ hnone =>
            have hge : ¬ stop < v.start + size := fun hin' =>
              hnone stop (by omega) hin' hblank
            obtain rfl : stop = v.start + size := by omega
            exact hblank
      exact hmoves ⟨hsame, by omega, hshort', fun j hj hj' => hafter j (by omega) hj'⟩

theorem windows_endsIncrease_iff :
    EndsIncrease ((windowing cs hsize overlap).windows start) ↔
      ∀ v ∈ (windowing cs hsize overlap).windows start, v.stop < cs.length →
        ¬ Stalls cs size overlap v := by
  unfold EndsIncrease
  rw [Windowing.windows_isChain_iff]
  refine forall₂_congr fun v hv => forall_congr' fun hshort => ?_
  rw [← next_stop_iff hv hshort]
  have hstop : v.stop = chunkEnd cs size v.start :=
    congrArg Window.stop (Windowing.mem_windows hv).2.2
  rw [hstop]
  rfl

private theorem exists_letter (hspaced : SingleSpaced cs) (htwo : 2 ≤ size)
    (hstart : start < cs.length) :
    ∃ p c, start ≤ p ∧ p < chunkEnd cs size start ∧ cs[p]? = some c ∧ isSpace c = false := by
  have hpair : ∀ i, i + 1 < cs.length → ∃ p c, i ≤ p ∧ p ≤ i + 1 ∧ cs[p]? = some c ∧
      isSpace c = false := by
    intro i hi
    have ha : cs[i]? = some cs[i] := List.getElem?_eq_getElem (by omega)
    have hb : cs[i + 1]? = some cs[i + 1] := List.getElem?_eq_getElem hi
    cases hspace : isSpace cs[i] with
    | false => exact ⟨i, _, le_rfl, by omega, ha, hspace⟩
    | true => exact ⟨i + 1, _, by omega, le_rfl, hb, hspaced.letter_behind ha hb hspace⟩
  have hhalf := halfWindow_pos size
  have hend := chunkEnd_spec cs size start
  generalize chunkEnd cs size start = stop at hend
  cases hend with
  | last hlast =>
      have hget : cs[cs.length - 1]? = some cs[cs.length - 1] :=
        List.getElem?_eq_getElem (by omega)
      refine ⟨cs.length - 1, _, by omega, by omega, hget, hspaced.last _ ?_⟩
      rw [List.getLast?_eq_getElem?, hget]
      rfl
  | blank stop hshort hlo hhi hblank hafter =>
      have hget : cs[stop - 1]? = some cs[stop - 1] := List.getElem?_eq_getElem (by omega)
      refine ⟨stop - 1, _, by omega, by omega, hget, ?_⟩
      by_contra hspace
      have hletter := hspaced.letter_behind hget
        (show cs[stop - 1 + 1]? = some ' ' by rw [Nat.sub_add_cancel (by omega)]; exact hblank)
        (by simpa using hspace)
      exact absurd hletter (by decide)
  | full hshort hnone =>
      obtain ⟨p, c, hlo, hhi, hc, hletter⟩ := hpair start (by omega)
      exact ⟨p, c, hlo, by omega, hc, hletter⟩

private theorem windowText_ne_nil (hspaced : SingleSpaced cs) (htwo : 2 ≤ size)
    (h : v ∈ (windowing cs hsize overlap).windows start) : windowText cs v ≠ [] := by
  obtain ⟨-, hin, hv⟩ := Windowing.mem_windows h
  have hstop : v.stop = chunkEnd cs size v.start := congrArg Window.stop hv
  obtain ⟨hlt, hle, -⟩ := chunkEnd_bounds hsize hin
  obtain ⟨p, c, hlo, hhi, hc, hletter⟩ := exists_letter hspaced htwo hin
  rw [← hstop] at hlt hle hhi
  obtain ⟨place, -, -, -, hheld⟩ := windowText_place (by omega) hle
  have hplace := hheld p c hlo hhi hc hletter
  intro hempty
  rw [hempty, List.length_nil] at hplace
  omega

theorem chunkWindows_eq (hspaced : SingleSpaced cs) (htwo : 2 ≤ size) :
    chunkWindows cs hsize overlap start = (windowing cs hsize overlap).windows start :=
  List.filter_eq_self.mpr fun _ hv => by simpa using windowText_ne_nil hspaced htwo hv

theorem chunkWindows_endsIncrease_iff (hspaced : SingleSpaced cs) (htwo : 2 ≤ size) :
    EndsIncrease (chunkWindows cs hsize overlap start) ↔
      ∀ v ∈ chunkWindows cs hsize overlap start, v.stop < cs.length →
        ¬ Stalls cs size overlap v := by
  rw [chunkWindows_eq hspaced htwo]
  exact windows_endsIncrease_iff

end Windows

/-! ## A text that stalls -/

def stallingWords (size : Nat) : List (List Char) :=
  [List.replicate (size - 1) 'a', List.replicate (size + 1) 'b']

def stallingText (size : Nat) : String := String.ofList ([' '].intercalate (stallingWords size))

section Stalling

variable {size overlap : Nat}

theorem stallingWords_words (hsize : 2 ≤ size) : ∀ w ∈ stallingWords size, Word w := by
  have hword : ∀ (n : Nat) (c : Char), 0 < n → isSpace c = false → Word (List.replicate n c) := by
    intro n c hn hc
    refine ⟨by simpa using (by omega : n ≠ 0), fun d hd => ?_⟩
    rwa [List.eq_of_mem_replicate hd]
  refine List.forall_mem_cons.mpr ⟨hword _ _ (by omega) (by decide), ?_⟩
  exact List.forall_mem_singleton.mpr (hword _ _ (by omega) (by decide))

theorem stalling_blank_iff (hsize : 2 ≤ size) (i : Nat) :
    ([' '].intercalate (stallingWords size))[i]? = some ' ' ↔ i = size - 1 := by
  unfold stallingWords
  rw [List.intercalate_cons_cons, List.intercalate_singleton, List.append_assoc,
    List.singleton_append]
  rcases Nat.lt_trichotomy i (size - 1) with h | rfl | h
  · rw [List.getElem?_append_left (by simpa using h), List.getElem?_replicate_of_lt h]
    simp only [Option.some.injEq, Char.reduceEq, false_iff]
    omega
  · simp
  · rw [List.getElem?_append_right (by simp; omega), List.length_replicate]
    obtain ⟨j, hj⟩ : ∃ j, i - (size - 1) = j + 1 := ⟨i - size, by omega⟩
    rw [hj, List.getElem?_cons_succ, List.getElem?_replicate]
    split_ifs
    · simp only [Option.some.injEq, Char.reduceEq, false_iff]
      omega
    · simp only [false_iff]
      omega

theorem stalling_length (hsize : 2 ≤ size) :
    ([' '].intercalate (stallingWords size)).length = 2 * size + 1 := by
  unfold stallingWords
  rw [List.intercalate_cons_cons, List.intercalate_singleton]
  simp only [List.length_append, List.length_replicate, List.length_singleton]
  omega

private theorem stalling_stalls (hsize : 4 ≤ size) (hoverlap : size / 2 ≤ overlap) :
    chunkEnd ([' '].intercalate (stallingWords size)) size 0 = size - 1 ∧
      Stalls ([' '].intercalate (stallingWords size)) size overlap ⟨0, size - 1⟩ := by
  have hatLeast : 2 ≤ size := by omega
  have hblank := stalling_blank_iff hatLeast
  have hlength := stalling_length hatLeast
  have hhalf : halfWindow size = size / 2 := by
    unfold halfWindow
    omega
  generalize [' '].intercalate (stallingWords size) = cs at hblank hlength
  constructor
  · have hend := chunkEnd_spec cs size 0
    generalize chunkEnd cs size 0 = stop at hend
    cases hend with
    | last hlast => omega
    | blank stop _ _ _ hblank' _ => exact (hblank stop).mp hblank'
    | full _ hnone => exact absurd ((hblank _).mpr rfl) (hnone (size - 1) (by omega) (by omega))
  · constructor
    · exact (hblank _).mpr rfl
    · show max (size - 1 - overlap) (0 + 1) + halfWindow size ≤ size - 1
      omega
    · show max (size - 1 - overlap) (0 + 1) + size < cs.length
      omega
    · intro j hj _ hj'
      have hlast : size - 1 < j := hj
      have := (hblank j).mp hj'
      omega

private theorem stalling_not_endsIncrease {hsize : 0 < size} (hfour : 4 ≤ size)
    (hoverlap : size / 2 ≤ overlap) :
    ¬ EndsIncrease (chunkWindows ([' '].intercalate (stallingWords size)) hsize overlap 0) := by
  obtain ⟨hstop, hstalls⟩ := stalling_stalls hfour hoverlap
  have hspaced := singleSpaced_intercalate (stallingWords_words (show 2 ≤ size by omega))
  have hlength := stalling_length (show 2 ≤ size by omega)
  generalize [' '].intercalate (stallingWords size) = cs at hstop hstalls hspaced hlength
  rw [chunkWindows_endsIncrease_iff hspaced (by omega), chunkWindows_eq hspaced (by omega)]
  intro hmoves
  have hmem := Windowing.window_mem (w := windowing cs hsize overlap) (show 0 < cs.length by omega)
  have hfirst : (windowing cs hsize overlap).window 0 = ⟨0, size - 1⟩ :=
    congrArg (Window.mk 0) hstop
  rw [hfirst] at hmem
  exact hmoves _ hmem (show size - 1 < cs.length by omega) hstalls

end Stalling

/-! ## Every text and every configuration -/

section Text

variable {size overlap : Int}

theorem stallingText_stalls (hsize : 0 < size) (hfour : 4 ≤ size) (hoverlap : size / 2 ≤ overlap) :
    ¬ EndsIncrease (textWindows (stallingText size.toNat) hsize overlap) := by
  have hwords : (collapse (stallingText size.toNat)).toList =
      [' '].intercalate (stallingWords size.toNat) :=
    collapse_of_words (stallingWords_words (by omega))
  unfold textWindows
  rw [hwords]
  exact stalling_not_endsIncrease (by omega) (by omega)

/--
For each text the ends of the chunks increase exactly when no window stalls; for a
configuration they do so on every text exactly when the overlap is below half the size.
-/
theorem chunk_ends_increase_iff (h : AdmittedChunking size overlap) :
    (∀ text, EndsIncrease (textWindows text h.size_pos overlap) ↔
      ∀ v ∈ textWindows text h.size_pos overlap, v.stop < (collapse text).toList.length →
        ¬ Stalls (collapse text).toList size.toNat overlap.toNat v) ∧
      ((∀ text, EndsIncrease (textWindows text h.size_pos overlap)) ↔ overlap < size / 2) := by
  have hsize := h.size_ge
  have hmoves : ∀ text, EndsIncrease (textWindows text h.size_pos overlap) ↔
      ∀ v ∈ textWindows text h.size_pos overlap, v.stop < (collapse text).toList.length →
        ¬ Stalls (collapse text).toList size.toNat overlap.toNat v := fun text =>
    chunkWindows_endsIncrease_iff (collapse_singleSpaced text) (by omega)
  refine ⟨hmoves, fun hall => ?_, fun hsmall text => ?_⟩
  · by_contra hlarge
    exact stallingText_stalls h.size_pos (by omega) (by omega) (hall _)
  · rw [hmoves]
    intro v hv hshort hstalls
    have hwithin := hstalls.within
    have hhalf : halfWindow size.toNat = size.toNat / 2 := by
      unfold halfWindow
      omega
    omega

theorem chunk_ends_increase_iff_default :
    (∀ text, EndsIncrease (textWindows text (by decide : (0 : Int) < 1800) 240)) ∧
      AdmittedChunking 1800 240 := by
  have hadmitted : AdmittedChunking 1800 240 := by constructor <;> decide
  exact ⟨(chunk_ends_increase_iff hadmitted).2.mpr (by decide), hadmitted⟩

/-- The second chunk ends where the first one does. -/
theorem stalling_chunks_end_together :
    AdmittedChunking 256 200 ∧
      ¬ EndsIncrease (textWindows (stallingText 256) (by decide : (0 : Int) < 256) 200) := by
  have hadmitted : AdmittedChunking 256 200 := by constructor <;> decide
  have hstalls := stallingText_stalls hadmitted.size_pos (by decide)
    (by decide : (256 : Int) / 2 ≤ 200)
  rw [show (256 : Int).toNat = 256 from rfl] at hstalls
  exact ⟨hadmitted, hstalls⟩

end Text

end Astra.Knowledge
