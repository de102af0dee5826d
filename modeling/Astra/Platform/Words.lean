import Astra.Platform.Python
import Mathlib.Data.List.Chain
import Mathlib.Data.List.TakeWhile

/-!
# Words and blanks

What `str.split` and `str.strip` make of a text: its words, joined by single blanks, and
the text without its outer whitespace.
-/

namespace Astra.Platform

/-! ## Words -/

structure Word (cs : List Char) : Prop where
  ne_nil : cs ≠ []
  no_space : ∀ c ∈ cs, isSpace c = false

section Split

variable {c : Char} {cs word rest : List Char}

theorem splitLoop_cons (c : Char) (cs word : List Char) :
    splitLoop (c :: cs) word =
      if isSpace c then
        match word with
        | [] => splitLoop cs []
        | _ => word.reverse :: splitLoop cs []
      else splitLoop cs (c :: word) := by
  cases word <;> rfl

theorem splitLoop_letter (h : isSpace c = false) :
    splitLoop (c :: cs) word = splitLoop cs (c :: word) := by
  rw [splitLoop_cons, if_neg (by simp [h])]

theorem splitLoop_skip (h : isSpace c = true) : splitLoop (c :: cs) [] = splitLoop cs [] := by
  rw [splitLoop_cons, if_pos h]

theorem splitLoop_flush (h : isSpace c = true) (hne : word ≠ []) :
    splitLoop (c :: cs) word = word.reverse :: splitLoop cs [] := by
  rw [splitLoop_cons, if_pos h]
  cases word with
  | nil => exact absurd rfl hne
  | cons d word => rfl

theorem splitLoop_end (hne : word ≠ []) : splitLoop [] word = [word.reverse] := by
  cases word with
  | nil => exact absurd rfl hne
  | cons d word => rfl

theorem word_reverse (hne : word ≠ []) (h : ∀ c ∈ word, isSpace c = false) : Word word.reverse :=
  ⟨by simpa using hne, fun c hc => h c (List.mem_reverse.mp hc)⟩

theorem splitLoop_words (h : ∀ c ∈ word, isSpace c = false) : ∀ w ∈ splitLoop cs word, Word w := by
  induction cs generalizing word with
  | nil =>
      rcases eq_or_ne word [] with rfl | hne
      · intro w hw
        cases hw
      · rw [splitLoop_end hne]
        exact List.forall_mem_singleton.mpr (word_reverse hne h)
  | cons c cs ih =>
      cases hspace : isSpace c with
      | false =>
          rw [splitLoop_letter hspace]
          exact ih (List.forall_mem_cons.mpr ⟨hspace, h⟩)
      | true =>
          rcases eq_or_ne word [] with rfl | hne
          · rw [splitLoop_skip hspace]
            exact ih h
          · rw [splitLoop_flush hspace hne]
            exact List.forall_mem_cons.mpr ⟨word_reverse hne h, ih (by simp)⟩

theorem splitLoop_letters (h : ∀ c ∈ word, isSpace c = false) (read : List Char) :
    splitLoop (word ++ rest) read = splitLoop rest (word.reverse ++ read) := by
  induction word generalizing read with
  | nil => rfl
  | cons c word ih =>
      obtain ⟨hc, hword⟩ := List.forall_mem_cons.mp h
      rw [List.cons_append, splitLoop_letter hc, ih hword, List.reverse_cons, List.append_assoc,
        List.singleton_append]

theorem splitLoop_intercalate {words : List (List Char)} (h : ∀ w ∈ words, Word w) :
    splitLoop ([' '].intercalate words) [] = words := by
  induction words with
  | nil => rfl
  | cons word words ih =>
      obtain ⟨hword, hwords⟩ := List.forall_mem_cons.mp h
      have hne : word.reverse ≠ [] := by simpa using hword.ne_nil
      cases words with
      | nil =>
          have hread : splitLoop (word ++ []) [] = splitLoop [] (word.reverse ++ []) :=
            splitLoop_letters hword.no_space []
          rw [List.append_nil, List.append_nil] at hread
          rw [List.intercalate_singleton, hread, splitLoop_end hne, List.reverse_reverse]
      | cons word' words =>
          rw [List.intercalate_cons_cons, List.append_assoc, splitLoop_letters hword.no_space,
            List.append_nil, List.singleton_append, splitLoop_flush (by decide) hne, ih hwords,
            List.reverse_reverse]

end Split

structure SingleSpaced (cs : List Char) : Prop where
  blank : ∀ c ∈ cs, isSpace c = true → c = ' '
  first : ∀ c ∈ cs.head?, isSpace c = false
  last : ∀ c ∈ cs.getLast?, isSpace c = false
  apart : cs.IsChain fun a b => isSpace a = true → isSpace b = false

theorem SingleSpaced.letter_behind {cs : List Char} (h : SingleSpaced cs) {i : Nat} {a b : Char}
    (ha : cs[i]? = some a) (hb : cs[i + 1]? = some b) (hspace : isSpace a = true) :
    isSpace b = false := by
  obtain ⟨hi, rfl⟩ := List.getElem?_eq_some_iff.mp ha
  obtain ⟨hi', rfl⟩ := List.getElem?_eq_some_iff.mp hb
  exact List.isChain_iff_getElem.mp h.apart i hi' hspace

theorem Word.singleSpaced {word : List Char} (h : Word word) : SingleSpaced word where
  blank c hc hspace := by simp [h.no_space c hc] at hspace
  first c hc := h.no_space c (List.mem_of_head? hc)
  last c hc := h.no_space c (List.mem_of_getLast? hc)
  apart := by
    apply List.Pairwise.isChain
    apply List.pairwise_of_forall_mem_list
    intro a _ b hb _
    exact h.no_space b hb

private theorem Word.singleSpaced_append {word rest : List Char} (h : Word word) (hne : rest ≠ [])
    (hrest : SingleSpaced rest) : SingleSpaced (word ++ ' ' :: rest) where
  blank c hc hspace := by
    rcases List.mem_append.mp hc with hc | hc
    · exact h.singleSpaced.blank c hc hspace
    · rcases List.mem_cons.mp hc with rfl | hc
      · rfl
      · exact hrest.blank c hc hspace
  first c hc := by
    rw [List.head?_append_of_ne_nil _ h.ne_nil] at hc
    exact h.singleSpaced.first c hc
  last c hc := by
    rw [List.getLast?_append_of_ne_nil _ (by simp), List.getLast?_cons_of_ne_nil hne] at hc
    exact hrest.last c hc
  apart := by
    refine h.singleSpaced.apart.append (List.isChain_cons.mpr ⟨?_, hrest.apart⟩) ?_
    · intro c hc _
      exact hrest.first c hc
    · intro c hc d _ hspace
      rw [h.singleSpaced.last c hc] at hspace
      cases hspace

theorem singleSpaced_intercalate {words : List (List Char)} (h : ∀ w ∈ words, Word w) :
    SingleSpaced ([' '].intercalate words) := by
  induction words with
  | nil => exact ⟨by simp, by simp, by simp, .nil⟩
  | cons word words ih =>
      obtain ⟨hword, hwords⟩ := List.forall_mem_cons.mp h
      cases words with
      | nil =>
          rw [List.intercalate_singleton]
          exact hword.singleSpaced
      | cons word' words =>
          have hne : [' '].intercalate (word' :: words) ≠ [] := by
            intro hnil
            have hword' := (List.forall_mem_cons.mp hwords).1
            cases words <;> simp [hword'.ne_nil] at hnil
          rw [List.intercalate_cons_cons, List.append_assoc, List.singleton_append]
          exact hword.singleSpaced_append hne (ih hwords)

def collapse (text : String) : String := " ".intercalate (splitWords text)

theorem collapse_toList (text : String) :
    (collapse text).toList = [' '].intercalate (splitLoop text.toList []) := by
  simp [collapse, splitWords, String.toList_intercalate, Function.comp_def]

theorem collapse_singleSpaced (text : String) : SingleSpaced (collapse text).toList := by
  rw [collapse_toList]
  exact singleSpaced_intercalate (splitLoop_words (by simp))

theorem collapse_of_words {words : List (List Char)} (h : ∀ w ∈ words, Word w) :
    (collapse (String.ofList ([' '].intercalate words))).toList = [' '].intercalate words := by
  rw [collapse_toList, String.toList_ofList, splitLoop_intercalate h]

theorem stripChars_split (cs : List Char) :
    ∃ leading trailing, cs = leading ++ stripChars cs ++ trailing ∧
      (∀ c ∈ leading, isSpace c = true) ∧ ∀ c ∈ trailing, isSpace c = true := by
  refine ⟨cs.takeWhile isSpace, ((cs.dropWhile isSpace).reverse.takeWhile isSpace).reverse,
    ?_, ?_, ?_⟩
  · unfold stripChars rstripChars
    rw [List.append_assoc, ← List.reverse_append, List.takeWhile_append_dropWhile,
      List.reverse_reverse, List.takeWhile_append_dropWhile]
  · intro c hc
    exact List.mem_takeWhile_imp hc
  · intro c hc
    exact List.mem_takeWhile_imp (List.mem_reverse.mp hc)

end Astra.Platform
