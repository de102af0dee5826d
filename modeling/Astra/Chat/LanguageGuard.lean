import Astra.Foundation.Ranges
import Astra.Platform.Words
import Mathlib.Data.List.DropRight

/-!
# The language guard

`domains/chat/language_guard.py`: what `VietnameseOutputGuard` removes from a text, beside
the characters that Unicode counts to the scripts it is meant to keep out.
-/

namespace Astra.Chat

open Astra.Foundation Astra.Platform

/-! ## The guard -/

structure GuardedText where
  content : String
  changed : Bool

def fallbackMessage : String :=
  "Mình vừa gặp lỗi ngôn ngữ nên chưa thể trả lời đúng. " ++
    "Bạn gửi lại tin nhắn giúp mình nhé."

def forbiddenScripts : RangeTable :=
  [⟨0x3040, 0x30ff⟩, ⟨0x31f0, 0x31ff⟩, ⟨0x3400, 0x4dbf⟩, ⟨0x4e00, 0x9fff⟩, ⟨0xf900, 0xfaff⟩]

def cjkPunctuation : RangeTable := [⟨0x3000, 0x303f⟩, ⟨0xff01, 0xff65⟩]

def inClass (table : RangeTable) (c : Char) : Bool := table.has c.toNat

def isHorizontalSpace (c : Char) : Bool := c == ' ' || c == '\t'

def isNewline (c : Char) : Bool := c == '\n'

def flushRun (least : Nat) (replacement run : List Char) : List Char :=
  if least ≤ run.length then replacement else run.reverse

/-- `re.sub` for at least `least` characters of a class, with a run being read in reverse. -/
def replaceRuns (member : Char → Bool) (least : Nat) (replacement : List Char) :
    List Char → List Char → List Char
  | [], run => flushRun least replacement run
  | c :: cs, run =>
      if member c then replaceRuns member least replacement cs (c :: run)
      else flushRun least replacement run ++ c :: replaceRuns member least replacement cs []

def containsForbiddenScript (content : String) : Bool :=
  content.toList.any (inClass forbiddenScripts) || content.toList.any (inClass cjkPunctuation)

def sanitizeFragment (content : String) : GuardedText :=
  if containsForbiddenScript content then
    let sanitized := content.toList.filter fun c => !inClass forbiddenScripts c
    let sanitized := sanitized.map fun c => if inClass cjkPunctuation c then ' ' else c
    let sanitized := replaceRuns isHorizontalSpace 2 [' '] sanitized []
    let sanitized := replaceRuns isNewline 3 ['\n', '\n'] sanitized []
    { content := String.ofList sanitized, changed := true }
  else { content := content, changed := false }

section Guard

variable (isalnum : Char → Bool)

def hasMeaningfulText (content : String) : Bool := 8 ≤ content.toList.countP isalnum

def sanitize (content : String) : GuardedText :=
  let guarded := sanitizeFragment content
  let sanitized := strip guarded.content
  if guarded.changed && !hasMeaningfulText isalnum sanitized then
    { content := fallbackMessage, changed := guarded.changed }
  else { content := sanitized, changed := guarded.changed }

/-! ## The scripts -/

/-- The characters whose script is Hiragana, Katakana or Han in Unicode 15.1. -/
def cjkScripts : RangeTable :=
  [⟨0x3041, 0x3096⟩, ⟨0x309d, 0x309f⟩, ⟨0x1b001, 0x1b11f⟩, ⟨0x1b132, 0x1b132⟩,
    ⟨0x1b150, 0x1b152⟩, ⟨0x1f200, 0x1f200⟩,
    ⟨0x30a1, 0x30fa⟩, ⟨0x30fd, 0x30ff⟩, ⟨0x31f0, 0x31ff⟩, ⟨0x32d0, 0x32fe⟩, ⟨0x3300, 0x3357⟩,
    ⟨0xff66, 0xff6f⟩, ⟨0xff71, 0xff9d⟩, ⟨0x1aff0, 0x1aff3⟩, ⟨0x1aff5, 0x1affb⟩,
    ⟨0x1affd, 0x1affe⟩, ⟨0x1b000, 0x1b000⟩, ⟨0x1b120, 0x1b122⟩, ⟨0x1b155, 0x1b155⟩,
    ⟨0x1b164, 0x1b167⟩,
    ⟨0x2e80, 0x2e99⟩, ⟨0x2e9b, 0x2ef3⟩, ⟨0x2f00, 0x2fd5⟩, ⟨0x3005, 0x3005⟩, ⟨0x3007, 0x3007⟩,
    ⟨0x3021, 0x3029⟩, ⟨0x3038, 0x303b⟩, ⟨0x3400, 0x4dbf⟩, ⟨0x4e00, 0x9fff⟩, ⟨0xf900, 0xfa6d⟩,
    ⟨0xfa70, 0xfad9⟩, ⟨0x16fe2, 0x16fe3⟩, ⟨0x16ff0, 0x16ff1⟩, ⟨0x20000, 0x2a6df⟩,
    ⟨0x2a700, 0x2b739⟩, ⟨0x2b740, 0x2b81d⟩, ⟨0x2b820, 0x2cea1⟩, ⟨0x2ceb0, 0x2ebe0⟩,
    ⟨0x2ebf0, 0x2ee5d⟩, ⟨0x2f800, 0x2fa1d⟩, ⟨0x30000, 0x3134a⟩, ⟨0x31350, 0x323af⟩]

/-- What the character classes of the guard leave of the scripts. -/
def missedScripts : RangeTable := cjkScripts.minus (forbiddenScripts ++ cjkPunctuation)

example : missedScripts =
    [⟨0x1b001, 0x1b11f⟩, ⟨0x1b132, 0x1b132⟩, ⟨0x1b150, 0x1b152⟩, ⟨0x1f200, 0x1f200⟩,
      ⟨0x32d0, 0x32fe⟩, ⟨0x3300, 0x3357⟩, ⟨0xff66, 0xff6f⟩, ⟨0xff71, 0xff9d⟩,
      ⟨0x1aff0, 0x1aff3⟩, ⟨0x1aff5, 0x1affb⟩, ⟨0x1affd, 0x1affe⟩, ⟨0x1b000, 0x1b000⟩,
      ⟨0x1b120, 0x1b122⟩, ⟨0x1b155, 0x1b155⟩, ⟨0x1b164, 0x1b167⟩, ⟨0x2e80, 0x2e99⟩,
      ⟨0x2e9b, 0x2ef3⟩, ⟨0x2f00, 0x2fd5⟩, ⟨0x16fe2, 0x16fe3⟩, ⟨0x16ff0, 0x16ff1⟩,
      ⟨0x20000, 0x2a6df⟩, ⟨0x2a700, 0x2b739⟩, ⟨0x2b740, 0x2b81d⟩, ⟨0x2b820, 0x2cea1⟩,
      ⟨0x2ceb0, 0x2ebe0⟩, ⟨0x2ebf0, 0x2ee5d⟩, ⟨0x2f800, 0x2fa1d⟩, ⟨0x30000, 0x3134a⟩,
      ⟨0x31350, 0x323af⟩] := by
  decide

def WithoutScripts (text : String) : Prop := ∀ c ∈ text.toList, inClass cjkScripts c = false

/-- Nothing of the scripts comes through, at once or in pieces. -/
structure KeptOut (content : String) : Prop where
  sanitized : WithoutScripts (sanitize isalnum content).content
  fragment : WithoutScripts (sanitizeFragment content).content
  idempotent : (sanitize isalnum (sanitize isalnum content).content).content =
    (sanitize isalnum content).content
  pieces : ∀ pieces : List String, String.join pieces = content →
    WithoutScripts (String.join (pieces.map fun piece => (sanitizeFragment piece).content))

end Guard

/-! ## The substitutions -/

section Substitutions

variable {member : Char → Bool} {least : Nat} {replacement cs run : List Char} {c : Char}

theorem mem_flushRun (h : c ∈ flushRun least replacement run) : c ∈ replacement ∨ c ∈ run := by
  unfold flushRun at h
  split at h
  · exact Or.inl h
  · exact Or.inr (List.mem_reverse.mp h)

theorem mem_replaceRuns (h : c ∈ replaceRuns member least replacement cs run) :
    c ∈ replacement ∨ c ∈ run ∨ c ∈ cs := by
  induction cs generalizing run with
  | nil => exact (mem_flushRun h).imp_right Or.inl
  | cons d cs ih =>
      rw [replaceRuns] at h
      split at h
      · rcases ih h with h | h | h
        · exact Or.inl h
        · rcases List.mem_cons.mp h with rfl | h
          · exact Or.inr (Or.inr List.mem_cons_self)
          · exact Or.inr (Or.inl h)
        · exact Or.inr (Or.inr (List.mem_cons_of_mem d h))
      · rcases List.mem_append.mp h with h | h
        · exact (mem_flushRun h).imp_right Or.inl
        · rcases List.mem_cons.mp h with rfl | h
          · exact Or.inr (Or.inr List.mem_cons_self)
          · rcases ih h with h | h | h
            · exact Or.inl h
            · cases h
            · exact Or.inr (Or.inr (List.mem_cons_of_mem d h))

theorem mem_replaceRuns_of_not (hclass : member c = false) (h : c ∈ cs) :
    c ∈ replaceRuns member least replacement cs run := by
  induction cs generalizing run with
  | nil => cases h
  | cons d cs ih =>
      rw [replaceRuns]
      rcases List.mem_cons.mp h with rfl | h
      · rw [hclass]
        exact List.mem_append_right _ List.mem_cons_self
      · split
        · exact ih h
        · exact List.mem_append_right _ (List.mem_cons_of_mem d (ih h))

end Substitutions

section Fragments

variable {content : String} {c : Char}

def isGuarded (c : Char) : Bool := inClass (forbiddenScripts ++ cjkPunctuation) c

theorem isGuarded_eq (c : Char) :
    isGuarded c = (inClass forbiddenScripts c || inClass cjkPunctuation c) := by
  simp [isGuarded, inClass, RangeTable.has, List.any_append]

theorem containsForbiddenScript_eq_false :
    containsForbiddenScript content = false ↔ ∀ c ∈ content.toList, isGuarded c = false := by
  simp only [containsForbiddenScript, Bool.or_eq_false_iff, List.any_eq_false, isGuarded_eq,
    Bool.not_eq_true]
  constructor
  · exact fun h c hc => ⟨h.1 c hc, h.2 c hc⟩
  · exact fun h => ⟨fun c hc => (h c hc).1, fun c hc => (h c hc).2⟩

private theorem inClass_cjkScripts (h : inClass cjkScripts c = true) :
    inClass missedScripts c = true ∨ isGuarded c = true := by
  cases hguarded : isGuarded c with
  | true => exact Or.inr rfl
  | false => exact Or.inl ((RangeTable.has_minus _ _ _).mpr ⟨h, hguarded⟩)

theorem cjkScripts_ge (h : inClass cjkScripts c = true) : 0x2e80 ≤ c.toNat :=
  RangeTable.le_of_has (by decide) h

private theorem isGuarded_ge (h : isGuarded c = true) : 0x2e80 ≤ c.toNat :=
  RangeTable.le_of_has (by decide) h

theorem ne_of_inClass {d : Char} (hd : d.toNat < 0x2e80) (h : inClass cjkScripts c = true) :
    c ≠ d := by
  rintro rfl
  exact absurd (cjkScripts_ge h) (Nat.not_le_of_lt hd)

theorem mem_sanitizeFragment (h : c ∈ (sanitizeFragment content).content.toList) :
    isGuarded c = false ∧ (c ∈ content.toList ∨ c = ' ' ∨ c = '\n') := by
  have hblank : isGuarded ' ' = false := by decide
  have hnewline : isGuarded '\n' = false := by decide
  unfold sanitizeFragment at h
  split at h
  · rw [String.toList_ofList] at h
    rcases mem_replaceRuns h with h | h | h
    · have heq : c = '\n' := by simpa using h
      exact ⟨heq ▸ hnewline, Or.inr (Or.inr heq)⟩
    · cases h
    · rcases mem_replaceRuns h with h | h | h
      · have heq : c = ' ' := by simpa using h
        exact ⟨heq ▸ hblank, Or.inr (Or.inl heq)⟩
      · cases h
      · obtain ⟨d, hd, hc⟩ := List.mem_map.mp h
        obtain ⟨hmem, hscript⟩ := List.mem_filter.mp hd
        split at hc
        · subst hc
          exact ⟨hblank, Or.inr (Or.inl rfl)⟩
        · subst hc
          rename_i hpunctuation
          exact ⟨by simp_all [isGuarded_eq], Or.inl hmem⟩
  · rename_i hclean
    rw [Bool.not_eq_true] at hclean
    exact ⟨containsForbiddenScript_eq_false.mp hclean c h, Or.inl h⟩

private theorem mem_sanitizeFragment_of_missed (hmissed : inClass missedScripts c = true)
    (h : c ∈ content.toList) : c ∈ (sanitizeFragment content).content.toList := by
  obtain ⟨hscript, hguarded⟩ := (RangeTable.has_minus _ _ _).mp hmissed
  have hclasses : inClass forbiddenScripts c = false ∧ inClass cjkPunctuation c = false := by
    have heq := isGuarded_eq c
    rw [show isGuarded c = false from hguarded] at heq
    simpa using heq.symm
  have hspace : isHorizontalSpace c = false := by
    simp [isHorizontalSpace, ne_of_inClass (d := ' ') (by decide) hscript,
      ne_of_inClass (d := '\t') (by decide) hscript]
  have hnewline : isNewline c = false := by
    simp [isNewline, ne_of_inClass (d := '\n') (by decide) hscript]
  unfold sanitizeFragment
  split
  · rw [String.toList_ofList]
    refine mem_replaceRuns_of_not hnewline (mem_replaceRuns_of_not hspace ?_)
    refine List.mem_map.mpr ⟨c, List.mem_filter.mpr ⟨h, by simp [hclasses.1]⟩, ?_⟩
    simp [hclasses.2]
  · exact h

end Fragments

/-! ## The guard on a text -/

section Guard

variable {isalnum : Char → Bool} {content text : String} {c : Char}

private theorem stripChars_idem (cs : List Char) : stripChars (stripChars cs) = stripChars cs := by
  have hprefix : stripChars cs <+: cs.dropWhile isSpace := List.rdropWhile_prefix isSpace _
  have hleft : (stripChars cs).dropWhile isSpace = stripChars cs := by
    cases hstrip : stripChars cs with
    | nil => rfl
    | cons first rest =>
        rw [hstrip] at hprefix
        have hhead : (cs.dropWhile isSpace).head? = some first := by
          obtain ⟨tail, htail⟩ := hprefix
          rw [← htail]
          rfl
        have hfirst := List.head?_dropWhile_not isSpace cs
        rw [hhead] at hfirst
        rw [List.dropWhile_cons_of_neg (by simpa using hfirst)]
  rw [stripChars, hleft]
  exact List.rdropWhile_idempotent isSpace _

private theorem strip_idem (text : String) : strip (strip text) = strip text := by
  simp only [strip, String.toList_ofList, stripChars_idem]

theorem mem_strip (h : c ∈ (strip text).toList) : c ∈ text.toList := by
  obtain ⟨leading, trailing, hsplit, -⟩ := stripChars_split text.toList
  rw [hsplit]
  rw [strip, String.toList_ofList] at h
  exact List.mem_append_left _ (List.mem_append_right _ h)

structure Sanitized (text : String) : Prop where
  clean : ∀ c ∈ text.toList, isGuarded c = false
  stripped : strip text = text

theorem fallbackMessage_lt (hc : c ∈ fallbackMessage.toList) : c.toNat < 0x2e80 := by
  have hall : (fallbackMessage.toList.all fun c => c.toNat < 0x2e80) = true := by decide +kernel
  simpa using List.all_eq_true.mp hall c hc

private theorem sanitized_fallback : Sanitized fallbackMessage := by
  constructor
  · intro c hc
    rw [Bool.eq_false_iff]
    exact fun h => absurd (isGuarded_ge h) (Nat.not_le_of_lt (fallbackMessage_lt hc))
  · decide +kernel

private theorem sanitized_sanitize : Sanitized (sanitize isalnum content).content := by
  unfold sanitize
  dsimp only
  split
  · exact sanitized_fallback
  · exact ⟨fun c hc => (mem_sanitizeFragment (mem_strip hc)).1, strip_idem _⟩

theorem Sanitized.sanitize (h : Sanitized text) : (sanitize isalnum text).content = text := by
  have hclean := containsForbiddenScript_eq_false.mpr h.clean
  simp [Chat.sanitize, sanitizeFragment, hclean, h.stripped]

private theorem withoutScripts_fallback : WithoutScripts fallbackMessage := by
  intro c hc
  rw [Bool.eq_false_iff]
  exact fun h => absurd (cjkScripts_ge h) (Nat.not_le_of_lt (fallbackMessage_lt hc))

theorem withoutScripts_fragment (h : ∀ c ∈ content.toList, inClass missedScripts c = false) :
    WithoutScripts (sanitizeFragment content).content := by
  intro c hc
  rw [Bool.eq_false_iff]
  intro hscript
  obtain ⟨hguarded, hmem⟩ := mem_sanitizeFragment hc
  rcases inClass_cjkScripts hscript with hmissed | hguarded'
  · rcases hmem with hmem | heq | heq
    · rw [h c hmem] at hmissed
      cases hmissed
    · exact ne_of_inClass (by decide) hscript heq
    · exact ne_of_inClass (by decide) hscript heq
  · rw [hguarded] at hguarded'
    cases hguarded'

private theorem withoutScripts_sanitize (h : WithoutScripts (sanitizeFragment content).content) :
    WithoutScripts (sanitize isalnum content).content := by
  unfold sanitize
  dsimp only
  split
  · exact withoutScripts_fallback
  · exact fun c hc => h c (mem_strip hc)

/-- The guard does its work on exactly the texts without a character that its classes miss. -/
theorem keptOut_iff :
    KeptOut isalnum content ↔ ∀ c ∈ content.toList, inClass missedScripts c = false := by
  constructor
  · intro h c hc
    rw [Bool.eq_false_iff]
    intro hmissed
    have hscript := ((RangeTable.has_minus _ _ _).mp hmissed).1
    have hout := h.fragment c (mem_sanitizeFragment_of_missed hmissed hc)
    rw [show inClass cjkScripts c = true from hscript] at hout
    cases hout
  · intro h
    have hfragment := withoutScripts_fragment h
    refine ⟨withoutScripts_sanitize hfragment, hfragment, sanitized_sanitize.sanitize, ?_⟩
    intro pieces hpieces c hc
    rw [String.toList_join] at hc
    obtain ⟨fragment, hmem, hc⟩ := List.mem_flatMap.mp hc
    obtain ⟨piece, hpiece, rfl⟩ := List.mem_map.mp hmem
    refine withoutScripts_fragment (fun d hd => h d ?_) c hc
    rw [← hpieces, String.toList_join]
    exact List.mem_flatMap.mpr ⟨piece, hpiece, hd⟩

/-- A half-width katakana letter comes through. -/
theorem halfwidth_katakana_passes :
    (sanitizeFragment "ｱ").content = "ｱ" ∧ inClass cjkScripts 'ｱ' = true ∧
      ¬ KeptOut (fun _ => true) "ｱ" := by
  have hpasses : (sanitizeFragment "ｱ").content = "ｱ" := by decide
  refine ⟨hpasses, by decide, fun h => ?_⟩
  have hout := h.fragment 'ｱ' (by rw [hpasses]; decide)
  exact absurd hout (by decide)

end Guard

end Astra.Chat
