import Astra.Foundation.Rounding
import Astra.LLM.Contracts
import Astra.Platform.Python
import Mathlib.Algebra.BigOperators.Group.List.Basic
import Mathlib.Algebra.Ring.Int.Defs
import Mathlib.Data.List.Forall2

/-!
# The prompt token budget

`domains/prompts/token_budget.py`: what `PromptTokenBudgeter.trim` keeps of a prompt, and
that its estimate stays within the budget.
-/

namespace Astra.Prompts

open Astra.Foundation Astra.LLM Astra.Platform

/-! ## The budgeter -/

structure PromptBudgetResult where
  messages : List LLMMessage
  estimatedTokens : Nat
  droppedMessages : Nat
  truncatedSystemMessages : Nat

def charsPerToken : Nat := 3

def messageOverhead : Nat := 8

def truncationMarker : String := "\n\n[Earlier prompt content truncated to fit context budget.]"

/-- `float(n)` in binary64; `none` stands for `OverflowError`. -/
def toFloat (n : Nat) : Option Nat :=
  if roundDigits 53 n < 2 ^ 1024 then some (roundDigits 53 n) else none

/-- The double `0.55`, in units of `2 ^ -53`. -/
def systemShare : Nat := 4953959590107546

/-- `int(token_budget * 0.55)`; `int` rounds towards zero. -/
def shareOf (tokenBudget : Int) : Option Int :=
  (toFloat tokenBudget.natAbs).map fun budget =>
    tokenBudget.sign * (roundDigits 53 (budget * systemShare) / 2 ^ 53 : Nat)

def estimateText (text : String) : Nat :=
  max 1 ((text.length + charsPerToken - 1) / charsPerToken)

def estimateMessage (message : LLMMessage) : Nat :=
  messageOverhead + estimateText message.content

def estimateMessages (messages : List LLMMessage) : Nat := (messages.map estimateMessage).sum

def truncateMessage (message : LLMMessage) (tokenBudget : Nat) : LLMMessage :=
  let availableChars := max 64 ((tokenBudget - messageOverhead) * charsPerToken)
  if availableChars < message.content.length then
    let count := max 1 (availableChars - truncationMarker.length)
    { message with
      content := rstrip (String.ofList (message.content.toList.take count)) ++ truncationMarker }
  else message

def fitSystemMessages (messages : List LLMMessage) (tokenBudget : Nat) : List LLMMessage × Nat :=
  let perMessage := max 128 (tokenBudget / messages.length)
  (messages.map fun message =>
      if estimateMessage message ≤ perMessage then message else truncateMessage message perMessage,
    messages.countP fun message => perMessage < estimateMessage message)

def selectDialogue : List LLMMessage → Nat → List LLMMessage → List LLMMessage
  | [], _, selected => selected
  | message :: older, remaining, selected =>
      let cost := estimateMessage message
      if cost ≤ remaining || selected.isEmpty then
        selectDialogue older (remaining - min cost remaining)
          (selected ++ [if cost ≤ remaining then message else truncateMessage message remaining])
      else selected

def isSystem (message : LLMMessage) : Bool := message.role == .system

def trim (messages : List LLMMessage) (tokenBudget : Int) : Option PromptBudgetResult :=
  if messages.isEmpty then some ⟨[], 0, 0, 0⟩
  else
    (shareOf tokenBudget).map fun share =>
      let systemMessages := messages.filter isSystem
      let dialogueMessages := messages.filter fun message => !isSystem message
      let (selectedSystem, truncated) := fitSystemMessages systemMessages (max 512 share).toNat
      let remaining := (tokenBudget - estimateMessages selectedSystem).toNat
      let selectedDialogue := (selectDialogue dialogueMessages.reverse remaining []).reverse
      let result := selectedSystem ++ selectedDialogue
      { messages := result
        estimatedTokens := estimateMessages result
        droppedMessages := messages.length - result.length
        truncatedSystemMessages := truncated }

/-! ## What trimming keeps -/

/-- A right-trimmed prefix with the marker behind it. -/
def Truncated (message shorter : LLMMessage) : Prop :=
  ∃ count, shorter = { message with
    content := rstrip (String.ofList (message.content.toList.take count)) ++ truncationMarker }

/-- The newest messages as they are, or the newest one alone and truncated. -/
def KeptDialogue (dialogue kept : List LLMMessage) : Prop :=
  (kept <:+ dialogue ∧ (dialogue ≠ [] → kept ≠ [])) ∨
    ∃ older newest shorter, dialogue = older ++ [newest] ∧ kept = [shorter] ∧
      Truncated newest shorter

structure Fits (messages : List LLMMessage) (tokenBudget : Int) (result : PromptBudgetResult) :
    Prop where
  estimate : result.estimatedTokens = estimateMessages result.messages
  within : (result.estimatedTokens : Int) ≤ tokenBudget
  kept : ∃ system dialogue, result.messages = system ++ dialogue ∧
    List.Forall₂ (fun message shorter => shorter = message ∨ Truncated message shorter)
      (messages.filter isSystem) system ∧
    KeptDialogue (messages.filter fun message => !isSystem message) dialogue

/-! ## Estimates -/

section Estimates

variable {message : LLMMessage} {tokenBudget : Nat}

theorem estimateMessage_le (hpos : 9 ≤ tokenBudget)
    (hlength : message.content.length ≤ (tokenBudget - messageOverhead) * charsPerToken) :
    estimateMessage message ≤ tokenBudget := by
  simp only [estimateMessage, estimateText, messageOverhead, charsPerToken] at hlength ⊢
  omega

private theorem estimateMessage_pos (message : LLMMessage) : 9 ≤ estimateMessage message := by
  simp only [estimateMessage, estimateText, messageOverhead]
  omega

theorem rstripChars_length_le (cs : List Char) : (rstripChars cs).length ≤ cs.length := by
  unfold rstripChars
  rw [List.length_reverse]
  calc (cs.reverse.dropWhile isSpace).length ≤ cs.reverse.length :=
        (List.dropWhile_sublist isSpace).length_le
    _ = cs.length := List.length_reverse

theorem truncate_or (message : LLMMessage) (tokenBudget : Nat) :
    truncateMessage message tokenBudget = message ∨
      Truncated message (truncateMessage message tokenBudget) := by
  unfold truncateMessage
  dsimp only
  split
  · exact Or.inr ⟨_, rfl⟩
  · exact Or.inl rfl

theorem estimate_truncate_le (hbudget : 30 ≤ tokenBudget) :
    estimateMessage (truncateMessage message tokenBudget) ≤ tokenBudget := by
  have hmarker : truncationMarker.length = 59 := by decide
  have havailable : max 64 ((tokenBudget - messageOverhead) * charsPerToken) =
      (tokenBudget - messageOverhead) * charsPerToken := by
    simp only [messageOverhead, charsPerToken]
    omega
  apply estimateMessage_le (by omega)
  unfold truncateMessage
  dsimp only
  rw [havailable]
  split
  · have hprefix := rstripChars_length_le (message.content.toList.take
      (max 1 ((tokenBudget - messageOverhead) * charsPerToken - truncationMarker.length)))
    rw [List.length_take] at hprefix
    simp only [rstrip, String.length_append, String.length_ofList, String.toList_ofList,
      hmarker, messageOverhead, charsPerToken] at hprefix ⊢
    omega
  · omega

private theorem estimateMessages_append (messages others : List LLMMessage) :
    estimateMessages (messages ++ others) =
      estimateMessages messages + estimateMessages others := by
  simp [estimateMessages]

private theorem estimateMessages_reverse (messages : List LLMMessage) :
    estimateMessages messages.reverse = estimateMessages messages := by
  simp [estimateMessages]

end Estimates

/-! ## The system messages -/

section System

variable {messages : List LLMMessage}

private theorem fitSystemMessages_kept (messages : List LLMMessage) (tokenBudget : Nat) :
    List.Forall₂ (fun message shorter => shorter = message ∨ Truncated message shorter) messages
      (fitSystemMessages messages tokenBudget).1 := by
  unfold fitSystemMessages
  rw [List.forall₂_map_right_iff, List.forall₂_same]
  intro message _
  split
  · exact Or.inl rfl
  · exact truncate_or message _

theorem estimate_map_le {fit : LLMMessage → LLMMessage} {perMessage : Nat}
    (hfit : ∀ message, estimateMessage (fit message) ≤ perMessage) :
    estimateMessages (messages.map fit) ≤ messages.length * perMessage := by
  induction messages with
  | nil => simp [estimateMessages]
  | cons message messages ih =>
      have hmessage := hfit message
      simp only [estimateMessages, List.map_cons, List.sum_cons, List.length_cons, Nat.add_mul,
        Nat.one_mul] at ih ⊢
      omega

theorem estimate_fitSystem_le (messages : List LLMMessage) (tokenBudget : Nat) :
    estimateMessages (fitSystemMessages messages tokenBudget).1 ≤
      max (128 * messages.length) tokenBudget := by
  have hshare : messages.length * (tokenBudget / messages.length) ≤ tokenBudget :=
    Nat.mul_div_le tokenBudget messages.length
  have hmax : messages.length * max 128 (tokenBudget / messages.length) ≤
      max (128 * messages.length) tokenBudget := by
    rcases Nat.le_total 128 (tokenBudget / messages.length) with hle | hle
    · rw [Nat.max_eq_right hle]
      omega
    · rw [Nat.max_eq_left hle]
      omega
  refine Nat.le_trans (estimate_map_le fun message => ?_) hmax
  split
  · assumption
  · exact estimate_truncate_le (by omega)

end System

/-! ## The dialogue -/

section Dialogue

variable {messages selected : List LLMMessage} {remaining : Nat}

theorem selectDialogue_of_selected (hselected : selected ≠ []) :
    ∃ kept, kept <+: messages ∧ selectDialogue messages remaining selected = selected ++ kept ∧
      estimateMessages kept ≤ remaining := by
  induction messages generalizing selected remaining with
  | nil => exact ⟨[], List.prefix_refl _, by simp [selectDialogue], by simp [estimateMessages]⟩
  | cons message older ih =>
      have hsome : selected.isEmpty = false := List.isEmpty_eq_false_iff.mpr hselected
      by_cases hcost : estimateMessage message ≤ remaining
      · obtain ⟨kept, hprefix, heq, hkept⟩ := @ih (selected ++ [message])
          (remaining - estimateMessage message) (by simp)
        refine ⟨message :: kept, List.cons_prefix_cons.mpr ⟨rfl, hprefix⟩, ?_, ?_⟩
        · simpa [selectDialogue, hcost] using heq
        · simp only [estimateMessages, List.map_cons, List.sum_cons] at hkept ⊢
          omega
      · refine ⟨[], List.nil_prefix, ?_, by simp [estimateMessages]⟩
        simp [selectDialogue, hcost, hsome]

private theorem selectDialogue_cons (newest : LLMMessage) (older : List LLMMessage)
    (hbudget : 30 ≤ remaining) :
    (∃ kept, kept <+: older ∧ selectDialogue (newest :: older) remaining [] = newest :: kept ∧
      estimateMessages (newest :: kept) ≤ remaining) ∨
    ∃ shorter, Truncated newest shorter ∧
      selectDialogue (newest :: older) remaining [] = [shorter] ∧
      estimateMessages [shorter] ≤ remaining := by
  by_cases hcost : estimateMessage newest ≤ remaining
  · obtain ⟨kept, hprefix, heq, hkept⟩ := @selectDialogue_of_selected older [newest]
      (remaining - estimateMessage newest) (by simp)
    refine Or.inl ⟨kept, hprefix, ?_, ?_⟩
    · simpa [selectDialogue, hcost] using heq
    · simp only [estimateMessages, List.map_cons, List.sum_cons] at hkept ⊢
      omega
  · have hnewest : estimateMessage (truncateMessage newest remaining) ≤ remaining :=
      estimate_truncate_le hbudget
    have htruncated : Truncated newest (truncateMessage newest remaining) := by
      rcases truncate_or newest remaining with heq | htruncated
      · rw [heq] at hnewest
        exact absurd hnewest hcost
      · exact htruncated
    obtain ⟨kept, -, heq, hkept⟩ := @selectDialogue_of_selected older
      [truncateMessage newest remaining] 0 (by simp)
    have hnone : kept = [] := by
      cases kept with
      | nil => rfl
      | cons message kept =>
          have hpos := estimateMessage_pos message
          simp only [estimateMessages, List.map_cons, List.sum_cons] at hkept
          omega
    have hspent : remaining - min (estimateMessage newest) remaining = 0 := by omega
    refine Or.inr ⟨_, htruncated, ?_, by simpa [estimateMessages] using hnewest⟩
    simpa [selectDialogue, hcost, hspent, hnone] using heq

private theorem selectDialogue_kept (dialogue : List LLMMessage) (hbudget : 30 ≤ remaining) :
    KeptDialogue dialogue (selectDialogue dialogue.reverse remaining []).reverse ∧
      estimateMessages (selectDialogue dialogue.reverse remaining []).reverse ≤ remaining := by
  rw [estimateMessages_reverse]
  cases hdialogue : dialogue.reverse with
  | nil =>
      rw [List.reverse_eq_nil_iff] at hdialogue
      subst hdialogue
      exact ⟨Or.inl ⟨List.suffix_refl _, fun h => absurd rfl h⟩,
        by simp [selectDialogue, estimateMessages]⟩
  | cons newest older =>
      have hsplit : dialogue = older.reverse ++ [newest] := by
        rw [← List.reverse_cons, ← hdialogue, List.reverse_reverse]
      rcases selectDialogue_cons newest older hbudget with
        ⟨kept, hprefix, heq, hkept⟩ | ⟨shorter, htruncated, heq, hkept⟩
      · rw [heq]
        refine ⟨Or.inl ⟨?_, fun _ => by simp⟩, hkept⟩
        rw [hsplit, ← List.reverse_cons, List.reverse_suffix]
        exact List.cons_prefix_cons.mpr ⟨rfl, hprefix⟩
      · rw [heq]
        exact ⟨Or.inr ⟨_, newest, shorter, hsplit, rfl, htruncated⟩, hkept⟩

end Dialogue

/-! ## The share of the system messages -/

section Share

variable {tokenBudget share : Int}

/-- A budget of `2 ^ 1024 - 2 ^ 970` or more is too large for a float. -/
theorem shareOf_isSome_iff (hpos : 0 ≤ tokenBudget) :
    (shareOf tokenBudget).isSome ↔ tokenBudget < 2 ^ 1024 - 2 ^ 970 := by
  have hround := @roundDigits_lt_iff 53 tokenBudget.natAbs (by decide) 970
  rw [show 53 + 970 + 1 = 1024 from rfl] at hround
  have hfloat : (toFloat tokenBudget.natAbs).isSome ↔
      tokenBudget.natAbs < 2 ^ 1024 - 2 ^ 970 := by
    rw [← hround, toFloat]
    split
    case isTrue h => exact iff_of_true rfl h
    case isFalse h => exact iff_of_false Bool.false_ne_true h
  rw [shareOf, Option.isSome_map, hfloat]
  omega

theorem share_le (hpos : 0 ≤ tokenBudget) (hshare : shareOf tokenBudget = some share) :
    5 * share ≤ 3 * tokenBudget := by
  obtain ⟨budget, hbudget, hproduct⟩ := Option.map_eq_some_iff.mp hshare
  have hfloat : budget = roundDigits 53 tokenBudget.natAbs := by
    unfold toFloat at hbudget
    split at hbudget <;> cases hbudget
    rfl
  have hfirst := roundDigits_le 53 tokenBudget.natAbs
  have hsecond := roundDigits_le 53 (budget * systemShare)
  rw [← hfloat] at hfirst
  simp only [systemShare] at hsecond hproduct
  rcases Int.lt_or_eq_of_le hpos with hlt | heq
  · rw [Int.sign_eq_one_of_pos hlt, Int.one_mul] at hproduct
    omega
  · rw [← heq, Int.sign_zero, Int.zero_mul] at hproduct
    omega

end Share

/-! ## The budget -/

section Trim

variable {messages : List LLMMessage} {tokenBudget : Int}

private theorem fits_nil (hpos : 0 ≤ tokenBudget) : Fits [] tokenBudget ⟨[], 0, 0, 0⟩ where
  estimate := rfl
  within := hpos
  kept := ⟨[], [], rfl, .nil, Or.inl ⟨List.suffix_refl _, fun h => absurd rfl h⟩⟩

private theorem system_leaves_room (hbudget : 542 ≤ tokenBudget) {share : Int} {used count : Nat}
    (hcount : (128 * count : Int) ≤ max 512 (11 * tokenBudget / 20))
    (hshare : 5 * share ≤ 3 * tokenBudget)
    (hused : used ≤ max (128 * count) (max 512 share).toNat) :
    (used : Int) + 30 ≤ tokenBudget := by
  omega

theorem trim_isSome_iff (hpos : 0 ≤ tokenBudget) :
    (trim messages tokenBudget).isSome = true ↔
      messages = [] ∨ tokenBudget < 2 ^ 1024 - 2 ^ 970 := by
  unfold trim
  split
  · rename_i hempty
    exact iff_of_true rfl (Or.inl (List.isEmpty_iff.mp hempty))
  · rename_i hsome
    rw [Option.isSome_map, shareOf_isSome_iff hpos]
    exact (or_iff_right fun hempty => hsome (List.isEmpty_iff.mpr hempty)).symm

private theorem trim_fits {result : PromptBudgetResult} (hbudget : 542 ≤ tokenBudget)
    (hsystem : (128 * (messages.filter isSystem).length : Int) ≤ max 512 (11 * tokenBudget / 20))
    (htrim : trim messages tokenBudget = some result) : Fits messages tokenBudget result := by
  unfold trim at htrim
  split at htrim
  · rename_i hempty
    cases htrim
    rw [List.isEmpty_iff.mp hempty]
    exact fits_nil (by omega)
  · obtain ⟨share, hshare, hresult⟩ := Option.map_eq_some_iff.mp htrim
    have hfit := estimate_fitSystem_le (messages.filter isSystem) (max 512 share).toNat
    have hkept := fitSystemMessages_kept (messages.filter isSystem) (max 512 share).toNat
    have hroom := system_leaves_room hbudget hsystem (share_le (by omega) hshare) hfit
    obtain ⟨hdialogue, hwithin⟩ := selectDialogue_kept
      (messages.filter fun message => !isSystem message)
      (show 30 ≤ (tokenBudget - estimateMessages
        (fitSystemMessages (messages.filter isSystem) (max 512 share).toNat).1).toNat by omega)
    subst hresult
    refine ⟨rfl, ?_, _, _, rfl, hkept, hdialogue⟩
    change (estimateMessages (_ ++ _) : Int) ≤ tokenBudget
    rw [estimateMessages_append]
    omega

/--
For a budget of at least 542 tokens whose system share has 128 tokens for each system
message: `trim` returns unless the budget is too large for a float, and what it returns
keeps to the budget.
-/
theorem trim_fits_iff (hbudget : 542 ≤ tokenBudget)
    (hsystem : (128 * (messages.filter isSystem).length : Int) ≤ max 512 (11 * tokenBudget / 20)) :
    ((trim messages tokenBudget).isSome = true ↔
        messages = [] ∨ tokenBudget < 2 ^ 1024 - 2 ^ 970) ∧
      ∀ result, trim messages tokenBudget = some result → Fits messages tokenBudget result :=
  ⟨trim_isSome_iff (by omega), fun _ => trim_fits hbudget hsystem⟩

def oversizedPrompt : List LLMMessage :=
  [{ role := .system, content := String.ofList (List.replicate 30000 'A') },
    { role := .user, content := "hello" }]

theorem trim_fits_iff_oversized :
    ∃ result, trim oversizedPrompt 2048 = some result ∧ Fits oversizedPrompt 2048 result := by
  have h : ((trim oversizedPrompt 2048).isSome = true ↔
      oversizedPrompt = [] ∨ (2048 : Int) < 2 ^ 1024 - 2 ^ 970) ∧
        ∀ result, trim oversizedPrompt 2048 = some result → Fits oversizedPrompt 2048 result :=
    trim_fits_iff (by decide) (by decide)
  obtain ⟨result, htrim⟩ := Option.isSome_iff_exists.mp (h.1.mpr (Or.inr (by decide +kernel)))
  exact ⟨result, htrim, h.2 result htrim⟩

/-- A budget of `10 ^ 309` tokens does not convert to a float. -/
theorem trim_overflows :
    ¬ ∀ (messages : List LLMMessage) (tokenBudget : Int), 542 ≤ tokenBudget →
      (128 * (messages.filter isSystem).length : Int) ≤ max 512 (11 * tokenBudget / 20) →
        ∃ result, trim messages tokenBudget = some result ∧ Fits messages tokenBudget result := by
  intro h
  obtain ⟨result, htrim, -⟩ := h [{ role := .user, content := "hello" }] (10 ^ 309)
    (by decide +kernel) (by decide +kernel)
  have hnone : trim [{ role := .user, content := "hello" }] (10 ^ 309) = none := by
    decide +kernel
  rw [hnone] at htrim
  cases htrim

end Trim

end Astra.Prompts
