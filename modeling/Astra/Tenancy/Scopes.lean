import Astra.Tenancy.References

/-!
# Memory scopes

The scope of a memory says which conversations it is meant for, but the query of
the assembler compares the two target columns without looking at the scope.  The
two agree for a memory that fills in no other target than that of its scope.
-/

namespace Astra.Tenancy

open Astra.Foundation Astra.Platform Astra.Persistence Astra.Services Astra.Chat

/-- The memory is meant for the conversation. -/
def InScope (c : Conversation) (m : Memory) : Prop :=
  m.scope = .user ∨ (m.scope = .conversation ∧ m.conversationId = some c.id) ∨
    (m.scope = .character ∧ m.characterId = c.characterId)

/-- No target is filled in besides that of the scope. -/
structure OneTarget (k : MemoryKey) : Prop where
  conversation : k.scope = .conversation → k.characterId = none
  character : k.scope = .character → k.conversationId = none

def RequestsOneTarget : ChatLabel → Prop
  | .service _ (.createMemory request _ _) =>
      (request.scope = .conversation → request.characterId = none) ∧
        (request.scope = .character → request.conversationId = none)
  | .service .. | .arrive .. | .resume .. => True

/-- What the context of a conversation may hold. -/
structure MayRecall (c : Conversation) (minImportance : Rat) (m : Memory) : Prop where
  owner : m.userId = c.userId
  active : m.archivedAt = none
  important : minImportance ≤ m.importance
  scope : InScope c m

/-! ## One query -/

theorem memorySelected_iff {userId conversationId : UUID} {characterId : Option UUID}
    {minImportance : Rat} {m : Memory} :
    memorySelected userId conversationId characterId minImportance m = true ↔
      m.userId = userId ∧ m.archivedAt = none ∧ minImportance ≤ m.importance ∧
        (m.scope = .user ∨ m.conversationId = some conversationId ∨
          (characterId.isSome = true ∧ m.characterId = characterId)) := by
  simp only [memorySelected, Bool.and_eq_true, Bool.or_eq_true, beq_iff_eq, decide_eq_true_eq,
    Option.isNone_iff_eq_none]
  constructor
  · rintro ⟨⟨⟨howner, hactive⟩, himportant⟩, hselected⟩
    exact ⟨howner, hactive, himportant, or_assoc.mp hselected⟩
  · rintro ⟨howner, hactive, himportant, hselected⟩
    exact ⟨⟨⟨howner, hactive⟩, himportant⟩, or_assoc.mpr hselected⟩

theorem OneTarget.inScope {m : Memory} (h : OneTarget (memoryKey m)) {c : Conversation}
    (hselected : m.scope = .user ∨ m.conversationId = some c.id ∨
      (c.characterId.isSome = true ∧ m.characterId = c.characterId)) : InScope c m := by
  cases hscope : m.scope with
  | user => exact Or.inl hscope
  | conversation =>
      have hcharacter : m.characterId = none := h.conversation hscope
      rcases hselected with huser | hconversation | ⟨hsome, hcharacter'⟩
      · rw [hscope] at huser
        cases huser
      · exact Or.inr (Or.inl ⟨hscope, hconversation⟩)
      · rw [← hcharacter', hcharacter] at hsome
        cases hsome
  | character =>
      have hconversation : m.conversationId = none := h.character hscope
      rcases hselected with huser | hconversation' | ⟨hsome, hcharacter⟩
      · rw [hscope] at huser
        cases huser
      · rw [hconversation] at hconversation'
        cases hconversation'
      · exact Or.inr (Or.inr ⟨hscope, hcharacter⟩)

theorem oneTarget_iff {m : Memory} (hactive : m.archivedAt = none)
    (hvalid : m.scope = .character → m.characterId ≠ none) :
    OneTarget (memoryKey m) ↔
      ∀ c : Conversation, c.userId = m.userId →
        memorySelected c.userId c.id c.characterId m.importance m = true → InScope c m := by
  constructor
  · intro h c _ hselected
    exact h.inScope (memorySelected_iff.mp hselected).2.2.2
  · intro h
    -- A conversation of the user with the given id and character.
    let row (id : UUID) (characterId : Option UUID) : Conversation :=
      ⟨id, m.userId, none, none, none, none, characterId, none, none, none, 0, 0, []⟩
    constructor
    · intro hscope
      cases hcharacter : m.characterId with
      | none => exact hcharacter
      | some characterId =>
          have hselected := h (row (m.conversationId.getD 0 + 1) (some characterId)) rfl
            (memorySelected_iff.mpr ⟨rfl, hactive, le_refl _, Or.inr (Or.inr ⟨rfl, hcharacter⟩)⟩)
          rcases hselected with huser | ⟨-, hconversation⟩ | ⟨hscope', -⟩
          · exact absurd (hscope.symm.trans huser) (by simp)
          · have hsucc := congrArg (fun id => id.getD 0) hconversation
            exact absurd hsucc.symm (Nat.succ_ne_self _)
          · exact absurd (hscope.symm.trans hscope') (by simp)
    · intro hscope
      cases hconversation : m.conversationId with
      | none => exact hconversation
      | some conversationId =>
          have hselected := h (row conversationId none) rfl
            (memorySelected_iff.mpr ⟨rfl, hactive, le_refl _, Or.inr (Or.inl hconversation)⟩)
          rcases hselected with huser | ⟨hscope', -⟩ | ⟨-, hcharacter⟩
          · exact absurd (hscope.symm.trans huser) (by simp)
          · exact absurd (hscope.symm.trans hscope') (by simp)
          · exact absurd hcharacter (hvalid hscope)

/-! ## Every run -/

def MemoriesOneTarget (rows : List Memory) : Prop := ∀ m ∈ rows, OneTarget (memoryKey m)

theorem MemoriesOneTarget.nil : MemoriesOneTarget [] := by simp [MemoriesOneTarget]

theorem MemoriesOneTarget.of_keys {rows rows' : List Memory} (h : MemoriesOneTarget rows)
    (hkeys : rows'.map memoryKey = rows.map memoryKey) : MemoriesOneTarget rows' := by
  intro m hm
  have hkey := List.mem_map_of_mem (f := memoryKey) hm
  rw [hkeys] at hkey
  obtain ⟨old, hold, heq⟩ := List.mem_map.mp hkey
  rw [← heq]
  exact h old hold

private theorem requestedKey_oneTarget {userId : UUID} {request : MemoryCreateRequest}
    (h : (request.scope = .conversation → request.characterId = none) ∧
      (request.scope = .character → request.conversationId = none)) :
    OneTarget (requestedKey userId request) := by
  constructor
  · intro hscope
    have hscope' : request.scope = .conversation := hscope
    simp [requestedKey, h.1 hscope']
  · intro hscope
    have hscope' : request.scope = .character := hscope
    simp [requestedKey, h.2 hscope']

section Run

variable {d : Deployment} {s t : ChatState} {label : ChatLabel}

private theorem step_oneTarget (h : MemoriesOneTarget s.store.memories)
    (hok : RequestsOneTarget label)
    (hstep : s.step d label = some t) : MemoriesOneTarget t.store.memories := by
  rcases step_references hstep with hkeeps | ⟨userId, action, rfl, heffect⟩
  · exact h.of_keys hkeeps.memories
  · generalize t.store = store' at heffect
    cases heffect with
    | keeps store' hkeeps => exact h.of_keys hkeeps.memories
    | addConversation c howner hcharacter => exact h
    | changeConversation id change c howned hkey hcharacter => exact h
    | addMemory request id now m haction hchecked hkey =>
        subst haction
        intro m' hm'
        rcases List.mem_append.mp hm' with hm' | hm'
        · exact h m' hm'
        · rw [List.mem_singleton.mp hm', hkey]
          exact requestedKey_oneTarget hok

theorem run_oneTarget {labels : List ChatLabel} (hok : ∀ label ∈ labels, RequestsOneTarget label)
    (hrun : exec (ChatState.step d) {} labels = some s) : MemoriesOneTarget s.store.memories := by
  have hall : AllSteps (fun _ label => RequestsOneTarget label) (ChatState.step d) {} labels :=
    AllSteps.of_forall (fun label hlabel _ => hok label hlabel) _
  exact exec_invariant (fun _ _ _ h hok hstep => step_oneTarget h hok hstep)
    MemoriesOneTarget.nil hall hrun

end Run

/-- A memory is recalled in the conversations of its scope only. -/
theorem memories_stay_in_scope (d : Deployment) {labels : List ChatLabel} {s : ChatState}
    (hrun : exec (ChatState.step d) {} labels = some s)
    (hok : ∀ label ∈ labels, RequestsOneTarget label) :
    ∀ c ∈ s.store.conversations, ∀ limit minImportance,
      ∀ m ∈ listForContext s.store.memories c.userId c.id c.characterId limit minImportance,
        MayRecall c minImportance m := by
  intro c _ limit minImportance m hm
  obtain ⟨hmem, hselected⟩ := mem_of_mem_selectOrdered hm
  obtain ⟨howner, hactive, himportant, htarget⟩ := memorySelected_iff.mp hselected
  exact ⟨howner, hactive, himportant, (run_oneTarget hok hrun m hmem).inScope htarget⟩

/-! ## Two conversations with one character -/

def twoConversations : List ChatLabel :=
  [.service 1 (.createCharacter { name := "Mira" } 40),
    .service 1 (.createConversation { characterId := some 40 } 10 0),
    .service 1 (.createConversation { characterId := some 40 } 11 0)]

def rememberScene (characterId : Option UUID) : ChatLabel :=
  .service 1 (.createMemory
    { scope := .conversation
      content := "The door is locked."
      conversationId := some 10
      characterId := characterId } 50 0)

def recalled (s : ChatState) (c : Conversation) : List Memory :=
  listForContext s.store.memories c.userId c.id c.characterId 12 (1 / 5)

theorem memories_stay_in_scope_scene :
    ∃ s, exec (ChatState.step defaultDeployment) {} (twoConversations ++ [rememberScene none]) =
        some s ∧
      (∃ c ∈ s.store.conversations, c.id = 10 ∧ (recalled s c).map Memory.id = [50]) ∧
      ∀ c ∈ s.store.conversations, ∀ m ∈ recalled s c, MayRecall c (1 / 5) m := by
  have hview : ((exec (ChatState.step defaultDeployment) {}
      (twoConversations ++ [rememberScene none])).map fun s =>
        decide (∃ c ∈ s.store.conversations, c.id = 10 ∧ (recalled s c).map Memory.id = [50])) =
          some true := by decide +kernel
  obtain ⟨s, hs, hview⟩ := Option.map_eq_some_iff.mp hview
  have hok : ∀ label ∈ twoConversations ++ [rememberScene none], RequestsOneTarget label := by
    simp [twoConversations, rememberScene, RequestsOneTarget]
  refine ⟨s, hs, of_decide_eq_true hview, ?_⟩
  intro c hc m hm
  exact memories_stay_in_scope defaultDeployment hs hok c hc 12 (1 / 5) m hm

/-- A memory of conversation 10 that also names the character reaches conversation 11. -/
theorem scene_reaches_other_conversation :
    ∃ s, exec (ChatState.step defaultDeployment) {}
        (twoConversations ++ [rememberScene (some 40)]) = some s ∧
      ∃ c ∈ s.store.conversations, c.id = 11 ∧ ∃ m ∈ recalled s c, m.scope = .conversation ∧
        m.conversationId = some 10 ∧ ¬ MayRecall c (1 / 5) m := by
  have hview : ((exec (ChatState.step defaultDeployment) {}
      (twoConversations ++ [rememberScene (some 40)])).map fun s =>
        decide (∃ c ∈ s.store.conversations, c.id = 11 ∧ ∃ m ∈ recalled s c,
          m.scope = .conversation ∧ m.conversationId = some 10)) = some true := by decide +kernel
  obtain ⟨s, hs, hview⟩ := Option.map_eq_some_iff.mp hview
  obtain ⟨c, hc, hid, m, hm, hscope, hconversation⟩ := of_decide_eq_true hview
  refine ⟨s, hs, c, hc, hid, m, hm, hscope, hconversation, ?_⟩
  intro hrecall
  rcases hrecall.scope with huser | ⟨-, hsame⟩ | ⟨hcharacter, -⟩
  · rw [hscope] at huser
    cases huser
  · rw [hconversation, hid] at hsame
    cases hsame
  · rw [hscope] at hcharacter
    cases hcharacter

end Astra.Tenancy
