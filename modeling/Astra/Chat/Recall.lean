import Astra.Chat.System
import Astra.Foundation.Ranking
import Mathlib.Algebra.Order.Ring.Unbundled.Rat

/-!
# Recalling memories

Assembling a context stamps the memories that it has selected, and with every `UPDATE`
their `updated_at` too, which orders memories of one importance.  No third key settles a
tie and an `UPDATE` moves its rows, so that each query may find the table in another
order.  Here is when what another conversation of the user is reminded of stays the same
in all of them.
-/

namespace Astra.Chat

open Astra.Foundation Astra.Platform Astra.Persistence Astra.LLM

/-! ## The order of the memories -/

def importantFirst (edited : Memory → Timestamp) (a b : Memory) : Prop :=
  b.importance < a.importance ∨ (a.importance = b.importance ∧ edited b ≤ edited a)

instance (edited : Memory → Timestamp) : DecidableRel (importantFirst edited) :=
  fun _ _ => inferInstanceAs (Decidable (_ ∨ _))

/-- `x` is listed before `y`, whatever settles ties. -/
def Precedes (x y : Memory) : Prop :=
  y.importance < x.importance ∨ x.importance = y.importance ∧ y.updatedAt < x.updatedAt

instance : DecidableRel Precedes := fun _ _ => inferInstanceAs (Decidable (_ ∨ _))

/-- In some order of the rows that tie, this one is among the first `limit` eligible rows. -/
def Recallable (rows : List Memory) (eligible : Memory → Bool) (limit : Nat) (x : Memory) : Prop :=
  eligible x = true ∧ rows.countP (fun y => eligible y && Precedes y x) < limit

instance (rows : List Memory) (eligible : Memory → Bool) (limit : Nat) :
    DecidablePred (Recallable rows eligible limit) :=
  fun _ => inferInstanceAs (Decidable (_ ∧ _))

/-- Stamping what is recalled at the time `now` may bring `y` up to `x`, of the same importance. -/
def Overtakes (rows : List Memory) (eligible : Memory → Bool) (limit : Nat) (now : Timestamp)
    (y x : Memory) : Prop :=
  (Recallable rows eligible limit y ∧ (eligible x = true ∨ x.updatedAt ≤ now)) ∨
    (Recallable rows eligible limit x ∧ ¬ Recallable rows eligible limit y ∧ now ≤ y.updatedAt)

instance (rows : List Memory) (eligible : Memory → Bool) (limit : Nat) (now : Timestamp) :
    DecidableRel (Overtakes rows eligible limit now) :=
  fun _ _ => inferInstanceAs (Decidable (_ ∨ _))

/-- The memories that the conversation may be reminded of. -/
def eligibleFor (config : AppConfig) (userId : UUID) (c : Conversation) : Memory → Bool :=
  memorySelected userId c.id c.characterId config.memoryMinImportance

/--
No memory ties with one that `second` recalls, and none behind it overtakes it by the
access times written for `first`.
-/
def KeepsRecall (config : AppConfig) (rows : List Memory) (userId : UUID)
    (first second : Conversation) (now : Timestamp) : Prop :=
  ∀ x ∈ rows, Recallable rows (eligibleFor config userId second) config.memoryContextLimit x →
    ∀ y ∈ rows, y.id ≠ x.id → eligibleFor config userId second y = true →
      Precedes y x ∨ Precedes x y ∧ (x.importance = y.importance →
        ¬ Overtakes rows (eligibleFor config userId first) config.memoryContextLimit now y x)

instance (config : AppConfig) (rows : List Memory) (userId : UUID) (first second : Conversation)
    (now : Timestamp) : Decidable (KeepsRecall config rows userId first second now) :=
  inferInstanceAs (Decidable (∀ x ∈ rows, _ → ∀ y ∈ rows, _ → _ → _))

/-- `second` recalls one list, before and after `first`, in every order of the table. -/
def RecallUnchanged (py : PyRuntime) (config : AppConfig) (store : Store) (userId : UUID)
    (first second : Conversation) (history history' : List Message) (now now' : Timestamp) : Prop :=
  ∀ rows₁ rows₂ rows₃ : List Memory, rows₁.Perm store.memories → rows₂.Perm store.memories →
    rows₃.Perm (assemble py config { store with memories := rows₁ } userId first history now).2 →
      (assemble py config { store with memories := rows₃ } userId second history'
          now').1.memoryIds =
        (assemble py config { store with memories := rows₂ } userId second history'
          now').1.memoryIds

section Order

variable {edited : Memory → Timestamp} {x y : Memory}

def weight (edited : Memory → Timestamp) (m : Memory) : Rat ×ₗ Timestamp :=
  toLex (m.importance, edited m)

theorem importantFirst_iff {a b : Memory} :
    importantFirst edited a b ↔ weight edited b ≤ weight edited a := by
  rw [weight, weight, Prod.Lex.toLex_le_toLex, importantFirst]
  simp only [eq_comm]

instance : Std.Total (importantFirst edited) where
  total a b := by
    simp only [importantFirst_iff]
    exact le_total (weight edited b) (weight edited a)

instance : IsTrans Memory (importantFirst edited) where
  trans a b c := by
    simp only [importantFirst_iff]
    intro hab hbc
    exact hbc.trans hab

theorem not_importantFirst_iff : ¬ importantFirst Memory.updatedAt x y ↔ Precedes y x := by
  rw [importantFirst_iff, not_le, weight, weight, Prod.Lex.toLex_lt_toLex, Precedes]
  simp only [eq_comm]

theorem Precedes.importantFirst (h : Precedes x y) : importantFirst Memory.updatedAt x y := by
  rcases h with himportance | ⟨heq, hedited⟩
  · exact Or.inl himportance
  · exact Or.inr ⟨heq, hedited.le⟩

private theorem tie_of_not_precedes (hxy : ¬ Precedes x y) (hyx : ¬ Precedes y x) :
    x.importance = y.importance ∧ x.updatedAt = y.updatedAt := by
  simp only [Precedes, not_or, not_and, not_lt] at hxy hyx
  have heq : x.importance = y.importance := le_antisymm hxy.1 hyx.1
  exact ⟨heq, le_antisymm (hxy.2 heq) (hyx.2 heq.symm)⟩

end Order

/-! ## What an assembly stamps -/

section Reads

variable {rows rows₁ : List Memory} {eligible : Memory → Bool} {limit : Nat} {now : Timestamp}
  {selected : List Memory} {m x y : Memory}

def recalled (eligible : Memory → Bool) (limit : Nat) (rows : List Memory) : List Memory :=
  selectOrdered eligible mostImportantFirst limit rows

theorem recalled_eq (eligible : Memory → Bool) (limit : Nat) (rows : List Memory) :
    recalled eligible limit rows =
      ((rows.filter eligible).insertionSort (importantFirst Memory.updatedAt)).take limit := rfl

theorem recallable_iff_countP :
    Recallable rows eligible limit m ↔ eligible m = true ∧
      (rows.filter eligible).countP (fun y => ¬ importantFirst Memory.updatedAt m y) < limit := by
  unfold Recallable
  simp only [List.countP_filter, not_importantFirst_iff, Bool.and_comm]

theorem recallable_of_recalled (hids : (rows.map Memory.id).Nodup) (hperm : rows₁.Perm rows)
    (h : m ∈ recalled eligible limit rows₁) : Recallable rows eligible limit m := by
  refine recallable_iff_countP.mpr ⟨(mem_of_mem_selectOrdered h).2, ?_⟩
  rw [recalled_eq] at h
  exact countP_lt_of_mem_take (hperm.filter eligible) ((List.Nodup.of_map _ hids).filter eligible) h

theorem exists_recalled (hids : (rows.map Memory.id).Nodup) (hm : m ∈ rows)
    (h : Recallable rows eligible limit m) :
    ∃ rows₁, rows₁.Perm rows ∧ m ∈ recalled eligible limit rows₁ := by
  classical
  obtain ⟨heligible, hcount⟩ := recallable_iff_countP.mp h
  have hfirst := (List.perm_cons_erase (List.mem_filter.mpr ⟨hm, heligible⟩)).symm
  obtain ⟨rows₁, hperm, hfilter⟩ := exists_perm_filter hfirst
  refine ⟨rows₁, hperm, ?_⟩
  have hnodup := hfirst.nodup_iff.mpr ((List.Nodup.of_map _ hids).filter eligible)
  rw [recalled_eq, hfilter, mem_take_insertionSort_cons hnodup, hfirst.countP_eq]
  exact hcount

private theorem recalled_of_precedes (hids : (rows₁.map Memory.id).Nodup) (hx : x ∈ rows₁)
    (heligible : eligible x = true) (hxy : Precedes x y) (hy : y ∈ recalled eligible limit rows₁) :
    x ∈ recalled eligible limit rows₁ := by
  rw [recalled_eq] at hy ⊢
  exact mem_take_of_le ((List.Nodup.of_map _ hids).filter eligible)
    (List.mem_filter.mpr ⟨hx, heligible⟩) hxy.importantFirst (not_importantFirst_iff.mpr hxy) hy

def stamped (selected : List Memory) (now : Timestamp) (m : Memory) : Memory :=
  if m.id ∈ selected.map Memory.id then { m with lastAccessedAt := some now, updatedAt := now }
  else m

def editedBehind (selected : List Memory) (now : Timestamp) (m : Memory) : Timestamp :=
  (stamped selected now m).updatedAt

private theorem touchMemories_eq :
    touchMemories selected now rows = rows.map (stamped selected now) := by
  unfold touchMemories updateWhere stamped
  simp only [decide_eq_true_eq]

theorem stamped_importance : (stamped selected now m).importance = m.importance := by
  unfold stamped
  split_ifs <;> rfl

private theorem stamped_id : (stamped selected now m).id = m.id := by
  unfold stamped
  split_ifs <;> rfl

private theorem stamped_selected (userId conversationId : UUID) (characterId : Option UUID)
    (minImportance : Rat) :
    memorySelected userId conversationId characterId minImportance (stamped selected now m) =
      memorySelected userId conversationId characterId minImportance m := by
  unfold stamped
  split_ifs <;> rfl

theorem editedBehind_of_mem (h : m ∈ selected) : editedBehind selected now m = now := by
  rw [editedBehind, stamped, if_pos (List.mem_map_of_mem h)]

theorem editedBehind_of_not_mem (hids : (rows₁.map Memory.id).Nodup) (hm : m ∈ rows₁)
    (h : m ∉ recalled eligible limit rows₁) :
    editedBehind (recalled eligible limit rows₁) now m = m.updatedAt := by
  rw [editedBehind, stamped, if_neg]
  intro hid
  obtain ⟨m', hm', heq⟩ := List.mem_map.mp hid
  rw [eq_of_key_eq hids (mem_of_mem_selectOrdered hm').1 hm heq] at hm'
  exact h hm'

private theorem exists_overtaken (hids : (rows.map Memory.id).Nodup) (hx : x ∈ rows) (hy : y ∈ rows)
    (hxy : Precedes x y) (h : Overtakes rows eligible limit now y x) :
    ∃ rows₁, rows₁.Perm rows ∧ editedBehind (recalled eligible limit rows₁) now x ≤
      editedBehind (recalled eligible limit rows₁) now y := by
  have hids₁ (rows₁ : List Memory) (hperm : rows₁.Perm rows) : (rows₁.map Memory.id).Nodup :=
    (hperm.map Memory.id).nodup_iff.mpr hids
  rcases h with ⟨hread, hmeets⟩ | ⟨hread, -, hlate⟩
  · obtain ⟨rows₁, hperm, hmem⟩ := exists_recalled hids hy hread
    refine ⟨rows₁, hperm, ?_⟩
    rw [editedBehind_of_mem hmem]
    by_cases hxmem : x ∈ recalled eligible limit rows₁
    · exact (editedBehind_of_mem hxmem).le
    · rw [editedBehind_of_not_mem (hids₁ rows₁ hperm) (hperm.mem_iff.mpr hx) hxmem]
      refine hmeets.resolve_left fun heligible => hxmem ?_
      exact recalled_of_precedes (hids₁ rows₁ hperm) (hperm.mem_iff.mpr hx) heligible hxy hmem
  · obtain ⟨rows₁, hperm, hmem⟩ := exists_recalled hids hx hread
    refine ⟨rows₁, hperm, ?_⟩
    rw [editedBehind_of_mem hmem]
    by_cases hymem : y ∈ recalled eligible limit rows₁
    · exact (editedBehind_of_mem hymem).ge
    · rw [editedBehind_of_not_mem (hids₁ rows₁ hperm) (hperm.mem_iff.mpr hy) hymem]
      exact hlate

private theorem editedBehind_lt (hids : (rows.map Memory.id).Nodup) (hperm : rows₁.Perm rows)
    (hx : x ∈ rows) (hy : y ∈ rows) (hlt : y.updatedAt < x.updatedAt)
    (h : ¬ Overtakes rows eligible limit now y x) :
    editedBehind (recalled eligible limit rows₁) now y <
      editedBehind (recalled eligible limit rows₁) now x := by
  have hids₁ : (rows₁.map Memory.id).Nodup := (hperm.map Memory.id).nodup_iff.mpr hids
  simp only [Overtakes, not_or, not_and, not_le] at h
  by_cases hymem : y ∈ recalled eligible limit rows₁
  · obtain ⟨heligible, hlate⟩ := h.1 (recallable_of_recalled hids hperm hymem)
    have hxmem : x ∉ recalled eligible limit rows₁ := fun hread =>
      heligible (mem_of_mem_selectOrdered hread).2
    rw [editedBehind_of_mem hymem,
      editedBehind_of_not_mem hids₁ (hperm.mem_iff.mpr hx) hxmem]
    exact hlate
  · rw [editedBehind_of_not_mem hids₁ (hperm.mem_iff.mpr hy) hymem]
    by_cases hxmem : x ∈ recalled eligible limit rows₁
    · rw [editedBehind_of_mem hxmem]
      by_cases hread : Recallable rows eligible limit y
      · exact absurd (mem_of_mem_selectOrdered hxmem).2 (h.1 hread).1
      · exact h.2 (recallable_of_recalled hids hperm hxmem) hread
    · rw [editedBehind_of_not_mem hids₁ (hperm.mem_iff.mpr hx) hxmem]
      exact hlt

theorem recalled_stamped {eligible' : Memory → Bool}
    (heligible : ∀ m, eligible' (stamped selected now m) = eligible' m) :
    (recalled eligible' limit (rows.map (stamped selected now))).map Memory.id =
      (((rows.filter eligible').insertionSort
        (importantFirst (editedBehind selected now))).take limit).map Memory.id := by
  have hfilter : (rows.map (stamped selected now)).filter eligible' =
      (rows.filter eligible').map (stamped selected now) := by
    rw [List.filter_map]
    congr 1
    exact List.filter_congr fun m _ => heligible m
  have hsort := List.map_insertionSort (importantFirst (editedBehind selected now))
    (importantFirst Memory.updatedAt) (stamped selected now) (rows.filter eligible')
    fun a _ b _ => by
      unfold importantFirst
      rw [stamped_importance, stamped_importance]
      rfl
  rw [recalled_eq, hfilter, ← hsort, ← List.map_take, List.map_map]
  exact List.map_congr_left fun m _ => stamped_id

private theorem map_id_inj (hids : (rows.map Memory.id).Nodup) {l l' : List Memory} (hl : l ⊆ rows)
    (hl' : l' ⊆ rows) : l.map Memory.id = l'.map Memory.id ↔ l = l' := by
  constructor
  · intro h
    induction l generalizing l' with
    | nil => exact (List.map_eq_nil_iff.mp h.symm).symm
    | cons a l ih =>
        cases l' with
        | nil => cases h
        | cons b l' =>
            obtain ⟨hhead, htail⟩ := List.cons.inj h
            obtain ⟨ha, hl⟩ := List.cons_subset.mp hl
            obtain ⟨hb, hl'⟩ := List.cons_subset.mp hl'
            rw [eq_of_key_eq hids ha hb hhead, ih hl hl' htail]
  · rintro rfl
    rfl

theorem heads_subset {le : Memory → Memory → Prop} [DecidableRel le] {l : List Memory}
    (hperm : l.Perm (rows.filter eligible)) : (l.insertionSort le).take limit ⊆ rows := by
  intro m hm
  have hsorted := List.mem_of_mem_take hm
  rw [List.mem_insertionSort, hperm.mem_iff] at hsorted
  exact List.mem_of_mem_filter hsorted

end Reads

/-! ## Two assemblies -/

section Assemblies

variable {py : PyRuntime} {config : AppConfig} {store : Store} {userId : UUID}
  {first second : Conversation} {history history' : List Message} {now now' : Timestamp}

private theorem recallUnchanged_iff_heads (hids : (store.memories.map Memory.id).Nodup) :
    RecallUnchanged py config store userId first second history history' now now' ↔
      ∀ rows₁ : List Memory, rows₁.Perm store.memories →
        ∀ l₁ l₂ : List Memory, l₁.Perm (store.memories.filter (eligibleFor config userId second)) →
          l₂.Perm (store.memories.filter (eligibleFor config userId second)) →
            (l₁.insertionSort (importantFirst (editedBehind
                (recalled (eligibleFor config userId first) config.memoryContextLimit rows₁)
                now))).take config.memoryContextLimit =
              (l₂.insertionSort (importantFirst Memory.updatedAt)).take
                config.memoryContextLimit := by
  have heligible (selected : List Memory) (m : Memory) :
      eligibleFor config userId second (stamped selected now m) =
        eligibleFor config userId second m := stamped_selected ..
  have htouched (rows₁ : List Memory) :
      (assemble py config { store with memories := rows₁ } userId first history now).2 =
        rows₁.map (stamped
          (recalled (eligibleFor config userId first) config.memoryContextLimit rows₁) now) :=
    touchMemories_eq
  constructor
  · intro hsame rows₁ h₁ l₁ l₂ hl₁ hl₂
    obtain ⟨rows₃, h₃, hfilter₃⟩ := exists_perm_filter hl₁
    obtain ⟨rows₂, h₂, hfilter₂⟩ := exists_perm_filter hl₂
    have hlists := hsame rows₁ rows₂ (rows₃.map (stamped
      (recalled (eligibleFor config userId first) config.memoryContextLimit rows₁) now)) h₁ h₂ (by
        rw [htouched]
        exact (h₃.trans h₁.symm).map _)
    change (recalled (eligibleFor config userId second) config.memoryContextLimit _).map Memory.id =
      (recalled (eligibleFor config userId second) config.memoryContextLimit rows₂).map
        Memory.id at hlists
    rw [recalled_stamped (heligible _), hfilter₃, recalled_eq _ _ rows₂, hfilter₂] at hlists
    exact (map_id_inj hids (heads_subset hl₁) (heads_subset hl₂)).mp hlists
  · intro hheads rows₁ rows₂ rows₃ h₁ h₂ h₃
    rw [htouched] at h₃
    obtain ⟨rows, hperm, rfl⟩ := exists_perm_map h₃
    change (recalled (eligibleFor config userId second) config.memoryContextLimit _).map Memory.id =
      (recalled (eligibleFor config userId second) config.memoryContextLimit rows₂).map Memory.id
    rw [recalled_stamped (heligible _), recalled_eq _ _ rows₂,
      hheads rows₁ h₁ _ _ ((hperm.trans h₁).filter _) (h₂.filter _)]

theorem keepsRecall_iff (hids : (store.memories.map Memory.id).Nodup) :
    KeepsRecall config store.memories userId first second now ↔
      ∀ rows₁ : List Memory, rows₁.Perm store.memories →
        ∀ x ∈ store.memories,
          Recallable store.memories (eligibleFor config userId second)
            config.memoryContextLimit x →
          ∀ y ∈ store.memories, eligibleFor config userId second y = true → y ≠ x →
            importantFirst (editedBehind (recalled (eligibleFor config userId first)
              config.memoryContextLimit rows₁) now) y x → Precedes y x := by
  constructor
  · intro hkept rows₁ hperm x hx hrecall y hy hyes hne hback
    have hid : y.id ≠ x.id := fun hid => hne (eq_of_key_eq hids hy hx hid)
    rcases hkept x hx hrecall y hy hid hyes with hover | ⟨hxy, hbehind⟩
    · exact hover
    exfalso
    rcases hxy with himportance | ⟨heq, hlt⟩
    · rcases hback with hback | ⟨hback, -⟩
      · exact lt_asymm himportance hback
      · exact himportance.ne hback
    · have hedited := editedBehind_lt hids hperm hx hy hlt (hbehind heq)
      rcases hback with hback | ⟨-, hback⟩
      · exact hback.ne heq
      · exact absurd hedited (not_lt.mpr hback)
  · intro hover x hx hrecall y hy hid hyes
    have hne : y ≠ x := fun h => hid (congrArg Memory.id h)
    by_cases hyx : Precedes y x
    · exact Or.inl hyx
    right
    have hxy : Precedes x y := by
      -- of two rows that tie, either one may come first, and the other one reaches it
      by_contra hnot
      have htie := tie_of_not_precedes hnot hyx
      have hyrecall : Recallable store.memories (eligibleFor config userId second)
          config.memoryContextLimit y := by
        refine ⟨hyes, ?_⟩
        have hcount := hrecall.2
        simp only [Precedes, htie.1, htie.2] at hcount ⊢
        exact hcount
      rcases Std.Total.total (r := importantFirst (editedBehind (recalled
        (eligibleFor config userId first) config.memoryContextLimit store.memories) now)) y x with
        hback | hback
      · exact hyx (hover _ (.refl _) x hx hrecall y hy hyes hne hback)
      · exact hnot (hover _ (.refl _) y hy hyrecall x hx hrecall.1 (Ne.symm hne) hback)
    refine ⟨hxy, fun heq hovertakes => hyx ?_⟩
    obtain ⟨rows₁, hperm, hle⟩ := exists_overtaken hids hx hy hxy hovertakes
    exact hover rows₁ hperm x hx hrecall y hy hyes hne (Or.inr ⟨heq.symm, hle⟩)

end Assemblies

/--
Reading the memories of one conversation leaves the list that another recalls, ids and
order, exactly when no memory ties with a recalled one or overtakes it by its access time.
-/
theorem recall_unchanged_iff (py : PyRuntime) (config : AppConfig) (store : Store)
    (hids : (store.memories.map Memory.id).Nodup) (userId : UUID) (first second : Conversation)
    (history history' : List Message) (now now' : Timestamp) :
    RecallUnchanged py config store userId first second history history' now now' ↔
      KeepsRecall config store.memories userId first second now := by
  have hnodup := (List.Nodup.of_map _ hids).filter (eligibleFor config userId second)
  rw [recallUnchanged_iff_heads hids, keepsRecall_iff hids]
  refine forall_congr' fun rows₁ => imp_congr_right fun _ => ?_
  rw [take_insertionSort_agree_iff hnodup]
  simp only [List.mem_filter, and_imp, recallable_iff_countP, not_importantFirst_iff]

/-! ## Two conversations of a user -/

def harborTalk (id : UUID) : Conversation where
  id := id
  userId := 1
  title := none
  provider := none
  model := none
  systemPrompt := none
  characterId := none
  personaId := none
  lastMessageAt := none
  archivedAt := none
  createdAt := 0
  updatedAt := 0
  conversationMetadata := []

def harborMemory (id : UUID) (conversationId : Option UUID) (updatedAt : Timestamp) :
    Memory where
  id := id
  userId := 1
  conversationId := conversationId
  characterId := none
  sourceMessageId := none
  scope := if conversationId.isSome then .conversation else .user
  kind := .fact
  content := "The harbor is closed."
  importance := 1 / 2
  archivedAt := none
  lastAccessedAt := none
  memoryMetadata := []
  updatedAt := updatedAt

theorem recall_unchanged_iff_apart :
    RecallUnchanged PyRuntime.ascii defaultConfig
      { memories := [harborMemory 21 (some 11) 3, harborMemory 22 (some 12) 5] } 1
      (harborTalk 11) (harborTalk 12) [] [] 30 31 :=
  (recall_unchanged_iff PyRuntime.ascii defaultConfig
    { memories := [harborMemory 21 (some 11) 3, harborMemory 22 (some 12) 5] } (by decide) 1
    (harborTalk 11) (harborTalk 12) [] [] 30 31).mpr (by decide +kernel)

/-- Conversation 11 recalls the older memory, and conversation 12 loses its own for it. -/
theorem overtaken_memory_forgotten :
    ¬ RecallUnchanged PyRuntime.ascii { defaultConfig with memoryContextLimit := 1 }
      { memories := [harborMemory 21 none 3, harborMemory 22 (some 12) 5] } 1
      (harborTalk 11) (harborTalk 12) [] [] 30 31 := by
  intro hsame
  have hlists := hsame _ _ _ (.refl _) (.refl _) (.refl _)
  exact absurd hlists (by decide +kernel)

end Astra.Chat
