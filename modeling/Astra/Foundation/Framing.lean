import Mathlib.Data.List.Infix

/-!
# Blocks that end with a separator

A stream is cut at each occurrence of a separator, and what stands behind the last
one is kept for the next piece.  Cutting piece by piece is cutting the whole.
-/

namespace Astra.Foundation

variable {α : Type*} [DecidableEq α]

/-- What stands before and behind the first occurrence of the separator. -/
def cutAt (sep : List α) : List α → Option (List α × List α)
  | [] => if sep = [] then some ([], []) else none
  | c :: cs =>
      if sep <+: c :: cs then some ([], (c :: cs).drop sep.length)
      else (cutAt sep cs).map fun cut => (c :: cut.1, cut.2)

section Cut

variable {sep stream block rest : List α}

theorem cutAt_eq_append (h : cutAt sep stream = some (block, rest)) :
    stream = block ++ sep ++ rest := by
  induction stream generalizing block with
  | nil =>
      unfold cutAt at h
      split at h
      · cases h
        simpa using ‹sep = []›
      · cases h
  | cons c cs ih =>
      unfold cutAt at h
      split at h
      · rename_i hsep
        simp only [Option.some.injEq, Prod.mk.injEq] at h
        obtain ⟨rfl, rfl⟩ := h
        obtain ⟨tail, htail⟩ := hsep
        rw [← htail]
        simp
      · obtain ⟨⟨block', rest'⟩, hcut, heq⟩ := Option.map_eq_some_iff.mp h
        simp only [Prod.mk.injEq] at heq
        obtain ⟨rfl, rfl⟩ := heq
        rw [ih hcut]
        simp

theorem length_of_cutAt (h : cutAt sep stream = some (block, rest)) :
    stream.length = block.length + sep.length + rest.length := by
  rw [cutAt_eq_append h, List.length_append, List.length_append]

theorem cutAt_append (h : cutAt sep stream = some (block, rest)) (more : List α) :
    cutAt sep (stream ++ more) = some (block, rest ++ more) := by
  induction stream generalizing block with
  | nil =>
      unfold cutAt at h
      split at h
      · rename_i hsep
        cases h
        subst hsep
        cases more <;> simp [cutAt]
      · cases h
  | cons c cs ih =>
      unfold cutAt at h
      rw [List.cons_append]
      unfold cutAt
      split at h
      · rename_i hsep
        simp only [Option.some.injEq, Prod.mk.injEq] at h
        obtain ⟨rfl, rfl⟩ := h
        have hlength := hsep.length_le
        have hmore : sep <+: c :: (cs ++ more) := hsep.trans (List.prefix_append (c :: cs) more)
        rw [if_pos hmore, ← List.cons_append, List.drop_append_of_le_length hlength]
      · rename_i hsep
        obtain ⟨⟨block', rest'⟩, hcut, heq⟩ := Option.map_eq_some_iff.mp h
        simp only [Prod.mk.injEq] at heq
        obtain ⟨rfl, rfl⟩ := heq
        -- the separator lies within `cs`, so that `more` cannot complete it here
        have hlength := length_of_cutAt hcut
        rw [if_neg, ih hcut]
        · rfl
        · intro hprefix
          apply hsep
          refine List.prefix_of_prefix_length_le hprefix ?_ (by simp; omega)
          exact List.prefix_append (c :: cs) more

/-! A doubled character separates what holds no two of them in a row. -/

theorem cutAt_line {c : α} (hblock : c ∉ block) (stream : List α) :
    cutAt [c, c] (block ++ stream) =
      (cutAt [c, c] stream).map fun cut => (block ++ cut.1, cut.2) := by
  induction block with
  | nil => simp
  | cons d block ih =>
      have hne : c ≠ d := List.ne_of_not_mem_cons hblock
      rw [List.cons_append, cutAt, if_neg (by simp [hne]),
        ih (List.not_mem_of_not_mem_cons hblock), Option.map_map]
      rfl

theorem cutAt_break {c : α} (hblock : c ∉ block) (hne : block ≠ []) (stream : List α) :
    cutAt [c, c] (c :: (block ++ stream)) =
      (cutAt [c, c] stream).map fun cut => (c :: (block ++ cut.1), cut.2) := by
  rw [cutAt, if_neg, cutAt_line hblock, Option.map_map]
  · rfl
  · cases block with
    | nil => exact absurd rfl hne
    | cons d block =>
        have hne : c ≠ d := List.ne_of_not_mem_cons hblock
        simp [hne]

theorem cutAt_pair (c : α) : cutAt [c, c] [c, c] = some ([], []) := by
  simp [cutAt]

end Cut

/-! ## The blocks of a stream -/

structure Separator (α : Type*) where
  text : List α
  ne_nil : text ≠ []

def blocks (sep : Separator α) (stream : List α) : List (List α) × List α :=
  match _hcut : cutAt sep.text stream with
  | none => ([], stream)
  | some (block, rest) =>
      let others := blocks sep rest
      (block :: others.1, others.2)
termination_by stream.length
decreasing_by
  have hlength := length_of_cutAt _hcut
  have hpos := List.length_pos_iff.mpr sep.ne_nil
  omega

section Blocks

variable {sep : Separator α} {stream block rest : List α}

theorem blocks_of_none (h : cutAt sep.text stream = none) : blocks sep stream = ([], stream) := by
  unfold blocks
  split
  · rfl
  · simp_all

theorem blocks_of_cut (h : cutAt sep.text stream = some (block, rest)) :
    blocks sep stream = (block :: (blocks sep rest).1, (blocks sep rest).2) := by
  rw [blocks]
  split
  · simp_all
  · simp_all

theorem blocks_nil : blocks sep [] = ([], []) := by
  apply blocks_of_none
  unfold cutAt
  rw [if_neg sep.ne_nil]

theorem blocks_append (sep : Separator α) (stream more : List α) :
    blocks sep (stream ++ more) =
      ((blocks sep stream).1 ++ (blocks sep ((blocks sep stream).2 ++ more)).1,
        (blocks sep ((blocks sep stream).2 ++ more)).2) := by
  induction hn : stream.length using Nat.strong_induction_on generalizing stream with
  | _ n ih =>
      subst hn
      cases hcut : cutAt sep.text stream with
      | none => simp [blocks_of_none hcut]
      | some cut =>
          have hlength := length_of_cutAt hcut
          have hpos := List.length_pos_iff.mpr sep.ne_nil
          have hrest := ih cut.2.length (by omega) cut.2 rfl
          rw [blocks_of_cut (cutAt_append hcut more), blocks_of_cut hcut, hrest]
          rfl

theorem blocks_kept (sep : Separator α) (stream : List α) :
    blocks sep (blocks sep stream).2 = ([], (blocks sep stream).2) := by
  induction hn : stream.length using Nat.strong_induction_on generalizing stream with
  | _ n ih =>
      subst hn
      cases hcut : cutAt sep.text stream with
      | none => rw [blocks_of_none hcut, blocks_of_none hcut]
      | some cut =>
          have hlength := length_of_cutAt hcut
          have hpos := List.length_pos_iff.mpr sep.ne_nil
          rw [blocks_of_cut hcut]
          exact ih cut.2.length (by omega) cut.2 rfl

/-- The stream as it arrives: each piece is cut behind what the pieces before it left. -/
def blocksOf (sep : Separator α) (kept : List α) : List (List α) → List (List α) × List α
  | [] => ([], kept)
  | piece :: pieces =>
      let now := blocks sep (kept ++ piece)
      let later := blocksOf sep now.2 pieces
      (now.1 ++ later.1, later.2)

theorem blocksOf_eq {kept : List α} (hkept : blocks sep kept = ([], kept))
    (pieces : List (List α)) :
    blocksOf sep kept pieces = blocks sep (kept ++ pieces.flatten) := by
  induction pieces generalizing kept with
  | nil =>
      rw [List.flatten_nil, List.append_nil]
      exact hkept.symm
  | cons piece pieces ih =>
      rw [List.flatten_cons, ← List.append_assoc, blocks_append]
      simp only [blocksOf, ih (blocks_kept sep (kept ++ piece))]

theorem blocks_block (h : cutAt sep.text (block ++ sep.text) = some (block, []))
    (more : List α) :
    blocks sep (block ++ sep.text ++ more) =
      (block :: (blocks sep more).1, (blocks sep more).2) := by
  rw [blocks_of_cut (cutAt_append h more), List.nil_append]

theorem blocks_flatMap {β : Type*} {text : β → List α}
    (htext : ∀ b, cutAt sep.text (text b ++ sep.text) = some (text b, [])) (items : List β) :
    blocks sep (items.flatMap fun b => text b ++ sep.text) = (items.map text, []) := by
  induction items with
  | nil => exact blocks_nil
  | cons item items ih =>
      rw [List.flatMap_cons, blocks_block (htext item), ih]
      rfl

/-- A stream that breaks off holds the texts of the first items, and no whole text after them. -/
theorem blocks_prefix {β : Type*} {text : β → List α}
    (htext : ∀ b, cutAt sep.text (text b ++ sep.text) = some (text b, [])) {items : List β}
    (hstream : stream <+: items.flatMap fun b => text b ++ sep.text) :
    ∃ arrived tail, arrived <+: items ∧
      stream = (arrived.flatMap fun b => text b ++ sep.text) ++ tail ∧
      cutAt sep.text tail = none ∧ blocks sep stream = (arrived.map text, tail) := by
  induction items generalizing stream with
  | nil =>
      have hnil : cutAt sep.text [] = none := if_neg sep.ne_nil
      obtain rfl : stream = [] := by simpa using hstream
      exact ⟨[], [], List.prefix_refl _, rfl, hnil, blocks_nil⟩
  | cons item items ih =>
      rw [List.flatMap_cons] at hstream
      by_cases hwhole : text item ++ sep.text <+: stream
      · obtain ⟨more, rfl⟩ := hwhole
        rw [List.prefix_append_right_inj] at hstream
        obtain ⟨arrived, tail, harrived, hmore, htail, hblocks⟩ := ih hstream
        refine ⟨item :: arrived, tail, List.cons_prefix_cons.mpr ⟨rfl, harrived⟩, ?_, htail, ?_⟩
        · rw [List.flatMap_cons, hmore, List.append_assoc (text item ++ sep.text)]
        · rw [blocks_block (htext item), hblocks]
          rfl
      · obtain ⟨more, hmore⟩ := (List.prefix_or_prefix_of_prefix hstream
          (List.prefix_append _ _)).resolve_right hwhole
        have hnone : cutAt sep.text stream = none := by
          by_contra hsome
          obtain ⟨cut, hcut⟩ := Option.ne_none_iff_exists'.mp hsome
          -- the separator closes the text of the item, so that nothing of it is missing
          have happend := cutAt_append hcut more
          rw [hmore, htext item, Option.some.injEq, Prod.mk.injEq] at happend
          have hempty : more = [] := (List.append_eq_nil_iff.mp happend.2.symm).2
          rw [hempty, List.append_nil] at hmore
          exact hwhole (hmore ▸ List.prefix_refl _)
        exact ⟨[], stream, List.nil_prefix, rfl, hnone, blocks_of_none hnone⟩

end Blocks

end Astra.Foundation
