import Mathlib.Order.Defs.LinearOrder

/-!
# Comparison functions

A function with a negative, zero or positive result that is to order the items of a list.
Where it is a total order on them, the items have exactly one sorted arrangement.
-/

namespace Astra.Foundation

variable {α : Type*} {compare : α → α → Int} {items sorted sorted' : List α}

structure TotalOn (compare : α → α → Int) (items : List α) : Prop where
  self : ∀ a ∈ items, compare a a = 0
  antisymm : ∀ a ∈ items, ∀ b ∈ items, compare a b < 0 ↔ 0 < compare b a
  ext : ∀ a ∈ items, ∀ b ∈ items, compare a b = 0 → a = b
  trans : ∀ a ∈ items, ∀ b ∈ items, ∀ c ∈ items, compare a b < 0 → compare b c < 0 →
    compare a c < 0

def Sorted (compare : α → α → Int) (items : List α) : Prop :=
  items.Pairwise fun a b => compare a b ≤ 0

/-- Where every two items compare, only cycles of three stand against transitivity. -/
theorem trans_of_no_cycle (hself : ∀ a ∈ items, compare a a = 0)
    (hantisymm : ∀ a ∈ items, ∀ b ∈ items, compare a b < 0 ↔ 0 < compare b a)
    (hext : ∀ a ∈ items, ∀ b ∈ items, compare a b = 0 → a = b)
    (hcycle : ∀ a ∈ items, ∀ b ∈ items, ∀ c ∈ items, compare a b < 0 → compare b c < 0 →
      compare c a < 0 → False) : TotalOn compare items where
  self := hself
  antisymm := hantisymm
  ext := hext
  trans a ha b hb c hc hab hbc := by
    by_contra hac
    rcases Int.lt_or_eq_of_le (Int.not_lt.mp hac) with hpos | hzero
    · exact hcycle a ha b hb c hc hab hbc ((hantisymm c hc a ha).mpr hpos)
    · obtain rfl := hext a ha c hc hzero.symm
      have hba := (hantisymm a ha b hb).mp hab
      omega

namespace TotalOn

theorem sublist {part : List α} (h : TotalOn compare items) (hpart : ∀ a ∈ part, a ∈ items) :
    TotalOn compare part where
  self a ha := h.self a (hpart a ha)
  antisymm a ha b hb := h.antisymm a (hpart a ha) b (hpart b hb)
  ext a ha b hb := h.ext a (hpart a ha) b (hpart b hb)
  trans a ha b hb c hc := h.trans a (hpart a ha) b (hpart b hb) c (hpart c hc)

theorem eq_of_sorted (h : TotalOn compare items) (hperm : sorted.Perm items)
    (hperm' : sorted'.Perm items) (hsorted : Sorted compare sorted)
    (hsorted' : Sorted compare sorted') : sorted = sorted' := by
  refine List.Perm.eq_of_pairwise (fun a b ha hb hab hba => ?_) hsorted hsorted'
    (hperm.trans hperm'.symm)
  have ha := hperm.mem_iff.mp ha
  have hb := hperm'.mem_iff.mp hb
  rcases Int.lt_or_eq_of_le hab with hlt | heq
  · have hpos := (h.antisymm a ha b hb).mp hlt
    omega
  · exact h.ext a ha b hb heq

theorem exists_sorted (h : TotalOn compare items) :
    ∃ sorted, sorted.Perm items ∧ Sorted compare sorted := by
  induction items with
  | nil => exact ⟨[], .refl _, .nil⟩
  | cons a items ih =>
      obtain ⟨sorted, hperm, hsorted⟩ := ih (h.sublist fun b hb => List.mem_cons_of_mem a hb)
      have hmem (b : α) (hb : b ∈ sorted) : b ∈ a :: items :=
        List.mem_cons_of_mem a (hperm.mem_iff.mp hb)
      let before : α → Bool := fun b => compare b a < 0
      have hsplit : (sorted.filter before ++ sorted.filter fun b => !before b).Perm sorted :=
        List.filter_append_perm before sorted
      refine ⟨sorted.filter before ++ a :: sorted.filter fun b => !before b, ?_, ?_⟩
      · exact List.perm_middle.trans ((hsplit.trans hperm).cons a)
      · have hbefore (b : α) (hb : b ∈ sorted.filter before) : compare b a < 0 := by
          simpa [before] using (List.mem_filter.mp hb).2
        have hafter (b : α) (hb : b ∈ sorted.filter fun b => !before b) : compare a b ≤ 0 := by
          obtain ⟨hb, hge⟩ := List.mem_filter.mp hb
          have hge : ¬ compare b a < 0 := by simpa [before] using hge
          have hiff := h.antisymm a List.mem_cons_self b (hmem b hb)
          by_contra hlt
          rcases Int.lt_or_eq_of_le (Int.not_lt.mp hge) with hpos | hzero
          · omega
          · have heq := h.ext b (hmem b hb) a List.mem_cons_self hzero.symm
            rw [heq, h.self a List.mem_cons_self] at hlt
            exact hlt (Int.le_refl 0)
        refine List.pairwise_append.mpr ⟨hsorted.filter before,
          List.pairwise_cons.mpr ⟨hafter, hsorted.filter _⟩, fun b hb c hc => ?_⟩
        rcases List.mem_cons.mp hc with rfl | hc
        · exact Int.le_of_lt (hbefore b hb)
        · have hb' := hmem b (List.mem_filter.mp hb).1
          have hc' := hmem c (List.mem_filter.mp hc).1
          rcases Int.lt_or_eq_of_le (hafter c hc) with hlt | heq
          · exact Int.le_of_lt (h.trans b hb' a List.mem_cons_self c hc' (hbefore b hb) hlt)
          · rw [← h.ext a List.mem_cons_self c hc' heq]
            exact Int.le_of_lt (hbefore b hb)

theorem sublist_of_sorted (h : TotalOn compare items) (hperm : sorted.Perm items)
    (hsorted : Sorted compare sorted) {a b : α} (ha : a ∈ items) (hb : b ∈ items)
    (hlt : compare a b < 0) : [a, b].Sublist sorted := by
  have hpos := (h.antisymm a ha b hb).mp hlt
  have hne : a ≠ b := by
    rintro rfl
    rw [h.self a ha] at hlt
    exact absurd hlt (by omega)
  have hleft := hperm.mem_iff.mpr ha
  have hright := hperm.mem_iff.mpr hb
  clear hperm
  induction sorted with
  | nil => cases hleft
  | cons c sorted ih =>
      obtain ⟨hfirst, hrest⟩ := List.pairwise_cons.mp hsorted
      rcases List.mem_cons.mp hleft with rfl | hlater
      · rcases List.mem_cons.mp hright with rfl | hright
        · exact absurd rfl hne
        · exact (List.singleton_sublist.mpr hright).cons_cons _
      · rcases List.mem_cons.mp hright with rfl | hright
        · have hle := hfirst a hlater
          omega
        · exact (ih hrest hlater hright).cons c

end TotalOn

end Astra.Foundation
