import Astra.Foundation.Table
import Mathlib.Data.List.Perm.Basic

/-!
# The head of a sorted list

A list that is sorted stably is a ranking: of two rows that tie, the one in the earlier
place stays ahead.  Here is which rows can come first in some order of the rows, and when
two orderings have the same first rows whatever order they start from.
-/

namespace Astra.Foundation

variable {α : Type*} {l l' : List α} {x y : α} {n : Nat}

/-! ## Orders of the rows -/

theorem exists_perm_filter {p : α → Bool} (h : l'.Perm (l.filter p)) :
    ∃ rows : List α, rows.Perm l ∧ rows.filter p = l' := by
  refine ⟨l' ++ l.filter fun x => !p x, ?_, ?_⟩
  · exact (h.append_right _).trans (List.filter_append_perm p l)
  · have hkept : l'.filter p = l' := List.filter_eq_self.mpr fun x hx =>
      (List.mem_filter.mp (h.mem_iff.mp hx)).2
    rw [List.filter_append, hkept, List.filter_filter]
    simp

theorem exists_perm_map {β : Type*} {f : α → β} {ys : List β} (h : ys.Perm (l.map f)) :
    ∃ rows : List α, rows.Perm l ∧ rows.map f = ys := by
  have hcomp : Relation.Comp (fun ys rows => ys = rows.map f) List.Perm ys l := by
    rw [List.eq_map_comp_perm]
    exact h
  obtain ⟨rows, hrows, hperm⟩ := hcomp
  exact ⟨rows, hperm, hrows.symm⟩

/-! ## Rankings -/

section Heads

variable {r r' : α → α → Prop}

theorem mem_take_iff_countP [DecidableRel r] (hr : ∀ x y, r x y → ¬ r y x) (hl : l.Pairwise r) :
    x ∈ l.take n ↔ x ∈ l ∧ l.countP (fun y => r y x) < n := by
  induction l generalizing n with
  | nil => simp
  | cons a l ih =>
      obtain ⟨hahead, hl⟩ := List.pairwise_cons.mp hl
      cases n with
      | zero => simp
      | succ n =>
          rw [List.take_succ_cons, List.mem_cons, List.mem_cons, ih hl, List.countP_cons]
          by_cases hx : x = a
          · subst hx
            have hnone : l.countP (fun y => r y x) = 0 := by
              rw [List.countP_eq_zero]
              intro y hy
              simpa using hr x y (hahead y hy)
            have hself : ¬ r x x := fun h => hr x x h h
            simp [hnone, hself]
          · by_cases hmem : x ∈ l
            · simp [hx, hmem, hahead x hmem]
            · simp [hx, hmem]

theorem take_eq_take_iff (hr : ∀ x y, r x y → ¬ r y x) (hr' : ∀ x y, r' x y → ¬ r' y x)
    (hperm : l.Perm l') (hl : l.Pairwise r) (hl' : l'.Pairwise r') :
    l.take n = l'.take n ↔ ∀ x ∈ l.take n, ∀ y ∈ l, r' y x → r y x := by
  induction l generalizing l' n with
  | nil =>
      obtain rfl := hperm.nil_eq
      simp
  | cons a l ih =>
      cases n with
      | zero => simp
      | succ n =>
          obtain ⟨hahead, hl⟩ := List.pairwise_cons.mp hl
          cases l' with
          | nil => exact absurd hperm.eq_nil (List.cons_ne_nil a l)
          | cons b m =>
              obtain ⟨hahead', hm⟩ := List.pairwise_cons.mp hl'
              rw [List.take_succ_cons, List.take_succ_cons, List.cons.injEq]
              constructor
              · rintro ⟨rfl, htails⟩
                have hrest := (ih hperm.cons_inv hl hm).mp htails
                intro x hx y hy hyx
                rcases List.mem_cons.mp hx with rfl | hx'
                · rcases List.mem_cons.mp hy with rfl | hy
                  · exact absurd hyx (hr' _ _ hyx)
                  · exact absurd hyx (hr' _ _ (hahead' y (hperm.cons_inv.mem_iff.mp hy)))
                · rcases List.mem_cons.mp hy with rfl | hy
                  · exact hahead x (List.mem_of_mem_take hx')
                  · exact hrest x hx' y hy hyx
              · intro hkept
                have hfirst : a = b := by
                  by_contra hne
                  have ha : a ∈ m := by
                    rcases List.mem_cons.mp (hperm.mem_iff.mp List.mem_cons_self) with heq | ha
                    · exact absurd heq hne
                    · exact ha
                  have hb : b ∈ l := by
                    rcases List.mem_cons.mp (hperm.mem_iff.mpr List.mem_cons_self) with heq | hb
                    · exact absurd heq.symm hne
                    · exact hb
                  have hover := hkept a List.mem_cons_self b (List.mem_cons_of_mem a hb)
                    (hahead' a ha)
                  exact hr _ _ hover (hahead b hb)
                subst hfirst
                refine ⟨rfl, (ih hperm.cons_inv hl hm).mpr fun x hx y hy => ?_⟩
                exact hkept x (List.mem_cons_of_mem a hx) y (List.mem_cons_of_mem a hy)

end Heads

/-! ## Stable sorting -/

theorem pairwise_idxOf [DecidableEq α] (h : l.Nodup) :
    l.Pairwise fun x y => l.idxOf x < l.idxOf y := by
  rw [List.pairwise_iff_getElem]
  intro i j hi hj hij
  rwa [h.idxOf_getElem i hi, h.idxOf_getElem j hj]

theorem pair_sublist (hx : x ∈ l) (hy : y ∈ l) (hne : x ≠ y) :
    [x, y].Sublist l ∨ [y, x].Sublist l := by
  induction l with
  | nil => cases hx
  | cons a l ih =>
      rcases List.mem_cons.mp hx with rfl | hx'
      · rcases List.mem_cons.mp hy with rfl | hy'
        · exact absurd rfl hne
        · exact Or.inl ((List.singleton_sublist.mpr hy').cons_cons x)
      · rcases List.mem_cons.mp hy with rfl | hy'
        · exact Or.inr ((List.singleton_sublist.mpr hx').cons_cons y)
        · exact (ih hx' hy').imp (List.Sublist.cons a) (List.Sublist.cons a)

section Stable

variable {le le' : α → α → Prop} {place : α → Nat}

/-- `x` stands ahead of `y`: by the order, or in a tie by the place. -/
def Ahead (le : α → α → Prop) (place : α → Nat) (x y : α) : Prop :=
  le x y ∧ (le y x → place x < place y)

instance [DecidableRel le] : DecidableRel (Ahead le place) :=
  fun _ _ => inferInstanceAs (Decidable (_ ∧ (_ → _)))

theorem Ahead.asymm (x y : α) (h : Ahead le place x y) : ¬ Ahead le place y x :=
  fun h' => Nat.lt_asymm (h.2 h'.1) (h'.2 h.1)

theorem ahead_cons [DecidableEq α] (hxy : le x y) (hne : y ≠ x) :
    Ahead le ((x :: l).idxOf ·) x y := by
  refine ⟨hxy, fun _ => ?_⟩
  simp only [List.idxOf_cons_self, List.idxOf_cons_ne _ (Ne.symm hne)]
  exact Nat.succ_pos _

theorem insertionSort_ahead [DecidableRel le] [Std.Total le] [IsTrans α le]
    (hplace : l.Pairwise fun x y => place x < place y) :
    (l.insertionSort le).Pairwise (Ahead le place) := by
  classical
  have hnodup : (l.insertionSort le).Nodup := by
    rw [(List.perm_insertionSort le l).nodup_iff]
    exact hplace.imp fun hlt heq => by simp [heq] at hlt
  rw [List.pairwise_iff_forall_sublist]
  intro a b hab
  refine ⟨List.pairwise_iff_forall_sublist.mp (List.pairwise_insertionSort le l) hab, ?_⟩
  intro hba
  by_contra hlt
  have hmem (c : α) (hc : c ∈ [a, b]) : c ∈ l :=
    (List.mem_insertionSort le).mp (hab.subset hc)
  have hne : a ≠ b := List.pairwise_iff_forall_sublist.mp hnodup hab
  rcases pair_sublist (hmem a (by simp)) (hmem b (by simp)) hne with hfirst | hsecond
  · exact hlt (List.pairwise_iff_forall_sublist.mp hplace hfirst)
  · have hswapped := List.pair_sublist_insertionSort hba hsecond
    have hidx := pairwise_idxOf hnodup
    exact Nat.lt_asymm (List.pairwise_iff_forall_sublist.mp hidx hab)
      (List.pairwise_iff_forall_sublist.mp hidx hswapped)

variable [DecidableRel le] [Std.Total le] [IsTrans α le]

theorem mem_take_insertionSort (hplace : l.Pairwise fun x y => place x < place y) :
    x ∈ (l.insertionSort le).take n ↔ x ∈ l ∧ l.countP (fun y => Ahead le place y x) < n := by
  rw [mem_take_iff_countP Ahead.asymm (insertionSort_ahead hplace), List.mem_insertionSort,
    (List.perm_insertionSort le l).countP_eq]

theorem mem_take_insertionSort_cons (hnodup : (x :: l).Nodup) :
    x ∈ ((x :: l).insertionSort le).take n ↔ (x :: l).countP (fun y => ¬ le x y) < n := by
  classical
  have hcount : (x :: l).countP (fun y => Ahead le ((x :: l).idxOf ·) y x) =
      (x :: l).countP (fun y => ¬ le x y) := by
    refine List.countP_congr fun y _ => ?_
    simp only [decide_eq_true_eq, Ahead, List.idxOf_cons_self, Nat.not_lt_zero, imp_false]
    constructor
    · exact fun h => h.2
    · exact fun h => ⟨(Std.Total.total y x).resolve_right h, h⟩
  rw [mem_take_insertionSort (pairwise_idxOf hnodup), hcount]
  simp

theorem countP_lt_of_mem_take (hperm : l'.Perm l) (hnodup : l.Nodup)
    (hx : x ∈ (l'.insertionSort le).take n) : l.countP (fun y => ¬ le x y) < n := by
  classical
  have hplace := pairwise_idxOf (hperm.nodup_iff.mpr hnodup)
  obtain ⟨-, hcount⟩ := (mem_take_insertionSort hplace).mp hx
  refine lt_of_le_of_lt ?_ hcount
  rw [hperm.countP_eq]
  refine List.countP_mono_left fun y _ hy => ?_
  simp only [decide_eq_true_eq] at hy ⊢
  exact ⟨(Std.Total.total y x).resolve_right hy, fun hxy => absurd hxy hy⟩

theorem mem_take_of_le (hnodup : l.Nodup) (hx : x ∈ l) (hxy : le x y) (hyx : ¬ le y x)
    (hy : y ∈ (l.insertionSort le).take n) : x ∈ (l.insertionSort le).take n := by
  classical
  have hplace := pairwise_idxOf hnodup
  obtain ⟨-, hcount⟩ := (mem_take_insertionSort hplace).mp hy
  refine (mem_take_insertionSort hplace).mpr ⟨hx, lt_of_le_of_lt ?_ hcount⟩
  refine List.countP_mono_left fun z _ hz => ?_
  simp only [decide_eq_true_eq] at hz ⊢
  refine ⟨IsTrans.trans z x y hz.1 hxy, ?_⟩
  intro hyz
  exact absurd (IsTrans.trans y z x hyz hz.1) hyx

variable [DecidableRel le'] [Std.Total le'] [IsTrans α le']

/--
The first rows of two orderings agree for all orders of the rows exactly when no row
reaches one that can come first, unless it was strictly before it.
-/
theorem take_insertionSort_agree_iff (hnodup : l.Nodup) :
    (∀ l₁ l₂ : List α, l₁.Perm l → l₂.Perm l →
        (l₁.insertionSort le').take n = (l₂.insertionSort le).take n) ↔
      ∀ x ∈ l, l.countP (fun y => ¬ le x y) < n → ∀ y ∈ l, y ≠ x → le' y x → ¬ le x y := by
  classical
  have hagree (l₁ l₂ : List α) (h₁ : l₁.Perm l) (h₂ : l₂.Perm l) :
      (l₁.insertionSort le').take n = (l₂.insertionSort le).take n ↔
        ∀ x ∈ (l₂.insertionSort le).take n, ∀ y ∈ l₂.insertionSort le,
          Ahead le' (l₁.idxOf ·) y x → Ahead le (l₂.idxOf ·) y x := by
    rw [eq_comm]
    refine take_eq_take_iff Ahead.asymm Ahead.asymm ?_
      (insertionSort_ahead (pairwise_idxOf (h₂.nodup_iff.mpr hnodup)))
      (insertionSort_ahead (pairwise_idxOf (h₁.nodup_iff.mpr hnodup)))
    exact (List.perm_insertionSort le l₂).trans
      ((h₂.trans h₁.symm).trans (List.perm_insertionSort le' l₁).symm)
  constructor
  · intro hall x hx hcount y hy hne hyx hxy
    -- `y` comes first in its ties for the one ordering, and `x` in its ties for the other
    have hfirst : (x :: l.erase x).Perm l := (List.perm_cons_erase hx).symm
    have hsecond : (y :: l.erase y).Perm l := (List.perm_cons_erase hy).symm
    have hkept := (hagree _ _ hsecond hfirst).mp (hall _ _ hsecond hfirst)
    have hhead : x ∈ ((x :: l.erase x).insertionSort le).take n := by
      rw [mem_take_insertionSort_cons (hfirst.nodup_iff.mpr hnodup), hfirst.countP_eq]
      exact hcount
    have hover := hkept x hhead y
      ((List.mem_insertionSort le).mpr (hfirst.mem_iff.mpr hy)) (ahead_cons hyx (Ne.symm hne))
    exact Ahead.asymm _ _ (ahead_cons hxy hne) hover
  · intro hkept l₁ l₂ h₁ h₂
    refine (hagree l₁ l₂ h₁ h₂).mpr fun x hx y hy hover => ?_
    have hmem := List.mem_of_mem_take hx
    rw [List.mem_insertionSort] at hmem hy
    have hne : y ≠ x := by
      rintro rfl
      exact Ahead.asymm _ _ hover hover
    have hbefore := hkept x (h₂.mem_iff.mp hmem) (countP_lt_of_mem_take h₂ hnodup hx) y
      (h₂.mem_iff.mp hy) hne hover.1
    exact ⟨(Std.Total.total y x).resolve_right hbefore, fun hxy => absurd hxy hbefore⟩

end Stable

end Astra.Foundation
