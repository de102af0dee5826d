import Astra.Foundation.Transition
import Mathlib.Logic.Function.Basic

/-!
# Transactions that hold row locks to their end

A transaction takes the rows of its lock sequence one after the other and keeps
them until it commits or rolls back.  A transaction whose next row is owned by
another waits for that other transaction.
-/

namespace Astra.Foundation

variable {τ ρ : Type*}

/-- The transactions under way with the rows they still have to lock, and the lock table. -/
structure LockState (τ ρ : Type*) where
  running : Nat → Option (τ × List ρ) := fun _ => none
  owner : ρ → Option Nat := fun _ => none

inductive LockLabel (τ : Type*) where
  | start (i : Nat) (txn : τ)
  | acquire (i : Nat)
  | finish (i : Nat)

def lockStep [DecidableEq ρ] (locks : τ → List ρ) (s : LockState τ ρ) :
    LockLabel τ → Option (LockState τ ρ)
  | .start i txn =>
      match s.running i with
      | none => some { s with running := Function.update s.running i (some (txn, locks txn)) }
      | some _ => none
  | .acquire i =>
      match s.running i with
      | some (txn, row :: rest) =>
          if s.owner row = none ∨ s.owner row = some i then
            some
              { running := Function.update s.running i (some (txn, rest))
                owner := Function.update s.owner row (some i) }
          else none
      | _ => none
  | .finish i =>
      some
        { running := Function.update s.running i none
          owner := fun row => if s.owner row = some i then none else s.owner row }

/-- The next row of `i` is owned by `j`. -/
def Waits (s : LockState τ ρ) (i j : Nat) : Prop :=
  i ≠ j ∧ ∃ txn row rest, s.running i = some (txn, row :: rest) ∧ s.owner row = some j

/-- A cycle of transactions, each waiting for a row of the next. -/
def Deadlocked (s : LockState τ ρ) : Prop := ∃ i, Relation.TransGen (Waits s) i i

def Taken (locks : τ → List ρ) (running : Nat → Option (τ × List ρ)) (i : Nat) (row : ρ) : Prop :=
  ∃ txn held rest, running i = some (txn, rest) ∧ locks txn = held ++ rest ∧ row ∈ held

structure LocksHeld (locks : τ → List ρ) (s : LockState τ ρ) : Prop where
  left : ∀ i txn rest, s.running i = some (txn, rest) → ∃ held, locks txn = held ++ rest
  owned : ∀ i row, s.owner row = some i ↔ Taken locks s.running i row

theorem LocksHeld.initial (locks : τ → List ρ) : LocksHeld locks {} :=
  ⟨by simp, by simp [Taken]⟩

section Taken

variable {locks : τ → List ρ} {running : Nat → Option (τ × List ρ)} {i j : Nat} {row : ρ}

theorem taken_update_of_ne {entry : Option (τ × List ρ)} (hne : j ≠ i) :
    Taken locks (Function.update running i entry) j row ↔ Taken locks running j row := by
  simp [Taken, hne]

theorem taken_iff {txn : τ} {held rest : List ρ} (hrunning : running i = some (txn, rest))
    (hlocks : locks txn = held ++ rest) : Taken locks running i row ↔ row ∈ held := by
  constructor
  · rintro ⟨txn', held', rest', hrunning', hlocks', hmem⟩
    rw [hrunning, Option.some.injEq, Prod.mk.injEq] at hrunning'
    obtain ⟨rfl, rfl⟩ := hrunning'
    rw [hlocks] at hlocks'
    exact (List.append_cancel_right hlocks') ▸ hmem
  · intro hmem
    exact ⟨txn, held, rest, hrunning, hlocks, hmem⟩

theorem not_taken (hrunning : running i = none) : ¬ Taken locks running i row := by
  rintro ⟨txn, held, rest, hrunning', -, -⟩
  rw [hrunning] at hrunning'
  cases hrunning'

end Taken

/-! ## What one step does to the rows taken -/

section Invariant

variable [DecidableEq ρ] {locks : τ → List ρ} {s t : LockState τ ρ} {label : LockLabel τ}

theorem lockStep_cases (h : lockStep locks s label = some t) :
    (∃ i txn, label = .start i txn ∧ s.running i = none ∧
        t = ⟨Function.update s.running i (some (txn, locks txn)), s.owner⟩) ∨
      (∃ i txn row rest, label = .acquire i ∧ s.running i = some (txn, row :: rest) ∧
        (s.owner row = none ∨ s.owner row = some i) ∧
        t = ⟨Function.update s.running i (some (txn, rest)),
          Function.update s.owner row (some i)⟩) ∨
      ∃ i, label = .finish i ∧
        t = ⟨Function.update s.running i none,
          fun row => if s.owner row = some i then none else s.owner row⟩ := by
  cases label with
  | start i txn =>
      simp only [lockStep] at h
      split at h
      · exact Or.inl ⟨i, txn, rfl, ‹_›, (Option.some.inj h).symm⟩
      · cases h
  | acquire i =>
      simp only [lockStep] at h
      split at h
      · rename_i txn row rest hrunning
        split at h
        · exact Or.inr (Or.inl ⟨i, txn, row, rest, rfl, hrunning, ‹_›, (Option.some.inj h).symm⟩)
        · cases h
      · cases h
  | finish i => exact Or.inr (Or.inr ⟨i, rfl, (Option.some.inj h).symm⟩)

theorem lockStep_running (hstep : lockStep locks s label = some t) {j : Nat} {txn : τ}
    {rest : List ρ} (hj : t.running j = some (txn, rest)) :
    s.running j = some (txn, rest) ∨ (label = .start j txn ∧ rest = locks txn) ∨
      ∃ row, label = .acquire j ∧ s.running j = some (txn, row :: rest) := by
  obtain ⟨i, txn', hlabel, -, rfl⟩ | ⟨i, txn', row, rest', hlabel, hi, -, rfl⟩ | ⟨i, -, rfl⟩ :=
    lockStep_cases hstep <;> by_cases hji : j = i
  · subst hji
    simp only [Function.update_self, Option.some.injEq, Prod.mk.injEq] at hj
    obtain ⟨rfl, rfl⟩ := hj
    exact Or.inr (Or.inl ⟨hlabel, rfl⟩)
  · simp only [Function.update_of_ne hji] at hj
    exact Or.inl hj
  · subst hji
    simp only [Function.update_self, Option.some.injEq, Prod.mk.injEq] at hj
    obtain ⟨rfl, rfl⟩ := hj
    exact Or.inr (Or.inr ⟨row, hlabel, hi⟩)
  · simp only [Function.update_of_ne hji] at hj
    exact Or.inl hj
  · subst hji
    simp at hj
  · simp only [Function.update_of_ne hji] at hj
    exact Or.inl hj

theorem LocksHeld.step_left (h : LocksHeld locks s) (hstep : lockStep locks s label = some t)
    (j : Nat) (txn : τ) (rest : List ρ) (hj : t.running j = some (txn, rest)) :
    ∃ held, locks txn = held ++ rest := by
  rcases lockStep_running hstep hj with hold | ⟨-, rfl⟩ | ⟨row, -, hold⟩
  · exact h.left j txn rest hold
  · exact ⟨[], rfl⟩
  · obtain ⟨held, heq⟩ := h.left j txn (row :: rest) hold
    exact ⟨held ++ [row], by rw [heq]; simp⟩

theorem LocksHeld.between_of_step (h : LocksHeld locks s)
    (hstep : lockStep locks s label = some t) {j : Nat} {txn : τ} {first : ρ} {rest : List ρ}
    (hlocks : locks txn = first :: rest) (hj : t.running j = some (txn, rest)) :
    s.running j = some (txn, rest) ∨
      (label = .acquire j ∧ s.running j = some (txn, locks txn)) := by
  rcases lockStep_running hstep hj with hold | ⟨-, heq⟩ | ⟨row, hlabel, hold⟩
  · exact Or.inl hold
  · have hlength := congrArg List.length (heq.trans hlocks)
    simp at hlength
  · obtain ⟨held, heq⟩ := h.left j _ _ hold
    have hlength := congrArg List.length (heq.symm.trans hlocks)
    simp only [List.length_append, List.length_cons] at hlength
    have hnil : held = [] := List.length_eq_zero_iff.mp (by omega)
    rw [hnil, List.nil_append] at heq
    exact Or.inr ⟨hlabel, heq ▸ hold⟩

theorem LocksHeld.step (h : LocksHeld locks s) (hstep : lockStep locks s label = some t) :
    LocksHeld locks t := by
  refine ⟨h.step_left hstep, fun j r => ?_⟩
  obtain ⟨i, txn, -, hi, rfl⟩ | ⟨i, txn, row, rest, -, hi, hfree, rfl⟩ | ⟨i, -, rfl⟩ :=
    lockStep_cases hstep
  · rw [h.owned]
    by_cases hji : j = i
    · subst hji
      have hnone : ¬ Taken locks
          (Function.update s.running j (some (txn, locks txn))) j r := by
        rw [taken_iff (Function.update_self ..) (List.nil_append _).symm]
        simp
      exact iff_of_false (not_taken hi) hnone
    · exact (taken_update_of_ne hji).symm
  · obtain ⟨held, hlocks⟩ := h.left i txn (row :: rest) hi
    by_cases hji : j = i
    · subst hji
      have hsplit : locks txn = (held ++ [row]) ++ rest := by
        rw [hlocks]
        simp
      refine Iff.trans ?_ (taken_iff (Function.update_self ..) hsplit).symm
      rw [List.mem_append, ← taken_iff hi hlocks, ← h.owned]
      by_cases hr : r = row <;> simp [hr]
    · refine Iff.trans ?_ (taken_update_of_ne hji).symm
      rw [← h.owned]
      by_cases hr : r = row
      · subst hr
        have hne : s.owner r ≠ some j := by
          rcases hfree with hfree | hfree <;> rw [hfree] <;> simp [Ne.symm hji]
        simp [Ne.symm hji, hne]
      · simp [hr]
  · by_cases hji : j = i
    · subst hji
      have hfreed : (if s.owner r = some j then none else s.owner r) ≠ some j := by
        split
        · simp
        · assumption
      exact iff_of_false hfreed (not_taken (Function.update_self ..))
    · refine Iff.trans ?_ (taken_update_of_ne hji).symm
      rw [← h.owned]
      by_cases hr : s.owner r = some i
      · simp [hr, Ne.symm hji]
      · simp [hr]

end Invariant

/-! ## Cycles -/

theorem exists_next_of_cycle {α : Type*} {r : α → α → Prop} {i : α}
    (h : Relation.TransGen r i i) : ∃ j, r i j ∧ Relation.TransGen r j j := by
  obtain ⟨j, hij, hji⟩ := Relation.TransGen.head'_iff.mp h
  exact ⟨j, hij, Relation.TransGen.tail' hji hij⟩

/-- A member of a cycle has taken some of its rows, and has others still to take. -/
theorem LocksHeld.blocked_of_cycle {locks : τ → List ρ} {s : LockState τ ρ}
    (h : LocksHeld locks s) {i : Nat} (hcycle : Relation.TransGen (Waits s) i i) :
    ∃ txn held row rest, s.running i = some (txn, row :: rest) ∧
      locks txn = held ++ row :: rest ∧ held ≠ [] := by
  obtain ⟨j, ⟨-, txn, row, rest, hrunning, -⟩, -⟩ := exists_next_of_cycle hcycle
  obtain ⟨k, -, -, txn', row', rest', -, howner⟩ := Relation.TransGen.tail'_iff.mp hcycle
  obtain ⟨held, hlocks⟩ := h.left i txn (row :: rest) hrunning
  rw [h.owned, taken_iff hrunning hlocks] at howner
  exact ⟨txn, held, row, rest, hrunning, hlocks, List.ne_nil_of_mem howner⟩

end Astra.Foundation
