import Mathlib.Data.Nat.Notation

/-!
# Tables of ranges

Finite sets of natural numbers as tables of closed ranges, as character classes are
written, and their difference as such a table.
-/

namespace Astra.Foundation

structure Range where
  first : Nat
  last : Nat
  deriving DecidableEq, Repr

abbrev RangeTable := List Range

def Range.has (r : Range) (n : Nat) : Bool := r.first ≤ n && n ≤ r.last

/-- What `cut` leaves of a range, on its left and on its right. -/
def Range.minus (r cut : Range) : RangeTable :=
  (if r.first < cut.first then [⟨r.first, min r.last (cut.first - 1)⟩] else []) ++
    (if cut.last < r.last then [⟨max r.first (cut.last + 1), r.last⟩] else [])

namespace RangeTable

def has (table : RangeTable) (n : Nat) : Bool := table.any fun r => r.has n

def minus (table cuts : RangeTable) : RangeTable :=
  cuts.foldl (fun rest cut => rest.flatMap fun r => r.minus cut) table

theorem has_eq_true {table : RangeTable} {n : Nat} :
    table.has n = true ↔ ∃ r ∈ table, r.first ≤ n ∧ n ≤ r.last := by
  simp [has, Range.has]

theorem le_of_has {table : RangeTable} {bound n : Nat} (hall : ∀ r ∈ table, bound ≤ r.first)
    (h : table.has n = true) : bound ≤ n := by
  obtain ⟨r, hr, hfirst, -⟩ := has_eq_true.mp h
  exact Nat.le_trans (hall r hr) hfirst

theorem has_minus_range (r cut : Range) (n : Nat) :
    has (r.minus cut) n = true ↔ r.has n = true ∧ cut.has n = false := by
  unfold Range.minus Range.has
  rw [has_eq_true]
  simp only [List.mem_append, Bool.and_eq_true, decide_eq_true_eq, Bool.and_eq_false_iff,
    decide_eq_false_iff_not]
  constructor
  · rintro ⟨piece, hpiece | hpiece, hfirst, hlast⟩
    · split at hpiece
      · rw [List.mem_singleton] at hpiece
        subst hpiece
        dsimp only at hfirst hlast
        omega
      · cases hpiece
    · split at hpiece
      · rw [List.mem_singleton] at hpiece
        subst hpiece
        dsimp only at hfirst hlast
        omega
      · cases hpiece
  · rintro ⟨hr, hn | hn⟩
    · refine ⟨⟨r.first, min r.last (cut.first - 1)⟩, Or.inl ?_, hr.1, by dsimp only; omega⟩
      rw [if_pos (by omega)]
      exact List.mem_singleton_self _
    · refine ⟨⟨max r.first (cut.last + 1), r.last⟩, Or.inr ?_, by dsimp only; omega, hr.2⟩
      rw [if_pos (by omega)]
      exact List.mem_singleton_self _

theorem has_flatMap_minus (table : RangeTable) (cut : Range) (n : Nat) :
    has (table.flatMap fun r => r.minus cut) n = true ↔ table.has n = true ∧ cut.has n = false := by
  have hpiece (r : Range) : has (r.minus cut) n = true ↔ r.has n = true ∧ cut.has n = false :=
    has_minus_range r cut n
  unfold has at hpiece ⊢
  simp only [List.any_flatMap, List.any_eq_true] at hpiece ⊢
  constructor
  · rintro ⟨r, hr, hin⟩
    exact ⟨⟨r, hr, ((hpiece r).mp hin).1⟩, ((hpiece r).mp hin).2⟩
  · rintro ⟨⟨r, hr, hin⟩, hout⟩
    exact ⟨r, hr, (hpiece r).mpr ⟨hin, hout⟩⟩

theorem has_minus (table cuts : RangeTable) (n : Nat) :
    (table.minus cuts).has n = true ↔ table.has n = true ∧ cuts.has n = false := by
  unfold minus
  induction cuts generalizing table with
  | nil => simp [has]
  | cons cut cuts ih =>
      rw [List.foldl_cons, ih, has_flatMap_minus, and_assoc]
      simp [has]

end RangeTable

end Astra.Foundation
