import Mathlib.Data.List.Chain

/-!
# Overlapping windows

Windows over the positions below a length.  Each one ends behind its start, and the next
one starts behind the start of its predecessor and not behind its end: they advance and
leave no gap, whatever the rule by which the ends are chosen.
-/

namespace Astra.Foundation

structure Windowing where
  length : Nat
  stop : Nat → Nat
  next : Nat → Nat
  lt_stop : ∀ start < length, start < stop start
  stop_le : ∀ start < length, stop start ≤ length
  lt_next : ∀ start, start < next start
  next_le : ∀ start < length, next start ≤ stop start

structure Window where
  start : Nat
  stop : Nat
  deriving DecidableEq

namespace Windowing

def window (w : Windowing) (start : Nat) : Window := ⟨start, w.stop start⟩

/-- All windows from a start on; the last one reaches the end. -/
def windows (w : Windowing) (start : Nat) : List Window :=
  if start < w.length then
    if w.length ≤ w.stop start then [w.window start]
    else w.window start :: w.windows (w.next start)
  else []
termination_by w.length - start
decreasing_by
  have := w.lt_next start
  omega

section Windows

variable {w : Windowing} {start : Nat} {v : Window}

theorem mem_windows (h : v ∈ w.windows start) :
    start ≤ v.start ∧ v.start < w.length ∧ v = w.window v.start := by
  fun_induction windows w start with
  | case1 start hstart hstop =>
      obtain rfl := List.mem_singleton.mp h
      exact ⟨le_rfl, hstart, rfl⟩
  | case2 start hstart hstop ih =>
      rcases List.mem_cons.mp h with rfl | h
      · exact ⟨le_rfl, hstart, rfl⟩
      · have hnext := w.lt_next start
        obtain ⟨hle, hlt, hv⟩ := ih h
        exact ⟨by omega, hlt, hv⟩
  | case3 start hstart => cases h

theorem windows_pairwise (w : Windowing) (start : Nat) :
    (w.windows start).Pairwise fun u v => u.start < v.start := by
  fun_induction windows w start with
  | case1 start hstart hstop => exact List.pairwise_singleton _ _
  | case2 start hstart hstop ih =>
      refine List.pairwise_cons.mpr ⟨fun v hv => ?_, ih⟩
      have hnext := w.lt_next start
      have hle := (mem_windows hv).1
      exact Nat.lt_of_lt_of_le hnext hle
  | case3 start hstart => exact .nil

theorem exists_window {p : Nat} (h : start ≤ p) (hp : p < w.length) :
    ∃ v ∈ w.windows start, v.start ≤ p ∧ p < v.stop := by
  fun_induction windows w start with
  | case1 start hstart hstop =>
      exact ⟨w.window start, List.mem_singleton_self _, h, Nat.lt_of_lt_of_le hp hstop⟩
  | case2 start hstart hstop ih =>
      by_cases hcut : p < w.stop start
      · exact ⟨w.window start, List.mem_cons_self, h, hcut⟩
      · have hnext := w.next_le start hstart
        obtain ⟨v, hv, hmem⟩ := ih (by omega)
        exact ⟨v, List.mem_cons_of_mem _ hv, hmem⟩
  | case3 start hstart => omega

theorem head?_windows (h : start < w.length) :
    (w.windows start).head? = some (w.window start) := by
  rw [windows, if_pos h]
  split_ifs <;> rfl

theorem window_mem (h : start < w.length) : w.window start ∈ w.windows start :=
  List.mem_of_head? (head?_windows h)

theorem windows_isChain_iff {R : Window → Window → Prop} (w : Windowing) (start : Nat) :
    (w.windows start).IsChain R ↔
      ∀ v ∈ w.windows start, v.stop < w.length → R v (w.window (w.next v.start)) := by
  fun_induction windows w start with
  | case1 start hstart hstop =>
      simp only [List.isChain_singleton, List.mem_singleton, forall_eq, true_iff]
      intro hshort
      exact absurd hshort (by simpa [window] using hstop)
  | case2 start hstart hstop ih =>
      have hstop : w.stop start < w.length := by omega
      have hnext : w.next start < w.length := Nat.lt_of_le_of_lt (w.next_le start hstart) hstop
      rw [List.isChain_cons, ih, head?_windows hnext, List.forall_mem_cons]
      simp [window, hstop]
  | case3 start hstart => simp

end Windows

end Windowing

end Astra.Foundation
