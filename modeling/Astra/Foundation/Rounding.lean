import Mathlib.Algebra.Ring.Nat
import Mathlib.Data.Nat.Log

/-!
# Rounding to significant binary digits

The nearest natural number with a given number of significant binary digits, ties to the
even one.  With 53 digits this is what arithmetic in binary64 makes of an exact result in
the normal range; a result at or above the power of two behind the range is an overflow.
-/

namespace Astra.Foundation

/-- `n / 2 ^ shift`, to the nearest integer. -/
def roundShift (n shift : Nat) : Nat :=
  let quotient := n / 2 ^ shift
  let rest := 2 * (n % 2 ^ shift)
  if rest < 2 ^ shift || (rest == 2 ^ shift && quotient % 2 == 0) then quotient else quotient + 1

def excessBits (digits n : Nat) : Nat := n.log2 + 1 - digits

def roundDigits (digits n : Nat) : Nat :=
  roundShift n (excessBits digits n) * 2 ^ excessBits digits n

theorem roundShift_zero (n : Nat) : roundShift n 0 = n := by
  simp [roundShift, Nat.mod_one]

theorem le_roundShift (n shift : Nat) : n / 2 ^ shift ≤ roundShift n shift := by
  unfold roundShift
  dsimp only
  split
  · exact Nat.le_refl _
  · exact Nat.le_succ _

theorem roundShift_le_succ (n shift : Nat) : roundShift n shift ≤ n / 2 ^ shift + 1 := by
  unfold roundShift
  dsimp only
  split
  · exact Nat.le_succ _
  · exact Nat.le_refl _

theorem roundShift_le (n shift : Nat) :
    2 * (roundShift n shift * 2 ^ shift) ≤ 2 * n + 2 ^ shift := by
  have hsplit : n / 2 ^ shift * 2 ^ shift + n % 2 ^ shift = n := Nat.div_add_mod' n (2 ^ shift)
  unfold roundShift
  dsimp only
  split
  · omega
  · rename_i hrest
    simp only [Bool.or_eq_true, decide_eq_true_eq, not_or, Nat.not_lt] at hrest
    rw [Nat.add_mul, Nat.one_mul]
    omega

/--
A quotient rounds up to the even `bound` from half of a last place below it on, the tie
included, since the number before `bound` is odd.
-/
theorem roundShift_lt_iff {n k bound : Nat} (heven : bound % 2 = 0)
    (hquotient : n / 2 ^ (k + 1) < bound) :
    roundShift n (k + 1) < bound ↔ n < bound * (2 * 2 ^ k) - 2 ^ k := by
  have hpow : 2 ^ (k + 1) = 2 * 2 ^ k := by
    rw [Nat.pow_succ, Nat.mul_comm]
  have hpos : 0 < 2 ^ k := Nat.two_pow_pos k
  have hsplit : n / (2 * 2 ^ k) * (2 * 2 ^ k) + n % (2 * 2 ^ k) = n := Nat.div_add_mod' n _
  have hrest : n % (2 * 2 ^ k) < 2 * 2 ^ k := Nat.mod_lt _ (by omega)
  by_cases hlast : n / (2 * 2 ^ k) + 1 = bound
  · subst hlast
    rw [Nat.add_mul, Nat.one_mul]
    unfold roundShift
    simp only [hpow, Bool.or_eq_true, Bool.and_eq_true, decide_eq_true_eq, beq_iff_eq]
    split <;> omega
  · have hround := roundShift_le_succ n (k + 1)
    rw [hpow] at hquotient hround
    have hbound : (n / (2 * 2 ^ k) + 2) * (2 * 2 ^ k) ≤ bound * (2 * 2 ^ k) :=
      Nat.mul_le_mul_right _ (by omega)
    rw [Nat.add_mul] at hbound
    omega

section Digits

variable {digits n : Nat}

theorem lt_pow_excess (digits n : Nat) : n < 2 ^ digits * 2 ^ excessBits digits n := by
  have hlog : n < 2 ^ (n.log2 + 1) := Nat.lt_log2_self
  rw [← Nat.pow_add]
  refine Nat.lt_of_lt_of_le hlog (Nat.pow_le_pow_right Nat.two_pos ?_)
  unfold excessBits
  omega

theorem pow_excess_le (hexcess : excessBits digits n ≠ 0) (hn : n ≠ 0) :
    2 ^ digits * 2 ^ excessBits digits n ≤ 2 * n := by
  have hlog : 2 ^ n.log2 ≤ n := Nat.log2_self_le hn
  have hsum : digits + excessBits digits n = n.log2 + 1 := by
    unfold excessBits at hexcess ⊢
    omega
  rw [← Nat.pow_add, hsum, Nat.pow_succ]
  omega

theorem roundDigits_of_excess (hexcess : excessBits digits n = 0) : roundDigits digits n = n := by
  rw [roundDigits, hexcess, roundShift_zero, Nat.pow_zero, Nat.mul_one]

theorem roundDigits_le (digits n : Nat) :
    2 ^ digits * roundDigits digits n ≤ 2 ^ digits * n + n := by
  by_cases hexcess : excessBits digits n = 0
  · rw [roundDigits_of_excess hexcess]
    exact Nat.le_add_right _ _
  · by_cases hn : n = 0
    · simp [hn, roundDigits, roundShift]
    · have hround := Nat.mul_le_mul_left (2 ^ digits) (roundShift_le n (excessBits digits n))
      have hlast := pow_excess_le hexcess hn
      rw [Nat.mul_add, Nat.mul_left_comm, Nat.mul_left_comm _ 2 n] at hround
      unfold roundDigits
      omega

theorem pow_le_roundDigits {k : Nat} (hdigits : 0 < digits) (h : 2 ^ k ≤ n) :
    2 ^ k ≤ roundDigits digits n := by
  have hn : n ≠ 0 := by
    rintro rfl
    exact absurd h (Nat.not_le_of_lt (Nat.two_pow_pos k))
  have hk : k ≤ n.log2 := (Nat.le_log2 hn).mpr h
  have hexcess : excessBits digits n ≤ n.log2 := by
    unfold excessBits
    omega
  have hpow : 2 ^ n.log2 = 2 ^ (n.log2 - excessBits digits n) * 2 ^ excessBits digits n := by
    rw [← Nat.pow_add, Nat.sub_add_cancel hexcess]
  have hdiv : 2 ^ (n.log2 - excessBits digits n) ≤ n / 2 ^ excessBits digits n := by
    rw [Nat.le_div_iff_mul_le (Nat.two_pow_pos _), ← hpow]
    exact Nat.log2_self_le hn
  calc 2 ^ k ≤ 2 ^ n.log2 := Nat.pow_le_pow_right Nat.two_pos hk
    _ = 2 ^ (n.log2 - excessBits digits n) * 2 ^ excessBits digits n := hpow
    _ ≤ roundDigits digits n :=
        Nat.mul_le_mul_right _ (Nat.le_trans hdiv (le_roundShift n (excessBits digits n)))

theorem roundDigits_lt_iff (hdigits : 0 < digits) (k : Nat) :
    roundDigits digits n < 2 ^ (digits + k + 1) ↔ n < 2 ^ (digits + k + 1) - 2 ^ k := by
  have hall : 2 ^ (digits + k + 1) = 2 ^ digits * (2 * 2 ^ k) := by
    rw [Nat.add_assoc, Nat.pow_add, Nat.pow_succ, Nat.mul_comm 2]
  have hone : 2 * 2 ^ k ≤ 2 ^ digits * 2 ^ k :=
    Nat.mul_le_mul_right _ (Nat.le_self_pow (Nat.pos_iff_ne_zero.mp hdigits) 2)
  have heven : 2 ^ digits % 2 = 0 := by
    obtain ⟨d, rfl⟩ := Nat.exists_eq_add_of_lt hdigits
    rw [Nat.zero_add, Nat.pow_succ]
    omega
  have hpos : 0 < 2 ^ k := Nat.two_pow_pos k
  by_cases hbig : 2 ^ (digits + k + 1) ≤ n
  · have hround := pow_le_roundDigits hdigits hbig
    omega
  · have hquotient : n / 2 ^ excessBits digits n < 2 ^ digits :=
      (Nat.div_lt_iff_lt_mul (Nat.two_pow_pos _)).mpr (lt_pow_excess digits n)
    by_cases hexcess : excessBits digits n ≤ k
    · have hlast : 2 ^ digits * 2 ^ excessBits digits n ≤ 2 ^ digits * 2 ^ k :=
        Nat.mul_le_mul_left _ (Nat.pow_le_pow_right Nat.two_pos hexcess)
      have hround : roundDigits digits n ≤ 2 ^ digits * 2 ^ excessBits digits n :=
        Nat.mul_le_mul_right _ (Nat.le_trans (roundShift_le_succ n _) hquotient)
      have hn := lt_pow_excess digits n
      rw [hall, Nat.mul_left_comm]
      omega
    · have hlog : excessBits digits n = k + 1 := by
        have hlog : n.log2 ≤ digits + k := by
          by_cases hn : n = 0
          · simp [hn]
          · exact Nat.le_of_lt_succ ((Nat.log2_lt hn).mpr (Nat.lt_of_not_le hbig))
        unfold excessBits at hexcess ⊢
        omega
      rw [hlog] at hquotient
      rw [roundDigits, hlog, hall, ← roundShift_lt_iff heven hquotient, Nat.pow_succ,
        Nat.mul_comm 2]
      exact Nat.mul_lt_mul_right (Nat.mul_pos hpos Nat.two_pos)

end Digits

end Astra.Foundation
