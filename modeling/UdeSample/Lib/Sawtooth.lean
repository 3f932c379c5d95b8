import Mathlib.Tactic.Ring
import Mathlib.Data.Nat.Basic

/-!
# Sawtooth sequences

A sequence that grows by `i` and starts again from `b` when it would pass `m` repeats itself after
`(m - b) / i + 1` terms.
-/

namespace UdeSample.Lib

/-- One that starts above `m` stays where it is. -/
theorem sawtooth_eq {d : Nat → Nat} {b i m : Nat} (h0 : d 0 = b)
    (hstep : ∀ n, d (n + 1) = if m < d n + i then b else d n + i) (n : Nat) :
    d n = b + n % ((m - b) / i + 1) * i := by
  rcases Nat.eq_zero_or_pos i with rfl | hi
  · have hconst : d n = b := by
      induction n with
      | zero => exact h0
      | succ n ih => rw [hstep, ih, Nat.add_zero, ite_self]
    rw [hconst, Nat.mul_zero, Nat.add_zero]
  have hlimit : ∀ r, m < b + (r + 1) * i ↔ (m - b) / i < r + 1 := by
    intro r
    have hpos : 0 < (r + 1) * i := Nat.mul_pos r.succ_pos hi
    rw [Nat.div_lt_iff_lt_mul hi]
    omega
  have hmod : ∀ n q, (n + 1) % q = (n % q + 1) % q := by
    intro n q
    rw [Nat.mod_add_mod]
  induction n with
  | zero => rw [h0, Nat.zero_mod, Nat.zero_mul, Nat.add_zero]
  | succ n ih =>
    have hlt : n % ((m - b) / i + 1) < (m - b) / i + 1 := Nat.mod_lt _ (Nat.succ_pos _)
    have hnext : d n + i = b + (n % ((m - b) / i + 1) + 1) * i := by
      rw [ih]
      ring
    rw [hstep, hnext, hmod]
    by_cases hlast : n % ((m - b) / i + 1) + 1 = (m - b) / i + 1
    · have hover : m < b + (n % ((m - b) / i + 1) + 1) * i := by
        rw [hlimit, hlast]
        exact Nat.lt_succ_self _
      rw [if_pos hover, hlast, Nat.mod_self, Nat.zero_mul, Nat.add_zero]
    · have hroom : ¬ m < b + (n % ((m - b) / i + 1) + 1) * i := by
        rw [hlimit]
        omega
      have hsmall := Nat.mod_eq_of_lt (Nat.lt_of_le_of_ne hlt hlast)
      rw [if_neg hroom, hsmall]

end UdeSample.Lib
