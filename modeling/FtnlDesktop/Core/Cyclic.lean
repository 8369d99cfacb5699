import Mathlib

/-!
# Identifiers from a wrapping counter

A counter that runs through `1, …, period` and starts over gives out identifiers that are never
zero.  Two of them are equal only if they are a whole period apart, so within any `period`
consecutive ones, across the wrap or not, no two are equal.
-/

namespace Cyclic

/-- The identifier after `n`. -/
def next (period n : ℕ) : ℕ := if n < period then n + 1 else 1

/-- The identifier that is given out after `k` others. -/
def nth (period k : ℕ) : ℕ := k % period + 1

variable {period : ℕ}

@[simp] lemma nth_zero (period : ℕ) : nth period 0 = 1 := by simp [nth]

lemma nth_ne_zero (period k : ℕ) : nth period k ≠ 0 := Nat.succ_ne_zero _

/-- The counter gives out `nth` one by one. -/
lemma next_nth (h : 0 < period) (k : ℕ) : next period (nth period k) = nth period (k + 1) := by
  have hlt := Nat.mod_lt k h
  have hsucc : (k + 1) % period = (k % period + 1) % period := by rw [Nat.mod_add_mod]
  rw [next, nth, nth, hsucc]
  split_ifs with hwrap
  · rw [Nat.mod_eq_of_lt hwrap]
  · have heq : k % period + 1 = period := by omega
    rw [heq, Nat.mod_self]

/-- **Distinct within a period.** -/
lemma nth_ne_nth {i j : ℕ} (hij : i < j) (hwithin : j < i + period) :
    nth period i ≠ nth period j := by
  rw [nth, nth]
  intro heq
  have hmod : j ≡ i [MOD period] := (Nat.succ_injective heq).symm
  have hdvd : period ∣ j - i := (Nat.modEq_iff_dvd' hij.le).mp hmod.symm
  have := Nat.le_of_dvd (by omega) hdvd
  omega

end Cyclic
