import Mathlib

/-!
# A bounded window over a growing log

A queue that is pushed at the back and popped at the front once it exceeds its capacity holds the
last `cap` entries of everything ever pushed (`push_rtake`).  Used as a replay window — an entry
is pushed only when it is not in the window — it never holds an entry twice (`nodup_push`).
-/

namespace Window

variable {α : Type}

/-- `queue.push_back(a)`, then `queue.pop_front()` when the queue is longer than `cap`. -/
def push (cap : ℕ) (w : List α) (a : α) : List α :=
  let w := w ++ [a]
  if w.length > cap then w.tail else w

lemma push_of_lt {cap : ℕ} {w : List α} (a : α) (h : w.length < cap) : push cap w a = w ++ [a] :=
  if_neg (by simp; omega)

lemma push_of_ge {cap : ℕ} {w : List α} (a : α) (h : cap ≤ w.length) :
    push cap w a = (w ++ [a]).tail :=
  if_pos (by simp; omega)

/-- **The window is the end of the log.** -/
theorem push_rtake {cap : ℕ} (hcap : 0 < cap) (log : List α) (a : α) :
    push cap (log.rtake cap) a = (log ++ [a]).rtake cap := by
  by_cases hlong : cap ≤ log.length
  · have hlen : (log.rtake cap).length = cap := by simp [List.rtake]; omega
    have hne : log.rtake cap ≠ [] := List.ne_nil_of_length_pos (by omega)
    have hdrop : (log ++ [a]).length - cap = log.length - cap + 1 := by simp; omega
    have hle : log.length - cap + 1 ≤ log.length := by omega
    rw [push_of_ge a hlen.ge, List.tail_append_of_ne_nil hne, List.rtake, List.rtake, hdrop,
      List.drop_append_of_le_length hle, List.tail_drop]
  · have hshort : log.rtake cap = log := by
      rw [List.rtake, Nat.sub_eq_zero_of_le (by omega), List.drop_zero]
    have hshort' : (log ++ [a]).rtake cap = log ++ [a] := by
      rw [List.rtake, Nat.sub_eq_zero_of_le (by simp; omega), List.drop_zero]
    rw [hshort, hshort', push_of_lt a (by omega)]

/-- An entry stays in the window until `n` further ones have been pushed. -/
lemma mem_rtake_of_lt {n : ℕ} {before after : List α} {a : α} (h : after.length < n) :
    a ∈ (before ++ a :: after).rtake n := by
  have hle : (before ++ a :: after).length - n ≤ before.length := by simp; omega
  rw [List.rtake, List.drop_append_of_le_length hle]
  exact List.mem_append_right _ List.mem_cons_self

lemma mem_of_mem_push {cap : ℕ} {w : List α} {a b : α} (h : b ∈ push cap w a) : b ∈ w ∨ b = a := by
  have hmem : b ∈ w ++ [a] := by
    rcases lt_or_ge w.length cap with hlt | hge
    · rwa [push_of_lt a hlt] at h
    · rw [push_of_ge a hge] at h
      exact List.mem_of_mem_tail h
  simpa using hmem

lemma nodup_push {cap : ℕ} {w : List α} {a : α} (hw : w.Nodup) (ha : a ∉ w) :
    (push cap w a).Nodup := by
  have hnodup : (w ++ [a]).Nodup := by
    rw [List.nodup_append]
    refine ⟨hw, List.nodup_singleton a, fun b hb c hc hbc => ha ?_⟩
    rw [List.mem_singleton] at hc
    rwa [← hc, ← hbc]
  rcases lt_or_ge w.length cap with h | h
  · rwa [push_of_lt a h]
  · rw [push_of_ge a h]
    exact hnodup.sublist (List.tail_sublist _)

lemma length_push_le {cap : ℕ} {w : List α} (a : α) (hw : w.length ≤ cap) :
    (push cap w a).length ≤ cap := by
  rcases lt_or_ge w.length cap with h | h
  · rw [push_of_lt a h, List.length_append, List.length_singleton]
    omega
  · rw [push_of_ge a h, List.length_tail, List.length_append, List.length_singleton]
    omega

end Window
