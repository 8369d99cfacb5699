import FtnlDesktop.Core.Run

/-!
# Throttled steps

A machine keeps a reading of its clock and does something again only after an interval has passed
since; then it reads the clock once more and keeps that.  Other steps may start the interval anew as
well, so that one machine can put off what another step has just done.

Only some inputs look at the clock: some compare a reading with the one that is kept (`checked`),
and some keep one (`stored`).  An input that does both checks first, and time may pass in between.
The readings of a run (`Throttle.readings`) are assumed not to go back.

* **`Throttle.spaced`** — the firings of a run are an interval apart from each other, and from the
  reading that is kept at its start.
* **`Throttle.length_firings_le`** — at most `k` of them fall into `k` intervals.
* **`Throttle.kept_add_le_of_fires`** — a firing is an interval after whatever has started the
  interval before.
* **`Throttle.exists_restart`** — between a reading that an input may keep and a check an interval
  later something starts the interval anew, if the later input fires whenever it is due.
-/

namespace Machine

variable {σ ι : Type*} {step : σ → ι → σ}

structure Throttle (step : σ → ι → σ) where
  interval : ℕ
  /-- The reading that the machine keeps. -/
  kept : σ → ℕ
  checked : ι → Option ℕ
  stored : ι → Option ℕ
  fires : σ → ι → Bool
  moved : ∀ s i, kept (step s i) = kept s ∨ stored i = some (kept (step s i))
  due : ∀ s i, fires s i = true →
    stored i = some (kept (step s i)) ∧ ∃ t, checked i = some t ∧ interval ≤ t - kept s

namespace Throttle

variable (throttle : Throttle step)

/-- The readings that an input takes, in their order. -/
def looks (i : ι) : List ℕ := (throttle.checked i).toList ++ (throttle.stored i).toList

def readings (is : List ι) : List ℕ := is.flatMap throttle.looks

/-- The readings at which a run fires. -/
def firings : σ → List ι → List ℕ
  | _, [] => []
  | s, i :: is =>
      if throttle.fires s i then throttle.kept (step s i) :: firings (step s i) is
      else firings (step s i) is

@[simp] lemma firings_nil (s : σ) : throttle.firings s [] = [] := rfl

lemma firings_cons (s : σ) (i : ι) (is : List ι) :
    throttle.firings s (i :: is)
      = if throttle.fires s i then throttle.kept (step s i) :: throttle.firings (step s i) is
        else throttle.firings (step s i) is := rfl

/-- The clock does not go back. -/
def Ordered (s : σ) (is : List ι) : Prop := (throttle.kept s :: throttle.readings is).SortedLE

variable {throttle} {s : σ} {i : ι} {is : List ι}

lemma mem_looks_checked {t : ℕ} (h : throttle.checked i = some t) : t ∈ throttle.looks i :=
  List.mem_append_left _ (Option.mem_toList.mpr h)

lemma mem_looks_stored {t : ℕ} (h : throttle.stored i = some t) : t ∈ throttle.looks i :=
  List.mem_append_right _ (Option.mem_toList.mpr h)

lemma Ordered.kept_le (h : throttle.Ordered s (i :: is)) {t : ℕ} (ht : t ∈ throttle.looks i) :
    throttle.kept s ≤ t :=
  (List.pairwise_cons.mp h.pairwise).1 t (List.mem_append_left _ ht)

lemma Ordered.kept_le_step (h : throttle.Ordered s (i :: is)) :
    throttle.kept s ≤ throttle.kept (step s i) := by
  rcases throttle.moved s i with heq | hstored
  · exact heq.ge
  · exact h.kept_le (mem_looks_stored hstored)

lemma Ordered.next (h : throttle.Ordered s (i :: is)) : throttle.Ordered (step s i) is := by
  obtain ⟨hkept, hreadings⟩ := List.pairwise_cons.mp h.pairwise
  obtain ⟨-, hlater, hacross⟩ := List.pairwise_append.mp hreadings
  refine List.Pairwise.sortedLE (List.pairwise_cons.mpr ⟨fun t ht => ?_, hlater⟩)
  rcases throttle.moved s i with heq | hstored
  · rw [heq]
    exact hkept t (List.mem_append_right _ ht)
  · exact hacross _ (mem_looks_stored hstored) t ht

/-- What is kept by a firing is an interval after what was kept before. -/
lemma Ordered.kept_add_le (h : throttle.Ordered s (i :: is)) (hfires : throttle.fires s i = true) :
    throttle.kept s + throttle.interval ≤ throttle.kept (step s i) := by
  obtain ⟨hstored, t, hchecked, hdue⟩ := throttle.due s i hfires
  have hkept : throttle.kept s ≤ t := h.kept_le (mem_looks_checked hchecked)
  have hreadings := (List.pairwise_cons.mp h.pairwise).2
  have hlooks : (throttle.looks i).Pairwise (· ≤ ·) := (List.pairwise_append.mp hreadings).1
  have hle : t ≤ throttle.kept (step s i) :=
    (List.pairwise_append.mp hlooks).2.2 t (Option.mem_toList.mpr hchecked) _
      (Option.mem_toList.mpr hstored)
  omega

/-- **Firings are an interval apart.** -/
theorem spaced (h : throttle.Ordered s is) :
    (throttle.kept s :: throttle.firings s is).Pairwise
      fun t t' => t + throttle.interval ≤ t' := by
  induction is generalizing s with
  | nil => simp
  | cons i is ih =>
      have hle := h.kept_le_step
      have hlater := ih h.next
      obtain ⟨hnext, hspaced⟩ := List.pairwise_cons.mp hlater
      rw [firings_cons]
      split_ifs with hfires
      · have hdue := h.kept_add_le hfires
        refine List.pairwise_cons.mpr ⟨fun t ht => ?_, hlater⟩
        rcases List.mem_cons.mp ht with rfl | hmem
        · omega
        · have := hnext t hmem
          omega
      · refine List.pairwise_cons.mpr ⟨fun t ht => ?_, hspaced⟩
        have := hnext t ht
        omega

/-- Numbers that are `d` apart: at most `k` of them lie within `k * d`. -/
lemma length_le_of_spaced {a d k : ℕ} {times : List ℕ}
    (hspaced : times.Pairwise fun t t' => t + d ≤ t')
    (hwithin : ∀ t ∈ times, a ≤ t ∧ t < a + k * d) : times.length ≤ k := by
  induction times generalizing a k with
  | nil => exact Nat.zero_le k
  | cons t times ih =>
      obtain ⟨hfrom, hto⟩ := hwithin t List.mem_cons_self
      obtain ⟨hnext, hspaced⟩ := List.pairwise_cons.mp hspaced
      cases k with
      | zero => omega
      | succ k =>
          refine Nat.succ_le_succ (ih (a := a + d) hspaced fun t' ht' => ?_)
          have hlater := hnext t' ht'
          have hend := (hwithin t' (List.mem_cons_of_mem _ ht')).2
          rw [Nat.succ_mul] at hend
          omega

/-- **At most `k` firings in `k` intervals.** -/
theorem length_firings_le (h : throttle.Ordered s is) (k start : ℕ) :
    ((throttle.firings s is).filter fun t =>
      start ≤ t ∧ t < start + k * throttle.interval).length ≤ k := by
  refine length_le_of_spaced (a := start)
    ((spaced h).of_cons.filter _) fun t ht => ?_
  simpa using (List.mem_filter.mp ht).2

lemma Ordered.stateAt (h : throttle.Ordered s is) (n : ℕ) :
    throttle.Ordered (stateAt step s is n) (is.drop n) := by
  induction n generalizing s is with
  | zero => exact h
  | succ n ih =>
      cases is with
      | nil => simpa using h
      | cons i is => exact ih h.next

lemma Ordered.point (h : throttle.Ordered s is) {n : ℕ} (hn : n < is.length) :
    throttle.Ordered (Machine.stateAt step s is n) (is[n] :: is.drop (n + 1)) := by
  rw [← List.drop_eq_getElem_cons hn]
  exact h.stateAt n

variable (s is) in
/-- As long as nothing starts the interval anew, the same reading is kept. -/
lemma kept_stateAt_eq {m n : ℕ} (hmn : m ≤ n) (hn : n ≤ is.length)
    (hquiet : ∀ k, m ≤ k → k < n →
      throttle.kept (Machine.stateAt step s is (k + 1))
        = throttle.kept (Machine.stateAt step s is k)) :
    throttle.kept (Machine.stateAt step s is n) = throttle.kept (Machine.stateAt step s is m) := by
  induction n, hmn using Nat.le_induction with
  | base => rfl
  | succ n hmn ih =>
      rw [hquiet n hmn n.lt_succ_self]
      exact ih (Nat.le_of_succ_le hn) fun k hmk hkn => hquiet k hmk (hkn.trans n.lt_succ_self)

lemma Ordered.kept_stateAt_le (h : throttle.Ordered s is) {m n : ℕ} (hmn : m ≤ n)
    (hn : n ≤ is.length) :
    throttle.kept (Machine.stateAt step s is m) ≤ throttle.kept (Machine.stateAt step s is n) := by
  induction n, hmn using Nat.le_induction with
  | base => rfl
  | succ n hmn ih =>
      have hlt : n < is.length := hn
      rw [stateAt_succ s is hlt]
      exact (ih hlt.le).trans (h.point hlt).kept_le_step

/-- A firing is an interval after everything that has started the interval before. -/
theorem kept_add_le_of_fires (h : throttle.Ordered s is) {m n : ℕ} (hmn : m ≤ n)
    (hn : n < is.length) (hfires : throttle.fires (Machine.stateAt step s is n) is[n] = true) :
    throttle.kept (Machine.stateAt step s is m) + throttle.interval
      ≤ throttle.kept (Machine.stateAt step s is (n + 1)) := by
  have hle := h.kept_stateAt_le hmn hn.le
  have hdue := (h.point hn).kept_add_le hfires
  rw [stateAt_succ s is hn]
  omega

variable (throttle) in
/-- **Something starts the interval anew** between an input that may keep `t` and one that checks an
interval later, if the later one fires whenever it is due. -/
theorem exists_restart (h : throttle.Ordered s is) {i j : ℕ} (hij : i < j) (hj : j < is.length)
    {t t' : ℕ} (ht : throttle.stored is[i] = some t) (hlate : t + throttle.interval ≤ t')
    (hwilling : throttle.interval ≤ t' - throttle.kept (Machine.stateAt step s is j) →
      throttle.fires (Machine.stateAt step s is j) is[j] = true) :
    ∃ n, ∃ hn : n < is.length, i < n ∧ n ≤ j ∧
      (throttle.fires (Machine.stateAt step s is n) is[n] = true ∨
        throttle.kept (Machine.stateAt step s is (n + 1))
          ≠ throttle.kept (Machine.stateAt step s is n)) := by
  have hi : i < is.length := hij.trans hj
  have hkept : throttle.kept (Machine.stateAt step s is (i + 1)) ≤ t := by
    rw [stateAt_succ s is hi]
    rcases throttle.moved (Machine.stateAt step s is i) is[i] with heq | hstored
    · rw [heq]
      exact (h.point hi).kept_le (mem_looks_stored ht)
    · exact (Option.some.inj (ht.symm.trans hstored)).ge
  by_contra hnone
  -- otherwise the reading at `i` is still kept at `j`, which is then due
  have hsame : throttle.kept (Machine.stateAt step s is j)
      = throttle.kept (Machine.stateAt step s is (i + 1)) := by
    refine kept_stateAt_eq s is hij hj.le fun k hik hkj => ?_
    by_contra hne
    exact hnone ⟨k, hkj.trans hj, hik, hkj.le, Or.inr hne⟩
  exact hnone ⟨j, hj, hij, le_rfl, Or.inl (hwilling (by omega))⟩

end Throttle

end Machine
