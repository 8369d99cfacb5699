import Mathlib

/-!
# Runs of a machine driven by inputs

A program that is called again and again is a function `step : σ → ι → σ`: one call, one input.
Whatever the caller, the network or the operating system decides — an argument, the time, whether
a send succeeds — is part of the input, so a run is just a list of inputs and everything that is
claimed "for any interleaving" is a statement about all lists.

* `exec` and `stateAt` — the state after a whole run, and at each point of it.
* **`exec_invariant`** — the induction over runs, made once.  `exec_invariant_along` is the
  version for runs whose steps all meet a condition on the state they start from (`Along`).
* **`stateAt_eq_of_rank_eq`** — if every step either changes nothing or increases a rank, the
  rank identifies the state among all points of one run.
* **`exists_behaviour`**, **`exists_behaviour_along`** — forward simulation.  If every step of the
  machine is matched by a finite sequence of steps of an abstract relation, then every run is a
  behaviour of the abstract specification in the sense of TLA: an infinite sequence of single
  steps and stutters that starts in an initial state.
-/

namespace Machine

variable {σ ι τ : Type*}

/-- The state after the inputs `is`. -/
def exec (step : σ → ι → σ) (s : σ) (is : List ι) : σ :=
  is.foldl step s

/-- The state at point `n` of the run, that is after its first `n` inputs. -/
def stateAt (step : σ → ι → σ) (s : σ) (is : List ι) (n : ℕ) : σ :=
  exec step s (is.take n)

variable {step : σ → ι → σ}

@[simp] lemma exec_nil (s : σ) : exec step s [] = s := rfl

@[simp] lemma exec_cons (s : σ) (i : ι) (is : List ι) :
    exec step s (i :: is) = exec step (step s i) is := rfl

lemma exec_append (s : σ) (is js : List ι) :
    exec step s (is ++ js) = exec step (exec step s is) js :=
  List.foldl_append

lemma exec_concat (s : σ) (is : List ι) (i : ι) :
    exec step s (is ++ [i]) = step (exec step s is) i := by
  rw [exec_append]
  rfl

@[simp] lemma stateAt_zero (s : σ) (is : List ι) : stateAt step s is 0 = s := rfl

@[simp] lemma stateAt_nil (s : σ) (n : ℕ) : stateAt step s [] n = s := by
  simp [stateAt]

@[simp] lemma stateAt_cons_succ (s : σ) (i : ι) (is : List ι) (n : ℕ) :
    stateAt step s (i :: is) (n + 1) = stateAt step (step s i) is n := rfl

lemma stateAt_succ (s : σ) (is : List ι) {n : ℕ} (h : n < is.length) :
    stateAt step s is (n + 1) = step (stateAt step s is n) is[n] := by
  rw [stateAt, List.take_succ_eq_append_getElem h, exec_concat]
  rfl

lemma stateAt_succ_of_getElem? (s : σ) {is : List ι} {n : ℕ} {i : ι} (h : is[n]? = some i) :
    stateAt step s is (n + 1) = step (stateAt step s is n) i := by
  obtain ⟨hn, rfl⟩ := List.getElem?_eq_some_iff.mp h
  exact stateAt_succ s is hn

/-- After its last input a run stays where it is. -/
lemma stateAt_succ_of_length_le (s : σ) {is : List ι} {n : ℕ} (h : is.length ≤ n) :
    stateAt step s is (n + 1) = stateAt step s is n := by
  rw [stateAt, stateAt, List.take_of_length_le h, List.take_of_length_le (h.trans n.le_succ)]

lemma stateAt_length (s : σ) (is : List ι) : stateAt step s is is.length = exec step s is := by
  rw [stateAt, List.take_length]

/-! ## Invariants -/

/-- **The induction over runs.** -/
theorem exec_invariant {P : σ → Prop} (hstep : ∀ s i, P s → P (step s i)) {s : σ} (h : P s)
    (is : List ι) : P (exec step s is) := by
  induction is generalizing s with
  | nil => exact h
  | cons i is ih => exact ih (hstep s i h)

/-- Every input of the run meets `C` in the state that consumes it. -/
def Along (step : σ → ι → σ) (C : σ → ι → Prop) : σ → List ι → Prop
  | _, [] => True
  | s, i :: is => C s i ∧ Along step C (step s i) is

@[simp] lemma along_nil (C : σ → ι → Prop) (s : σ) : Along step C s [] := trivial

@[simp] lemma along_cons (C : σ → ι → Prop) (s : σ) (i : ι) (is : List ι) :
    Along step C s (i :: is) ↔ C s i ∧ Along step C (step s i) is := Iff.rfl

instance instDecidableAlong (step : σ → ι → σ) (C : σ → ι → Prop) [∀ s i, Decidable (C s i)] :
    ∀ s is, Decidable (Along step C s is)
  | _, [] => isTrue trivial
  | s, i :: is =>
      haveI := instDecidableAlong step C (step s i) is
      inferInstanceAs (Decidable (C s i ∧ Along step C (step s i) is))

/-- A condition that every step meets is met along every run. -/
lemma along_of_forall {C : σ → ι → Prop} (h : ∀ s i, C s i) (s : σ) (is : List ι) :
    Along step C s is := by
  induction is generalizing s with
  | nil => trivial
  | cons i is ih => exact ⟨h s i, ih (step s i)⟩

/-- A condition that an input meets in every state is met along a run of such inputs. -/
lemma along_of_mem {C : σ → ι → Prop} {is : List ι} (h : ∀ i ∈ is, ∀ s, C s i) (s : σ) :
    Along step C s is := by
  induction is generalizing s with
  | nil => trivial
  | cons i is ih =>
      exact ⟨h i List.mem_cons_self s, ih (fun j hj => h j (List.mem_cons_of_mem _ hj)) (step s i)⟩

lemma along_append (C : σ → ι → Prop) (s : σ) (is js : List ι) :
    Along step C s (is ++ js) ↔ Along step C s is ∧ Along step C (exec step s is) js := by
  induction is generalizing s with
  | nil => simp
  | cons i is ih => simp [ih, and_assoc]

/-- The induction over runs whose steps all meet a condition. -/
theorem exec_invariant_along {C : σ → ι → Prop} {P : σ → Prop}
    (hstep : ∀ s i, P s → C s i → P (step s i)) {s : σ} (h : P s) {is : List ι}
    (hC : Along step C s is) : P (exec step s is) := by
  induction is generalizing s with
  | nil => exact h
  | cons i is ih => exact ih (hstep s i h hC.1) hC.2

/-- The same at every point of the run. -/
theorem stateAt_invariant_along {C : σ → ι → Prop} {P : σ → Prop}
    (hstep : ∀ s i, P s → C s i → P (step s i)) {s : σ} (h : P s) {is : List ι}
    (hC : Along step C s is) (n : ℕ) : P (stateAt step s is n) := by
  rw [← List.take_append_drop n is, along_append] at hC
  exact exec_invariant_along hstep h hC.1

/-- A measure that no step lowers, as long as an invariant holds, grows along the run. -/
theorem le_stateAt {P : σ → Prop} {f : σ → ℕ} (hP : ∀ s i, P s → P (step s i))
    (hf : ∀ s i, P s → f s ≤ f (step s i)) {s : σ} (h : P s) (is : List ι) {m n : ℕ}
    (hmn : m ≤ n) : f (stateAt step s is m) ≤ f (stateAt step s is n) := by
  have htake : is.take n = is.take m ++ (is.take n).drop m := by
    conv_lhs => rw [← List.take_append_drop m (is.take n), List.take_take, min_eq_left hmn]
  have hm : P (stateAt step s is m) := exec_invariant hP h (is.take m)
  rw [stateAt, stateAt, htake, exec_append]
  refine (exec_invariant (P := fun t => P t ∧ f (exec step s (is.take m)) ≤ f t) ?_ ⟨hm, le_rfl⟩
    ((is.take n).drop m)).2
  rintro t i ⟨ht, hle⟩
  exact ⟨hP t i ht, hle.trans (hf t i ht)⟩

/-! ## A rank that identifies the state -/

section Rank

variable {rank : σ → ℕ}

/-- A step that changes the state increases the rank. -/
def RankedBy (step : σ → ι → σ) (rank : σ → ℕ) : Prop :=
  ∀ s i, step s i = s ∨ rank s < rank (step s i)

lemma rank_le_exec (h : RankedBy step rank) (s : σ) (is : List ι) :
    rank s ≤ rank (exec step s is) := by
  refine exec_invariant (P := fun t => rank s ≤ rank t) ?_ le_rfl is
  intro t i ht
  rcases h t i with heq | hlt
  · rwa [heq]
  · exact ht.trans hlt.le

lemma stateAt_split (s : σ) (is : List ι) {m n : ℕ} (hmn : m ≤ n) :
    stateAt step s is n = exec step (stateAt step s is m) ((is.take n).drop m) := by
  have htake : is.take n = is.take m ++ (is.take n).drop m := by
    conv_lhs => rw [← List.take_append_drop m (is.take n), List.take_take, min_eq_left hmn]
  rw [stateAt, stateAt, ← exec_append, ← htake]

lemma rank_stateAt_mono (h : RankedBy step rank) (s : σ) (is : List ι) {m n : ℕ} (hmn : m ≤ n) :
    rank (stateAt step s is m) ≤ rank (stateAt step s is n) := by
  rw [stateAt_split s is hmn]
  exact rank_le_exec h _ _

/-- A run that ends at the rank it started from has changed nothing. -/
lemma exec_eq_of_rank_eq (h : RankedBy step rank) (s : σ) (is : List ι)
    (hr : rank (exec step s is) = rank s) : exec step s is = s := by
  induction is with
  | nil => rfl
  | cons i is ih =>
      rw [exec_cons] at hr ⊢
      rcases h s i with heq | hlt
      · rw [heq] at hr ⊢
        exact ih hr
      · have := rank_le_exec h (step s i) is
        omega

/-- **Equal rank, equal state**, for any two points of one run. -/
theorem stateAt_eq_of_rank_eq (h : RankedBy step rank) (s : σ) (is : List ι) (m n : ℕ)
    (hr : rank (stateAt step s is m) = rank (stateAt step s is n)) :
    stateAt step s is m = stateAt step s is n := by
  wlog hmn : m ≤ n generalizing m n
  · exact (this n m hr.symm (by omega)).symm
  rw [stateAt_split s is hmn] at hr ⊢
  exact (exec_eq_of_rank_eq h _ _ hr.symm).symm

end Rank

/-! ## Forward simulation -/

section Simulation

variable {next : τ → τ → Prop}

/-- `Init ∧ □[Next]_vars`: an infinite sequence of single steps and stutters. -/
def IsBehaviour (init : τ → Prop) (next : τ → τ → Prop) (b : ℕ → τ) : Prop :=
  init (b 0) ∧ ∀ n, next (b n) (b (n + 1)) ∨ b (n + 1) = b n

/-- An inductive invariant of the specification holds throughout its behaviours. -/
theorem IsBehaviour.invariant {init : τ → Prop} {P : τ → Prop} {b : ℕ → τ}
    (hb : IsBehaviour init next b) (hinit : ∀ t, init t → P t)
    (hnext : ∀ t t', P t → next t t' → P t') (n : ℕ) : P (b n) := by
  induction n with
  | zero => exact hinit _ hb.1
  | succ n ih =>
      rcases hb.2 n with hstep | hstutter
      · exact hnext _ _ ih hstep
      · rwa [hstutter]

/-- Play `p` for `k` steps, then `b`. -/
def splice (k : ℕ) (p b : ℕ → τ) : ℕ → τ :=
  fun n => if n < k then p n else b (n - k)

lemma splice_add (k : ℕ) (p b : ℕ → τ) (n : ℕ) : splice k p b (k + n) = b n := by
  simp [splice]

lemma splice_zero {k : ℕ} {p b : ℕ → τ} (hjoin : p k = b 0) : splice k p b 0 = p 0 := by
  cases k with
  | zero => simp [splice, hjoin]
  | succ k => simp [splice]

/-- Splicing at a common state is again a sequence of steps and stutters. -/
lemma splice_step {k : ℕ} {p b : ℕ → τ} (hjoin : p k = b 0)
    (hp : ∀ n, next (p n) (p (n + 1)) ∨ p (n + 1) = p n)
    (hb : ∀ n, next (b n) (b (n + 1)) ∨ b (n + 1) = b n) (n : ℕ) :
    next (splice k p b n) (splice k p b (n + 1)) ∨ splice k p b (n + 1) = splice k p b n := by
  rcases lt_trichotomy (n + 1) k with h | h | h
  · have hn : n < k := by omega
    simpa [splice, h, hn] using hp n
  · have hn : n < k := by omega
    subst h
    simpa [splice, hjoin] using hp n
  · have hn : ¬ n < k := by omega
    have hn' : ¬ n + 1 < k := by omega
    have hsub : n + 1 - k = n - k + 1 := by omega
    simpa [splice, hn, hn', hsub] using hb (n - k)

/-- A finite path, as a sequence that stutters at its end. -/
lemma exists_path {t t' : τ} (h : Relation.ReflTransGen next t t') :
    ∃ k, ∃ p : ℕ → τ, p 0 = t ∧ p k = t' ∧ ∀ n, next (p n) (p (n + 1)) ∨ p (n + 1) = p n := by
  induction h using Relation.ReflTransGen.head_induction_on with
  | refl => exact ⟨0, fun _ => t', rfl, rfl, fun _ => Or.inr rfl⟩
  | @head a c hac _ ih =>
      obtain ⟨k, p, h0, hk, hp⟩ := ih
      refine ⟨k + 1, fun n => Nat.casesOn n a p, rfl, hk, ?_⟩
      intro n
      cases n with
      | zero => exact Or.inl (by simpa [h0] using hac)
      | succ n => exact hp n

/-- **Forward simulation** for the runs whose steps all meet a condition: each such step of the
machine is matched by finitely many abstract steps, and then the run from a related initial state
is seen, at increasing points, in one behaviour. -/
theorem exists_behaviour_along {I : τ → Prop} {R : σ → τ → Prop} {C : σ → ι → Prop}
    (hstep : ∀ s i t, R s t → C s i → ∃ t', Relation.ReflTransGen next t t' ∧ R (step s i) t')
    {s : σ} {t : τ} (hinit : I t) (hR : R s t) {is : List ι} (hC : Along step C s is) :
    ∃ b : ℕ → τ, IsBehaviour I next b ∧
      ∃ point : ℕ → ℕ, Monotone point ∧ ∀ n, R (stateAt step s is n) (b (point n)) := by
  suffices hmain : ∃ b : ℕ → τ, b 0 = t ∧ (∀ n, next (b n) (b (n + 1)) ∨ b (n + 1) = b n) ∧
      ∃ point : ℕ → ℕ, Monotone point ∧ ∀ n, R (stateAt step s is n) (b (point n)) by
    obtain ⟨b, h0, hb, hpoint⟩ := hmain
    exact ⟨b, ⟨h0 ▸ hinit, hb⟩, hpoint⟩
  clear hinit
  induction is generalizing s t with
  | nil =>
      refine ⟨fun _ => t, rfl, fun _ => Or.inr rfl, id, monotone_id, fun n => ?_⟩
      simpa using hR
  | cons i is ih =>
      obtain ⟨t', hpath, hR'⟩ := hstep s i t hR hC.1
      obtain ⟨k, p, hp0, hpk, hp⟩ := exists_path hpath
      obtain ⟨b, hb0, hb, point, hmono, hpoint⟩ := ih hR' hC.2
      have hjoin : p k = b 0 := hpk.trans hb0.symm
      have hzero : splice k p b 0 = t := (splice_zero hjoin).trans hp0
      refine ⟨splice k p b, hzero, splice_step hjoin hp hb,
        fun n => Nat.casesOn n 0 (fun m => k + point m), ?_, ?_⟩
      · refine monotone_nat_of_le_succ fun n => ?_
        cases n with
        | zero => exact Nat.zero_le _
        | succ n => exact Nat.add_le_add_left (hmono (Nat.le_succ n)) k
      · intro n
        cases n with
        | zero => simpa [hzero] using hR
        | succ n => simpa [splice_add] using hpoint n

/-- **Forward simulation**, for every run. -/
theorem exists_behaviour {I : τ → Prop} {R : σ → τ → Prop}
    (hstep : ∀ s i t, R s t → ∃ t', Relation.ReflTransGen next t t' ∧ R (step s i) t')
    {s : σ} {t : τ} (hinit : I t) (hR : R s t) (is : List ι) :
    ∃ b : ℕ → τ, IsBehaviour I next b ∧
      ∃ point : ℕ → ℕ, Monotone point ∧ ∀ n, R (stateAt step s is n) (b (point n)) :=
  exists_behaviour_along (C := fun _ _ => True) (fun s i t h _ => hstep s i t h) hinit hR
    (along_of_forall (fun _ _ => trivial) s is)

end Simulation

end Machine
