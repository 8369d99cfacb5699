import FtnlDesktop.Core.Run

/-!
# What happens in the end

An infinite run of a machine is given by its infinite sequence of inputs.  That something *is*
done, and not only that nothing wrong is, needs an assumption about the inputs: whoever can take a
step all the time takes one in the end (`WeaklyFair`).

Properties are predicates of the moment, so that they may speak of the input as well as of the
state.

* **`LeadsTo.of_weaklyFair`** — Lamport's rule WF1: a property that stays until a fair action
  occurs, and that keeps the action enabled, leads to what the action does.
* **`leadsTo_of_step`** — the same for two properties of the state, from what one step does.
* `LeadsTo.next` — how the stages of a progress argument are put together.
-/

namespace Machine

variable {σ ι : Type*}

/-- The states of the infinite run on the inputs `is`. -/
def behaviour (step : σ → ι → σ) (s : σ) (is : ℕ → ι) : ℕ → σ
  | 0 => s
  | n + 1 => step (behaviour step s is n) (is n)

/-- An invariant holds throughout an infinite run. -/
theorem behaviour_invariant {step : σ → ι → σ} {P : σ → Prop}
    (hstep : ∀ s i, P s → P (step s i)) {s : σ} (h : P s) (is : ℕ → ι) (n : ℕ) :
    P (behaviour step s is n) := by
  induction n with
  | zero => exact h
  | succ n ih => exact hstep _ _ ih

/-- Whenever `P` holds, `Q` holds then or later. -/
def LeadsTo (P Q : ℕ → Prop) : Prop := ∀ n, P n → ∃ m, n ≤ m ∧ Q m

/-- What is enabled from some moment on occurs after it. -/
def WeaklyFair (enabled occurs : ℕ → Prop) : Prop :=
  ∀ n, (∀ m, n ≤ m → enabled m) → ∃ m, n ≤ m ∧ occurs m

/-- What occurs again and again is treated fairly, whenever it is enabled. -/
lemma weaklyFair_of_recurs {enabled occurs : ℕ → Prop} (h : ∀ n, ∃ m, n ≤ m ∧ occurs m) :
    WeaklyFair enabled occurs := fun n _ => h n

section LeadsTo

variable {P Q R enabled occurs : ℕ → Prop}

/-- A step later counts as later. -/
lemma LeadsTo.next (hPQ : LeadsTo P fun n => Q (n + 1)) (hQR : LeadsTo Q R) : LeadsTo P R := by
  intro n hP
  obtain ⟨m, hnm, hQ⟩ := hPQ n hP
  obtain ⟨k, hmk, hR⟩ := hQR (m + 1) hQ
  exact ⟨k, hnm.trans ((Nat.le_succ m).trans hmk), hR⟩

lemma LeadsTo.mono (hPQ : LeadsTo P Q) (hQR : ∀ n, Q n → R n) : LeadsTo P R := by
  intro n hP
  obtain ⟨m, hnm, hQ⟩ := hPQ n hP
  exact ⟨m, hnm, hQR m hQ⟩

/-- **The rule WF1.** -/
theorem LeadsTo.of_weaklyFair (hstay : ∀ n, P n → ¬ occurs n → P (n + 1))
    (henabled : ∀ n, P n → enabled n) (hfair : WeaklyFair enabled occurs) :
    LeadsTo P fun n => P n ∧ occurs n := by
  intro n hP
  by_contra hnever
  -- the action never occurs, so `P` stays for ever
  have hkeep : ∀ k, P (n + k) := by
    intro k
    induction k with
    | zero => exact hP
    | succ k ih => exact hstay _ ih fun hocc => hnever ⟨n + k, Nat.le_add_right n k, ih, hocc⟩
  have hforever : ∀ m, n ≤ m → P m := by
    intro m hnm
    obtain ⟨k, rfl⟩ := Nat.exists_eq_add_of_le hnm
    exact hkeep k
  obtain ⟨m, hnm, hocc⟩ := hfair n fun m hnm => henabled m (hforever m hnm)
  exact hnever ⟨m, hnm, hforever m hnm, hocc⟩

end LeadsTo

section Stages

variable {step : σ → ι → σ} {s : σ} {is : ℕ → ι} {I P Q : σ → Prop} (enabled : σ → Prop)
  (kind : ι → Prop)

/-- What stays until an input of the fair kind comes is met by such an input. -/
lemma leadsTo_input (hI : ∀ n, I (behaviour step s is n))
    (hstay : ∀ t i, I t → P t → ¬ kind i → P (step t i)) (henabled : ∀ t, P t → enabled t)
    (hfair : WeaklyFair (fun n => enabled (behaviour step s is n)) fun n => kind (is n)) :
    LeadsTo (fun n => P (behaviour step s is n))
      fun n => P (behaviour step s is n) ∧ kind (is n) :=
  LeadsTo.of_weaklyFair (fun n hP hnot => hstay _ _ (hI n) hP hnot) (fun _ hP => henabled _ hP)
    hfair

/-- **One stage of a progress argument.** -/
theorem leadsTo_of_step (hI : ∀ n, I (behaviour step s is n))
    (hstay : ∀ t i, I t → P t → ¬ kind i → P (step t i)) (henabled : ∀ t, P t → enabled t)
    (hdone : ∀ t i, I t → P t → kind i → Q (step t i))
    (hfair : WeaklyFair (fun n => enabled (behaviour step s is n)) fun n => kind (is n)) :
    LeadsTo (fun n => P (behaviour step s is n)) fun n => Q (behaviour step s is (n + 1)) := by
  refine (leadsTo_input enabled kind hI hstay henabled hfair).mono ?_
  rintro n ⟨hP, hkind⟩
  exact hdone _ _ (hI n) hP hkind

end Stages

end Machine
