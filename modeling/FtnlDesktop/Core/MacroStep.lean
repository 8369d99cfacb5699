import FtnlDesktop.Core.Run

/-!
# Programs that take several steps at once

A loop body, an event handler or a frame of an interface does many things before it is done.
Whether it does anything that the small steps of a machine could not do is asked piece by piece:
`Follows p R duties s s'` says that wherever the machine is at a state related to `s`, it can go on
to one related to `s'`.  Some inputs are duties (`p`): the machine takes exactly these of them, in
this order, so that a piece that leaves one out is not followed.

* **`Follows.refl`**, **`Follows.trans`**, **`Follows.append`** — the pieces compose, without duties
  or with them; `Follows.of_step` is for those that are one step of the machine, `Follows.foldl` for
  loops.
* `sideBySide` — two machines that share nothing, with the steps of both in one order.
-/

namespace Machine

variable {σ ι τ κ : Type*}

/-! ## Following -/

section Follows

/-- Wherever the machine is at a state related to `s`, it can run to one related to `s'`. -/
def Follows (step : τ → κ → τ) (p : κ → Bool) (R : σ → τ → Prop) (duties : List κ) (s s' : σ) :
    Prop :=
  ∀ t, R s t → ∃ js, js.filter p = duties ∧ R s' (exec step t js)

variable {step : τ → κ → τ} {p : κ → Bool} {R : σ → τ → Prop} {duties duties' : List κ}
  {s s' s'' : σ}

lemma Follows.refl (s : σ) : Follows step p R [] s s := fun _ h => ⟨[], rfl, h⟩

lemma Follows.append (h : Follows step p R duties s s') (h' : Follows step p R duties' s' s'') :
    Follows step p R (duties ++ duties') s s'' := by
  intro t ht
  obtain ⟨js, hjs, hs'⟩ := h t ht
  obtain ⟨ks, hks, hs''⟩ := h' _ hs'
  refine ⟨js ++ ks, ?_, by rwa [exec_append]⟩
  rw [List.filter_append, hjs, hks]

/-- Pieces without duties. -/
lemma Follows.trans (h : Follows step p R [] s s') (h' : Follows step p R [] s' s'') :
    Follows step p R [] s s'' :=
  h.append h'

lemma Follows.of_step (j : κ) (h : ∀ t, R s t → R s' (step t j)) :
    Follows step p R ([j].filter p) s s' :=
  fun t ht => ⟨[j], rfl, h t ht⟩

/-- A loop whose body can be followed can be followed. -/
lemma Follows.foldl {f : σ → ι → σ} (h : ∀ s i, Follows step p R [] s (f s i)) (is : List ι)
    (s : σ) : Follows step p R [] s (is.foldl f s) := by
  induction is generalizing s with
  | nil => exact .refl s
  | cons i is ih => exact (h s i).trans (ih (f s i))

end Follows

/-! ## Two machines -/

section SideBySide

variable (step : σ → ι → σ) (step' : τ → κ → τ)

/-- Each input is for one of the two. -/
def sideBySide : σ × τ → ι ⊕ κ → σ × τ
  | (s, t), .inl i => (step s i, t)
  | (s, t), .inr k => (s, step' t k)

/-- A run of both is a run of each. -/
theorem exec_sideBySide (s : σ) (t : τ) (is : List (ι ⊕ κ)) :
    exec (sideBySide step step') (s, t) is
      = (exec step s (is.filterMap Sum.getLeft?), exec step' t (is.filterMap Sum.getRight?)) := by
  induction is generalizing s t with
  | nil => rfl
  | cons i is ih =>
      cases i with
      | inl i => exact ih (step s i) t
      | inr k => exact ih s (step' t k)

end SideBySide

end Machine
