import Mathlib

/-!
# Fallible methods that mutate in place

A Rust method `fn m(&mut self, …) -> Result<α, ε>` writes to `self` as it goes and may leave
through `return Err(e)` or `?` at any point — **with whatever it has written so far still
there**.  `EStateM ε σ α` is that shape exactly: its error result carries the state at the point
of failure.  Nothing is rolled back, so "an error changes nothing" is a theorem about a method
and never a convention of the model.

Three groups of facts are collected here.

* **Guards.**  `rejectIf` and `okOr` are the two ways such a method fails: `if c { return Err(e) }`
  and `option.ok_or(e)?`.  Each has a `run` lemma, a lemma for success and a lemma for failure.
* **Which errors occur.**  `FailsWithin E x` says that every error of `x` is in `E`.  It is composed
  along sequences.
* **Error atomicity.**  `Atomic x` says that a failing run of `x` returns the state it was given.
  It is composed by two rules: a read-only method followed by an atomic one (`Atomic.bind`), and
  an atomic method followed by one that cannot fail (`Atomic.bind_total`).  A method whose checks
  all come before its first write is atomic by the first rule alone.
-/

namespace Method

variable {ε σ α β : Type}

/-- `if c { return Err(e) }`. -/
def rejectIf {m : Type → Type} [Monad m] [MonadExceptOf ε m] (c : Prop) [Decidable c] (e : ε) :
    m Unit :=
  if c then throw e else pure ()

/-- `option.ok_or(e)?`. -/
def okOr {m : Type → Type} [Monad m] [MonadExceptOf ε m] (o : Option α) (e : ε) : m α :=
  match o with
  | some a => pure a
  | none => throw e

/-- `result?` for a result that does not touch the state. -/
def attempt (r : Except ε α) : EStateM ε σ α :=
  match r with
  | .ok a => pure a
  | .error e => throw e

/-! ## Pure fallible code -/

/-- A sequence succeeds exactly when each step does, in turn. -/
lemma bind_eq_ok {x : Except ε α} {f : α → Except ε β} {b : β} :
    (x >>= f) = .ok b ↔ ∃ a, x = .ok a ∧ f a = .ok b := by
  cases x with
  | error e => simp [bind, Except.bind]
  | ok a => simp [bind, Except.bind]

lemma ok_bind (a : α) (f : α → Except ε β) : ((.ok a : Except ε α) >>= f) = f a := rfl

/-- A guard, as a conditional over what follows it. -/
lemma rejectIf_bind (c : Prop) [Decidable c] (e : ε) (f : Unit → Except ε β) :
    (rejectIf c e >>= f) = if c then .error e else f () := by
  by_cases hc : c
  · rw [rejectIf, if_pos hc, if_pos hc]
    rfl
  · rw [rejectIf, if_neg hc, if_neg hc]
    rfl

lemma okOr_bind (o : Option α) (e : ε) (f : α → Except ε β) :
    (okOr o e >>= f) = o.elim (.error e) f := by
  cases o with
  | none => rfl
  | some a => rfl

@[simp] lemma rejectIf_eq_ok {c : Prop} [Decidable c] {e : ε} {u : Unit} :
    (rejectIf c e : Except ε Unit) = .ok u ↔ ¬ c := by
  by_cases hc : c
  · simp [rejectIf, hc, throw, throwThe, MonadExceptOf.throw]
  · simp [rejectIf, hc, pure, Except.pure]

@[simp] lemma okOr_eq_ok {o : Option α} {e : ε} {a : α} :
    (okOr o e : Except ε α) = .ok a ↔ o = some a := by
  cases o with
  | none => simp [okOr, throw, throwThe, MonadExceptOf.throw]
  | some b => simp [okOr, pure, Except.pure]

@[simp] lemma pure_eq_ok {a b : α} : (pure a : Except ε α) = .ok b ↔ a = b := by
  simp [pure, Except.pure]

/-- `result.map_err(f)` succeeds when `result` does. -/
@[simp] lemma mapError_eq_ok {ε' : Type} {x : Except ε α} {f : ε → ε'} {a : α} :
    x.mapError f = .ok a ↔ x = .ok a := by
  cases x with
  | error e => simp [Except.mapError]
  | ok b => simp [Except.mapError]

/-- `iter.map(f).collect::<Result<Vec<_>, _>>()` succeeds exactly when `f` does on every element. -/
lemma mapM_eq_ok_iff {f : α → Except ε β} {l : List α} {l' : List β} :
    l.mapM f = .ok l' ↔ List.Forall₂ (fun a b => f a = .ok b) l l' := by
  induction l generalizing l' with
  | nil =>
      rw [List.mapM_nil, pure_eq_ok, List.forall₂_nil_left_iff]
      exact eq_comm
  | cons a l ih =>
      rw [List.mapM_cons, bind_eq_ok]
      simp only [bind_eq_ok, ih, pure_eq_ok, List.forall₂_cons_left_iff]
      constructor
      · rintro ⟨b, hb, m, hm, rfl⟩
        exact ⟨b, m, hb, hm, rfl⟩
      · rintro ⟨b, m, hb, hm, rfl⟩
        exact ⟨b, hb, m, hm, rfl⟩

/-- A step that always succeeds collects its results. -/
lemma mapM_eq_ok_map {f : α → Except ε β} {g : α → β} {l : List α}
    (h : ∀ a ∈ l, f a = .ok (g a)) : l.mapM f = .ok (l.map g) := by
  refine mapM_eq_ok_iff.mpr (List.forall₂_map_right_iff.mpr ?_)
  exact List.forall₂_same.mpr h

/-- What was collected comes from an element of the input. -/
lemma exists_of_mem_mapM {f : α → Except ε β} {l : List α} {l' : List β}
    (h : l.mapM f = .ok l') {b : β} (hb : b ∈ l') : ∃ a ∈ l, f a = .ok b := by
  have hrel := mapM_eq_ok_iff.mp h
  clear h
  induction hrel with
  | nil => simp at hb
  | cons hhead _ ih =>
      rcases List.mem_cons.mp hb with rfl | hb
      · exact ⟨_, List.mem_cons_self, hhead⟩
      · obtain ⟨a, ha, hfa⟩ := ih hb
        exact ⟨a, List.mem_cons_of_mem _ ha, hfa⟩

/-- Collecting succeeds when every element does. -/
lemma exists_mapM_iff {f : α → Except ε β} {l : List α} :
    (∃ l', l.mapM f = .ok l') ↔ ∀ a ∈ l, ∃ b, f a = .ok b := by
  induction l with
  | nil => simp
  | cons a l ih =>
      simp only [mapM_eq_ok_iff, List.forall₂_cons_left_iff, List.forall_mem_cons] at ih ⊢
      rw [← ih]
      constructor
      · rintro ⟨_, b, m, hb, hm, -⟩
        exact ⟨⟨b, hb⟩, m, hm⟩
      · rintro ⟨⟨b, hb⟩, m, hm⟩
        exact ⟨b :: m, b, m, hb, hm, rfl⟩

/-! ### Errors that do not occur -/

section OtherErrors

variable {e e' : ε}

lemma ok_ne_error (a : α) : (.ok a : Except ε α) ≠ .error e := by
  intro h
  cases h

lemma bind_ne_error {x : Except ε α} {f : α → Except ε β} (hx : x ≠ .error e)
    (hf : ∀ a, f a ≠ .error e) : (x >>= f) ≠ .error e := by
  cases x with
  | error e' =>
      intro h
      exact hx (congrArg Except.error (Except.error.inj h))
  | ok a => exact hf a

lemma rejectIf_ne_error {c : Prop} [Decidable c] (h : e' ≠ e) :
    (rejectIf c e' : Except ε Unit) ≠ .error e := by
  rw [rejectIf]
  split_ifs
  · exact fun heq => h (Except.error.inj heq)
  · exact ok_ne_error ()

lemma okOr_ne_error {o : Option α} (h : e' ≠ e) : (okOr o e' : Except ε α) ≠ .error e := by
  cases o with
  | none => exact fun heq => h (Except.error.inj heq)
  | some a => exact ok_ne_error a

lemma mapError_ne_error {ε' : Type} {x : Except ε' α} {f : ε' → ε} (h : ∀ e', f e' ≠ e) :
    x.mapError f ≠ .error e := by
  cases x with
  | error e' => exact fun heq => h e' (Except.error.inj heq)
  | ok a => exact ok_ne_error a

lemma mapM_ne_error {f : α → Except ε β} (h : ∀ a, f a ≠ .error e) (l : List α) :
    l.mapM f ≠ .error e := by
  induction l with
  | nil => exact ok_ne_error []
  | cons a l ih =>
      rw [List.mapM_cons]
      exact bind_ne_error (h a) fun b => bind_ne_error ih fun l' => ok_ne_error (b :: l')

end OtherErrors

/-! ## Running a method -/

@[simp] lemma run_rejectIf (c : Prop) [Decidable c] (e : ε) (s : σ) :
    EStateM.run (rejectIf c e : EStateM ε σ Unit) s
      = if c then .error e s else .ok () s := by
  by_cases hc : c
  · simp [rejectIf, hc]
  · simp [rejectIf, hc]

lemma run_rejectIf_bind (c : Prop) [Decidable c] (e : ε) (f : Unit → EStateM ε σ β) (s : σ) :
    (rejectIf c e >>= f).run s = if c then .error e s else (f ()).run s := by
  rw [EStateM.run_bind, run_rejectIf]
  by_cases hc : c
  · simp [hc]
  · simp [hc]

/-- A sequence of methods succeeds exactly when each one does, in turn. -/
lemma run_bind_eq_ok {x : EStateM ε σ α} {f : α → EStateM ε σ β} {b : β} {s s'' : σ} :
    (x >>= f).run s = .ok b s'' ↔ ∃ a s', x.run s = .ok a s' ∧ (f a).run s' = .ok b s'' := by
  rw [EStateM.run_bind]
  cases h : x.run s with
  | ok a s' => simp
  | error e s' => simp

/-- A sequence of methods fails where its first failing step does. -/
lemma run_bind_eq_error {x : EStateM ε σ α} {f : α → EStateM ε σ β} {e : ε} {s s'' : σ} :
    (x >>= f).run s = .error e s'' ↔
      x.run s = .error e s'' ∨ ∃ a s', x.run s = .ok a s' ∧ (f a).run s' = .error e s'' := by
  rw [EStateM.run_bind]
  cases h : x.run s with
  | ok a s' => simp
  | error e s' => simp

lemma run_rejectIf_eq_ok {c : Prop} [Decidable c] {e : ε} {u : Unit} {s s' : σ} :
    EStateM.run (rejectIf c e : EStateM ε σ Unit) s = .ok u s' ↔ ¬ c ∧ s' = s := by
  rw [run_rejectIf]
  by_cases hc : c
  · simp [hc]
  · simp [hc, eq_comm]

@[simp] lemma run_okOr_some (a : α) (e : ε) (s : σ) :
    EStateM.run (okOr (some a) e : EStateM ε σ α) s = .ok a s := rfl

@[simp] lemma run_okOr_none (e : ε) (s : σ) :
    EStateM.run (okOr none e : EStateM ε σ α) s = .error e s := rfl

lemma run_okOr_eq_ok {o : Option α} {e : ε} {a : α} {s s' : σ} :
    EStateM.run (okOr o e : EStateM ε σ α) s = .ok a s' ↔ o = some a ∧ s' = s := by
  cases o with
  | none => simp
  | some b => simp [eq_comm]

@[simp] lemma run_attempt_ok (a : α) (s : σ) :
    EStateM.run (attempt (.ok a) : EStateM ε σ α) s = .ok a s := rfl

@[simp] lemma run_attempt_error (e : ε) (s : σ) :
    EStateM.run (attempt (.error e) : EStateM ε σ α) s = .error e s := rfl

lemma run_attempt_eq_ok {r : Except ε α} {a : α} {s s' : σ} :
    EStateM.run (attempt r : EStateM ε σ α) s = .ok a s' ↔ r = .ok a ∧ s' = s := by
  cases r with
  | error e => simp
  | ok b => simp [eq_comm]

/-! A step that only reads leaves the state to the next one. -/

section ReadingSteps

variable {f : α → EStateM ε σ β} {b b' : β} {s s' : σ}

lemma run_get_bind_eq_ok {f : σ → EStateM ε σ β} :
    ((get : EStateM ε σ σ) >>= f).run s = .ok b s' ↔ (f s).run s = .ok b s' := by
  rw [EStateM.run_bind, EStateM.run_get]

lemma run_rejectIf_bind_eq_ok {c : Prop} [Decidable c] {e : ε} {f : Unit → EStateM ε σ β} :
    (rejectIf c e >>= f).run s = .ok b s' ↔ ¬ c ∧ (f ()).run s = .ok b s' := by
  rw [run_rejectIf_bind]
  by_cases hc : c
  · simp [hc]
  · simp [hc]

lemma run_okOr_bind_eq_ok {o : Option α} {e : ε} :
    (okOr o e >>= f).run s = .ok b s' ↔ ∃ a, o = some a ∧ (f a).run s = .ok b s' := by
  rw [EStateM.run_bind]
  cases o with
  | none => simp
  | some a => simp

lemma run_attempt_bind_eq_ok {r : Except ε α} :
    (attempt r >>= f).run s = .ok b s' ↔ ∃ a, r = .ok a ∧ (f a).run s = .ok b s' := by
  rw [EStateM.run_bind]
  cases r with
  | error e => simp
  | ok a => simp

/-- A method that ends by writing and returning. -/
lemma run_modify_bind_pure_eq_ok {g : σ → σ} :
    ((modify g : EStateM ε σ PUnit) >>= fun _ => pure b).run s = .ok b' s' ↔ b = b' ∧ g s = s' := by
  simp

end ReadingSteps

/-! ## Which errors occur -/

/-- Every error of `x` is in `E`. -/
def FailsWithin (E : Set ε) (x : EStateM ε σ α) : Prop :=
  ∀ s e s', x.run s = .error e s' → e ∈ E

section FailsWithin

variable {E : Set ε}

lemma FailsWithin.bind {x : EStateM ε σ α} {f : α → EStateM ε σ β} (hx : FailsWithin E x)
    (hf : ∀ a, FailsWithin E (f a)) : FailsWithin E (x >>= f) := by
  intro s e s'' h
  rcases run_bind_eq_error.mp h with h | ⟨a, s', -, hfa⟩
  · exact hx s e s'' h
  · exact hf a s' e s'' hfa

lemma failsWithin_rejectIf {e : ε} (h : e ∈ E) (c : Prop) [Decidable c] :
    FailsWithin E (rejectIf c e : EStateM ε σ Unit) := by
  intro s e' s' hrun
  rw [run_rejectIf] at hrun
  split_ifs at hrun
  cases hrun
  exact h

lemma failsWithin_okOr {e : ε} (h : e ∈ E) (o : Option α) :
    FailsWithin E (okOr o e : EStateM ε σ α) := by
  intro s e' s' hrun
  cases o with
  | none =>
      cases hrun
      exact h
  | some a => cases hrun

/-- A `?` on a result that is not an error. -/
lemma failsWithin_attempt {r : Except ε α} (h : r.isOk = true) :
    FailsWithin E (attempt r : EStateM ε σ α) := by
  intro s e s' hrun
  cases r with
  | error e => cases h
  | ok a => cases hrun

end FailsWithin

/-! ## Error atomicity -/

/-- A failing run hands back the state it was given. -/
def Atomic (x : EStateM ε σ α) : Prop :=
  ∀ s e s', x.run s = .error e s' → s' = s

/-- A succeeding run hands back the state it was given. -/
def ReadOnly (x : EStateM ε σ α) : Prop :=
  ∀ s a s', x.run s = .ok a s' → s' = s

/-- No run fails. -/
def Total (x : EStateM ε σ α) : Prop :=
  ∀ s e s', x.run s ≠ .error e s'

/-- Checks first, writes last: a read-only atomic step may precede any atomic method. -/
lemma Atomic.bind {x : EStateM ε σ α} {f : α → EStateM ε σ β}
    (hx : Atomic x) (hr : ReadOnly x) (hf : ∀ a, Atomic (f a)) : Atomic (x >>= f) := by
  intro s e s'' h
  rcases run_bind_eq_error.mp h with h | ⟨a, s', ha, hfa⟩
  · exact hx s e s'' h
  · rw [hf a s' e s'' hfa, hr s a s' ha]

/-- A write may be followed by what cannot fail. -/
lemma Atomic.bind_total {x : EStateM ε σ α} {f : α → EStateM ε σ β}
    (hx : Atomic x) (hf : ∀ a, Total (f a)) : Atomic (x >>= f) := by
  intro s e s'' h
  rcases run_bind_eq_error.mp h with h | ⟨a, s', -, hfa⟩
  · exact hx s e s'' h
  · exact absurd hfa (hf a s' e s'')

lemma Total.atomic {x : EStateM ε σ α} (hx : Total x) : Atomic x :=
  fun s e s' h => absurd h (hx s e s')

lemma Total.failsWithin {x : EStateM ε σ α} (hx : Total x) (E : Set ε) : FailsWithin E x :=
  fun s e s' h => absurd h (hx s e s')

lemma total_pure (a : α) : Total (pure a : EStateM ε σ α) := by
  intro s e s' h
  simp at h

lemma total_modify (f : σ → σ) : Total (modify f : EStateM ε σ PUnit) := by
  intro s e s' h
  simp at h

lemma total_get : Total (get : EStateM ε σ σ) := by
  intro s e s' h
  simp at h

lemma total_set (s : σ) : Total (set s : EStateM ε σ PUnit) := by
  intro s' e s'' h
  simp at h

lemma Total.bind {x : EStateM ε σ α} {f : α → EStateM ε σ β}
    (hx : Total x) (hf : ∀ a, Total (f a)) : Total (x >>= f) := by
  intro s e s'' h
  rcases run_bind_eq_error.mp h with h | ⟨a, s', -, hfa⟩
  · exact hx s e s'' h
  · exact hf a s' e s'' hfa

lemma atomic_rejectIf (c : Prop) [Decidable c] (e : ε) :
    Atomic (rejectIf c e : EStateM ε σ Unit) := by
  intro s e' s' h
  rw [run_rejectIf] at h
  by_cases hc : c
  · simp only [hc, if_true, EStateM.Result.error.injEq] at h
    exact h.2.symm
  · simp [hc] at h

lemma readOnly_rejectIf (c : Prop) [Decidable c] (e : ε) :
    ReadOnly (rejectIf c e : EStateM ε σ Unit) :=
  fun _ _ _ h => (run_rejectIf_eq_ok.mp h).2

lemma atomic_okOr (o : Option α) (e : ε) : Atomic (okOr o e : EStateM ε σ α) := by
  intro s e' s' h
  cases o with
  | none =>
      simp only [run_okOr_none, EStateM.Result.error.injEq] at h
      exact h.2.symm
  | some a => simp at h

lemma readOnly_okOr (o : Option α) (e : ε) : ReadOnly (okOr o e : EStateM ε σ α) :=
  fun _ _ _ h => (run_okOr_eq_ok.mp h).2

lemma atomic_attempt (r : Except ε α) : Atomic (attempt r : EStateM ε σ α) := by
  intro s e' s' h
  cases r with
  | error e =>
      simp only [run_attempt_error, EStateM.Result.error.injEq] at h
      exact h.2.symm
  | ok a => simp at h

lemma readOnly_attempt (r : Except ε α) : ReadOnly (attempt r : EStateM ε σ α) :=
  fun _ _ _ h => (run_attempt_eq_ok.mp h).2

lemma atomic_get : Atomic (get : EStateM ε σ σ) := by
  intro s e s' h
  simp at h

lemma readOnly_get : ReadOnly (get : EStateM ε σ σ) := by
  intro s a s' h
  simp only [EStateM.run_get, EStateM.Result.ok.injEq] at h
  exact h.2.symm

/-- A guard in front of an atomic method keeps it atomic. -/
lemma Atomic.rejectIf_bind {c : Prop} [Decidable c] {e : ε} {f : Unit → EStateM ε σ β}
    (hf : ∀ u, Atomic (f u)) : Atomic (rejectIf c e >>= f) :=
  (atomic_rejectIf c e).bind (readOnly_rejectIf c e) hf

/-- Reading the state in front of an atomic method keeps it atomic. -/
lemma Atomic.get_bind {f : σ → EStateM ε σ β} (hf : ∀ s, Atomic (f s)) :
    Atomic ((get : EStateM ε σ σ) >>= f) :=
  atomic_get.bind readOnly_get hf

/-- An `ok_or(…)?` in front of an atomic method keeps it atomic. -/
lemma Atomic.okOr_bind {o : Option α} {e : ε} {f : α → EStateM ε σ β}
    (hf : ∀ a, Atomic (f a)) : Atomic (okOr o e >>= f) :=
  (atomic_okOr o e).bind (readOnly_okOr o e) hf

/-- A `?` on a pure result in front of an atomic method keeps it atomic. -/
lemma Atomic.attempt_bind {r : Except ε α} {f : α → EStateM ε σ β}
    (hf : ∀ a, Atomic (f a)) : Atomic (attempt r >>= f) :=
  (atomic_attempt r).bind (readOnly_attempt r) hf

end Method
