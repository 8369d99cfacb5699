import FtnlDesktop.Core.Method

/-!
# Slices that are indexed

`bytes[i]`, `&bytes[lo..hi]` and `array.copy_from_slice(&bytes[lo..lo + n])` panic where the slice
is too short.  `Panicking ε` is the result of a fallible function that indexes: `none` is a panic,
and everything else is the `Result` that it returns.  "Never indexes outside" is therefore a
statement about a function (`Completes`) and not a convention of its model.

* **Success.**  A sequence of reads succeeds exactly when each read does, in turn
  (`run_index_bind_eq_ok` and its siblings).
* **Completion.**  A read inside the bounds leaves the question to what follows it
  (`completes_index_bind` and its siblings).
* **Parsing.**  What is read at a position is what the rest of the slice begins with
  (`getElem?_eq_some_iff_drop`, `arrayAt_eq_some_iff_drop`, `rangeAt_eq_some_iff_drop`).
-/

namespace Slice

open Method

variable {ε α β : Type}

/-- The outcome of a fallible function; `none` is a panic. -/
abbrev Panicking (ε : Type) := ExceptT ε Option

/-! ## Reads -/

/-- The `n` entries from `lo` on, if there are as many. -/
def arrayAt (n : ℕ) (s : List α) (lo : ℕ) : Option (List.Vector α n) :=
  if h : lo + n ≤ s.length then
    some (⟨(s.drop lo).take n, by rw [List.length_take, List.length_drop]; omega⟩ :
      List.Vector α n)
  else none

/-- The entries from `lo` on and before `hi`, if the slice reaches that far. -/
def rangeAt (s : List α) (lo hi : ℕ) : Option (List α) :=
  if lo ≤ hi ∧ hi ≤ s.length then some ((s.drop lo).take (hi - lo)) else none

/-- What is not there panics. -/
def orPanic (o : Option α) : Panicking ε α := ExceptT.mk (o.map Except.ok)

/-- `result?`. -/
def ofResult (r : Except ε α) : Panicking ε α := ExceptT.mk (some r)

/-- `s[i]`. -/
def index (s : List α) (i : ℕ) : Panicking ε α := orPanic s[i]?

/-- `array.copy_from_slice(&s[lo..lo + n])` into a fresh `[_; n]`. -/
def array (n : ℕ) (s : List α) (lo : ℕ) : Panicking ε (List.Vector α n) := orPanic (arrayAt n s lo)

/-- `&s[lo..hi]`. -/
def range (s : List α) (lo hi : ℕ) : Panicking ε (List α) := orPanic (rangeAt s lo hi)

/-! ## Success -/

section Success

variable {f : α → Panicking ε β} {b b' : β}

lemma run_pure_eq_ok : (pure b : Panicking ε β).run = some (.ok b') ↔ b = b' := by
  simp [pure, ExceptT.pure, ExceptT.run, ExceptT.mk]

lemma run_orPanic_bind_eq_ok {o : Option α} :
    (orPanic o >>= f).run = some (.ok b) ↔ ∃ a, o = some a ∧ (f a).run = some (.ok b) := by
  cases o with
  | none => simp [orPanic, bind, ExceptT.bind, ExceptT.run, ExceptT.mk]
  | some a => simp [orPanic, bind, ExceptT.bind, ExceptT.bindCont, ExceptT.run, ExceptT.mk]

lemma run_ofResult_bind_eq_ok {r : Except ε α} :
    (ofResult r >>= f).run = some (.ok b) ↔ ∃ a, r = .ok a ∧ (f a).run = some (.ok b) := by
  cases r with
  | error e => simp [ofResult, bind, ExceptT.bind, ExceptT.bindCont, ExceptT.run, ExceptT.mk, pure]
  | ok a => simp [ofResult, bind, ExceptT.bind, ExceptT.bindCont, ExceptT.run, ExceptT.mk]

lemma run_index_bind_eq_ok {s : List α} {i : ℕ} :
    (index s i >>= f).run = some (.ok b) ↔ ∃ a, s[i]? = some a ∧ (f a).run = some (.ok b) :=
  run_orPanic_bind_eq_ok

lemma run_array_bind_eq_ok {n : ℕ} {s : List α} {lo : ℕ} {f : List.Vector α n → Panicking ε β} :
    (array n s lo >>= f).run = some (.ok b) ↔
      ∃ v, arrayAt n s lo = some v ∧ (f v).run = some (.ok b) :=
  run_orPanic_bind_eq_ok

lemma run_range_bind_eq_ok {s : List α} {lo hi : ℕ} {f : List α → Panicking ε β} :
    (range s lo hi >>= f).run = some (.ok b) ↔
      ∃ x, rangeAt s lo hi = some x ∧ (f x).run = some (.ok b) :=
  run_orPanic_bind_eq_ok

lemma run_rejectIf_bind_eq_ok {c : Prop} [Decidable c] {e : ε} {f : Unit → Panicking ε β} :
    (rejectIf c e >>= f).run = some (.ok b) ↔ ¬ c ∧ (f ()).run = some (.ok b) := by
  by_cases hc : c
  · simp [rejectIf, hc, throw, throwThe, MonadExceptOf.throw, bind, ExceptT.bind, ExceptT.bindCont,
      ExceptT.run, ExceptT.mk, pure]
  · simp [rejectIf, hc]

end Success

/-! ## Completion -/

/-- The function returns; it does not panic. -/
def Completes (x : Panicking ε α) : Prop := x.run ≠ none

section Completes

variable {f : α → Panicking ε β}

lemma completes_pure (a : α) : Completes (pure a : Panicking ε α) := by
  simp [Completes, pure, ExceptT.pure, ExceptT.run, ExceptT.mk]

lemma completes_orPanic_bind {o : Option α} (ho : o.isSome)
    (hf : ∀ a, o = some a → Completes (f a)) : Completes (orPanic o >>= f) := by
  obtain ⟨a, rfl⟩ := Option.isSome_iff_exists.mp ho
  exact hf a rfl

lemma completes_ofResult_bind {r : Except ε α} (hf : ∀ a, r = .ok a → Completes (f a)) :
    Completes (ofResult r >>= f) := by
  cases r with
  | error e =>
      simp [Completes, ofResult, bind, ExceptT.bind, ExceptT.bindCont, ExceptT.run, ExceptT.mk,
        pure]
  | ok a => exact hf a rfl

lemma completes_rejectIf_bind {c : Prop} [Decidable c] {e : ε} {f : Unit → Panicking ε β}
    (hf : ¬ c → Completes (f ())) : Completes (rejectIf c e >>= f) := by
  by_cases hc : c
  · simp [Completes, rejectIf, hc, throw, throwThe, MonadExceptOf.throw, bind, ExceptT.bind,
      ExceptT.bindCont, ExceptT.run, ExceptT.mk, pure]
  · simpa [rejectIf, hc] using hf hc

/-- An index below the length. -/
lemma completes_index_bind {s : List α} {i : ℕ} (h : i < s.length)
    (hf : ∀ a, s[i]? = some a → Completes (f a)) : Completes (index s i >>= f) :=
  completes_orPanic_bind (by simpa using h) hf

lemma completes_array_bind {n : ℕ} {s : List α} {lo : ℕ} {f : List.Vector α n → Panicking ε β}
    (h : lo + n ≤ s.length) (hf : ∀ v, arrayAt n s lo = some v → Completes (f v)) :
    Completes (array n s lo >>= f) :=
  completes_orPanic_bind (by rw [arrayAt, dif_pos h]; rfl) hf

lemma completes_range_bind {s : List α} {lo hi : ℕ} {f : List α → Panicking ε β}
    (hle : lo ≤ hi) (h : hi ≤ s.length) (hf : ∀ x, rangeAt s lo hi = some x → Completes (f x)) :
    Completes (range s lo hi >>= f) :=
  completes_orPanic_bind (by simp [rangeAt, hle, h]) hf

end Completes

/-! ## Parsing -/

lemma getElem?_eq_some_iff_drop {s : List α} {i : ℕ} {a : α} :
    s[i]? = some a ↔ s.drop i = a :: s.drop (i + 1) := by
  constructor
  · intro h
    obtain ⟨hlt, rfl⟩ := List.getElem?_eq_some_iff.mp h
    exact List.drop_eq_getElem_cons hlt
  · intro h
    rw [← List.head?_drop, h]
    rfl

lemma arrayAt_eq_some_iff_drop {n : ℕ} {s : List α} {lo : ℕ} {v : List.Vector α n} :
    arrayAt n s lo = some v ↔ lo + n ≤ s.length ∧ s.drop lo = v.toList ++ s.drop (lo + n) := by
  rw [arrayAt]
  constructor
  · intro h
    split_ifs at h with hle
    obtain rfl := Option.some.inj h
    refine ⟨hle, ?_⟩
    rw [← List.drop_drop]
    exact (List.take_append_drop n (s.drop lo)).symm
  · rintro ⟨hle, h⟩
    rw [dif_pos hle]
    refine congrArg some (List.Vector.toList_injective ?_)
    rw [List.Vector.toList_mk, h, List.take_left' v.toList_length]

lemma rangeAt_eq_some_iff_drop {s : List α} {lo hi : ℕ} {x : List α} :
    rangeAt s lo hi = some x ↔
      lo ≤ hi ∧ hi ≤ s.length ∧ x.length = hi - lo ∧ s.drop lo = x ++ s.drop hi := by
  rw [rangeAt]
  constructor
  · intro h
    split_ifs at h with hbounds
    obtain rfl := Option.some.inj h
    refine ⟨hbounds.1, hbounds.2, ?_, ?_⟩
    · rw [List.length_take, List.length_drop]
      omega
    · have hhi : s.drop hi = (s.drop lo).drop (hi - lo) := by
        rw [List.drop_drop, Nat.add_sub_cancel' hbounds.1]
      rw [hhi, List.take_append_drop]
  · rintro ⟨hle, hlen, hx, h⟩
    rw [if_pos ⟨hle, hlen⟩, h, List.take_left' hx]

end Slice
