import Mathlib

/-!
# Evicting from the back, keeping from the front

A bounded history marks some entries as counted (`p`) and the rest as exempt, and drops the last
counted entry while there are more than `n` of them.  `keepFirst p n` says what is left without
mentioning a loop: every exempt entry and the first `n` counted ones, in the old order.

The two descriptions are connected one removal at a time: **`keepFirst_eraseIdx`** says that
removing the last counted entry of an over-full list does not change what `keepFirst` keeps, and
`keepFirst_of_countP_le` that it keeps everything once the list is no longer over-full.  Any loop
that removes in this order therefore computes `keepFirst`.
-/

namespace Eviction

variable {α : Type} (p : α → Bool)

/-- `iter().rposition(p)`: the index of the last entry satisfying `p`. -/
def rposition : List α → Option ℕ
  | [] => none
  | a :: l =>
      match rposition l with
      | some i => some (i + 1)
      | none => if p a then some 0 else none

/-- Every entry that fails `p`, and the first `n` entries that satisfy it. -/
def keepFirst : ℕ → List α → List α
  | _, [] => []
  | 0, a :: l => if p a then keepFirst 0 l else a :: keepFirst 0 l
  | n + 1, a :: l => a :: keepFirst (if p a then n else n + 1) l

variable {p}

/-! ## The last counted entry -/

lemma rposition_eq_none {l : List α} : rposition p l = none ↔ l.countP p = 0 := by
  induction l with
  | nil => simp [rposition]
  | cons a l ih =>
      simp only [rposition, List.countP_cons]
      cases hr : rposition p l with
      | some i =>
          have hpos : l.countP p ≠ 0 := fun h => by simp [ih.mpr h] at hr
          simp only [reduceCtorEq, false_iff]
          omega
      | none =>
          have := ih.mp hr
          by_cases ha : p a = true
          · simp [ha]
          · simp [ha, this]

/-- While something is counted there is a last counted entry. -/
lemma exists_rposition {l : List α} (h : 0 < l.countP p) : ∃ i, rposition p l = some i := by
  cases hr : rposition p l with
  | some i => exact ⟨i, rfl⟩
  | none =>
      have := rposition_eq_none.mp hr
      omega

lemma rposition_lt_length {l : List α} {i : ℕ} (h : rposition p l = some i) : i < l.length := by
  induction l generalizing i with
  | nil => simp [rposition] at h
  | cons a l ih =>
      simp only [rposition] at h
      cases hr : rposition p l with
      | some j =>
          rw [hr] at h
          have := ih hr
          simp only [Option.some.injEq] at h
          simp only [List.length_cons]
          omega
      | none =>
          rw [hr] at h
          split_ifs at h
          simp only [Option.some.injEq] at h
          simp only [List.length_cons]
          omega

/-- Removing it lowers the count by one. -/
lemma countP_eraseIdx_rposition {l : List α} {i : ℕ} (h : rposition p l = some i) :
    (l.eraseIdx i).countP p + 1 = l.countP p := by
  induction l generalizing i with
  | nil => simp [rposition] at h
  | cons a l ih =>
      simp only [rposition] at h
      cases hr : rposition p l with
      | some j =>
          rw [hr] at h
          simp only [Option.some.injEq] at h
          subst h
          have := ih hr
          simp only [List.eraseIdx_cons_succ, List.countP_cons]
          omega
      | none =>
          rw [hr] at h
          split_ifs at h with ha
          simp only [Option.some.injEq] at h
          subst h
          simp [ha]

/-- In an ordered list the last counted entry comes after all the others. -/
lemma eq_or_rel_of_rposition {R : α → α → Prop} {l : List α} (hl : l.Pairwise R) {i : ℕ} {a : α}
    (h : rposition p l = some i) (ha : l[i]? = some a) : ∀ b ∈ l, p b = true → b = a ∨ R b a := by
  induction l generalizing i with
  | nil => simp [rposition] at h
  | cons c l ih =>
      obtain ⟨hhead, htail⟩ := List.pairwise_cons.mp hl
      simp only [rposition] at h
      cases hr : rposition p l with
      | some j =>
          rw [hr] at h
          simp only [Option.some.injEq] at h
          subst h
          rw [List.getElem?_cons_succ] at ha
          intro b hb hpb
          rcases List.mem_cons.mp hb with rfl | hb
          · exact Or.inr (hhead a (List.mem_of_getElem? ha))
          · exact ih htail hr ha b hb hpb
      | none =>
          rw [hr] at h
          split_ifs at h
          simp only [Option.some.injEq] at h
          subst h
          rw [List.getElem?_cons_zero] at ha
          obtain rfl := Option.some.inj ha
          intro b hb hpb
          rcases List.mem_cons.mp hb with rfl | hb
          · exact Or.inl rfl
          · have hzero := List.countP_eq_zero.mp (rposition_eq_none.mp hr) b hb
            exact absurd hpb hzero

/-! ## What is kept -/

lemma keepFirst_sublist (n : ℕ) (l : List α) : List.Sublist (keepFirst p n l) l := by
  induction l generalizing n with
  | nil => simp [keepFirst]
  | cons a l ih =>
      cases n with
      | zero =>
          simp only [keepFirst]
          split_ifs
          · exact (ih 0).cons a
          · exact (ih 0).cons_cons a
      | succ n => exact (ih _).cons_cons a

/-- Exactly the first `n` counted entries stay. -/
lemma filter_keepFirst (n : ℕ) (l : List α) :
    (keepFirst p n l).filter p = (l.filter p).take n := by
  induction l generalizing n with
  | nil => simp [keepFirst]
  | cons a l ih =>
      by_cases ha : p a = true
      · cases n with
        | zero => simpa [keepFirst, ha] using ih 0
        | succ n => simpa [keepFirst, ha] using ih n
      · cases n with
        | zero => simpa [keepFirst, ha] using ih 0
        | succ n => simpa [keepFirst, ha] using ih (n + 1)

lemma countP_keepFirst (n : ℕ) (l : List α) :
    (keepFirst p n l).countP p = min n (l.countP p) := by
  rw [List.countP_eq_length_filter, filter_keepFirst, List.length_take,
    List.countP_eq_length_filter]

/-- Exempt entries are all kept, as often as they occur. -/
lemma countP_keepFirst_of_exempt {q : α → Bool} (hq : ∀ a, q a = true → p a = false) (n : ℕ)
    (l : List α) : (keepFirst p n l).countP q = l.countP q := by
  induction l generalizing n with
  | nil => simp [keepFirst]
  | cons a l ih =>
      cases n with
      | zero =>
          rw [keepFirst]
          split_ifs with ha
          · have hqa : ¬ q a = true := fun h => by simp [hq a h] at ha
            rw [ih 0, List.countP_cons_of_neg hqa]
          · rw [List.countP_cons, ih 0, ← List.countP_cons]
      | succ n =>
          rw [keepFirst, List.countP_cons, ih, ← List.countP_cons]

lemma keepFirst_of_countP_le {n : ℕ} {l : List α} (h : l.countP p ≤ n) : keepFirst p n l = l := by
  induction l generalizing n with
  | nil => simp [keepFirst]
  | cons a l ih =>
      rw [List.countP_cons] at h
      by_cases ha : p a = true
      · simp only [ha, if_true] at h
        cases n with
        | zero => omega
        | succ n => simp [keepFirst, ha, ih (Nat.le_of_succ_le_succ h)]
      · simp only [ha, Bool.false_eq_true, if_false, Nat.add_zero] at h
        cases n with
        | zero => simp [keepFirst, ha, ih h]
        | succ n => simp [keepFirst, ha, ih h]

/-- **One removal.**  Dropping the last counted entry of an over-full list changes nothing about
what is kept. -/
lemma keepFirst_eraseIdx {n : ℕ} {l : List α} {i : ℕ} (h : rposition p l = some i)
    (hn : n < l.countP p) : keepFirst p n (l.eraseIdx i) = keepFirst p n l := by
  induction l generalizing n i with
  | nil => simp [rposition] at h
  | cons a l ih =>
      simp only [rposition] at h
      cases hr : rposition p l with
      | some j =>
          rw [hr] at h
          simp only [Option.some.injEq] at h
          subst h
          rw [List.eraseIdx_cons_succ]
          have hcount := countP_eraseIdx_rposition hr
          by_cases ha : p a = true
          · simp only [List.countP_cons, ha, if_true] at hn
            cases n with
            | zero => simpa [keepFirst, ha] using ih hr (by omega)
            | succ n => simpa [keepFirst, ha] using ih (n := n) hr (by omega)
          · simp only [List.countP_cons, ha, Bool.false_eq_true, if_false, Nat.add_zero] at hn
            cases n with
            | zero => simpa [keepFirst, ha] using ih hr hn
            | succ n => simpa [keepFirst, ha] using ih hr hn
      | none =>
          rw [hr] at h
          split_ifs at h with ha
          simp only [Option.some.injEq] at h
          subst h
          have hzero := rposition_eq_none.mp hr
          simp only [List.countP_cons, ha, hzero, if_true] at hn
          obtain rfl : n = 0 := by omega
          simp [keepFirst, ha]

/-! ## Position by position

`keepFirst` is recursive.  The same list can be described by saying of each position whether its
entry stays, which depends on the entry and on those before it.
-/

/-- The entries that `keep` chooses, each together with the entries before it. -/
def keepWith (keep : List α → α → Bool) (l : List α) : List α :=
  (l.zipIdx.filter fun entry => keep (l.take entry.2) entry.1).map Prod.fst

@[simp] lemma keepWith_nil (keep : List α → α → Bool) : keepWith keep [] = [] := rfl

lemma keepWith_cons (keep : List α → α → Bool) (a : α) (l : List α) :
    keepWith keep (a :: l)
      = (if keep [] a then [a] else []) ++ keepWith (fun before => keep (a :: before)) l := by
  have htail : (((l.zipIdx 1).filter fun entry => keep ((a :: l).take entry.2) entry.1).map
      Prod.fst) = keepWith (fun before => keep (a :: before)) l := by
    rw [List.zipIdx_succ, List.filter_map, List.map_map]
    rfl
  rw [keepWith, List.zipIdx_cons, List.filter_cons, Nat.zero_add]
  by_cases hkeep : keep [] a = true
  · simp [hkeep, htail]
  · simp [hkeep, htail]

lemma keepWith_sublist (keep : List α → α → Bool) (l : List α) :
    List.Sublist (keepWith keep l) l := by
  induction l generalizing keep with
  | nil => simp
  | cons a l ih =>
      rw [keepWith_cons]
      split_ifs
      · exact (ih _).cons_cons a
      · exact List.Sublist.cons a (ih fun before => keep (a :: before))

/-- What is chosen and what is not make up the list. -/
lemma keepWith_append_perm (keep : List α → α → Bool) (l : List α) :
    (keepWith keep l ++ keepWith (fun before a => !keep before a) l).Perm l := by
  induction l generalizing keep with
  | nil => simp
  | cons a l ih =>
      rw [keepWith_cons, keepWith_cons]
      by_cases hkeep : keep [] a = true
      · simpa [hkeep] using ih fun before => keep (a :: before)
      · simpa [hkeep] using List.perm_middle.trans ((ih fun before => keep (a :: before)).cons a)

/-- **Filter, then evict**, position by position: of the entries that pass `q`, exempt ones stay
and counted ones stay while fewer than `n` of them came before.  What came before the list itself
is in `seen`. -/
theorem keepFirst_filter_eq_keepWith {q : α → Bool} (hq : ∀ a, p a = false → q a = true)
    (n : ℕ) (seen l : List α) :
    keepFirst p (n - seen.countP fun a => p a && q a) (l.filter q)
      = keepWith (fun before a =>
          !p a || (q a && decide ((seen ++ before).countP (fun a => p a && q a) < n))) l := by
  induction l generalizing seen with
  | nil => simp [keepFirst]
  | cons a l ih =>
      have htail := ih (seen ++ [a])
      simp only [List.append_assoc, List.singleton_append, List.countP_append,
        List.countP_singleton] at htail
      rw [keepWith_cons]
      simp only [List.countP_append, List.countP_nil, Nat.add_zero]
      rw [← htail]
      cases hp : p a with
      | false =>
          cases hn : n - seen.countP (fun a => p a && q a) with
          | zero => simp [hp, hq a hp, keepFirst, hn]
          | succ k => simp [hp, hq a hp, keepFirst, hn]
      | true =>
          cases hqa : q a with
          | false => simp [hqa]
          | true =>
              cases hn : n - seen.countP (fun a => p a && q a) with
              | zero =>
                  have hfull : n ≤ seen.countP (fun a => p a && q a) := by omega
                  have hover : n - (seen.countP (fun a => p a && q a) + 1) = 0 := by omega
                  simp [hp, hqa, keepFirst, hfull, hover]
              | succ k =>
                  have hroom : seen.countP (fun a => p a && q a) < n := by omega
                  have hleft : n - (seen.countP (fun a => p a && q a) + 1) = k := by omega
                  simp [hp, hqa, keepFirst, hroom, hleft]

/-! ## Related histories -/

/-- Lists related entry by entry, with counting respected, are related after the eviction too. -/
lemma forall₂_keepFirst {β : Type} {R : α → β → Prop} {q : β → Bool}
    (hpq : ∀ a b, R a b → p a = q b) {l : List α} {m : List β} (h : List.Forall₂ R l m) (n : ℕ) :
    List.Forall₂ R (keepFirst p n l) (keepFirst q n m) := by
  induction h generalizing n with
  | nil => simp [keepFirst]
  | @cons a b l m hab _ ih =>
      cases n with
      | zero =>
          simp only [keepFirst, hpq a b hab]
          split_ifs
          · exact ih 0
          · exact List.Forall₂.cons hab (ih 0)
      | succ n =>
          simp only [keepFirst, hpq a b hab]
          exact List.Forall₂.cons hab (ih _)

end Eviction
