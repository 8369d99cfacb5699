import Mathlib

/-!
# Ordered sets as strictly increasing lists

`BTreeSet<T>`: a finite set whose iteration order is the order of its elements.  `SortedSet`
carries that order as a field, so a set has one representation, two sets with the same members
are equal (`SortedSet.ext_mem`), and iterating and collecting again is the identity
(`SortedSet.ofList_elems`).

`SortedSet.size_ofList_eq_length_iff` is what a decoder relies on when it compares the size of
the collected set with the length of the list it collected: they agree exactly when the list
had no duplicates.
-/

/-- A finite set, listed in strictly increasing order. -/
structure SortedSet (α : Type) [LinearOrder α] where
  elems : List α
  sorted : elems.Pairwise (· < ·)
deriving DecidableEq

namespace SortedSet

variable {α : Type} [LinearOrder α]

instance : EmptyCollection (SortedSet α) := ⟨⟨[], List.Pairwise.nil⟩⟩

instance : Membership α (SortedSet α) := ⟨fun s a => a ∈ s.elems⟩

instance (s : SortedSet α) (a : α) : Decidable (a ∈ s) :=
  inferInstanceAs (Decidable (a ∈ s.elems))

lemma mem_def {s : SortedSet α} {a : α} : a ∈ s ↔ a ∈ s.elems := Iff.rfl

/-- The number of elements. -/
def size (s : SortedSet α) : ℕ := s.elems.length

/-- Two sets with the same members are equal. -/
lemma ext_mem {s t : SortedSet α} (h : ∀ a, a ∈ s ↔ a ∈ t) : s = t := by
  obtain ⟨l, hl⟩ := s
  obtain ⟨m, hm⟩ := t
  have hlm : l = m := List.Pairwise.eq_of_mem_iff hl hm fun a => h a
  subst hlm
  rfl

/-! ## Inserting -/

/-- Insertion into an increasing list, which keeps it free of duplicates. -/
def insertElem (a : α) : List α → List α
  | [] => [a]
  | b :: l => if a < b then a :: b :: l else if a = b then b :: l else b :: insertElem a l

lemma mem_insertElem {a x : α} {l : List α} : x ∈ insertElem a l ↔ x = a ∨ x ∈ l := by
  induction l with
  | nil => simp [insertElem]
  | cons b l ih =>
      unfold insertElem
      split_ifs with hlt heq
      · simp
      · subst heq; simp
      · simp only [List.mem_cons, ih]
        tauto

lemma pairwise_insertElem (a : α) {l : List α} (h : l.Pairwise (· < ·)) :
    (insertElem a l).Pairwise (· < ·) := by
  induction l with
  | nil => simp [insertElem]
  | cons b l ih =>
      obtain ⟨hb, hl⟩ := List.pairwise_cons.mp h
      unfold insertElem
      split_ifs with hlt heq
      · refine List.pairwise_cons.mpr ⟨fun x hx => ?_, h⟩
        rcases List.mem_cons.mp hx with rfl | hx
        · exact hlt
        · exact hlt.trans (hb x hx)
      · exact h
      · refine List.pairwise_cons.mpr ⟨fun x hx => ?_, ih hl⟩
        rcases mem_insertElem.mp hx with rfl | hx
        · exact lt_of_le_of_ne (not_lt.mp hlt) (Ne.symm heq)
        · exact hb x hx

lemma length_insertElem (a : α) {l : List α} (h : l.Pairwise (· < ·)) :
    (insertElem a l).length = if a ∈ l then l.length else l.length + 1 := by
  induction l with
  | nil => simp [insertElem]
  | cons b l ih =>
      obtain ⟨hb, hl⟩ := List.pairwise_cons.mp h
      by_cases hlt : a < b
      · have hmem : a ∉ b :: l := by
          intro ha
          rcases List.mem_cons.mp ha with rfl | ha
          · exact lt_irrefl _ hlt
          · exact lt_irrefl _ (hlt.trans (hb a ha))
        simp [insertElem, hlt, hmem]
      · by_cases heq : a = b
        · simp [insertElem, heq]
        · have hmem : a ∈ b :: l ↔ a ∈ l := by simp [heq]
          by_cases ha : a ∈ l
          · simp [insertElem, hlt, heq, ih hl, ha]
          · simp [insertElem, hlt, heq, ih hl, ha]

/-- `set.insert(a)`. -/
def insert (a : α) (s : SortedSet α) : SortedSet α :=
  ⟨insertElem a s.elems, pairwise_insertElem a s.sorted⟩

@[simp] lemma mem_insert {a x : α} {s : SortedSet α} : x ∈ s.insert a ↔ x = a ∨ x ∈ s :=
  mem_insertElem

lemma size_insert (a : α) (s : SortedSet α) :
    (s.insert a).size = if a ∈ s then s.size else s.size + 1 :=
  length_insertElem a s.sorted

/-! ## Collecting -/

/-- `iter.collect::<BTreeSet<_>>()`. -/
def ofList : List α → SortedSet α
  | [] => ∅
  | a :: l => (ofList l).insert a

@[simp] lemma mem_ofList {l : List α} {x : α} : x ∈ ofList l ↔ x ∈ l := by
  induction l with
  | nil => exact ⟨fun h => h, fun h => h⟩
  | cons a l ih => simp [ofList, ih]

/-- Collecting what a set iterates over gives the set back. -/
@[simp] lemma ofList_elems (s : SortedSet α) : ofList s.elems = s :=
  ext_mem fun _ => mem_ofList

lemma size_ofList_le (l : List α) : (ofList l).size ≤ l.length := by
  induction l with
  | nil => exact Nat.le_refl _
  | cons a l ih =>
      rw [ofList, size_insert, List.length_cons]
      split_ifs <;> omega

/-- The collected set is as large as the list exactly when the list has no duplicates. -/
lemma size_ofList_eq_length_iff (l : List α) : (ofList l).size = l.length ↔ l.Nodup := by
  induction l with
  | nil => exact ⟨fun _ => List.nodup_nil, fun _ => rfl⟩
  | cons a l ih =>
      have hle := size_ofList_le l
      rw [ofList, size_insert, List.length_cons, List.nodup_cons, ← ih]
      by_cases ha : a ∈ l
      · simp only [mem_ofList, ha, if_true, not_true, false_and, iff_false]
        omega
      · simp [ha]

lemma nodup_elems (s : SortedSet α) : s.elems.Nodup :=
  s.sorted.imp fun h => h.ne

end SortedSet
