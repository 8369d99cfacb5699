import Mathlib

/-!
# Self-delimiting writers

A writer is self-delimiting if its output can be told from whatever follows it: two outputs that
agree with their continuations agree, and so do the continuations.  Such writers are injective,
and a format built from them is unambiguous by construction.

A number does not end by itself, only where its digits stop.  `Delimited` is the weaker property
that suffices between separators: the output is recognised in front of every stop.

* **`SelfDelimiting.of_isPrefix`** — no output is a prefix of another.
* **`delimited_of_letters`** — a run of letters up to a stop, which is no letter.
* **`SelfDelimiting.flatMap`** — a run of blocks up to a terminator that starts none of them.
* **`SelfDelimiting.array`** — values between brackets, separated by commas.
-/

variable {α β μ : Type*}

/-- The output is recognised in front of any continuation. -/
def SelfDelimiting (write : α → List μ) : Prop :=
  ∀ a b x y, write a ++ x = write b ++ y → a = b ∧ x = y

namespace SelfDelimiting

variable {write : α → List μ}

lemma injective (h : SelfDelimiting write) : Function.Injective write := by
  intro a b hab
  exact (h a b [] [] (by rw [hab])).1

/-- A fixed text in front. -/
lemma literal (h : SelfDelimiting write) (text : List μ) :
    SelfDelimiting fun a => text ++ write a := by
  intro a b x y hab
  rw [List.append_assoc, List.append_assoc] at hab
  exact h a b x y (List.append_cancel_left hab)

/-- A record is written through the fields that determine it. -/
lemma comp (h : SelfDelimiting write) {fields : β → α} (hfields : Function.Injective fields) :
    SelfDelimiting fun b => write (fields b) := by
  intro a b x y hab
  obtain ⟨hsame, hrest⟩ := h _ _ _ _ hab
  exact ⟨hfields hsame, hrest⟩

/-- **No output is a prefix of another.** -/
theorem of_isPrefix (h : ∀ a b, write a <+: write b → a = b) : SelfDelimiting write := by
  intro a b x y hab
  have hsame : a = b := by
    rcases List.prefix_or_prefix_of_prefix (List.prefix_append (write a) x)
      (hab ▸ List.prefix_append (write b) y) with hle | hle
    · exact h a b hle
    · exact (h b a hle).symm
  subst hsame
  exact ⟨rfl, List.append_cancel_left hab⟩

end SelfDelimiting

/-! ## Values in front of a stop -/

/-- The output is recognised in front of every stop. -/
def Delimited (stop : μ → Prop) (write : α → List μ) : Prop :=
  ∀ a b t u x y, stop t → stop u → write a ++ t :: x = write b ++ u :: y →
    a = b ∧ t :: x = u :: y

lemma SelfDelimiting.delimited {write : α → List μ} (h : SelfDelimiting write)
    (stop : μ → Prop) : Delimited stop write :=
  fun a b _ _ _ _ _ _ hab => h a b _ _ hab

/-- Two runs of letters, each up to its terminator. -/
lemma eq_of_terminated {letter : μ → Prop} {l m : List μ} {t u : μ} {x y : List μ}
    (hl : ∀ a ∈ l, letter a) (hm : ∀ a ∈ m, letter a) (ht : ¬ letter t) (hu : ¬ letter u)
    (h : l ++ t :: x = m ++ u :: y) : l = m ∧ t :: x = u :: y := by
  induction l generalizing m with
  | nil =>
      cases m with
      | nil => exact ⟨rfl, h⟩
      | cons b m =>
          have htb : t = b := (List.cons.inj h).1
          exact absurd (htb ▸ hm b List.mem_cons_self) ht
  | cons a l ih =>
      cases m with
      | nil =>
          have hau : a = u := (List.cons.inj h).1
          exact absurd (hau ▸ hl a List.mem_cons_self) hu
      | cons b m =>
          obtain ⟨rfl, hrest⟩ := List.cons.inj h
          obtain ⟨rfl, hcont⟩ := ih (fun c hc => hl c (List.mem_cons_of_mem _ hc))
            (fun c hc => hm c (List.mem_cons_of_mem _ hc)) hrest
          exact ⟨rfl, hcont⟩

/-- **Letters up to a stop.** -/
theorem delimited_of_letters {write : α → List μ} {letter stop : μ → Prop}
    (hinj : Function.Injective write) (hletters : ∀ a, ∀ c ∈ write a, letter c)
    (hstop : ∀ t, stop t → ¬ letter t) : Delimited stop write := by
  intro a b t u x y ht hu hab
  obtain ⟨hsame, hrest⟩ :=
    eq_of_terminated (hletters a) (hletters b) (hstop t ht) (hstop u hu) hab
  exact ⟨hinj hsame, hrest⟩

namespace SelfDelimiting

variable {write : α → List μ}

/-- **Blocks up to a terminator.** -/
theorem flatMap (h : SelfDelimiting write) {t : μ} (ht : ∀ a x y, write a ++ x ≠ t :: y) :
    SelfDelimiting fun l : List α => l.flatMap write ++ [t] := by
  intro l
  induction l with
  | nil =>
      intro m x y hlm
      cases m with
      | nil => simpa using hlm
      | cons b m =>
          simp only [List.flatMap_nil, List.nil_append, List.singleton_append, List.flatMap_cons,
            List.append_assoc] at hlm
          exact absurd hlm.symm (ht b _ _)
  | cons a l ih =>
      intro m x y hlm
      cases m with
      | nil =>
          simp only [List.flatMap_nil, List.nil_append, List.singleton_append, List.flatMap_cons,
            List.append_assoc] at hlm
          exact absurd hlm (ht a _ _)
      | cons b m =>
          simp only [List.flatMap_cons, List.append_assoc] at hlm
          obtain ⟨rfl, hrest⟩ := h a b _ _ hlm
          obtain ⟨rfl, hcont⟩ := ih m x y (by simpa only [List.append_assoc] using hrest)
          exact ⟨rfl, hcont⟩

/-! ## Arrays -/

/-- The values after the first, each behind a comma, and the closing bracket. -/
def arrayTail (comma close : μ) (write : α → List μ) : List α → List μ
  | [] => [close]
  | a :: l => comma :: (write a ++ arrayTail comma close write l)

/-- The values between brackets. -/
def writeArray (opening comma close : μ) (write : α → List μ) : List α → List μ
  | [] => [opening, close]
  | a :: l => opening :: (write a ++ arrayTail comma close write l)

lemma arrayTail_selfDelimiting (h : SelfDelimiting write) {comma close : μ}
    (hne : comma ≠ close) : SelfDelimiting (arrayTail comma close write) := by
  intro l
  induction l with
  | nil =>
      intro m x y hlm
      cases m with
      | nil => simpa [arrayTail] using hlm
      | cons b m => exact absurd (List.cons.inj hlm).1.symm hne
  | cons a l ih =>
      intro m x y hlm
      cases m with
      | nil => exact absurd (List.cons.inj hlm).1 hne
      | cons b m =>
          simp only [arrayTail, List.cons_append, List.append_assoc, List.cons.injEq,
            true_and] at hlm
          obtain ⟨rfl, hrest⟩ := h a b _ _ hlm
          obtain ⟨rfl, hcont⟩ := ih m x y hrest
          exact ⟨rfl, hcont⟩

/-- **Arrays.**  No value starts with the closing bracket. -/
theorem array (h : SelfDelimiting write) {opening comma close : μ} (hne : comma ≠ close)
    (hclose : ∀ a x y, write a ++ x ≠ close :: y) :
    SelfDelimiting (writeArray opening comma close write) := by
  intro l m x y hlm
  cases l with
  | nil =>
      cases m with
      | nil => simpa [writeArray] using hlm
      | cons b m =>
          simp only [writeArray, List.cons_append, List.nil_append, List.append_assoc,
            List.cons.injEq, true_and] at hlm
          exact absurd hlm.symm (hclose b _ _)
  | cons a l =>
      cases m with
      | nil =>
          simp only [writeArray, List.cons_append, List.nil_append, List.append_assoc,
            List.cons.injEq, true_and] at hlm
          exact absurd hlm (hclose a _ _)
      | cons b m =>
          simp only [writeArray, List.cons_append, List.append_assoc, List.cons.injEq,
            true_and] at hlm
          obtain ⟨rfl, hrest⟩ := h a b _ _ hlm
          obtain ⟨rfl, hcont⟩ := arrayTail_selfDelimiting h hne l m x y hrest
          exact ⟨rfl, hcont⟩

end SelfDelimiting
