import Mathlib

/-!
# Lower case and the final sigma

Lower-casing a string maps its characters one by one through the Unicode tables, with one
exception: a capital sigma becomes `ς` at the end of a word and `σ` elsewhere.  It is at the end of
a word when the nearest character before it that is not case-ignorable is cased and the nearest one
after it is not.

So the lower case of a piece of a text is not a piece of the lower case of the text: what surrounds
the piece has a say in its sigmas.  `lowerIn` is the lower case of a piece with its surroundings.

* **`lower_infix_of_settlesSigmas`** — a piece that settles its own sigmas (`SettlesSigmas`) is
  found, in lower case, in the lower case of every text that contains it.
* **`exists_letter_not_infix`** — for any other piece one letter next to it is enough to miss it.
-/

namespace Casing

/-- What lower-casing reads from the Unicode tables. -/
structure CaseTables where
  toLower : Char → List Char
  cased : Char → Bool
  caseIgnorable : Char → Bool

namespace CaseTables

variable (t : CaseTables)

/-- The first character that is not case-ignorable is cased. -/
def ignorableThenCased (l : List Char) : Bool :=
  match l.dropWhile t.caseIgnorable with
  | c :: _ => t.cased c
  | [] => false

/-- The lower case of `c`; `before` is the text in front of it, nearest first, and `after` the text
behind it. -/
def lowerChar (before : List Char) (c : Char) (after : List Char) : List Char :=
  if c = 'Σ' then
    if t.ignorableThenCased before = true ∧ t.ignorableThenCased after = false then ['ς'] else ['σ']
  else
    t.toLower c

/-- The lower case of a piece of a text, with what is in front of it, nearest first, and behind. -/
def lowerIn : (before piece after : List Char) → List Char
  | _, [], _ => []
  | before, c :: piece, after =>
      t.lowerChar before c (piece ++ after) ++ lowerIn (c :: before) piece after

/-- The lower case of a text. -/
def lower (text : List Char) : List Char := t.lowerIn [] text []

/-- `str::to_lowercase`. -/
def toLowercase (text : String) : String := String.ofList (t.lower text.toList)

/-- Something in the list is not case-ignorable, so what lies beyond it is not looked at. -/
def Blocks (l : List Char) : Prop := ∃ c ∈ l, t.caseIgnorable c = false

/-- What surrounds the piece has no say in its capital sigmas: each is preceded in the piece by a
character that is not cased, or followed by a cased one, or shielded on both sides. -/
def SettlesSigmas (piece : List Char) : Prop :=
  ∀ u v, piece = u ++ 'Σ' :: v →
    (t.Blocks u ∧ t.ignorableThenCased u.reverse = false) ∨ t.ignorableThenCased v = true
      ∨ (t.Blocks u ∧ t.Blocks v)

/-- A cased letter other than sigma whose lower case is one letter other than sigma. -/
structure IsPlainLetter (c d : Char) : Prop where
  toLower : t.toLower c = [d]
  cased : t.cased c = true
  caseIgnorable : t.caseIgnorable c = false
  ne_sigma : c ≠ 'Σ' ∧ d ≠ 'σ' ∧ d ≠ 'ς'

variable {t} {before before' after after' l m piece u v : List Char} {c d : Char}

/-! ## What is looked at -/

lemma ignorableThenCased_append_of_blocks (h : t.Blocks l) :
    t.ignorableThenCased (l ++ m) = t.ignorableThenCased l := by
  have hne : (l.dropWhile t.caseIgnorable).isEmpty = false := by
    rw [List.isEmpty_eq_false_iff, ne_eq, List.dropWhile_eq_nil_iff]
    intro hall
    obtain ⟨c, hc, hblock⟩ := h
    exact Bool.false_ne_true (hblock.symm.trans (hall c hc))
  rw [ignorableThenCased, ignorableThenCased, List.dropWhile_append, hne]
  cases hdrop : l.dropWhile t.caseIgnorable with
  | nil => simp [hdrop] at hne
  | cons c rest => rfl

lemma dropWhile_eq_nil_of_not_blocks (h : ¬ t.Blocks l) : l.dropWhile t.caseIgnorable = [] := by
  rw [List.dropWhile_eq_nil_iff]
  intro c hc
  by_contra hfalse
  exact h ⟨c, hc, Bool.not_eq_true _ ▸ hfalse⟩

lemma ignorableThenCased_of_not_blocks (h : ¬ t.Blocks l) : t.ignorableThenCased l = false := by
  rw [ignorableThenCased, dropWhile_eq_nil_of_not_blocks h]

lemma ignorableThenCased_append_of_not_blocks (h : ¬ t.Blocks l) :
    t.ignorableThenCased (l ++ m) = t.ignorableThenCased m := by
  rw [ignorableThenCased, ignorableThenCased, List.dropWhile_append,
    dropWhile_eq_nil_of_not_blocks h]
  rfl

lemma blocks_of_ignorableThenCased (h : t.ignorableThenCased l = true) : t.Blocks l := by
  by_contra hnot
  exact Bool.false_ne_true ((ignorableThenCased_of_not_blocks hnot).symm.trans h)

lemma blocks_reverse : t.Blocks l.reverse ↔ t.Blocks l := by
  simp [Blocks]

lemma IsPlainLetter.ignorableThenCased (h : t.IsPlainLetter c d) :
    t.ignorableThenCased [c] = true := by
  rw [CaseTables.ignorableThenCased, List.dropWhile_cons_of_neg (by simp [h.caseIgnorable])]
  exact h.cased

/-! ## Pieces -/

lemma lowerIn_append (before l m after : List Char) :
    t.lowerIn before (l ++ m) after
      = t.lowerIn before l (m ++ after) ++ t.lowerIn (l.reverse ++ before) m after := by
  induction l generalizing before with
  | nil => rfl
  | cons c l ih =>
      rw [List.cons_append, lowerIn, lowerIn, ih, List.append_assoc, List.append_assoc,
        List.reverse_cons, List.append_assoc]
      rfl

/-- Pieces whose characters agree one by one agree. -/
lemma lowerIn_congr (h : ∀ u c v, piece = u ++ c :: v →
    t.lowerChar (u.reverse ++ before) c (v ++ after)
      = t.lowerChar (u.reverse ++ before') c (v ++ after')) :
    t.lowerIn before piece after = t.lowerIn before' piece after' := by
  induction piece generalizing before before' with
  | nil => rfl
  | cons c piece ih =>
      have hhead := h [] c piece rfl
      rw [List.reverse_nil, List.nil_append, List.nil_append] at hhead
      rw [lowerIn, lowerIn, hhead, ih]
      intro u c' v hpiece
      have htail := h (c :: u) c' v (by rw [hpiece]; rfl)
      simpa using htail

/-- **A piece that settles its sigmas** has the same lower case in all surroundings. -/
theorem lowerIn_eq_lower (h : t.SettlesSigmas piece) (before after : List Char) :
    t.lowerIn before piece after = t.lower piece := by
  refine lowerIn_congr ?_
  intro u c v hpiece
  by_cases hc : c = 'Σ'
  · subst hc
    simp only [lowerChar, if_true, List.append_nil]
    rcases h u v hpiece with ⟨hblocks, hcased⟩ | hcased | ⟨hu, hv⟩
    · rw [ignorableThenCased_append_of_blocks (blocks_reverse.mpr hblocks), hcased]
      simp
    · rw [ignorableThenCased_append_of_blocks (blocks_of_ignorableThenCased hcased), hcased]
      simp
    · rw [ignorableThenCased_append_of_blocks (blocks_reverse.mpr hu),
        ignorableThenCased_append_of_blocks hv]
  · rw [lowerChar, lowerChar, if_neg hc, if_neg hc]

lemma lower_infix_of_settlesSigmas (h : t.SettlesSigmas piece) {text : List Char}
    (hwithin : piece <:+: text) : t.lower piece <:+: t.lower text := by
  obtain ⟨u, v, rfl⟩ := hwithin
  refine ⟨t.lowerIn [] u (piece ++ v), t.lowerIn (piece.reverse ++ u.reverse) v [], ?_⟩
  show _ = t.lowerIn [] (u ++ piece ++ v) []
  rw [List.append_assoc u, lowerIn_append [] u, lowerIn_append _ piece v, lowerIn_eq_lower h]
  simp only [List.append_nil, List.append_assoc]

/-! ## Pieces that do not settle their sigmas -/

/-- Forget which sigma is final. -/
def unfinal (c : Char) : Char := if c = 'ς' then 'σ' else c

/-- Surroundings make no other difference. -/
lemma map_unfinal_lowerIn (before piece after : List Char) :
    (t.lowerIn before piece after).map unfinal
      = piece.flatMap fun c => if c = 'Σ' then ['σ'] else (t.toLower c).map unfinal := by
  induction piece generalizing before with
  | nil => rfl
  | cons c piece ih =>
      rw [lowerIn, List.map_append, ih, List.flatMap_cons, lowerChar]
      congr 1
      split_ifs
      · rfl
      · rfl
      · rfl

lemma length_lowerIn_eq (before before' piece after after' : List Char) :
    (t.lowerIn before piece after).length = (t.lowerIn before' piece after').length := by
  have hmap : (t.lowerIn before piece after).map unfinal
      = (t.lowerIn before' piece after').map unfinal := by
    rw [map_unfinal_lowerIn, map_unfinal_lowerIn]
  simpa using congrArg List.length hmap

/-- Lower cases of one piece are different where one of its sigmas is. -/
lemma lowerIn_ne_of_sigma (h : t.lowerChar (u.reverse ++ before) 'Σ' (v ++ after)
      ≠ t.lowerChar (u.reverse ++ before') 'Σ' (v ++ after')) :
    t.lowerIn before (u ++ 'Σ' :: v) after ≠ t.lowerIn before' (u ++ 'Σ' :: v) after' := by
  intro heq
  rw [lowerIn_append, lowerIn_append] at heq
  have hrest := List.append_inj_right heq (length_lowerIn_eq _ _ _ _ _)
  have hlen : ∀ b a, (t.lowerChar b 'Σ' a).length = 1 := by
    intro b a
    rw [lowerChar, if_pos rfl]
    split_ifs
    · rfl
    · rfl
  rw [lowerIn, lowerIn] at hrest
  exact h (List.append_inj_left hrest ((hlen _ _).trans (hlen _ _).symm))

end CaseTables

/-- Only a constant list is its own shift. -/
lemma eq_of_append_singleton_eq_cons {α : Type} {x y : α} {l : List α} (h : l ++ [y] = x :: l) :
    x = y ∧ ∀ b ∈ l, b = x := by
  induction l generalizing x with
  | nil =>
      obtain rfl : y = x := by simpa using h
      exact ⟨rfl, by simp⟩
  | cons b l ih =>
      rw [List.cons_append, List.cons.injEq] at h
      obtain ⟨rfl, hrest⟩ := h
      obtain ⟨rfl, hall⟩ := ih hrest
      refine ⟨rfl, ?_⟩
      intro b' hb'
      rcases List.mem_cons.mp hb' with rfl | hb'
      · rfl
      · exact hall b' hb'

section Shift

variable {α β : Type} {f : α → β} {l l' : List α} {a : α}

/-- A list is not found in a list of the same shape with one entry in front, unless the shape is
that entry over and over. -/
lemma not_infix_cons (hne : l ≠ l') (hmap : l.map f = l'.map f) (hmem : ∃ b ∈ l, f b ≠ f a) :
    ¬ l <:+: a :: l' := by
  rintro ⟨s, r, h⟩
  have hlen := congrArg List.length h
  have hshape := congrArg List.length hmap
  simp only [List.length_append, List.length_cons, List.length_map] at hlen hshape
  rcases s with _ | ⟨x, s⟩
  · obtain ⟨y, rfl⟩ : ∃ y, r = [y] := List.length_eq_one_iff.mp (by simp at hlen; omega)
    have hshift : l.map f ++ [f y] = f a :: l.map f := by
      simpa [hmap] using congrArg (List.map f) h
    obtain ⟨b, hb, hfb⟩ := hmem
    exact hfb ((eq_of_append_singleton_eq_cons hshift).2 _ (List.mem_map_of_mem hb))
  · simp only [List.length_cons] at hlen
    obtain rfl : s = [] := List.length_eq_zero_iff.mp (by omega)
    obtain rfl : r = [] := List.length_eq_zero_iff.mp (by omega)
    simp only [List.cons_append, List.nil_append, List.append_nil, List.cons.injEq] at h
    exact hne h.2

/-- The same with one entry behind. -/
lemma not_infix_concat (hne : l ≠ l') (hmap : l.map f = l'.map f) (hmem : ∃ b ∈ l, f b ≠ f a) :
    ¬ l <:+: l' ++ [a] := by
  intro hwithin
  have hreverse : l.reverse <:+: a :: l'.reverse := by
    simpa using List.reverse_infix.mpr hwithin
  refine not_infix_cons (f := f) (fun h => hne (List.reverse_injective h)) ?_ ?_ hreverse
  · rw [List.map_reverse, List.map_reverse, hmap]
  · simpa using hmem

end Shift

namespace CaseTables

variable {t : CaseTables} {piece : List Char} {c d : Char}

/-- **One letter is enough.**  The lower case of a piece that does not settle its sigmas is missing
from the lower case of that piece with some cased letter next to it. -/
theorem exists_letter_not_infix (hletter : t.IsPlainLetter c d) (h : ¬ t.SettlesSigmas piece) :
    ¬ t.lower piece <:+: t.lower (c :: piece) ∨ ¬ t.lower piece <:+: t.lower (piece ++ [c]) := by
  rw [SettlesSigmas] at h
  push Not at h
  obtain ⟨u, v, rfl, hu, hv, hboth⟩ := h
  have hv' : t.ignorableThenCased v = false := Bool.not_eq_true _ ▸ hv
  obtain ⟨hc, hdσ, hdς⟩ := hletter.ne_sigma
  have hchar : ∀ before after, t.lowerChar before c after = [d] := by
    intro before after
    rw [lowerChar, if_neg hc, hletter.toLower]
  have hmem : ∃ b ∈ t.lower (u ++ 'Σ' :: v), unfinal b ≠ unfinal d := by
    have hσ : 'σ' ∈ (t.lower (u ++ 'Σ' :: v)).map unfinal := by
      rw [lower, map_unfinal_lowerIn]
      exact List.mem_flatMap.mpr ⟨'Σ', by simp, by simp⟩
    obtain ⟨b, hb, hσ⟩ := List.mem_map.mp hσ
    refine ⟨b, hb, ?_⟩
    rw [hσ, unfinal, if_neg hdς]
    exact hdσ.symm
  by_cases hblocks : t.Blocks u
  · -- final by itself, and not final with the letter behind it
    right
    have hu' : t.ignorableThenCased u.reverse = true := Bool.not_eq_false _ ▸ hu hblocks
    have hbehind : t.lower (u ++ 'Σ' :: v ++ [c]) = t.lowerIn [] (u ++ 'Σ' :: v) [c] ++ [d] := by
      rw [lower, lowerIn_append, List.append_nil, lowerIn, hchar]
      rfl
    rw [hbehind]
    refine not_infix_concat (f := unfinal) ?_ ?_ hmem
    · refine lowerIn_ne_of_sigma ?_
      rw [lowerChar, lowerChar, if_pos rfl, if_pos rfl, List.append_nil, List.append_nil, hu', hv',
        ignorableThenCased_append_of_not_blocks (hboth hblocks), hletter.ignorableThenCased]
      decide
    · rw [lower, map_unfinal_lowerIn, map_unfinal_lowerIn]
  · -- not final by itself, and final with the letter in front of it
    left
    have hfront : t.lower (c :: (u ++ 'Σ' :: v)) = d :: t.lowerIn [c] (u ++ 'Σ' :: v) [] := by
      rw [lower, lowerIn, hchar]
      rfl
    rw [hfront]
    refine not_infix_cons (f := unfinal) ?_ ?_ hmem
    · refine lowerIn_ne_of_sigma ?_
      have hreverse : ¬ t.Blocks u.reverse := fun h => hblocks (blocks_reverse.mp h)
      rw [lowerChar, lowerChar, if_pos rfl, if_pos rfl, List.append_nil, List.append_nil, hv',
        ignorableThenCased_append_of_not_blocks hreverse,
        ignorableThenCased_of_not_blocks hreverse, hletter.ignorableThenCased]
      decide
    · rw [lower, map_unfinal_lowerIn, map_unfinal_lowerIn]

end CaseTables

end Casing
