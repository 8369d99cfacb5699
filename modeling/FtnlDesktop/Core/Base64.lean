import Mathlib

/-!
# URL-safe Base64 without padding

Three bytes become four characters of a 64-letter alphabet; a rest of one or two bytes becomes two
or three.  **`encode_injective`** is all that a codec built on it needs: the length of a text,
modulo four, says how many bytes the last group had, and within a group every bit of every byte is
in exactly one character.
-/

namespace Base64

open Function

/-- The character of a six-bit value. -/
def letter (n : ℕ) : Char :=
  if n < 26 then Char.ofNat (65 + n)
  else if n < 52 then Char.ofNat (97 + (n - 26))
  else if n < 62 then Char.ofNat (48 + (n - 52))
  else if n = 62 then '-' else '_'

def encode : List UInt8 → List Char
  | [] => []
  | [a] => [letter (a.toNat / 4), letter (a.toNat % 4 * 16)]
  | [a, b] =>
      [letter (a.toNat / 4), letter (a.toNat % 4 * 16 + b.toNat / 16), letter (b.toNat % 16 * 4)]
  | a :: b :: c :: bytes =>
      letter (a.toNat / 4) :: letter (a.toNat % 4 * 16 + b.toNat / 16)
        :: letter (b.toNat % 16 * 4 + c.toNat / 64) :: letter (c.toNat % 64) :: encode bytes

lemma mem_encode {bytes : List UInt8} {c : Char} (h : c ∈ encode bytes) :
    ∃ n < 64, c = letter n := by
  fun_induction encode bytes with
  | case1 => simp at h
  | case2 a =>
      have ha := a.toNat_lt
      simp only [List.mem_cons, List.not_mem_nil, or_false] at h
      rcases h with h | h
      · exact ⟨_, by omega, h⟩
      · exact ⟨_, by omega, h⟩
  | case3 a b =>
      have ha := a.toNat_lt
      have hb := b.toNat_lt
      simp only [List.mem_cons, List.not_mem_nil, or_false] at h
      rcases h with h | h | h
      · exact ⟨_, by omega, h⟩
      · exact ⟨_, by omega, h⟩
      · exact ⟨_, by omega, h⟩
  | case4 a b c bytes ih =>
      have ha := a.toNat_lt
      have hb := b.toNat_lt
      have hc := c.toNat_lt
      simp only [List.mem_cons] at h
      rcases h with h | h | h | h | h
      · exact ⟨_, by omega, h⟩
      · exact ⟨_, by omega, h⟩
      · exact ⟨_, by omega, h⟩
      · exact ⟨_, by omega, h⟩
      · exact ih h

/-- The six-bit value of a character. -/
def value (c : Char) : ℕ :=
  if 97 ≤ c.toNat ∧ c.toNat ≤ 122 then c.toNat - 71
  else if 65 ≤ c.toNat ∧ c.toNat ≤ 90 then c.toNat - 65
  else if 48 ≤ c.toNat ∧ c.toNat ≤ 57 then c.toNat + 4
  else if c = '-' then 62 else 63

lemma value_letter : ∀ n < 64, value (letter n) = n := by
  decide

/-- Six bits are determined by their character. -/
lemma letter_inj {m n : ℕ} (hm : m < 64) (hn : n < 64) (h : letter m = letter n) : m = n := by
  rw [← value_letter m hm, h, value_letter n hn]

lemma toNat_lt (a : UInt8) : a.toNat < 256 := a.toNat_lt

/-- A group of one byte. -/
lemma inj_one {a a' : UInt8} (h : encode [a] = encode [a']) : a = a' := by
  have ha := toNat_lt a
  have ha' := toNat_lt a'
  simp only [encode, List.cons.injEq, and_true] at h
  have h1 := letter_inj (by omega) (by omega) h.1
  have h2 := letter_inj (by omega) (by omega) h.2
  exact UInt8.toNat_inj.mp (by omega)

/-- A group of two bytes. -/
lemma inj_two {a b a' b' : UInt8} (h : encode [a, b] = encode [a', b']) : a = a' ∧ b = b' := by
  have ha := toNat_lt a
  have ha' := toNat_lt a'
  have hb := toNat_lt b
  have hb' := toNat_lt b'
  simp only [encode, List.cons.injEq, and_true] at h
  have h1 := letter_inj (by omega) (by omega) h.1
  have h2 := letter_inj (by omega) (by omega) h.2.1
  have h3 := letter_inj (by omega) (by omega) h.2.2
  exact ⟨UInt8.toNat_inj.mp (by omega), UInt8.toNat_inj.mp (by omega)⟩

/-- A full group. -/
lemma inj_three {a b c a' b' c' : UInt8} {bytes bytes' : List UInt8}
    (h : encode (a :: b :: c :: bytes) = encode (a' :: b' :: c' :: bytes')) :
    a = a' ∧ b = b' ∧ c = c' ∧ encode bytes = encode bytes' := by
  have ha := toNat_lt a
  have ha' := toNat_lt a'
  have hb := toNat_lt b
  have hb' := toNat_lt b'
  have hc := toNat_lt c
  have hc' := toNat_lt c'
  simp only [encode, List.cons.injEq] at h
  have h1 := letter_inj (by omega) (by omega) h.1
  have h2 := letter_inj (by omega) (by omega) h.2.1
  have h3 := letter_inj (by omega) (by omega) h.2.2.1
  have h4 := letter_inj (by omega) (by omega) h.2.2.2.1
  exact ⟨UInt8.toNat_inj.mp (by omega), UInt8.toNat_inj.mp (by omega),
    UInt8.toNat_inj.mp (by omega), h.2.2.2.2⟩

/-- The length of a text tells the size of its last group. -/
lemma length_encode (bytes : List UInt8) :
    (encode bytes).length = (4 * bytes.length + 2) / 3 := by
  fun_induction encode bytes with
  | case1 => simp
  | case2 a => simp
  | case3 a b => simp
  | case4 a b c bytes ih =>
      simp only [List.length_cons]
      omega

/-- **A text determines its bytes.** -/
theorem encode_injective : Injective encode := by
  intro l m h
  have hlen : l.length = m.length := by
    have hlen := congrArg List.length h
    rw [length_encode, length_encode] at hlen
    omega
  fun_induction encode l generalizing m with
  | case1 =>
      exact (List.length_eq_zero_iff.mp hlen.symm).symm
  | case2 a =>
      obtain ⟨a', rfl⟩ := List.length_eq_one_iff.mp hlen.symm
      rw [inj_one h]
  | case3 a b =>
      obtain ⟨a', b', rfl⟩ := List.length_eq_two.mp hlen.symm
      obtain ⟨rfl, rfl⟩ := inj_two h
      rfl
  | case4 a b c bytes ih =>
      match m, hlen with
      | a' :: b' :: c' :: bytes', hlen =>
          obtain ⟨rfl, rfl, rfl, hrest⟩ := inj_three h
          rw [ih hrest (by simpa using hlen)]

end Base64
