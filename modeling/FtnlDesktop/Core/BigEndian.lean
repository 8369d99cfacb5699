import Mathlib

/-!
# Fixed-width big-endian integers

`n.to_be_bytes()` and `u64::from_be_bytes(bytes)`, for a width of any number of bytes.  A width
that holds the number makes the pair a round trip (`fromBeBytes_toBeBytes`), hence two numbers
of one width with the same bytes are equal.  The other way it is one for the bytes of that width
(`toBeBytes_fromBeBytes`), hence no number has a second spelling.
-/

namespace BigEndian

/-- The `width` low bytes of `n`, the most significant first. -/
def toBeBytes : ℕ → ℕ → List UInt8
  | 0, _ => []
  | width + 1, n => toBeBytes width (n / 256) ++ [UInt8.ofNat n]

/-- The number that the bytes spell, the most significant first. -/
def fromBeBytes (bytes : List UInt8) : ℕ :=
  bytes.foldl (fun n byte => n * 256 + byte.toNat) 0

@[simp] lemma length_toBeBytes (width n : ℕ) : (toBeBytes width n).length = width := by
  induction width generalizing n with
  | zero => rfl
  | succ width ih => simp [toBeBytes, ih]

/-- **Round trip**, for every number that fits the width. -/
theorem fromBeBytes_toBeBytes {width n : ℕ} (h : n < 256 ^ width) :
    fromBeBytes (toBeBytes width n) = n := by
  induction width generalizing n with
  | zero =>
      have hn : n = 0 := by simpa using h
      simp [toBeBytes, fromBeBytes, hn]
  | succ width ih =>
      have hdiv : n / 256 < 256 ^ width := by
        rw [pow_succ] at h
        omega
      have hih := ih hdiv
      simp only [fromBeBytes, toBeBytes, List.foldl_append, List.foldl_cons, List.foldl_nil,
        UInt8.toNat_ofNat'] at hih ⊢
      rw [hih]
      omega

lemma fromBeBytes_concat (bytes : List UInt8) (byte : UInt8) :
    fromBeBytes (bytes ++ [byte]) = fromBeBytes bytes * 256 + byte.toNat := by
  simp [fromBeBytes]

/-- **Round trip**, for the bytes of one width. -/
theorem toBeBytes_fromBeBytes {width : ℕ} {bytes : List UInt8} (h : bytes.length = width) :
    toBeBytes width (fromBeBytes bytes) = bytes := by
  induction width generalizing bytes with
  | zero =>
      obtain rfl := List.length_eq_zero_iff.mp h
      rfl
  | succ width ih =>
      obtain ⟨init, byte, rfl⟩ : ∃ init byte, bytes = init ++ [byte] := by
        refine (List.eq_nil_or_concat' bytes).resolve_left ?_
        rintro rfl
        simp at h
      have hlt := byte.toNat_lt
      have hdiv : (fromBeBytes init * 256 + byte.toNat) / 256 = fromBeBytes init := by omega
      have hlow : UInt8.ofNat (fromBeBytes init * 256 + byte.toNat) = byte := by
        apply UInt8.toNat_inj.mp
        rw [UInt8.toNat_ofNat']
        omega
      rw [fromBeBytes_concat, toBeBytes, hdiv, hlow, ih (by simpa using h)]

end BigEndian
