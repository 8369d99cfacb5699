import Mathlib

/-!
# Codecs that agree with recorded exchanges

A theorem about a foreign printer and parser assumes that parsing undoes printing.  To apply it at
a concrete value one needs some pair that satisfies the assumption **and** behaves there as the
real one was seen to.  Given a finite table of recorded exchanges, `encode` answers what was
recorded and otherwise writes the serial number of its argument, in a form that nothing recorded
has; `decode` is its partial inverse.

* **`decode_encode`** — the pair is a codec, for every sound table.
* `encode_recorded` — and it answers as recorded.
-/

namespace Recorded

open Function

variable {α μ : Type} [Countable α]

/-- The serial number of a value, as that many marks and one more. -/
noncomputable def serial (mark : μ) (a : α) : List μ :=
  List.replicate ((exists_injective_nat α).choose a + 1) mark

lemma mark_mem_serial (mark : μ) (a : α) : mark ∈ serial mark a := by
  simp [serial]

lemma serial_injective (mark : μ) : Injective (serial mark : α → List μ) := by
  intro a b h
  have hlen := congrArg List.length h
  simp only [serial, List.length_replicate, Nat.add_right_cancel_iff] at hlen
  exact (exists_injective_nat α).choose_spec hlen

/-- A table is sound when no output occurs twice and none contains the mark. -/
structure Sound (mark : μ) (table : List (α × List μ)) : Prop where
  distinct : (table.map Prod.snd).Nodup
  unmarked : ∀ entry ∈ table, mark ∉ entry.2

instance [DecidableEq μ] (mark : μ) (table : List (α × List μ)) : Decidable (Sound mark table) :=
  decidable_of_iff ((table.map Prod.snd).Nodup ∧ ∀ entry ∈ table, mark ∉ entry.2)
    ⟨fun h => ⟨h.1, h.2⟩, fun h => ⟨h.1, h.2⟩⟩

variable [DecidableEq α]

/-- What was recorded, and serial numbers elsewhere. -/
noncomputable def encode (mark : μ) (table : List (α × List μ)) (a : α) : List μ :=
  match table.find? fun entry => entry.1 = a with
  | some entry => entry.2
  | none => serial mark a

/-- The value whose encoding this is, if there is one. -/
noncomputable def decode (mark : μ) (table : List (α × List μ)) : List μ → Option α :=
  partialInv (encode mark table)

variable {mark : μ} {table : List (α × List μ)}

lemma encode_cases (mark : μ) (table : List (α × List μ)) (a : α) :
    (∃ b, (a, b) ∈ table ∧ encode mark table a = b) ∨ encode mark table a = serial mark a := by
  unfold encode
  cases hfind : table.find? fun entry => entry.1 = a with
  | none => exact Or.inr rfl
  | some entry =>
      have hmem := List.mem_of_find?_eq_some hfind
      have hkey : entry.1 = a := by simpa using List.find?_some hfind
      exact Or.inl ⟨entry.2, hkey ▸ hmem, rfl⟩

/-- The first entry of a table is answered as recorded. -/
lemma encode_recorded (a : α) (b : List μ) : encode mark ((a, b) :: table) a = b := by
  simp [encode]

lemma encode_injective (h : Sound mark table) : Injective (encode mark table) := by
  intro a a' heq
  have hserial : ∀ {a b} (x : α), (a, b) ∈ table → serial mark x ≠ b := by
    intro a b x hmem hx
    exact h.unmarked _ hmem (hx ▸ mark_mem_serial mark x)
  rcases encode_cases mark table a with ⟨b, hmem, hb⟩ | hb
  · rcases encode_cases mark table a' with ⟨b', hmem', hb'⟩ | hb'
    · obtain rfl : b = b' := hb.symm.trans (heq.trans hb')
      have := List.inj_on_of_nodup_map h.distinct hmem hmem' rfl
      exact congrArg Prod.fst this
    · exact absurd (hb'.symm.trans (heq.symm.trans hb)) (hserial a' hmem)
  · rcases encode_cases mark table a' with ⟨b', hmem', hb'⟩ | hb'
    · exact absurd (hb.symm.trans (heq.trans hb')) (hserial a hmem')
    · exact serial_injective mark (hb.symm.trans (heq.trans hb'))

/-- **Decoding undoes encoding.** -/
theorem decode_encode (h : Sound mark table) (a : α) :
    decode mark table (encode mark table a) = some a :=
  partialInv_left (encode_injective h) a

/-- Nothing without the mark is an encoding, unless it was recorded. -/
lemma encode_ne {b : List μ} (hmark : mark ∉ b) (htable : b ∉ table.map Prod.snd) (a : α) :
    encode mark table a ≠ b := by
  rintro rfl
  rcases encode_cases mark table a with ⟨b, hmem, hb⟩ | hb
  · exact htable (hb ▸ List.mem_map_of_mem (f := Prod.snd) hmem)
  · exact hmark (hb ▸ mark_mem_serial mark a)

end Recorded
