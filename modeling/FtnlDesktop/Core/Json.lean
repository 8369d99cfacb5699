import FtnlDesktop.Core.SelfDelimiting

/-!
# Compact JSON

JSON without insignificant white space, as a list of characters: numbers in decimal, strings with
the escapes that JSON requires and no others, objects and arrays of values that are already
written.  What comes out can be read back: each kind of value is self-delimiting, a number up to
the comma or brace behind it.

* **`escape_selfDelimiting`** — an escape is recognised wherever it stands.
* **`quote_selfDelimiting`**, **`number_delimited`**, **`bool_selfDelimiting`** — the values.
* **`members_cons`**, **`members_single`** — an object is read member by member.
-/

namespace Json

/-! ## Strings -/

/-- The characters that a JSON string cannot contain as they are. -/
def IsSpecial (c : Char) : Prop := c = '"' ∨ c = '\\' ∨ c.toNat < 32

instance (c : Char) : Decidable (IsSpecial c) := inferInstanceAs (Decidable (_ ∨ _ ∨ _))

/-- What stands behind the backslash. -/
def escapeCode (c : Char) : List Char :=
  if c = '"' then ['"']
  else if c = '\\' then ['\\']
  else if c.toNat = 8 then ['b']
  else if c.toNat = 9 then ['t']
  else if c.toNat = 10 then ['n']
  else if c.toNat = 12 then ['f']
  else if c.toNat = 13 then ['r']
  else ['u', '0', '0', Nat.digitChar (c.toNat / 16), Nat.digitChar (c.toNat % 16)]

def escape (c : Char) : List Char :=
  if IsSpecial c then '\\' :: escapeCode c else [c]

def quote (text : List Char) : List Char := '"' :: (text.flatMap escape ++ ['"'])

/-- The special characters. -/
def specials : List Char := '"' :: '\\' :: (List.range 32).map Char.ofNat

lemma mem_specials {c : Char} (h : IsSpecial c) : c ∈ specials := by
  rcases h with rfl | rfl | hlt
  · exact List.mem_cons_self
  · exact List.mem_cons_of_mem _ List.mem_cons_self
  · refine List.mem_cons_of_mem _ (List.mem_cons_of_mem _ (List.mem_map.mpr ⟨c.toNat, ?_, ?_⟩))
    · exact List.mem_range.mpr hlt
    · exact Char.ofNat_toNat c

/-- No two of them have escapes of which one begins the other. -/
lemma eq_of_escapeCode_isPrefix {c d : Char} (hc : IsSpecial c) (hd : IsSpecial d)
    (h : escapeCode c <+: escapeCode d) : c = d := by
  have hall : (specials.all fun c => specials.all fun d =>
      !(escapeCode c).isPrefixOf (escapeCode d) || c = d) = true := by decide +kernel
  have hpair := List.all_eq_true.mp (List.all_eq_true.mp hall c (mem_specials hc)) d
    (mem_specials hd)
  simpa [List.isPrefixOf_iff_prefix.mpr h] using hpair

/-- **Escapes are recognised.** -/
theorem escape_selfDelimiting : SelfDelimiting escape := by
  refine SelfDelimiting.of_isPrefix fun c d h => ?_
  by_cases hc : IsSpecial c
  · by_cases hd : IsSpecial d
    · rw [escape, escape, if_pos hc, if_pos hd, List.cons_prefix_cons] at h
      exact eq_of_escapeCode_isPrefix hc hd h.2
    · rw [escape, escape, if_pos hc, if_neg hd, List.cons_prefix_cons] at h
      exact absurd (h.1 ▸ Or.inr (Or.inl rfl)) hd
  · by_cases hd : IsSpecial d
    · rw [escape, escape, if_neg hc, if_pos hd, List.cons_prefix_cons] at h
      exact absurd (h.1 ▸ Or.inr (Or.inl rfl)) hc
    · rw [escape, escape, if_neg hc, if_neg hd, List.cons_prefix_cons] at h
      exact h.1

/-- No escape starts with the closing quote. -/
lemma escape_append_ne (c : Char) (x y : List Char) : escape c ++ x ≠ '"' :: y := by
  intro h
  by_cases hc : IsSpecial c
  · rw [escape, if_pos hc] at h
    exact absurd (List.cons.inj h).1 (by decide)
  · rw [escape, if_neg hc] at h
    exact hc (Or.inl (List.cons.inj h).1)

theorem quote_selfDelimiting : SelfDelimiting quote :=
  (SelfDelimiting.flatMap escape_selfDelimiting escape_append_ne).literal ['"']

/-- A text without special characters stands as it is. -/
lemma quote_of_plain {text : List Char} (h : ∀ c ∈ text, ¬ IsSpecial c) :
    quote text = '"' :: (text ++ ['"']) := by
  have hplain : text.flatMap escape = text := by
    induction text with
    | nil => rfl
    | cons c text ih =>
        rw [List.flatMap_cons, ih fun d hd => h d (List.mem_cons_of_mem _ hd), escape,
          if_neg (h c List.mem_cons_self)]
        rfl
  rw [quote, hplain]

/-- A text as a JSON string. -/
def string (text : String) : List Char := quote text.toList

theorem string_selfDelimiting : SelfDelimiting string :=
  quote_selfDelimiting.comp fun _ _ h => String.toList_inj.mp h

/-! ## Numbers and truth values -/

def number (n : ℕ) : List Char := Nat.toDigits 10 n

def bool (b : Bool) : List Char := if b then ['t', 'r', 'u', 'e'] else ['f', 'a', 'l', 's', 'e']

/-- What can stand behind a value inside an object or an array. -/
def IsStop (c : Char) : Prop := c = ',' ∨ c = '\x7d' ∨ c = ']'

lemma number_injective : Function.Injective number := by
  intro m n h
  rw [← Nat.ofDigitChars_ten_toDigits (n := m), ← Nat.ofDigitChars_ten_toDigits (n := n)]
  exact congrArg (fun l => Nat.ofDigitChars 10 l 0) h

theorem number_delimited : Delimited IsStop number := by
  have hdigits : ∀ n, ∀ c ∈ number n, c.isDigit = true := by
    intro n c hc
    exact Nat.isDigit_of_mem_toDigits (by decide) (by decide) hc
  refine delimited_of_letters number_injective hdigits ?_
  rintro t (rfl | rfl | rfl)
  · decide
  · decide
  · decide

theorem bool_selfDelimiting : SelfDelimiting bool :=
  SelfDelimiting.of_isPrefix (by decide)

/-! ## Objects and arrays -/

/-- The members of an object up to its closing brace; the values are already written. -/
def members : List (String × List Char) → List Char
  | [] => ['\x7d']
  | [(key, value)] => quote key.toList ++ ':' :: (value ++ ['\x7d'])
  | (key, value) :: next :: rest =>
      quote key.toList ++ ':' :: (value ++ ',' :: members (next :: rest))

def object (fields : List (String × List Char)) : List Char := '\x7b' :: members fields

def array {α : Type*} (write : α → List Char) : List α → List Char :=
  SelfDelimiting.writeArray '[' ',' ']' write

section

variable {α : Type*} {write : α → List Char} {a b : α} {key : String} {x y : List Char}
  {next next' : String × List Char} {rest rest' : List (String × List Char)}

/-- The first of several members is recognised. -/
theorem members_cons (hwrite : Delimited IsStop write)
    (h : members ((key, write a) :: next :: rest) ++ x
      = members ((key, write b) :: next' :: rest') ++ y) :
    a = b ∧ members (next :: rest) ++ x = members (next' :: rest') ++ y := by
  simp only [members, List.append_assoc, List.cons_append] at h
  have hvalue := (List.cons.inj (List.append_cancel_left h)).2
  obtain ⟨hab, hrest⟩ := hwrite a b _ _ _ _ (Or.inl rfl) (Or.inl rfl) hvalue
  exact ⟨hab, (List.cons.inj hrest).2⟩

/-- The last member is recognised. -/
theorem members_single (hwrite : Delimited IsStop write)
    (h : members [(key, write a)] ++ x = members [(key, write b)] ++ y) : a = b ∧ x = y := by
  simp only [members, List.append_assoc, List.cons_append, List.nil_append] at h
  have hvalue := (List.cons.inj (List.append_cancel_left h)).2
  obtain ⟨hab, hrest⟩ := hwrite a b _ _ _ _ (Or.inr (Or.inl rfl)) (Or.inr (Or.inl rfl)) hvalue
  exact ⟨hab, (List.cons.inj hrest).2⟩

/-- A last member is not taken for one that others follow. -/
theorem members_single_ne (hwrite : Delimited IsStop write) :
    members [(key, write a)] ++ x ≠ members ((key, write b) :: next :: rest) ++ y := by
  intro h
  simp only [members, List.append_assoc, List.cons_append, List.nil_append] at h
  have hvalue := (List.cons.inj (List.append_cancel_left h)).2
  obtain ⟨-, hrest⟩ := hwrite a b _ _ _ _ (Or.inr (Or.inl rfl)) (Or.inl rfl) hvalue
  exact absurd (List.cons.inj hrest).1 (by decide)

end

/-- Values that start with a quote or a brace do not start with the closing bracket. -/
theorem array_selfDelimiting {α : Type*} {write : α → List Char} (h : SelfDelimiting write)
    {first : Char} (hfirst : ∀ a, ∃ l, write a = first :: l) (hne : first ≠ ']') :
    SelfDelimiting (array write) := by
  refine SelfDelimiting.array h (by decide) ?_
  intro a x y hax
  obtain ⟨l, hl⟩ := hfirst a
  rw [hl] at hax
  exact hne (List.cons.inj hax).1

/-! ## Sizes -/

/-- The number of bytes of a text in UTF-8. -/
def size (text : List Char) : ℕ := (text.map Char.utf8Size).sum

@[simp] lemma size_nil : size [] = 0 := rfl

@[simp] lemma size_cons (c : Char) (text : List Char) :
    size (c :: text) = c.utf8Size + size text := List.sum_cons

@[simp] lemma size_append (text rest : List Char) :
    size (text ++ rest) = size text + size rest := by
  rw [size, List.map_append, List.sum_append]
  rfl

lemma size_replicate (n : ℕ) (c : Char) : size (List.replicate n c) = n * c.utf8Size := by
  rw [size, List.map_replicate, List.sum_replicate, smul_eq_mul]

/-- Characters that stand for themselves and take one byte. -/
def IsPlain (c : Char) : Prop := ¬ IsSpecial c ∧ c.utf8Size = 1

instance (c : Char) : Decidable (IsPlain c) := inferInstanceAs (Decidable (_ ∧ _))

lemma size_of_plain {text : List Char} (h : ∀ c ∈ text, IsPlain c) : size text = text.length := by
  induction text with
  | nil => rfl
  | cons c text ih =>
      rw [size_cons, (h c List.mem_cons_self).2, ih fun d hd => h d (List.mem_cons_of_mem _ hd),
        List.length_cons, Nat.add_comm]

lemma size_quote {text : List Char} (h : ∀ c ∈ text, ¬ IsSpecial c) :
    size (quote text) = size text + 2 := by
  rw [quote_of_plain h, size_cons, size_append, size_cons, size_nil]
  have hquote : '"'.utf8Size = 1 := by decide
  omega

/-- A plain text gets two quotes around it. -/
lemma size_quote_of_plain {text : List Char} (h : ∀ c ∈ text, IsPlain c) :
    size (quote text) = text.length + 2 := by
  rw [size_quote fun c hc => (h c hc).1, size_of_plain h]

lemma size_members_cons (key : String) (value : List Char) (next : String × List Char)
    (rest : List (String × List Char)) :
    size (members ((key, value) :: next :: rest))
      = size (string key) + size value + 2 + size (members (next :: rest)) := by
  have hcolon : ':'.utf8Size = 1 := by decide
  have hcomma : ','.utf8Size = 1 := by decide
  simp only [members, size_append, size_cons, hcolon, hcomma, string]
  omega

lemma size_members_single (key : String) (value : List Char) :
    size (members [(key, value)]) = size (string key) + size value + 2 := by
  have hcolon : ':'.utf8Size = 1 := by decide
  have hbrace : '\x7d'.utf8Size = 1 := by decide
  simp only [members, size_append, size_cons, size_nil, hcolon, hbrace, string]
  omega

lemma size_object (fields : List (String × List Char)) :
    size (object fields) = size (members fields) + 1 := by
  have hbrace : '\x7b'.utf8Size = 1 := by decide
  rw [object, size_cons, hbrace, Nat.add_comm]

/-- Values of one size, with a comma or the closing bracket behind each. -/
lemma size_array_of_eq {α : Type*} {write : α → List Char} {width : ℕ} {a : α} {l : List α}
    (ha : size (write a) = width) (hl : ∀ b ∈ l, size (write b) = width) :
    size (array write (a :: l)) = (l.length + 1) * (width + 1) + 1 := by
  have hopening : '['.utf8Size = 1 := by decide
  have hcomma : ','.utf8Size = 1 := by decide
  have hclosing : ']'.utf8Size = 1 := by decide
  have htail : size (SelfDelimiting.arrayTail ',' ']' write l) = l.length * (width + 1) + 1 := by
    clear ha
    induction l with
    | nil => simp [SelfDelimiting.arrayTail, hclosing]
    | cons b l ih =>
        simp only [SelfDelimiting.arrayTail, size_cons, size_append, hcomma,
          hl b List.mem_cons_self, ih fun c hc => hl c (List.mem_cons_of_mem _ hc),
          List.length_cons]
        ring
  simp only [array, SelfDelimiting.writeArray, size_cons, size_append, hopening, ha, htail]
  ring

end Json
