import FtnlDesktop.Core.Method
import FtnlDesktop.Core.SortedSet

/-!
# Types of the standard library and of the digest

What the modules share with Rust's standard library: byte strings, identifiers, points in time
and checked 64-bit arithmetic.  `text.len()` is `String.utf8ByteSize`, `text.chars().count()` is
`String.length`, and `text.as_bytes()` is `asBytes`.

SHA-256 is a third-party crate; it enters every definition that hashes as the parameter
`sha256 : Bytes → Digest`, and no result below assumes anything about it.
-/

namespace FtnlDesktop

/-- `Vec<u8>`, `&[u8]` and `[u8; N]`. -/
abbrev Bytes := List UInt8

/-- `[u8; 32]`, the output of `Sha256::digest`. -/
abbrev Digest := List.Vector UInt8 32

/-- SHA-256 of `"a"`, and of `"b"` for every other input: the two texts that the closed examples
of later files ingest. -/
def exampleSha256 (input : Bytes) : Digest :=
  if input = [97] then
    ⟨[0xca, 0x97, 0x81, 0x12, 0xca, 0x1b, 0xbd, 0xca, 0xfa, 0xc2, 0x31, 0xb3,
      0x9a, 0x23, 0xdc, 0x4d, 0xa7, 0x86, 0xef, 0xf8, 0x14, 0x7c, 0x4e, 0x72,
      0xb9, 0x80, 0x77, 0x85, 0xaf, 0xee, 0x48, 0xbb], rfl⟩
  else
    ⟨[0x3e, 0x23, 0xe8, 0x16, 0x00, 0x39, 0x59, 0x4a, 0x33, 0x89, 0x4f, 0x65,
      0x64, 0xe1, 0xb1, 0x34, 0x8b, 0xbd, 0x7a, 0x00, 0x88, 0xd4, 0x2c, 0x4a,
      0xcb, 0x73, 0xee, 0xae, 0xd5, 0x9c, 0x00, 0x9d], rfl⟩

/-- A `uuid::Uuid`, by its 128-bit value. -/
abbrev Uuid := BitVec 128

/-- A `std::time::SystemTime`, as nanoseconds since `UNIX_EPOCH`; times before it are negative. -/
abbrev SystemTime := ℤ

/-- A `std::time::Duration` in nanoseconds. -/
abbrev Duration := ℕ

def NANOS_PER_SEC : ℕ := 1000000000

/-- `Duration::from_secs`. -/
def fromSecs (secs : ℕ) : Duration := secs * NANOS_PER_SEC

/-- `Duration::from_millis`. -/
def fromMillis (millis : ℕ) : Duration := millis * 1000000

/-- A `std::time::Instant`, in nanoseconds of a monotonic clock. -/
abbrev Instant := ℕ

/-- `earlier.elapsed()` at the instant `now`, which saturates at zero. -/
def elapsed (now earlier : Instant) : Duration := now - earlier

/-- `later.duration_since(earlier).ok()`. -/
def durationSince (later earlier : SystemTime) : Option Duration :=
  if earlier ≤ later then some (later - earlier).toNat else none

/-- `char::is_whitespace`: the Unicode property White_Space. -/
def isWhitespace (c : Char) : Bool :=
  (0x9 ≤ c.toNat && c.toNat ≤ 0xd) || c.toNat = 0x20 || c.toNat = 0x85 || c.toNat = 0xa0
    || c.toNat = 0x1680 || (0x2000 ≤ c.toNat && c.toNat ≤ 0x200a) || c.toNat = 0x2028
    || c.toNat = 0x2029 || c.toNat = 0x202f || c.toNat = 0x205f || c.toNat = 0x3000

/-- `str::trim`. -/
def trim (text : String) : String :=
  String.ofList ((text.toList.dropWhile isWhitespace).rdropWhile isWhitespace)

/-- `str::as_bytes`. -/
def asBytes (text : String) : Bytes := text.toByteArray.data.toList

lemma asBytes_ofList (l : List Char) :
    asBytes (String.ofList l) = l.flatMap String.utf8EncodeChar := by
  rw [asBytes, String.toByteArray_ofList, List.utf8Encode, List.toList_data_toByteArray]

lemma length_asBytes (text : String) : (asBytes text).length = text.utf8ByteSize := by
  rw [asBytes, Array.length_toList]
  rfl

lemma length_asBytes_ofList (l : List Char) :
    (asBytes (String.ofList l)).length = (l.map Char.utf8Size).sum := by
  rw [asBytes_ofList, List.length_flatMap]
  simp only [String.length_utf8EncodeChar]

/-- A character takes at most four bytes. -/
lemma utf8ByteSize_ofList_le (l : List Char) :
    (String.ofList l).utf8ByteSize ≤ 4 * l.length := by
  rw [← length_asBytes, length_asBytes_ofList]
  induction l with
  | nil => simp
  | cons c l ih =>
      have hsize := c.utf8Size_le_four
      rw [List.map_cons, List.sum_cons, List.length_cons]
      omega

lemma asBytes_injective : Function.Injective asBytes := by
  intro s t h
  rw [← String.toByteArray_inj]
  exact ByteArray.ext (Array.toList_inj.mp h)

lemma ne_of_mem_utf8EncodeChar {c : Char} {byte : UInt8} (h : byte ∈ String.utf8EncodeChar c) :
    byte ≠ 255 := by
  rintro rfl
  have hne : ∀ n : ℕ, n < 255 → (255 : UInt8) ≠ UInt8.ofNat n := by
    intro n hn heq
    have hval := congrArg UInt8.toNat heq
    rw [UInt8.toNat_ofNat', Nat.mod_eq_of_lt (by omega)] at hval
    have : n = 255 := hval.symm
    omega
  simp only [String.utf8EncodeChar] at h
  split_ifs at h
  all_goals
    simp only [List.mem_cons, List.not_mem_nil, or_false] at h
  · exact hne _ (by omega) h
  · rcases h with h | h
    · exact hne _ (by omega) h
    · exact hne _ (by omega) h
  · rcases h with h | h | h
    · exact hne _ (by omega) h
    · exact hne _ (by omega) h
    · exact hne _ (by omega) h
  · rcases h with h | h | h | h
    · exact hne _ (by omega) h
    · exact hne _ (by omega) h
    · exact hne _ (by omega) h
    · exact hne _ (by omega) h

/-- UTF-8 never uses the byte `0xff`. -/
lemma not_mem_asBytes (text : String) : 255 ∉ asBytes text := by
  intro h
  rw [← String.ofList_toList (s := text), asBytes_ofList] at h
  obtain ⟨c, -, hc⟩ := List.mem_flatMap.mp h
  exact ne_of_mem_utf8EncodeChar hc rfl

/-- `a.checked_add(b)` on `u64`. -/
def checkedAddU64 (a b : ℕ) : Option ℕ :=
  if a + b < 2 ^ 64 then some (a + b) else none

end FtnlDesktop
