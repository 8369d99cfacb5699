import FtnlDesktop.Bluetooth.Session
import FtnlDesktop.Core.Slice

/-!
# The hello

The public half of a handshake and its canonical encoding, from `src/secure_bluetooth.rs`:

`"FTBH" | version | role | session id, 16 | contribution, 16 | length, 1 | device id | key, 32`

`decode` parses bytes of an untrusted peer, so it is modelled with its indexing (`Slice`): a read
outside the slice would be a panic.

* **`hello_codec`** — `decode` never panics, accepts exactly the byte strings of this form
  (`IsHello`), and is the inverse of `encode` on the hellos that `validate` accepts.

The key lemma is `run_decode_eq_ok`: the bytes that decode to a hello are its encoding.
-/

namespace FtnlDesktop

open Method

/-- `b"FTBH"`. -/
def HELLO_MAGIC : Bytes := [70, 84, 66, 72]
def HELLO_FIXED_LEN : ℕ := 4 + 1 + 1 + 16 + 16 + 1 + 32
def MIN_DEVICE_ID_LEN : ℕ := 8
def MAX_DEVICE_ID_LEN : ℕ := 64

/-! ## Roles -/

/-- `role as u8`. -/
def BluetoothRole.toByte : BluetoothRole → UInt8
  | .Initiator => 0
  | .Responder => 1

def BluetoothRole.fromByte (value : UInt8) : Except SecureBluetoothError BluetoothRole :=
  if value = 0 then .ok .Initiator
  else if value = 1 then .ok .Responder
  else .error .InvalidHello

def BluetoothRole.opposite : BluetoothRole → BluetoothRole
  | .Initiator => .Responder
  | .Responder => .Initiator

lemma BluetoothRole.fromByte_eq_ok {value : UInt8} {role : BluetoothRole} :
    BluetoothRole.fromByte value = .ok role ↔ value = role.toByte := by
  rw [BluetoothRole.fromByte]
  constructor
  · intro h
    split_ifs at h with hzero hone
    · obtain rfl := Except.ok.inj h
      exact hzero
    · obtain rfl := Except.ok.inj h
      exact hone
  · rintro rfl
    cases role <;> rfl

/-! ## The hello -/

abbrev Contribution := List.Vector UInt8 16
abbrev PublicKey := List.Vector UInt8 32

structure BluetoothHello where
  role : BluetoothRole
  sessionId : SessionId
  contribution : Contribution
  deviceId : String
  publicKey : PublicKey
deriving DecidableEq

/-- `u8::is_ascii_alphanumeric`. -/
def isAsciiAlphanumeric (byte : UInt8) : Prop :=
  isAsciiDigit byte ∨ (65 ≤ byte ∧ byte ≤ 90) ∨ (97 ≤ byte ∧ byte ≤ 122)

/-- The bytes `[A-Za-z0-9_-]`. -/
def isDeviceIdByte (byte : UInt8) : Prop := isAsciiAlphanumeric byte ∨ byte = 95 ∨ byte = 45

instance (byte : UInt8) : Decidable (isDeviceIdByte byte) := by
  unfold isDeviceIdByte isAsciiAlphanumeric
  infer_instance

def deviceIdIsValid (value : String) : Prop :=
  (MIN_DEVICE_ID_LEN ≤ value.utf8ByteSize ∧ value.utf8ByteSize ≤ MAX_DEVICE_ID_LEN)
    ∧ ∀ byte ∈ asBytes value, isDeviceIdByte byte
deriving Decidable

/-- `str::from_utf8`. -/
def fromUtf8 (bytes : Bytes) : Option String := String.fromUTF8? ⟨bytes.toArray⟩

namespace BluetoothHello

def encode (self : BluetoothHello) : Bytes :=
  let id := asBytes self.deviceId
  -- `id.len() as u8` keeps the low byte
  HELLO_MAGIC ++ [VERSION] ++ [self.role.toByte] ++ self.sessionId.toList
    ++ self.contribution.toList ++ [UInt8.ofNat id.length] ++ id ++ self.publicKey.toList

def validate (self : BluetoothHello) : Except SecureBluetoothError Unit :=
  rejectIf (¬ deviceIdIsValid self.deviceId ∨ self.sessionId = List.Vector.replicate 16 0
    ∨ self.contribution = List.Vector.replicate 16 0
    ∨ self.publicKey = List.Vector.replicate 32 0) SecureBluetoothError.InvalidHello

open Slice in
def decode (bytes : Bytes) : Panicking SecureBluetoothError BluetoothHello := do
  rejectIf (bytes.length < HELLO_FIXED_LEN ∨ rangeAt bytes 0 4 ≠ some HELLO_MAGIC)
    SecureBluetoothError.InvalidHello
  -- the last operand of the `||` is evaluated only here
  let version ← index bytes 4
  rejectIf (version ≠ VERSION) SecureBluetoothError.InvalidHello
  let roleByte ← index bytes 5
  let role ← ofResult (BluetoothRole.fromByte roleByte)
  let sessionId ← array 16 bytes 6
  let contribution ← array 16 bytes 22
  let lenByte ← index bytes 38
  let idLen := lenByte.toNat
  rejectIf (¬ (MIN_DEVICE_ID_LEN ≤ idLen ∧ idLen ≤ MAX_DEVICE_ID_LEN)
    ∨ bytes.length ≠ HELLO_FIXED_LEN + idLen) SecureBluetoothError.InvalidHello
  let idEnd := 39 + idLen
  let idBytes ← range bytes 39 idEnd
  let deviceId ← ofResult (okOr (fromUtf8 idBytes) SecureBluetoothError.InvalidHello)
  let publicKey ← array 32 bytes idEnd
  let hello : BluetoothHello := { role, sessionId, contribution, deviceId, publicKey }
  ofResult hello.validate
  return hello

end BluetoothHello

/-! ## Device ids are ASCII -/

lemma fromUtf8_eq_some {bytes : Bytes} {text : String} :
    fromUtf8 bytes = some text ↔ asBytes text = bytes := by
  rw [fromUtf8, String.fromUTF8?]
  constructor
  · intro h
    split_ifs at h with hvalid
    obtain rfl := Option.some.inj h
    rfl
  · rintro rfl
    have hself : (⟨(asBytes text).toArray⟩ : ByteArray) = text.toByteArray := by
      rw [asBytes, Array.toArray_toList]
    rw [dif_pos (by rw [hself]; exact text.isValidUTF8)]
    exact congrArg some (asBytes_injective rfl)

lemma lt_of_isDeviceIdByte {byte : UInt8} (h : isDeviceIdByte byte) : byte.toNat < 128 := by
  simp only [isDeviceIdByte, isAsciiAlphanumeric, isAsciiDigit, UInt8.le_iff_toNat_le,
    UInt8.ext_iff, UInt8.reduceToNat] at h
  omega

/-- ASCII bytes are the UTF-8 of a text. -/
lemma exists_asBytes_eq {bytes : Bytes} (h : ∀ byte ∈ bytes, byte.toNat < 128) :
    ∃ text, asBytes text = bytes := by
  refine ⟨String.ofList (bytes.map fun byte => Char.ofNat byte.toNat), ?_⟩
  rw [asBytes_ofList]
  induction bytes with
  | nil => rfl
  | cons byte bytes ih =>
      have hlt : byte.toNat < 128 := h byte List.mem_cons_self
      have hval : (Char.ofNat byte.toNat).val.toNat = byte.toNat := by
        rw [Char.ofNat, dif_pos (Or.inl (by omega))]
        rfl
      have hone : String.utf8EncodeChar (Char.ofNat byte.toNat) = [byte] := by
        simp only [String.utf8EncodeChar, hval]
        rw [if_pos (by omega), UInt8.ofNat_toNat]
      rw [List.map_cons, List.flatMap_cons, hone,
        ih fun b hb => h b (List.mem_cons_of_mem _ hb)]
      rfl

/-! ## Decoding -/

namespace BluetoothHello

lemma validate_eq_ok {self : BluetoothHello} {u : Unit} :
    self.validate = .ok u ↔ deviceIdIsValid self.deviceId
      ∧ self.sessionId ≠ List.Vector.replicate 16 0
      ∧ self.contribution ≠ List.Vector.replicate 16 0
      ∧ self.publicKey ≠ List.Vector.replicate 32 0 := by
  rw [validate, rejectIf_eq_ok]
  simp only [not_or, not_not, ne_eq]

/-- **`decode` returns on every input.**  Each length check comes before the reads it protects. -/
theorem completes_decode (bytes : Bytes) : Slice.Completes (decode bytes) := by
  refine Slice.completes_rejectIf_bind fun hfixed => ?_
  rw [not_or, not_lt, HELLO_FIXED_LEN] at hfixed
  refine Slice.completes_index_bind (by omega) fun version _ => ?_
  refine Slice.completes_rejectIf_bind fun _ => ?_
  refine Slice.completes_index_bind (by omega) fun roleByte _ => ?_
  refine Slice.completes_ofResult_bind fun role _ => ?_
  refine Slice.completes_array_bind (by omega) fun sessionId _ => ?_
  refine Slice.completes_array_bind (by omega) fun contribution _ => ?_
  refine Slice.completes_index_bind (by omega) fun lenByte _ => ?_
  refine Slice.completes_rejectIf_bind fun hlen => ?_
  simp only [not_or, not_not, HELLO_FIXED_LEN] at hlen
  refine Slice.completes_range_bind (by omega) (by omega) fun idBytes _ => ?_
  refine Slice.completes_ofResult_bind fun deviceId _ => ?_
  refine Slice.completes_array_bind (by omega) fun publicKey _ => ?_
  exact Slice.completes_ofResult_bind fun _ _ => Slice.completes_pure _

/-- The encoding, with what follows each field behind it. -/
lemma encode_eq (self : BluetoothHello) :
    self.encode = HELLO_MAGIC ++ (VERSION :: self.role.toByte :: (self.sessionId.toList
      ++ (self.contribution.toList ++ (UInt8.ofNat (asBytes self.deviceId).length ::
        (asBytes self.deviceId ++ self.publicKey.toList))))) := by
  simp only [encode, List.append_assoc, List.cons_append, List.nil_append]

lemma length_encode (self : BluetoothHello) :
    self.encode.length = HELLO_FIXED_LEN + (asBytes self.deviceId).length := by
  simp only [encode_eq, HELLO_MAGIC, HELLO_FIXED_LEN, List.length_append, List.length_cons,
    List.length_nil, List.Vector.toList_length]
  omega

/-- Where each field of an encoding begins. -/
lemma drop_encode (self : BluetoothHello) :
    let id := asBytes self.deviceId
    self.encode.drop 0 = HELLO_MAGIC ++ self.encode.drop 4
      ∧ self.encode.drop 4 = VERSION :: self.encode.drop 5
      ∧ self.encode.drop 5 = self.role.toByte :: self.encode.drop 6
      ∧ self.encode.drop 6 = self.sessionId.toList ++ self.encode.drop 22
      ∧ self.encode.drop 22 = self.contribution.toList ++ self.encode.drop 38
      ∧ self.encode.drop 38 = UInt8.ofNat id.length :: self.encode.drop 39
      ∧ self.encode.drop 39 = id ++ self.encode.drop (39 + id.length)
      ∧ self.encode.drop (39 + id.length)
        = self.publicKey.toList ++ self.encode.drop (39 + id.length + 32) := by
  intro id
  have hsession : self.encode.drop 6 = self.sessionId.toList ++ (self.contribution.toList
      ++ (UInt8.ofNat id.length :: (id ++ self.publicKey.toList))) := by
    rw [encode_eq]
    rfl
  have hcontribution : self.encode.drop 22 = self.contribution.toList
      ++ (UInt8.ofNat id.length :: (id ++ self.publicKey.toList)) := by
    rw [show 22 = 6 + 16 from rfl, ← List.drop_drop, hsession,
      List.drop_left' (List.Vector.toList_length _)]
  have hlen : self.encode.drop 38
      = UInt8.ofNat id.length :: (id ++ self.publicKey.toList) := by
    rw [show 38 = 22 + 16 from rfl, ← List.drop_drop, hcontribution,
      List.drop_left' (List.Vector.toList_length _)]
  have hid : self.encode.drop 39 = id ++ self.publicKey.toList := by
    rw [show 39 = 38 + 1 from rfl, ← List.drop_drop, hlen]
    rfl
  have hkey : self.encode.drop (39 + id.length) = self.publicKey.toList := by
    rw [← List.drop_drop, hid, List.drop_left]
  have hend : self.encode.drop (39 + id.length + 32) = [] := by
    rw [← List.drop_drop, hkey]
    exact List.drop_eq_nil_of_le (List.Vector.toList_length _).le
  refine ⟨?_, ?_, ?_, ?_, ?_, ?_, ?_, ?_⟩
  · rw [encode_eq]
    rfl
  · rw [encode_eq]
    rfl
  · rw [encode_eq]
    rfl
  · rw [hsession, hcontribution]
  · rw [hcontribution, hlen]
  · rw [hlen, hid]
  · rw [hid, hkey]
  · rw [hkey, hend, List.append_nil]

/-- **What decodes to a hello is its encoding**, and the hello is valid. -/
theorem run_decode_eq_ok {bytes : Bytes} {hello : BluetoothHello} :
    (decode bytes).run = some (.ok hello) ↔ hello.validate = .ok () ∧ hello.encode = bytes := by
  simp only [decode, Slice.run_rejectIf_bind_eq_ok, Slice.run_index_bind_eq_ok,
    Slice.run_ofResult_bind_eq_ok, Slice.run_array_bind_eq_ok, Slice.run_range_bind_eq_ok,
    Slice.run_pure_eq_ok, not_or, not_not, not_lt, BluetoothRole.fromByte_eq_ok, okOr_eq_ok,
    fromUtf8_eq_some, Slice.getElem?_eq_some_iff_drop, Slice.arrayAt_eq_some_iff_drop,
    Slice.rangeAt_eq_some_iff_drop]
  constructor
  · rintro ⟨⟨hfixed, -, -, -, hmagic⟩, _, hversion, rfl, _, hrole, role, rfl, sessionId,
      ⟨-, hsession⟩, contribution, ⟨-, hcontribution⟩, lenByte, hlenByte, ⟨-, hlen⟩, _,
      ⟨-, -, hidLen, hid⟩, deviceId, rfl, publicKey, ⟨-, hkey⟩, ⟨⟩, hvalid, rfl⟩
    refine ⟨hvalid, ?_⟩
    have hlow : UInt8.ofNat (asBytes deviceId).length = lenByte := by
      rw [hidLen, Nat.add_sub_cancel_left, UInt8.ofNat_toNat]
    have hend : bytes.drop (39 + lenByte.toNat + 32) = [] := by
      refine List.drop_eq_nil_of_le ?_
      rw [hlen, HELLO_FIXED_LEN]
      omega
    calc BluetoothHello.encode ⟨role, sessionId, contribution, deviceId, publicKey⟩
        = bytes.drop 0 := by
          rw [encode_eq, hlow, hmagic, hversion, hrole, hsession, hcontribution, hlenByte, hid,
            hkey, hend, List.append_nil]
      _ = bytes := List.drop_zero
  · rintro ⟨hvalid, rfl⟩
    obtain ⟨hmagic, hversion, hrole, hsession, hcontribution, hlenByte, hid, hkey⟩ :=
      hello.drop_encode
    have hlen := hello.length_encode
    obtain ⟨⟨⟨hmin, hmax⟩, -⟩, -⟩ := validate_eq_ok.mp hvalid
    rw [← length_asBytes] at hmin hmax
    have hlow : (UInt8.ofNat (asBytes hello.deviceId).length).toNat
        = (asBytes hello.deviceId).length := by
      rw [UInt8.toNat_ofNat', Nat.mod_eq_of_lt]
      rw [MAX_DEVICE_ID_LEN] at hmax
      omega
    rw [HELLO_FIXED_LEN] at hlen
    refine ⟨⟨by rw [hlen, HELLO_FIXED_LEN]; omega, Nat.zero_le _, by omega, rfl, hmagic⟩,
      VERSION, hversion, rfl, _, hrole, hello.role, rfl, hello.sessionId,
      ⟨by omega, hsession⟩, hello.contribution, ⟨by omega, hcontribution⟩, _, hlenByte, ?_⟩
    rw [hlow]
    exact ⟨⟨⟨hmin, hmax⟩, hlen⟩, asBytes hello.deviceId,
      ⟨by omega, by omega, by omega, hid⟩, hello.deviceId, rfl, hello.publicKey,
      ⟨by omega, hkey⟩, (), hvalid, rfl⟩

end BluetoothHello

/-! ## The language of hellos -/

/-- `[u8; n]` with some byte that is not zero. -/
def IsNonzeroArray (n : ℕ) (bytes : Bytes) : Prop := bytes.length = n ∧ ∃ byte ∈ bytes, byte ≠ 0

/-- The byte strings that a peer may send as its hello. -/
def IsHello (bytes : Bytes) : Prop :=
  ∃ (role : UInt8) (sessionId contribution deviceId publicKey : Bytes),
    bytes = HELLO_MAGIC ++ [1] ++ [role] ++ sessionId ++ contribution
      ++ [UInt8.ofNat deviceId.length] ++ deviceId ++ publicKey
    ∧ (role = 0 ∨ role = 1)
    ∧ IsNonzeroArray 16 sessionId
    ∧ IsNonzeroArray 16 contribution
    ∧ (8 ≤ deviceId.length ∧ deviceId.length ≤ 64)
    ∧ (∀ byte ∈ deviceId, isDeviceIdByte byte)
    ∧ IsNonzeroArray 32 publicKey

lemma ne_replicate_iff {n : ℕ} {v : List.Vector UInt8 n} :
    v ≠ List.Vector.replicate n 0 ↔ IsNonzeroArray n v.toList := by
  have hzero : v = List.Vector.replicate n 0 ↔ ∀ byte ∈ v.toList, byte = 0 := by
    rw [← List.Vector.toList_injective.eq_iff]
    constructor
    · intro h byte hbyte
      rw [h] at hbyte
      exact List.eq_of_mem_replicate hbyte
    · intro h
      exact List.eq_replicate_iff.mpr ⟨v.toList_length, h⟩
  rw [IsNonzeroArray, Ne, hzero]
  push Not
  exact (and_iff_right v.toList_length).symm

/-- The encodings of valid hellos are this language. -/
lemma isHello_iff {bytes : Bytes} :
    IsHello bytes ↔ ∃ hello : BluetoothHello, hello.validate = .ok () ∧ hello.encode = bytes := by
  simp only [BluetoothHello.validate_eq_ok, ne_replicate_iff]
  constructor
  · rintro ⟨role, sessionId, contribution, deviceId, publicKey, rfl, hrole, hsession,
      hcontribution, hlen, hchars, hkey⟩
    obtain ⟨text, rfl⟩ := exists_asBytes_eq fun byte hbyte =>
      lt_of_isDeviceIdByte (hchars byte hbyte)
    obtain ⟨role, rfl⟩ : ∃ r : BluetoothRole, r.toByte = role := by
      rcases hrole with rfl | rfl
      · exact ⟨.Initiator, rfl⟩
      · exact ⟨.Responder, rfl⟩
    rw [length_asBytes] at hlen
    exact ⟨⟨role, ⟨sessionId, hsession.1⟩, ⟨contribution, hcontribution.1⟩, text,
      ⟨publicKey, hkey.1⟩⟩, ⟨⟨hlen, hchars⟩, hsession, hcontribution, hkey⟩, rfl⟩
  · rintro ⟨hello, ⟨⟨hlen, hchars⟩, hsession, hcontribution, hkey⟩, rfl⟩
    refine ⟨hello.role.toByte, hello.sessionId.toList, hello.contribution.toList,
      asBytes hello.deviceId, hello.publicKey.toList, rfl, ?_, hsession, hcontribution, ?_, hchars,
      hkey⟩
    · cases hello.role
      · exact Or.inl rfl
      · exact Or.inr rfl
    · rw [length_asBytes]
      exact hlen

/-- **The codec of hellos** is a bijection onto its language, and `decode` returns on every
input. -/
theorem hello_codec :
    (∀ hello : BluetoothHello, hello.validate = .ok () →
      (BluetoothHello.decode hello.encode).run = some (.ok hello)) ∧
    (∀ bytes, (BluetoothHello.decode bytes).run ≠ none) ∧
    (∀ bytes hello, (BluetoothHello.decode bytes).run = some (.ok hello) →
      hello.encode = bytes) ∧
    (∀ bytes, (∃ hello, (BluetoothHello.decode bytes).run = some (.ok hello)) ↔ IsHello bytes) := by
  refine ⟨?_, BluetoothHello.completes_decode, ?_, ?_⟩
  · intro hello hvalid
    exact BluetoothHello.run_decode_eq_ok.mpr ⟨hvalid, rfl⟩
  · intro bytes hello hdecode
    exact (BluetoothHello.run_decode_eq_ok.mp hdecode).2
  · intro bytes
    simp only [BluetoothHello.run_decode_eq_ok, isHello_iff]

/-- The initiator's hello of the test `fixed_vector_is_stable_for_dart_conformance`. -/
def vectorInitiatorHello : BluetoothHello where
  role := .Initiator
  sessionId := List.Vector.replicate 16 1
  contribution := List.Vector.replicate 16 2
  deviceId := "desktop-a"
  publicKey :=
    ⟨[0x5d, 0xfe, 0xdd, 0x3b, 0x6b, 0xd4, 0x7f, 0x6f, 0xa2, 0x8e, 0xe1, 0x5d,
      0x96, 0x9d, 0x5b, 0xb0, 0xea, 0x53, 0x77, 0x4d, 0x48, 0x8b, 0xda, 0xf9,
      0xdf, 0x1c, 0x6e, 0x01, 0x24, 0xb3, 0xef, 0x22], rfl⟩

/-- It comes back, and with a byte behind it it does not. -/
theorem hello_codec_vector :
    vectorInitiatorHello.encode.length = 80
      ∧ (BluetoothHello.decode vectorInitiatorHello.encode).run = some (.ok vectorInitiatorHello)
      ∧ ¬ ∃ hello, (BluetoothHello.decode (vectorInitiatorHello.encode ++ [0])).run
          = some (.ok hello) := by
  refine ⟨by decide +kernel, hello_codec.1 vectorInitiatorHello (by decide +kernel), ?_⟩
  rintro ⟨hello, hdecode⟩
  have hrejected : (BluetoothHello.decode (vectorInitiatorHello.encode ++ [0])).run
      = some (.error .InvalidHello) := by decide +kernel
  simp [hrejected] at hdecode

end FtnlDesktop
