import FtnlDesktop.Bluetooth.Session

/-!
# What a frame carries

The reader of a frame finds in it what the writer put there: `headerBytes` is the header as one
value, and each field of it is read back from the frame it begins.  On top of that stand the two
equivalences that later files use in place of the methods:

* **`run_encrypt_eq_ok`** — when `encrypt` succeeds, with which frame and which session;
* **`run_decrypt_eq_ok`** — when `decrypt` succeeds, with which payload and which session;

and **`atomic_encrypt`**, **`atomic_decrypt`** — neither changes the session when it fails.
-/

namespace FtnlDesktop

open Method BigEndian

/-! ## The header -/

/-- The sixteen bytes in front of a ciphertext. -/
def headerBytes (messageType : BluetoothMessageType) (counter ciphertextLen : ℕ) : Bytes :=
  FRAME_MAGIC ++ [VERSION, messageType.toByte] ++ toBeBytes 8 counter ++ toBeBytes 2 ciphertextLen

lemma frameHeader_eq_ok {messageType : BluetoothMessageType} {counter ciphertextLen : ℕ}
    {header : Bytes} :
    frameHeader messageType counter ciphertextLen = .ok header ↔
      ciphertextLen < 2 ^ 16 ∧ headerBytes messageType counter ciphertextLen = header := by
  simp only [frameHeader, bind_eq_ok, rejectIf_eq_ok, pure_eq_ok, not_le, headerBytes]
  constructor
  · rintro ⟨-, hlen, heq⟩
    exact ⟨hlen, heq⟩
  · rintro ⟨hlen, heq⟩
    exact ⟨(), hlen, heq⟩

section Header

variable (messageType : BluetoothMessageType) (counter ciphertextLen : ℕ) (ciphertext : Bytes)

@[simp] lemma length_headerBytes :
    (headerBytes messageType counter ciphertextLen).length = FRAME_HEADER_LEN := by
  simp [headerBytes, FRAME_MAGIC, FRAME_HEADER_LEN]

@[simp] lemma take_headerBytes_append :
    (headerBytes messageType counter ciphertextLen ++ ciphertext).take FRAME_HEADER_LEN
      = headerBytes messageType counter ciphertextLen :=
  List.take_left' (length_headerBytes _ _ _)

@[simp] lemma drop_headerBytes_append :
    (headerBytes messageType counter ciphertextLen ++ ciphertext).drop FRAME_HEADER_LEN
      = ciphertext :=
  List.drop_left' (length_headerBytes _ _ _)

@[simp] lemma take_four_headerBytes_append :
    (headerBytes messageType counter ciphertextLen ++ ciphertext).take 4 = FRAME_MAGIC := rfl

@[simp] lemma getD_four_headerBytes_append :
    (headerBytes messageType counter ciphertextLen ++ ciphertext).getD 4 0 = VERSION := rfl

@[simp] lemma getD_five_headerBytes_append :
    (headerBytes messageType counter ciphertextLen ++ ciphertext).getD 5 0
      = messageType.toByte := rfl

variable {counter ciphertextLen}

lemma frameCounter_headerBytes_append (h : counter < 2 ^ 64) :
    SecureBluetoothSession.frameCounter
      (headerBytes messageType counter ciphertextLen ++ ciphertext) = counter := by
  have hslice : ((headerBytes messageType counter ciphertextLen ++ ciphertext).take 14).drop 6
      = toBeBytes 8 counter := by
    have hassoc : headerBytes messageType counter ciphertextLen ++ ciphertext
        = (FRAME_MAGIC ++ [VERSION, messageType.toByte])
          ++ (toBeBytes 8 counter ++ (toBeBytes 2 ciphertextLen ++ ciphertext)) := by
      simp only [headerBytes, List.append_assoc]
    rw [hassoc, List.take_append, List.drop_left' (by simp [FRAME_MAGIC])]
    exact List.take_left' (by simp [FRAME_MAGIC])
  rw [SecureBluetoothSession.frameCounter, hslice, fromBeBytes_toBeBytes]
  exact h

lemma frameCiphertextLen_headerBytes_append (h : ciphertextLen < 2 ^ 16) :
    SecureBluetoothSession.frameCiphertextLen
      (headerBytes messageType counter ciphertextLen ++ ciphertext) = ciphertextLen := by
  have hslice : ((headerBytes messageType counter ciphertextLen ++ ciphertext).take 16).drop 14
      = toBeBytes 2 ciphertextLen := by
    have htake := take_headerBytes_append messageType counter ciphertextLen ciphertext
    rw [FRAME_HEADER_LEN] at htake
    rw [htake, headerBytes]
    exact List.drop_left' (by simp [FRAME_MAGIC])
  rw [SecureBluetoothSession.frameCiphertextLen, hslice, fromBeBytes_toBeBytes]
  exact h

end Header

/-! ## The two methods -/

namespace SecureBluetoothSession

/-- The session has not outlived `BLUETOOTH_SESSION_LIFETIME`. -/
def Active (self : SecureBluetoothSession) (now : Instant) : Prop :=
  elapsed now self.createdAt ≤ BLUETOOTH_SESSION_LIFETIME

lemma ensureActive_eq_ok {self : SecureBluetoothSession} {now : Instant} {u : Unit} :
    self.ensureActive now = .ok u ↔ self.Active now := by
  rw [ensureActive, rejectIf_eq_ok, not_lt, Active]

lemma checkedAddU64_eq_some {a b c : ℕ} :
    checkedAddU64 a b = some c ↔ a + b < 2 ^ 64 ∧ a + b = c := by
  simp [checkedAddU64]

/-- **When `encrypt` succeeds.**  The counter in the frame is the new counter of the session. -/
theorem run_encrypt_eq_ok {aead : Aead} {now : Instant} {messageType : BluetoothMessageType}
    {plaintext frame : Bytes} {self self' : SecureBluetoothSession} :
    (encrypt aead now messageType plaintext).run self = .ok frame self' ↔
      self.Active now ∧ plaintext.length ≤ MAX_BLUETOOTH_PLAINTEXT_LEN
        ∧ self.txCounter < MAX_BLUETOOTH_FRAMES_PER_DIRECTION
        ∧ ∃ header ciphertext,
          header = headerBytes messageType (self.txCounter + 1) (plaintext.length + AEAD_TAG_LEN)
          ∧ aead.encrypt self.txKey (nonce self.txPrefix (self.txCounter + 1))
              (associatedData self.transcriptHash self.sessionId header) plaintext
              = some ciphertext
          ∧ frame = header ++ ciphertext
          ∧ self' = { self with txCounter := self.txCounter + 1 } := by
  simp only [encrypt, run_get_bind_eq_ok, run_attempt_bind_eq_ok, ensureActive_eq_ok,
    run_rejectIf_bind_eq_ok, run_okOr_bind_eq_ok, run_modify_bind_pure_eq_ok, not_lt,
    checkedAddU64_eq_some, frameHeader_eq_ok]
  constructor
  · rintro ⟨-, hactive, hlen, _, ⟨-, rfl⟩, hlimit, _, ⟨-, rfl⟩, header, ⟨-, rfl⟩, ciphertext,
      hseal, rfl, rfl⟩
    exact ⟨hactive, hlen, hlimit, _, ciphertext, rfl, hseal, rfl, rfl⟩
  · rintro ⟨hactive, hlen, hlimit, header, ciphertext, rfl, hseal, rfl, rfl⟩
    have hcounter : self.txCounter + 1 < 2 ^ 64 := by
      simp only [MAX_BLUETOOTH_FRAMES_PER_DIRECTION] at hlimit
      omega
    have hsize : plaintext.length + AEAD_TAG_LEN < 2 ^ 16 := by
      simp only [MAX_BLUETOOTH_PLAINTEXT_LEN, AEAD_TAG_LEN] at hlen ⊢
      omega
    exact ⟨(), hactive, hlen, _, ⟨hcounter, rfl⟩, hlimit, _, ⟨hsize.trans (by decide), rfl⟩, _,
      ⟨hsize, rfl⟩, ciphertext, hseal, rfl, rfl⟩

lemma atomic_encrypt (aead : Aead) (now : Instant) (messageType : BluetoothMessageType)
    (plaintext : Bytes) : Atomic (encrypt aead now messageType plaintext) := by
  refine Atomic.get_bind fun self => Atomic.attempt_bind fun _ => Atomic.rejectIf_bind fun _ =>
    Atomic.okOr_bind fun _ => Atomic.rejectIf_bind fun _ => Atomic.okOr_bind fun _ =>
    Atomic.attempt_bind fun _ => Atomic.okOr_bind fun _ => ?_
  exact ((total_modify _).bind fun _ => total_pure _).atomic

/-- **When `decrypt` succeeds.**  Every field of the header has been compared with what the
session expects, and the cipher has accepted the rest. -/
theorem run_decrypt_eq_ok {aead : Aead} {now : Instant} {frame plaintext : Bytes}
    {messageType : BluetoothMessageType} {self self' : SecureBluetoothSession} :
    (decrypt aead now frame).run self = .ok (messageType, plaintext) self' ↔
      self.Active now
        ∧ frame.take 4 = FRAME_MAGIC ∧ frame.getD 4 0 = VERSION
        ∧ BluetoothMessageType.fromByte (frame.getD 5 0) = .ok messageType
        ∧ frameCounter frame = self.rxCounter + 1
        ∧ self.rxCounter < MAX_BLUETOOTH_FRAMES_PER_DIRECTION
        ∧ AEAD_TAG_LEN ≤ frameCiphertextLen frame
        ∧ frameCiphertextLen frame ≤ MAX_BLUETOOTH_PLAINTEXT_LEN + AEAD_TAG_LEN
        ∧ frame.length = FRAME_HEADER_LEN + frameCiphertextLen frame
        ∧ aead.decrypt self.rxKey (nonce self.rxPrefix (self.rxCounter + 1))
            (associatedData self.transcriptHash self.sessionId (frame.take FRAME_HEADER_LEN))
            (frame.drop FRAME_HEADER_LEN) = some plaintext
        ∧ self' = { self with rxCounter := self.rxCounter + 1 } := by
  simp only [decrypt, run_get_bind_eq_ok, run_attempt_bind_eq_ok, ensureActive_eq_ok,
    run_rejectIf_bind_eq_ok, run_okOr_bind_eq_ok, run_modify_bind_pure_eq_ok, not_lt, not_or,
    not_not, Prod.mk.injEq]
  constructor
  · rintro ⟨-, hactive, ⟨-, hmagic, hversion⟩, _, htype, hcounter, hlimit, ⟨hrange, hlen⟩, _,
      hopen, ⟨rfl, rfl⟩, rfl⟩
    have hnext : frameCounter frame = self.rxCounter + 1 := by
      simp only [MAX_BLUETOOTH_FRAMES_PER_DIRECTION] at hlimit
      omega
    rw [hnext] at hopen hlimit ⊢
    exact ⟨hactive, hmagic, hversion, htype, rfl, hlimit, hrange.1, hrange.2, hlen, hopen, rfl⟩
  · rintro ⟨hactive, hmagic, hversion, htype, hnext, hlimit, hmin, hmax, hlen, hopen, rfl⟩
    have hcounter : self.rxCounter + 1 = min (self.rxCounter + 1) (2 ^ 64 - 1) := by
      simp only [MAX_BLUETOOTH_FRAMES_PER_DIRECTION] at hlimit
      omega
    have hlong : FRAME_HEADER_LEN + AEAD_TAG_LEN ≤ frame.length := by omega
    rw [hnext]
    exact ⟨(), hactive, ⟨hlong, hmagic, hversion⟩, messageType, htype, hcounter, hlimit,
      ⟨⟨hmin, hmax⟩, hlen⟩, plaintext, hopen, ⟨rfl, rfl⟩, rfl⟩

lemma atomic_decrypt (aead : Aead) (now : Instant) (frame : Bytes) :
    Atomic (decrypt aead now frame) := by
  refine Atomic.get_bind fun self => Atomic.attempt_bind fun _ => Atomic.rejectIf_bind fun _ =>
    Atomic.attempt_bind fun _ => Atomic.rejectIf_bind fun _ => Atomic.rejectIf_bind fun _ =>
    Atomic.rejectIf_bind fun _ => Atomic.okOr_bind fun _ => ?_
  exact ((total_modify _).bind fun _ => total_pure _).atomic

end SecureBluetoothSession

end FtnlDesktop
