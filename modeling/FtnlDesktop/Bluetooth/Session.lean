import FtnlDesktop.Core.BigEndian
import FtnlDesktop.Base

/-!
# Confirmed Bluetooth sessions

The session of `src/secure_bluetooth.rs`: the user confirms the short authentication string of a
pending session (`confirm`), and from then on `encrypt` turns a payload into a frame and `decrypt`
a frame into a payload.  A frame is

`"FTBE" | version | message type | counter, 8 bytes | ciphertext length, 2 bytes | ciphertext`

and its first sixteen bytes, with the transcript hash and the session id before them, are the
associated data of the ciphertext.

ChaCha20-Poly1305 is a third-party crate.  It enters as the parameter `aead : Aead`, and its laws
are stated where they are used, in `Bluetooth.Channel`.

The counters are `u64`s, the lengths `usize`s and `u16`s; the checks that bound them are the
source's own.
-/

namespace FtnlDesktop

open Method BigEndian

/-- `b"FTBE"`. -/
def FRAME_MAGIC : Bytes := [70, 84, 66, 69]
def VERSION : UInt8 := 1
def FRAME_HEADER_LEN : ℕ := 4 + 1 + 1 + 8 + 2
def AEAD_TAG_LEN : ℕ := 16
def MAX_BLUETOOTH_PLAINTEXT_LEN : ℕ := 16 * 1024
def MAX_BLUETOOTH_FRAMES_PER_DIRECTION : ℕ := 4096
def BLUETOOTH_CONFIRMATION_TIMEOUT : Duration := fromSecs (2 * 60)
def BLUETOOTH_SESSION_LIFETIME : Duration := fromSecs (5 * 60)

inductive BluetoothRole where
  | Initiator
  | Responder
deriving DecidableEq, Repr

inductive BluetoothMessageType where
  | SharedAuth
  | PeerInfo
  | UpdateManifest
deriving DecidableEq, Repr

inductive SecureBluetoothError where
  | InvalidHello
  | InvalidPeer
  | KeyAgreement
  | KeyDerivation
  | AuthenticationMismatch
  | ConfirmationExpired
  | SessionExpired
  | FrameLimit
  | MessageTooLarge
  | InvalidFrame
  | ReplayOrOutOfOrder
  | Encrypt
  | Decrypt
deriving DecidableEq, Repr

/-- `message_type as u8`. -/
def BluetoothMessageType.toByte : BluetoothMessageType → UInt8
  | .SharedAuth => 1
  | .PeerInfo => 2
  | .UpdateManifest => 3

def BluetoothMessageType.fromByte (value : UInt8) :
    Except SecureBluetoothError BluetoothMessageType :=
  if value = 1 then .ok .SharedAuth
  else if value = 2 then .ok .PeerInfo
  else if value = 3 then .ok .UpdateManifest
  else .error .InvalidFrame

@[simp] lemma fromByte_toByte (messageType : BluetoothMessageType) :
    BluetoothMessageType.fromByte messageType.toByte = .ok messageType := by
  cases messageType <;> rfl

/-! ## The cipher -/

abbrev AeadKey := List.Vector UInt8 32
abbrev AeadNonce := List.Vector UInt8 12
abbrev NoncePrefix := List.Vector UInt8 4
abbrev SessionId := List.Vector UInt8 16

/-- `ChaCha20Poly1305`, by its two calls: key, nonce, associated data, then what to seal or open. -/
structure Aead where
  encrypt : AeadKey → AeadNonce → Bytes → Bytes → Option Bytes
  decrypt : AeadKey → AeadNonce → Bytes → Bytes → Option Bytes

/-! ## Frames -/

def nonce (noncePrefix : NoncePrefix) (counter : ℕ) : AeadNonce :=
  ⟨noncePrefix.toList ++ toBeBytes 8 counter, by simp⟩

def associatedData (transcriptHash : Digest) (sessionId : SessionId) (header : Bytes) : Bytes :=
  transcriptHash.toList ++ sessionId.toList ++ header

def frameHeader (messageType : BluetoothMessageType) (counter ciphertextLen : ℕ) :
    Except SecureBluetoothError Bytes := do
  -- `u16::try_from(ciphertext_len)`
  rejectIf (2 ^ 16 ≤ ciphertextLen) SecureBluetoothError.MessageTooLarge
  return FRAME_MAGIC ++ [VERSION, messageType.toByte] ++ toBeBytes 8 counter
    ++ toBeBytes 2 ciphertextLen

/-! ## Sessions -/

structure PendingBluetoothSession where
  localRole : BluetoothRole
  sessionId : SessionId
  localDeviceId : String
  peerDeviceId : String
  transcriptHash : Digest
  txKey : AeadKey
  rxKey : AeadKey
  txPrefix : NoncePrefix
  rxPrefix : NoncePrefix
  sas : String
  createdAt : Instant
deriving DecidableEq

structure SecureBluetoothSession where
  localRole : BluetoothRole
  sessionId : SessionId
  transcriptHash : Digest
  txKey : AeadKey
  rxKey : AeadKey
  txPrefix : NoncePrefix
  rxPrefix : NoncePrefix
  txCounter : ℕ
  rxCounter : ℕ
  createdAt : Instant
deriving DecidableEq

/-- `u8::is_ascii_digit`. -/
def isAsciiDigit (byte : UInt8) : Prop := 48 ≤ byte ∧ byte ≤ 57

instance (byte : UInt8) : Decidable (isAsciiDigit byte) := by
  unfold isAsciiDigit
  infer_instance

/-- `PendingBluetoothSession::confirm`, which reads the clock to check it and again at its end. -/
def PendingBluetoothSession.confirm (self : PendingBluetoothSession) (checked now : Instant)
    (observedSas : String) : Except SecureBluetoothError SecureBluetoothSession := do
  rejectIf (BLUETOOTH_CONFIRMATION_TIMEOUT < elapsed checked self.createdAt)
    SecureBluetoothError.ConfirmationExpired
  rejectIf (¬ (observedSas.utf8ByteSize = 6 ∧ ∀ byte ∈ asBytes observedSas, isAsciiDigit byte)
    ∨ asBytes self.sas ≠ asBytes observedSas) SecureBluetoothError.AuthenticationMismatch
  return {
    localRole := self.localRole
    sessionId := self.sessionId
    transcriptHash := self.transcriptHash
    txKey := self.txKey
    rxKey := self.rxKey
    txPrefix := self.txPrefix
    rxPrefix := self.rxPrefix
    txCounter := 0
    rxCounter := 0
    createdAt := now }

namespace SecureBluetoothSession

/-- A method of the session. -/
abbrev SessionM := EStateM SecureBluetoothError SecureBluetoothSession

def ensureActive (self : SecureBluetoothSession) (now : Instant) :
    Except SecureBluetoothError Unit :=
  rejectIf (BLUETOOTH_SESSION_LIFETIME < elapsed now self.createdAt)
    SecureBluetoothError.SessionExpired

/-- `SecureBluetoothSession::encrypt` at the instant `now`. -/
def encrypt (aead : Aead) (now : Instant) (messageType : BluetoothMessageType)
    (plaintext : Bytes) : SessionM Bytes := do
  let self ← get
  attempt (self.ensureActive now)
  rejectIf (MAX_BLUETOOTH_PLAINTEXT_LEN < plaintext.length) SecureBluetoothError.MessageTooLarge
  let counter ← okOr (checkedAddU64 self.txCounter 1) SecureBluetoothError.FrameLimit
  rejectIf (MAX_BLUETOOTH_FRAMES_PER_DIRECTION < counter) SecureBluetoothError.FrameLimit
  let ciphertextLen ← okOr (checkedAddU64 plaintext.length AEAD_TAG_LEN)
    SecureBluetoothError.MessageTooLarge
  let header ← attempt (frameHeader messageType counter ciphertextLen)
  let aad := associatedData self.transcriptHash self.sessionId header
  let ciphertext ← okOr (aead.encrypt self.txKey (nonce self.txPrefix counter) aad plaintext)
    SecureBluetoothError.Encrypt
  modify fun self => { self with txCounter := counter }
  return header ++ ciphertext

/-- `u64::from_be_bytes(frame[6..14])`. -/
def frameCounter (frame : Bytes) : ℕ := fromBeBytes ((frame.take 14).drop 6)

/-- `u16::from_be_bytes(frame[14..16])`. -/
def frameCiphertextLen (frame : Bytes) : ℕ := fromBeBytes ((frame.take 16).drop 14)

/-- `SecureBluetoothSession::decrypt` at the instant `now`.  The first check makes every later
index into the frame valid. -/
def decrypt (aead : Aead) (now : Instant) (frame : Bytes) :
    SessionM (BluetoothMessageType × Bytes) := do
  let self ← get
  attempt (self.ensureActive now)
  rejectIf (frame.length < FRAME_HEADER_LEN + AEAD_TAG_LEN ∨ frame.take 4 ≠ FRAME_MAGIC
    ∨ frame.getD 4 0 ≠ VERSION) SecureBluetoothError.InvalidFrame
  let messageType ← attempt (BluetoothMessageType.fromByte (frame.getD 5 0))
  let counter := frameCounter frame
  let ciphertextLen := frameCiphertextLen frame
  -- `self.rx_counter.saturating_add(1)`
  rejectIf (counter ≠ min (self.rxCounter + 1) (2 ^ 64 - 1)) SecureBluetoothError.ReplayOrOutOfOrder
  rejectIf (MAX_BLUETOOTH_FRAMES_PER_DIRECTION < counter) SecureBluetoothError.FrameLimit
  rejectIf (¬ (AEAD_TAG_LEN ≤ ciphertextLen
      ∧ ciphertextLen ≤ MAX_BLUETOOTH_PLAINTEXT_LEN + AEAD_TAG_LEN)
    ∨ frame.length ≠ FRAME_HEADER_LEN + ciphertextLen) SecureBluetoothError.InvalidFrame
  let header := frame.take FRAME_HEADER_LEN
  let ciphertext := frame.drop FRAME_HEADER_LEN
  let aad := associatedData self.transcriptHash self.sessionId header
  let plaintext ← okOr (aead.decrypt self.rxKey (nonce self.rxPrefix counter) aad ciphertext)
    SecureBluetoothError.Decrypt
  modify fun self => { self with rxCounter := counter }
  return (messageType, plaintext)

end SecureBluetoothSession

end FtnlDesktop
