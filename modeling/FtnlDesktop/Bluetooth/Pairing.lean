import FtnlDesktop.Bluetooth.Hello

/-!
# The handshake

A pairing draws an ephemeral key and a contribution, sends its hello, and derives a pending session
from the hello of its peer.  The initiator also draws the session id; the responder takes it from
the initiator's hello.

X25519, SHA-256 and HKDF are third-party crates and enter as `HandshakeCrates`.  What the random
number generator returns is an argument of each constructor, so a statement about all arguments
covers every draw.

* **`derive_eq`** — every outcome of `derive`, in the order of its checks.
* **`derive_eq_ok`** — when it succeeds.
-/

namespace FtnlDesktop

open Method BigEndian

/-- `b"ftnl-secure-bluetooth-v1"`. -/
def PROTOCOL_LABEL : Bytes := asBytes "ftnl-secure-bluetooth-v1"
def KEY_MATERIAL_LEN : ℕ := 32 + 32 + 4 + 4 + 32

abbrev SecretKey := List.Vector UInt8 32
abbrev SharedSecret := List.Vector UInt8 32
abbrev KeyMaterial := List.Vector UInt8 KEY_MATERIAL_LEN

/-- The cryptography of the handshake.  `hkdf salt ikm info n` is `Hkdf::new(Some(salt), ikm)`
followed by `expand(info, &mut [0; n])`. -/
structure HandshakeCrates where
  sha256 : Bytes → Digest
  publicKey : SecretKey → PublicKey
  diffieHellman : SecretKey → PublicKey → SharedSecret
  hkdf : Digest → SharedSecret → Bytes → (n : ℕ) → Option (List.Vector UInt8 n)

/-! ## Pairings -/

structure BluetoothPairing where
  hello : BluetoothHello
  secret : Option SecretKey
deriving DecidableEq

namespace BluetoothPairing

/-- `BluetoothPairing::new`, with what the generator returns. -/
def new (crates : HandshakeCrates) (role : BluetoothRole) (deviceId : String)
    (sessionId : SessionId) (secret : SecretKey) (contribution : Contribution) :
    Except SecureBluetoothError BluetoothPairing := do
  rejectIf (¬ deviceIdIsValid deviceId ∨ sessionId = List.Vector.replicate 16 0)
    SecureBluetoothError.InvalidHello
  let publicKey := crates.publicKey secret
  rejectIf (contribution = List.Vector.replicate 16 0) SecureBluetoothError.KeyAgreement
  return { hello := { role, sessionId, contribution, deviceId, publicKey }, secret := some secret }

def initiator (crates : HandshakeCrates) (deviceId : String) (sessionId : SessionId)
    (secret : SecretKey) (contribution : Contribution) :
    Except SecureBluetoothError BluetoothPairing :=
  new crates .Initiator deviceId sessionId secret contribution

def responder (crates : HandshakeCrates) (deviceId : String) (initiator : BluetoothHello)
    (secret : SecretKey) (contribution : Contribution) :
    Except SecureBluetoothError BluetoothPairing := do
  initiator.validate
  rejectIf (initiator.role ≠ .Initiator) SecureBluetoothError.InvalidPeer
  new crates .Responder deviceId initiator.sessionId secret contribution

end BluetoothPairing

/-! ## Deriving a session -/

def handshakeTranscript (initiator responder : BluetoothHello) : Bytes :=
  let initiatorBytes := initiator.encode
  let responderBytes := responder.encode
  -- `toBeBytes 2` keeps the low sixteen bits, as `len() as u16` does
  PROTOCOL_LABEL ++ toBeBytes 2 initiatorBytes.length ++ initiatorBytes
    ++ toBeBytes 2 responderBytes.length ++ responderBytes

/-- The two hellos of a handshake, the initiator's first. -/
def handshakeView (own peer : BluetoothHello) : BluetoothHello × BluetoothHello :=
  match own.role with
  | .Initiator => (own, peer)
  | .Responder => (peer, own)

namespace KeyMaterial

/-- `material[lo..lo + n]`. -/
def slice (n : ℕ) (material : KeyMaterial) (lo : ℕ) (h : lo + n ≤ KEY_MATERIAL_LEN) :
    List.Vector UInt8 n :=
  ⟨(material.toList.drop lo).take n, by
    rw [List.length_take, List.length_drop, List.Vector.toList_length]
    omega⟩

def initiatorKey (material : KeyMaterial) : AeadKey := slice 32 material 0 (by decide)
def responderKey (material : KeyMaterial) : AeadKey := slice 32 material 32 (by decide)
def initiatorPrefix (material : KeyMaterial) : NoncePrefix := slice 4 material 64 (by decide)
def responderPrefix (material : KeyMaterial) : NoncePrefix := slice 4 material 68 (by decide)

/-- `u32::from_be_bytes(material[72..76]) % 1_000_000`. -/
def sasNumber (material : KeyMaterial) : ℕ :=
  fromBeBytes (slice 4 material 72 (by decide)).toList % 1000000

end KeyMaterial

/-- `format!("{n:06}")`: decimal, with zeros in front up to six characters. -/
def formatSas (n : ℕ) : String :=
  let digits := Nat.toDigits 10 n
  String.ofList (List.replicate (6 - digits.length) '0' ++ digits)

/-- What `derive` returns for this key material. -/
def pendingSession (own peer : BluetoothHello) (transcriptHash : Digest) (material : KeyMaterial)
    (now : Instant) : PendingBluetoothSession :=
  let (txKey, rxKey, txPrefix, rxPrefix) :=
    match own.role with
    | .Initiator => (material.initiatorKey, material.responderKey, material.initiatorPrefix,
        material.responderPrefix)
    | .Responder => (material.responderKey, material.initiatorKey, material.responderPrefix,
        material.initiatorPrefix)
  { localRole := own.role
    sessionId := own.sessionId
    localDeviceId := own.deviceId
    peerDeviceId := peer.deviceId
    transcriptHash
    txKey
    rxKey
    txPrefix
    rxPrefix
    sas := formatSas material.sasNumber
    createdAt := now }

/-- The peer cannot take part in this handshake. -/
def IsInvalidPeer (own peer : BluetoothHello) : Prop :=
  peer.role ≠ own.role.opposite ∨ peer.sessionId ≠ own.sessionId ∨ peer.deviceId = own.deviceId
    ∨ peer.publicKey = own.publicKey
deriving Decidable

/-- `BluetoothPairing::derive`, which ends at the instant `now`. -/
def BluetoothPairing.derive (crates : HandshakeCrates) (self : BluetoothPairing) (now : Instant)
    (peer : BluetoothHello) : Except SecureBluetoothError PendingBluetoothSession := do
  self.hello.validate
  peer.validate
  rejectIf (IsInvalidPeer self.hello peer) SecureBluetoothError.InvalidPeer
  let secret ← okOr self.secret SecureBluetoothError.KeyAgreement
  let shared := crates.diffieHellman secret peer.publicKey
  rejectIf (shared = List.Vector.replicate 32 0) SecureBluetoothError.KeyAgreement
  let (initiator, responder) := handshakeView self.hello peer
  let transcript := handshakeTranscript initiator responder
  let transcriptHash := crates.sha256 transcript
  let material ← okOr (crates.hkdf transcriptHash shared PROTOCOL_LABEL KEY_MATERIAL_LEN)
    SecureBluetoothError.KeyDerivation
  return pendingSession self.hello peer transcriptHash material now

/-! ## Every outcome of `derive` -/

lemma BluetoothHello.validate_eq_error {hello : BluetoothHello} (h : hello.validate ≠ .ok ()) :
    hello.validate = .error .InvalidHello := by
  rw [BluetoothHello.validate, rejectIf]
  refine if_pos (not_not.mp fun hvalid => h ?_)
  exact rejectIf_eq_ok.mpr hvalid

namespace BluetoothPairing

variable {crates : HandshakeCrates} {self : BluetoothPairing} {now : Instant}
  {peer : BluetoothHello}

/-- When a pairing becomes a pending session. -/
theorem derive_eq_ok {pending : PendingBluetoothSession} :
    self.derive crates now peer = .ok pending ↔
      self.hello.validate = .ok () ∧ peer.validate = .ok () ∧ ¬ IsInvalidPeer self.hello peer
        ∧ ∃ secret, self.secret = some secret
          ∧ crates.diffieHellman secret peer.publicKey ≠ List.Vector.replicate 32 0
          ∧ ∃ transcriptHash material,
            transcriptHash = crates.sha256 (handshakeTranscript (handshakeView self.hello peer).1
              (handshakeView self.hello peer).2)
            ∧ crates.hkdf transcriptHash (crates.diffieHellman secret peer.publicKey)
              PROTOCOL_LABEL KEY_MATERIAL_LEN = some material
            ∧ pendingSession self.hello peer transcriptHash material now = pending := by
  simp only [derive, bind_eq_ok, rejectIf_eq_ok, okOr_eq_ok, pure_eq_ok, ne_eq]
  constructor
  · rintro ⟨⟨⟩, hown, ⟨⟩, hpeer, -, hmatch, secret, hsecret, -, hshared, material, hmaterial, rfl⟩
    exact ⟨hown, hpeer, hmatch, secret, hsecret, hshared, _, material, rfl, hmaterial, rfl⟩
  · rintro ⟨hown, hpeer, hmatch, secret, hsecret, hshared, _, material, rfl, hmaterial, rfl⟩
    exact ⟨(), hown, (), hpeer, (), hmatch, secret, hsecret, (), hshared, material, hmaterial, rfl⟩

/-- **Every outcome of `derive`**, for a pairing that still has its secret. -/
theorem derive_eq {secret : SecretKey} (hsecret : self.secret = some secret) :
    self.derive crates now peer =
      if self.hello.validate = .ok () ∧ peer.validate = .ok () then
        if IsInvalidPeer self.hello peer then .error .InvalidPeer
        else if crates.diffieHellman secret peer.publicKey = List.Vector.replicate 32 0 then
          .error .KeyAgreement
        else
          let transcriptHash := crates.sha256 (handshakeTranscript
            (handshakeView self.hello peer).1 (handshakeView self.hello peer).2)
          (crates.hkdf transcriptHash (crates.diffieHellman secret peer.publicKey) PROTOCOL_LABEL
            KEY_MATERIAL_LEN).elim (.error .KeyDerivation) fun material =>
              .ok (pendingSession self.hello peer transcriptHash material now)
      else .error .InvalidHello := by
  by_cases hown : self.hello.validate = .ok ()
  · by_cases hpeer : peer.validate = .ok ()
    · rw [if_pos ⟨hown, hpeer⟩, derive, hown, hpeer, hsecret]
      simp only [ok_bind, rejectIf_bind, okOr_bind, Option.elim_some]
      rfl
    · rw [if_neg fun h => hpeer h.2, derive, hown, BluetoothHello.validate_eq_error hpeer]
      rfl
  · rw [if_neg fun h => hown h.1, derive, BluetoothHello.validate_eq_error hown]
    rfl

end BluetoothPairing

end FtnlDesktop
