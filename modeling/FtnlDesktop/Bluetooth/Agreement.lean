import FtnlDesktop.Bluetooth.Pairing
import FtnlDesktop.Bluetooth.Channel

/-!
# Agreement of a handshake

An initiator and the responder that answered its hello, each with the other's hello as it was
sent.  The two calls of `derive` fail alike or agree: the same transcript, and what one sends with
the other receives with.

Assumed of X25519 is that it is commutative (`HandshakeCrates.Commutes`), of SHA-256 and HKDF
nothing.

* **`handshake_agreement`** — the agreement, and that the displayed string confirms both sessions.
* `Agreement.sameHandshake` — two such sessions are what the channel of `Bluetooth.Channel` starts
  from.

Everything `derive` looks at is symmetric under exchange of the roles: the rejection test
(`isInvalidPeer_comm`), the order of the transcript (`handshakeView_comm`), the secret.
-/

namespace FtnlDesktop

open Method

/-! ## Short authentication strings -/

/-- Six decimal digits. -/
def IsSas (text : String) : Prop := text.toList.length = 6 ∧ ∀ c ∈ text.toList, c.isDigit = true

/-- **Every number below a million is shown as six digits.** -/
theorem isSas_formatSas {n : ℕ} (h : n < 1000000) : IsSas (formatSas n) := by
  have hlen : (Nat.toDigits 10 n).length ≤ 6 :=
    (Nat.length_toDigits_le_iff (by decide) (by decide)).mpr (by simpa using h)
  simp only [IsSas, formatSas, String.toList_ofList]
  constructor
  · rw [List.length_append, List.length_replicate]
    omega
  · intro c hc
    rcases List.mem_append.mp hc with hzero | hdigit
    · rw [List.eq_of_mem_replicate hzero]
      rfl
    · exact Nat.isDigit_of_mem_toDigits (by decide) le_rfl hdigit

/-- A digit is one byte. -/
lemma utf8EncodeChar_of_isDigit {c : Char} (h : c.isDigit = true) :
    ∃ byte, String.utf8EncodeChar c = [byte] ∧ isAsciiDigit byte := by
  have hrange : 48 ≤ c.val.toNat ∧ c.val.toNat ≤ 57 := by
    simpa [Char.isDigit, UInt32.le_iff_toNat_le] using h
  refine ⟨UInt8.ofNat c.val.toNat, ?_, ?_⟩
  · simp only [String.utf8EncodeChar]
    rw [if_pos (by omega)]
  · have hmod : (UInt8.ofNat c.val.toNat).toNat = c.val.toNat := by
      rw [UInt8.toNat_ofNat', Nat.mod_eq_of_lt (by omega)]
    simp only [isAsciiDigit, UInt8.le_iff_toNat_le, hmod, UInt8.reduceToNat]
    exact hrange

/-- What `confirm` checks of the syntax. -/
lemma IsSas.asBytes {text : String} (h : IsSas text) :
    text.utf8ByteSize = 6 ∧ ∀ byte ∈ asBytes text, isAsciiDigit byte := by
  obtain ⟨hlen, hdigits⟩ := h
  have hbytes : FtnlDesktop.asBytes text = text.toList.flatMap String.utf8EncodeChar := by
    conv_lhs => rw [← String.ofList_toList (s := text), asBytes_ofList]
  constructor
  · rw [← length_asBytes, hbytes, List.length_flatMap, ← hlen, ← List.length_map
      (f := fun c : Char => (String.utf8EncodeChar c).length)]
    refine List.sum_eq_card_nsmul _ 1 ?_ |>.trans (by simp)
    intro n hn
    obtain ⟨c, hc, rfl⟩ := List.mem_map.mp hn
    obtain ⟨byte, heq, -⟩ := utf8EncodeChar_of_isDigit (hdigits c hc)
    rw [heq]
    rfl
  · intro byte hbyte
    rw [hbytes] at hbyte
    obtain ⟨c, hc, hmem⟩ := List.mem_flatMap.mp hbyte
    obtain ⟨b, heq, hdigit⟩ := utf8EncodeChar_of_isDigit (hdigits c hc)
    rw [heq, List.mem_singleton] at hmem
    exact hmem ▸ hdigit

/-- The session that a confirmation starts when it reads `now` at its end. -/
def PendingBluetoothSession.confirmed (self : PendingBluetoothSession) (now : Instant) :
    SecureBluetoothSession :=
  { self with txCounter := 0, rxCounter := 0, createdAt := now }

/-- **When `confirm` succeeds.** -/
theorem confirm_eq_ok {pending : PendingBluetoothSession} {checked now : Instant}
    {observedSas : String} {session : SecureBluetoothSession} :
    pending.confirm checked now observedSas = .ok session ↔
      elapsed checked pending.createdAt ≤ BLUETOOTH_CONFIRMATION_TIMEOUT
        ∧ (observedSas.utf8ByteSize = 6 ∧ ∀ byte ∈ asBytes observedSas, isAsciiDigit byte)
        ∧ pending.sas = observedSas ∧ pending.confirmed now = session := by
  simp only [PendingBluetoothSession.confirm, bind_eq_ok, rejectIf_eq_ok, pure_eq_ok, not_lt,
    not_or, not_not, ne_eq, asBytes_injective.eq_iff]
  constructor
  · rintro ⟨-, htime, -, ⟨hdigits, hsas⟩, heq⟩
    exact ⟨htime, hdigits, hsas, heq⟩
  · rintro ⟨htime, hdigits, hsas, heq⟩
    exact ⟨(), htime, (), ⟨hdigits, hsas⟩, heq⟩

/-! ## Exchanging the roles -/

lemma BluetoothRole.eq_opposite_comm {a b : BluetoothRole} : a = b.opposite ↔ b = a.opposite := by
  cases a <;> cases b <;> decide

/-- The rejection test is symmetric. -/
lemma isInvalidPeer_comm {a b : BluetoothHello} : IsInvalidPeer a b ↔ IsInvalidPeer b a := by
  rw [IsInvalidPeer, IsInvalidPeer]
  exact or_congr (not_congr BluetoothRole.eq_opposite_comm)
    (or_congr ne_comm (or_congr eq_comm eq_comm))

/-- The order of the transcript does not depend on who looks. -/
lemma handshakeView_comm {a b : BluetoothHello} (h : b.role = a.role.opposite) :
    handshakeView a b = handshakeView b a := by
  cases ha : a.role with
  | Initiator =>
      have hb : b.role = .Responder := by rw [h, ha]; rfl
      simp only [handshakeView, ha, hb]
  | Responder =>
      have hb : b.role = .Initiator := by rw [h, ha]; rfl
      simp only [handshakeView, ha, hb]

/-- Two pending sessions of one handshake. -/
structure Agreement (a b : PendingBluetoothSession) : Prop where
  transcriptHash : a.transcriptHash = b.transcriptHash
  sessionId : a.sessionId = b.sessionId
  sas : a.sas = b.sas
  sasDigits : IsSas a.sas
  txKey : a.txKey = b.rxKey
  rxKey : a.rxKey = b.txKey
  txPrefix : a.txPrefix = b.rxPrefix
  rxPrefix : a.rxPrefix = b.txPrefix

lemma Agreement.symm {a b : PendingBluetoothSession} (h : Agreement a b) : Agreement b a :=
  ⟨h.transcriptHash.symm, h.sessionId.symm, h.sas.symm, h.sas ▸ h.sasDigits, h.rxKey.symm,
    h.txKey.symm, h.rxPrefix.symm, h.txPrefix.symm⟩

/-- The directions are crossed when the roles are. -/
lemma agreement_pendingSession {own peer : BluetoothHello} (hrole : peer.role = own.role.opposite)
    (hsession : peer.sessionId = own.sessionId) (transcriptHash : Digest) (material : KeyMaterial)
    (now now' : Instant) :
    Agreement (pendingSession own peer transcriptHash material now)
      (pendingSession peer own transcriptHash material now') := by
  have hsas : IsSas (formatSas material.sasNumber) :=
    isSas_formatSas (Nat.mod_lt _ (by decide))
  cases hown : own.role with
  | Initiator =>
      have hpeer : peer.role = .Responder := by rw [hrole, hown]; rfl
      simp only [pendingSession, hown, hpeer]
      exact ⟨rfl, hsession.symm, rfl, hsas, rfl, rfl, rfl, rfl⟩
  | Responder =>
      have hpeer : peer.role = .Initiator := by rw [hrole, hown]; rfl
      simp only [pendingSession, hown, hpeer]
      exact ⟨rfl, hsession.symm, rfl, hsas, rfl, rfl, rfl, rfl⟩

/-- Pending sessions that agree become sessions of one handshake, in both directions. -/
lemma Agreement.sameHandshake {a b : PendingBluetoothSession} (h : Agreement a b)
    (now now' : Instant) :
    SameHandshake (a.confirmed now) (b.confirmed now')
      ∧ SameHandshake (b.confirmed now') (a.confirmed now) :=
  ⟨⟨h.txKey, h.txPrefix, h.transcriptHash, h.sessionId⟩,
    ⟨h.rxKey.symm, h.rxPrefix.symm, h.transcriptHash.symm, h.sessionId.symm⟩⟩

/-- Within the window, the string that the other side displays confirms the session. -/
lemma Agreement.confirm {a b : PendingBluetoothSession} (h : Agreement a b) {checked : Instant}
    (hwindow : elapsed checked a.createdAt ≤ BLUETOOTH_CONFIRMATION_TIMEOUT) (now : Instant) :
    a.confirm checked now b.sas = .ok (a.confirmed now) :=
  confirm_eq_ok.mpr ⟨hwindow, (h.sas ▸ h.sasDigits).asBytes, h.sas, rfl⟩

/-! ## The two calls of `derive` -/

/-- `dh(a, pub(b)) = dh(b, pub(a))`. -/
def HandshakeCrates.Commutes (crates : HandshakeCrates) : Prop :=
  ∀ a b, crates.diffieHellman a (crates.publicKey b) = crates.diffieHellman b (crates.publicKey a)

/-- The pairing has not been used, and this is the secret of its public key. -/
structure BluetoothPairing.Holds (crates : HandshakeCrates) (pairing : BluetoothPairing)
    (secret : SecretKey) : Prop where
  secret_eq : pairing.secret = some secret
  publicKey_eq : pairing.hello.publicKey = crates.publicKey secret

section Derive

variable {crates : HandshakeCrates} {a b : BluetoothPairing}

lemma holds_of_new {role : BluetoothRole} {deviceId : String} {sessionId : SessionId}
    {secret : SecretKey} {contribution : Contribution}
    (h : BluetoothPairing.new crates role deviceId sessionId secret contribution = .ok a) :
    a.Holds crates secret ∧ a.hello.role = role ∧ a.hello.sessionId = sessionId := by
  simp only [BluetoothPairing.new, bind_eq_ok, pure_eq_ok] at h
  obtain ⟨-, -, -, -, rfl⟩ := h
  exact ⟨⟨rfl, rfl⟩, rfl, rfl⟩

/-- **The two calls fail alike or agree**, whatever the hellos are. -/
theorem derive_agrees (hcomm : crates.Commutes) {secretA secretB : SecretKey}
    (ha : a.Holds crates secretA) (hb : b.Holds crates secretB) (now now' : Instant) :
    (∃ error, a.derive crates now b.hello = .error error
      ∧ b.derive crates now' a.hello = .error error) ∨
    ∃ pa pb, a.derive crates now b.hello = .ok pa ∧ b.derive crates now' a.hello = .ok pb
      ∧ Agreement pa pb ∧ pa.createdAt = now ∧ pb.createdAt = now' := by
  have hshared : crates.diffieHellman secretB a.hello.publicKey
      = crates.diffieHellman secretA b.hello.publicKey := by
    rw [ha.publicKey_eq, hb.publicKey_eq]
    exact hcomm _ _
  rw [BluetoothPairing.derive_eq ha.secret_eq, BluetoothPairing.derive_eq hb.secret_eq, hshared]
  by_cases hvalid : a.hello.validate = .ok () ∧ b.hello.validate = .ok ()
  · rw [if_pos hvalid, if_pos hvalid.symm]
    by_cases hpeer : IsInvalidPeer a.hello b.hello
    · rw [if_pos hpeer, if_pos (isInvalidPeer_comm.mp hpeer)]
      exact Or.inl ⟨_, rfl, rfl⟩
    · rw [if_neg hpeer, if_neg fun h => hpeer (isInvalidPeer_comm.mpr h)]
      simp only [IsInvalidPeer, not_or, not_not] at hpeer
      obtain ⟨hrole, hsession, -, -⟩ := hpeer
      by_cases hzero : crates.diffieHellman secretA b.hello.publicKey = List.Vector.replicate 32 0
      · rw [if_pos hzero, if_pos hzero]
        exact Or.inl ⟨_, rfl, rfl⟩
      · rw [if_neg hzero, if_neg hzero, ← handshakeView_comm hrole]
        generalize crates.sha256 (handshakeTranscript (handshakeView a.hello b.hello).1
          (handshakeView a.hello b.hello).2) = transcriptHash
        cases hmaterial : crates.hkdf transcriptHash
            (crates.diffieHellman secretA b.hello.publicKey) PROTOCOL_LABEL KEY_MATERIAL_LEN with
        | none =>
            simp only [hmaterial]
            exact Or.inl ⟨_, rfl, rfl⟩
        | some material =>
            simp only [hmaterial]
            exact Or.inr ⟨_, _, rfl, rfl,
              agreement_pendingSession hrole hsession transcriptHash material now now', rfl, rfl⟩
  · rw [if_neg hvalid, if_neg fun h => hvalid h.symm]
    exact Or.inl ⟨_, rfl, rfl⟩

end Derive

/-- The string on the other side's display confirms a pending session within the window, and the
session has sent and received nothing. -/
def ConfirmsWith (pending : PendingBluetoothSession) (displayed : String) (since : Instant) :
    Prop :=
  ∀ checked now, elapsed checked since ≤ BLUETOOTH_CONFIRMATION_TIMEOUT →
    ∃ session, pending.confirm checked now displayed = .ok session
      ∧ session.txCounter = 0 ∧ session.rxCounter = 0

/-- **Handshake agreement**, for every initiator, every responder that was created from its hello,
and every draw of the two. -/
theorem handshake_agreement {crates : HandshakeCrates} (hcomm : crates.Commutes)
    {initiatorId responderId : String} {sessionId : SessionId}
    {initiatorSecret responderSecret : SecretKey}
    {initiatorContribution responderContribution : Contribution} {i r : BluetoothPairing}
    (hi : BluetoothPairing.initiator crates initiatorId sessionId initiatorSecret
      initiatorContribution = .ok i)
    (hr : BluetoothPairing.responder crates responderId i.hello responderSecret
      responderContribution = .ok r) (now now' : Instant) :
    (∃ error, i.derive crates now r.hello = .error error
      ∧ r.derive crates now' i.hello = .error error) ∨
    ∃ a b, i.derive crates now r.hello = .ok a ∧ r.derive crates now' i.hello = .ok b
      ∧ Agreement a b ∧ ConfirmsWith a b.sas now ∧ ConfirmsWith b a.sas now' := by
  obtain ⟨hholds, -, -⟩ := holds_of_new hi
  simp only [BluetoothPairing.responder, bind_eq_ok] at hr
  obtain ⟨-, -, -, -, hnew⟩ := hr
  obtain ⟨hholds', -, -⟩ := holds_of_new hnew
  rcases derive_agrees hcomm hholds hholds' now now' with
    herror | ⟨a, b, ha, hb, hagree, hsince, hsince'⟩
  · exact Or.inl herror
  · refine Or.inr ⟨a, b, ha, hb, hagree, ?_, ?_⟩
    · intro checked t hwindow
      exact ⟨_, hagree.confirm (hsince.symm ▸ hwindow) t, rfl, rfl⟩
    · intro checked t hwindow
      exact ⟨_, hagree.symm.confirm (hsince'.symm ▸ hwindow) t, rfl, rfl⟩

/-! ## The conformance vector -/

section ConformanceVector

def vectorResponderHello : BluetoothHello where
  role := .Responder
  sessionId := List.Vector.replicate 16 1
  contribution := List.Vector.replicate 16 4
  deviceId := "desktop-b"
  publicKey :=
    ⟨[0x50, 0xa6, 0x14, 0x09, 0xb1, 0xdd, 0xd0, 0x32, 0x5e, 0x9b, 0x16, 0xb7,
      0x00, 0xe7, 0x19, 0xe9, 0x77, 0x2c, 0x07, 0x00, 0x0b, 0x1b, 0xd7, 0x78,
      0x6e, 0x90, 0x7c, 0x65, 0x3d, 0x20, 0x49, 0x5d], rfl⟩

def vectorInitiatorPairing : BluetoothPairing :=
  ⟨vectorInitiatorHello, some (List.Vector.replicate 32 3)⟩

def vectorResponderPairing : BluetoothPairing :=
  ⟨vectorResponderHello, some (List.Vector.replicate 32 5)⟩

def vectorShared : SharedSecret :=
  ⟨[0x8a, 0x7e, 0xdd, 0xf1, 0xd2, 0xe6, 0x9d, 0x6c, 0x89, 0x5a, 0x5e, 0x96,
    0x90, 0x92, 0xdd, 0x6b, 0xe0, 0xca, 0xa7, 0x25, 0xd4, 0x35, 0xc0, 0x24,
    0x4f, 0xe3, 0x3f, 0xc2, 0x25, 0x9a, 0xa8, 0x47], rfl⟩

/-- The two keys and prefixes, and what follows them. -/
def vectorMaterial : Bytes :=
  vectorInitiatorKey.toList ++ vectorResponderKey.toList ++ vectorInitiatorPrefix.toList
    ++ vectorResponderPrefix.toList
    ++ [0x41, 0xc9, 0x94, 0x89, 0x67, 0x06, 0xf6, 0x2b, 0xef, 0x00, 0x83, 0xc1,
      0xb9, 0x4c, 0xd1, 0xcc, 0x97, 0x10, 0xe9, 0xdd, 0xd3, 0x44, 0xd6, 0xe7,
      0x19, 0xcf, 0x09, 0x82, 0xf5, 0xac, 0x49, 0x66]

/-- The cryptography of the two calls. -/
def vectorCrates : HandshakeCrates where
  sha256 input :=
    if input = handshakeTranscript vectorInitiatorHello vectorResponderHello then
      vectorTranscriptHash
    else List.Vector.replicate 32 0
  publicKey secret :=
    if secret = List.Vector.replicate 32 3 then vectorInitiatorHello.publicKey
    else vectorResponderHello.publicKey
  diffieHellman _ _ := vectorShared
  hkdf salt ikm info n :=
    if h : vectorMaterial.length = n ∧ (salt, ikm, info)
        = (vectorTranscriptHash, vectorShared, PROTOCOL_LABEL) then
      some ⟨vectorMaterial, h.1⟩
    else none

theorem handshake_agreement_vector :
    vectorInitiatorPairing.derive vectorCrates 0 vectorResponderHello = .ok vectorInitiatorPending
      ∧ vectorResponderPairing.derive vectorCrates 0 vectorInitiatorHello
        = .ok vectorResponderPending
      ∧ Agreement vectorInitiatorPending vectorResponderPending
      ∧ ConfirmsWith vectorInitiatorPending vectorResponderPending.sas 0 := by
  have hderive : vectorInitiatorPairing.derive vectorCrates 0 vectorResponderHello
      = .ok vectorInitiatorPending := by decide +kernel
  have hderive' : vectorResponderPairing.derive vectorCrates 0 vectorInitiatorHello
      = .ok vectorResponderPending := by decide +kernel
  refine ⟨hderive, hderive', ?_⟩
  have hinitiator : BluetoothPairing.initiator vectorCrates "desktop-a"
      (List.Vector.replicate 16 1) (List.Vector.replicate 32 3) (List.Vector.replicate 16 2)
        = .ok vectorInitiatorPairing := by decide +kernel
  have hresponder : BluetoothPairing.responder vectorCrates "desktop-b"
      vectorInitiatorPairing.hello (List.Vector.replicate 32 5) (List.Vector.replicate 16 4)
        = .ok vectorResponderPairing := by decide +kernel
  rcases handshake_agreement (fun _ _ => rfl) hinitiator hresponder 0 0 with
    ⟨error, herror, -⟩ | ⟨a, b, ha, hb, hagree, hconfirm, -⟩
  · exact absurd (hderive.symm.trans herror) (by simp)
  · obtain rfl := Except.ok.inj (hderive.symm.trans ha)
    obtain rfl := Except.ok.inj (hderive'.symm.trans hb)
    exact ⟨hagree, hconfirm⟩

end ConformanceVector

end FtnlDesktop
