import FtnlDesktop.Bluetooth.Agreement

/-!
# What a session is bound to

Two honest parties whose views of the handshake differ — the attacker replaced or altered a hello —
may still display the same six digits, and both users may confirm.  Then neither session accepts a
frame of the other.

* **`handshakeTranscript_injective`** — the transcript determines both hellos.
* **`transcript_binds`** — the statement about the sessions, over every run of the two.

The transcript goes through SHA-256 into the first 32 bytes of the associated data of every frame.
Collision freeness is assumed of the two transcripts at hand (it holds of no function on all
inputs), and of the cipher that a text opens only under what it was sealed under
(`Aead.Binding`).
-/

namespace FtnlDesktop

open Method BigEndian SecureBluetoothSession

/-! ## The transcript -/

/-- Valid hellos with the same encoding are equal. -/
lemma BluetoothHello.encode_injective {h h' : BluetoothHello} (hvalid : h.validate = .ok ())
    (hvalid' : h'.validate = .ok ()) (heq : h.encode = h'.encode) : h = h' := by
  have hdecode := BluetoothHello.run_decode_eq_ok.mpr ⟨hvalid, rfl⟩
  have hdecode' := BluetoothHello.run_decode_eq_ok.mpr ⟨hvalid', rfl⟩
  rw [heq] at hdecode
  exact Except.ok.inj (Option.some.inj (hdecode.symm.trans hdecode'))

/-- The length of a valid hello fits the two bytes in front of it. -/
lemma BluetoothHello.length_encode_lt {h : BluetoothHello} (hvalid : h.validate = .ok ()) :
    h.encode.length < 256 ^ 2 := by
  obtain ⟨⟨⟨-, hmax⟩, -⟩, -⟩ := BluetoothHello.validate_eq_ok.mp hvalid
  rw [BluetoothHello.length_encode, length_asBytes]
  simp only [HELLO_FIXED_LEN, MAX_DEVICE_ID_LEN] at hmax ⊢
  omega

/-- A length-prefixed byte string and what follows it are determined. -/
lemma lengthPrefixed_inj {x x' rest rest' : Bytes} (hx : x.length < 256 ^ 2)
    (hx' : x'.length < 256 ^ 2)
    (h : toBeBytes 2 x.length ++ (x ++ rest) = toBeBytes 2 x'.length ++ (x' ++ rest')) :
    x = x' ∧ rest = rest' := by
  obtain ⟨hlength, htail⟩ := List.append_inj h (by simp)
  have hlen : x.length = x'.length := by
    rw [← fromBeBytes_toBeBytes hx, hlength, fromBeBytes_toBeBytes hx']
  exact List.append_inj htail hlen

/-- **The transcript determines both hellos.** -/
theorem handshakeTranscript_injective {i i' r r' : BluetoothHello} (hi : i.validate = .ok ())
    (hi' : i'.validate = .ok ()) (hr : r.validate = .ok ()) (hr' : r'.validate = .ok ())
    (h : handshakeTranscript i r = handshakeTranscript i' r') : i = i' ∧ r = r' := by
  simp only [handshakeTranscript, List.append_assoc] at h
  obtain ⟨hinitiator, hrest⟩ := lengthPrefixed_inj (BluetoothHello.length_encode_lt hi)
    (BluetoothHello.length_encode_lt hi') (List.append_cancel_left h)
  have hrest' : toBeBytes 2 r.encode.length ++ (r.encode ++ [])
      = toBeBytes 2 r'.encode.length ++ (r'.encode ++ []) := by
    simpa only [List.append_nil] using hrest
  obtain ⟨hresponder, -⟩ := lengthPrefixed_inj (BluetoothHello.length_encode_lt hr)
    (BluetoothHello.length_encode_lt hr') hrest'
  exact ⟨BluetoothHello.encode_injective hi hi' hinitiator,
    BluetoothHello.encode_injective hr hr' hresponder⟩

/-! ## Parties -/

/-- The pairing derived a pending session from this hello, and its user confirmed it. -/
def BluetoothPairing.Establishes (crates : HandshakeCrates) (pairing : BluetoothPairing)
    (peer : BluetoothHello) (session : SecureBluetoothSession) : Prop :=
  ∃ pending since checked now observedSas, pairing.derive crates since peer = .ok pending
    ∧ pending.confirm checked now observedSas = .ok session

/-- What the party takes the two hellos to be, the initiator's first. -/
def BluetoothPairing.view (pairing : BluetoothPairing) (peer : BluetoothHello) :
    BluetoothHello × BluetoothHello :=
  handshakeView pairing.hello peer

/-- The transcript of a view. -/
def viewTranscript (view : BluetoothHello × BluetoothHello) : Bytes :=
  handshakeTranscript view.1 view.2

/-- An established session carries the hash of its party's view, and both hellos are valid. -/
lemma BluetoothPairing.Establishes.view {crates : HandshakeCrates} {pairing : BluetoothPairing}
    {peer : BluetoothHello} {session : SecureBluetoothSession}
    (h : pairing.Establishes crates peer session) :
    session.transcriptHash = crates.sha256 (viewTranscript (pairing.view peer))
      ∧ (pairing.view peer).1.validate = .ok () ∧ (pairing.view peer).2.validate = .ok () := by
  obtain ⟨pending, since, checked, now, observedSas, hderive, hconfirm⟩ := h
  obtain ⟨hown, hpeer, -, _, -, -, transcriptHash, _, hhash, -, rfl⟩ :=
    BluetoothPairing.derive_eq_ok.mp hderive
  obtain ⟨-, -, -, rfl⟩ := confirm_eq_ok.mp hconfirm
  refine ⟨hhash, ?_⟩
  rw [BluetoothPairing.view, handshakeView]
  cases pairing.hello.role with
  | Initiator => exact ⟨hown, hpeer⟩
  | Responder => exact ⟨hpeer, hown⟩

/-! ## Frames of a session -/

/-- A text sealed under one key, nonce and associated data opens under no other. -/
def Aead.Binding (aead : Aead) : Prop :=
  ∀ {key nonce aad plaintext ciphertext}, aead.encrypt key nonce aad plaintext = some ciphertext →
    ∀ {key' nonce' aad'}, (aead.decrypt key' nonce' aad' ciphertext).isSome →
      (key', nonce', aad') = (key, nonce, aad)

/-- Everything the endpoint sent was sealed under this transcript hash. -/
structure Endpoint.BoundTo (aead : Aead) (transcriptHash : Digest) (endpoint : Endpoint) :
    Prop where
  transcriptHash_eq : endpoint.session.transcriptHash = transcriptHash
  bound : ∀ message ∈ endpoint.sent, ∃ key nonce sessionId,
    aead.encrypt key nonce
      (associatedData transcriptHash sessionId (message.frame.take FRAME_HEADER_LEN))
      message.plaintext = some (message.frame.drop FRAME_HEADER_LEN)

section BoundTo

variable {aead : Aead} {transcriptHash transcriptHash' : Digest} {endpoint peer : Endpoint}

lemma Endpoint.BoundTo.encrypt (h : endpoint.BoundTo aead transcriptHash) (now : Instant)
    (messageType : BluetoothMessageType) (plaintext : Bytes) :
    (endpoint.encrypt aead now messageType plaintext).BoundTo aead transcriptHash := by
  rcases endpoint.encrypt_cases aead now messageType plaintext with heq | ⟨message, hsealed, heq⟩
  · rwa [heq]
  · rw [heq]
    refine ⟨h.transcriptHash_eq, ?_⟩
    intro m hm
    rcases List.mem_append.mp hm with hold | hnew
    · exact h.bound m hold
    · rw [List.mem_singleton.mp hnew]
      obtain ⟨-, -, _, ciphertext, rfl, hseal, hframe⟩ := hsealed
      rw [hframe, take_headerBytes_append, drop_headerBytes_append, ← h.transcriptHash_eq]
      exact ⟨_, _, _, hseal⟩

lemma Endpoint.BoundTo.decrypt (h : endpoint.BoundTo aead transcriptHash) (now : Instant)
    (frame : Bytes) : (endpoint.decrypt aead now frame).BoundTo aead transcriptHash := by
  rcases endpoint.decrypt_cases aead now frame with heq | ⟨payload, session, -, heq⟩
  · rwa [heq]
  · rw [heq]
    exact ⟨h.transcriptHash_eq, h.bound⟩

/-- **A frame is refused by every session of another transcript hash.** -/
theorem Endpoint.BoundTo.refused (hbinding : aead.Binding)
    (h : endpoint.BoundTo aead transcriptHash)
    (hpeer : peer.session.transcriptHash = transcriptHash')
    (hne : transcriptHash ≠ transcriptHash') {message : SentMessage}
    (hsent : message ∈ endpoint.sent) (now : Instant) (payload : BluetoothMessageType × Bytes)
    (session : SecureBluetoothSession) :
    (SecureBluetoothSession.decrypt aead now message.frame).run peer.session
      ≠ .ok payload session := by
  intro hrun
  obtain ⟨-, -, -, -, -, -, -, -, -, hopen, -⟩ := run_decrypt_eq_ok.mp hrun
  obtain ⟨key, nonce, sessionId, hseal⟩ := h.bound message hsent
  have hsame := hbinding hseal (Option.isSome_iff_exists.mpr ⟨_, hopen⟩)
  simp only [Prod.mk.injEq, associatedData, List.append_assoc] at hsame
  refine hne (List.Vector.toList_injective ?_)
  rw [← hpeer]
  exact (List.append_inj_left hsame.2.2 (by simp)).symm

end BoundTo

/-- Both endpoints stay bound along every run. -/
lemma Link.boundTo_stateAt (aead : Aead) (a b : SecureBluetoothSession) (calls : List LinkCall)
    (n : ℕ) :
    (Machine.stateAt (Link.step aead) (Link.start a b) calls n).a.BoundTo aead a.transcriptHash
      ∧ (Machine.stateAt (Link.step aead) (Link.start a b) calls n).b.BoundTo aead
        b.transcriptHash := by
  refine Machine.exec_invariant (P := fun link : Link => link.a.BoundTo aead a.transcriptHash
    ∧ link.b.BoundTo aead b.transcriptHash) ?_ ⟨⟨rfl, by simp [Link.start]⟩,
      ⟨rfl, by simp [Link.start]⟩⟩ (calls.take n)
  rintro link call ⟨ha, hb⟩
  cases call with
  | EncryptA now messageType plaintext => exact ⟨ha.encrypt now messageType plaintext, hb⟩
  | EncryptB now messageType plaintext => exact ⟨ha, hb.encrypt now messageType plaintext⟩
  | DecryptA now frame => exact ⟨ha.decrypt now frame, hb⟩
  | DecryptB now frame => exact ⟨ha, hb.decrypt now frame⟩

/-- No frame that `sender` has sent is accepted by `receiver`, whenever it arrives. -/
def RefusesAll (aead : Aead) (receiver sender : Endpoint) : Prop :=
  ∀ message ∈ sender.sent, ∀ now payload session,
    (SecureBluetoothSession.decrypt aead now message.frame).run receiver.session
      ≠ .ok payload session

/-- **Transcript binding.**  The transcript determines both hellos; and two honest parties with
different views never accept a frame of each other, at any two points of any run. -/
theorem transcript_binds {crates : HandshakeCrates} {aead : Aead} (hbinding : aead.Binding) :
    (∀ i i' r r' : BluetoothHello, i.validate = .ok () → i'.validate = .ok () →
      r.validate = .ok () → r'.validate = .ok () →
      handshakeTranscript i r = handshakeTranscript i' r' → i = i' ∧ r = r') ∧
    ∀ (p q : BluetoothPairing) (peerOfP peerOfQ : BluetoothHello) (a b : SecureBluetoothSession),
      p.Establishes crates peerOfP a → q.Establishes crates peerOfQ b →
      Set.InjOn crates.sha256
        {viewTranscript (p.view peerOfP), viewTranscript (q.view peerOfQ)} →
      p.view peerOfP ≠ q.view peerOfQ →
      ∀ (calls : List LinkCall) (m n : ℕ),
        RefusesAll aead (Machine.stateAt (Link.step aead) (Link.start a b) calls m).b
          (Machine.stateAt (Link.step aead) (Link.start a b) calls n).a ∧
        RefusesAll aead (Machine.stateAt (Link.step aead) (Link.start a b) calls m).a
          (Machine.stateAt (Link.step aead) (Link.start a b) calls n).b := by
  refine ⟨fun i i' r r' hi hi' hr hr' => handshakeTranscript_injective hi hi' hr hr', ?_⟩
  intro p q peerOfP peerOfQ a b hp hq hcollision hviews calls m n
  obtain ⟨hhash, hinitiator, hresponder⟩ := hp.view
  obtain ⟨hhash', hinitiator', hresponder'⟩ := hq.view
  have hne : a.transcriptHash ≠ b.transcriptHash := by
    intro heq
    rw [hhash, hhash'] at heq
    have htranscripts := hcollision (Or.inl rfl) (Or.inr rfl) heq
    obtain ⟨hfst, hsnd⟩ :=
      handshakeTranscript_injective hinitiator hinitiator' hresponder hresponder' htranscripts
    exact hviews (Prod.ext hfst hsnd)
  obtain ⟨ham, hbm⟩ := Link.boundTo_stateAt aead a b calls m
  obtain ⟨han, hbn⟩ := Link.boundTo_stateAt aead a b calls n
  constructor
  · intro message hsent
    exact han.refused hbinding hbm.transcriptHash_eq hne hsent
  · intro message hsent
    exact hbn.refused hbinding ham.transcriptHash_eq hne.symm hsent

/-! ## A substituted hello

The conformance vector, in which the attacker replaces the device id of the responder's hello on
its way to the initiator. -/

section SubstitutedHello

/-- The hello that reaches the initiator. -/
def substitutedHello : BluetoothHello := { vectorResponderHello with deviceId := "desktop-c" }

def substitutedTranscriptHash : Digest :=
  ⟨[0x5d, 0x25, 0x55, 0x93, 0x93, 0xcf, 0xa8, 0x72, 0x2a, 0x4b, 0x00, 0x02,
    0x2b, 0x77, 0xd2, 0xe8, 0xf0, 0xf4, 0x3f, 0x06, 0x8a, 0x28, 0xbc, 0x14,
    0xf5, 0x01, 0x3a, 0x6c, 0x78, 0xf4, 0xc3, 0x4c], rfl⟩

def substitutedMaterial : KeyMaterial :=
  ⟨[0xf8, 0x90, 0xa6, 0xee, 0xf3, 0x20, 0xff, 0x3a, 0x63, 0x0b, 0xf2, 0x05,
    0x68, 0x6f, 0x41, 0x5c, 0x92, 0x19, 0x66, 0x69, 0xf3, 0x6b, 0x99, 0xe8,
    0x71, 0x10, 0xa3, 0xcb, 0xae, 0x73, 0xc0, 0x50, 0xbe, 0x9a, 0xad, 0x13,
    0xbd, 0x4e, 0x5d, 0x3f, 0x40, 0x81, 0x98, 0x4f, 0x99, 0xaf, 0x08, 0x32,
    0x34, 0xcc, 0xe9, 0xa8, 0x90, 0x0d, 0x95, 0x98, 0x4d, 0x90, 0x10, 0x43,
    0x5f, 0xa8, 0x95, 0x72, 0x1b, 0x3e, 0xf4, 0x12, 0xfc, 0xe2, 0x2c, 0x50,
    0x06, 0xaf, 0xdf, 0xdd, 0xd1, 0x87, 0x7d, 0x71, 0xc1, 0x06, 0x6b, 0xa8,
    0x72, 0x8f, 0x89, 0xff, 0xaf, 0x75, 0x16, 0x15, 0x2a, 0x08, 0x61, 0x28,
    0x22, 0x76, 0x60, 0xb4, 0x9b, 0x3b, 0x96, 0x60], rfl⟩

/-- `vectorCrates`, and what the initiator computes from the substituted hello. -/
def substitutedCrates : HandshakeCrates where
  sha256 input :=
    if input = handshakeTranscript vectorInitiatorHello substitutedHello then
      substitutedTranscriptHash
    else vectorCrates.sha256 input
  publicKey := vectorCrates.publicKey
  diffieHellman := vectorCrates.diffieHellman
  hkdf salt ikm info n :=
    if h : substitutedMaterial.toList.length = n ∧ (salt, ikm, info)
        = (substitutedTranscriptHash, vectorShared, PROTOCOL_LABEL) then
      some ⟨substitutedMaterial.toList, h.1⟩
    else vectorCrates.hkdf salt ikm info n

/-- The initiator's session with the substituted hello. -/
def substitutedInitiator : SecureBluetoothSession :=
  (pendingSession vectorInitiatorHello substitutedHello substitutedTranscriptHash
    substitutedMaterial 0).confirmed 0

lemma binding_vectorAead : vectorAead.Binding := by
  intro key nonce aad plaintext ciphertext hseal key' nonce' aad' hopen
  have hbox : (⟨key', nonce', aad', ciphertext⟩ : SealedBox) = vectorInitiatorBox
      ∨ (⟨key', nonce', aad', ciphertext⟩ : SealedBox) = vectorResponderBox := by
    by_contra hnone
    simp [vectorAead, if_neg hnone] at hopen
  have hdistinct : vectorInitiatorBox.ciphertext ≠ vectorResponderBox.ciphertext := by decide
  simp only [vectorAead] at hseal
  split_ifs at hseal with hinitiator hresponder
  · obtain rfl := Option.some.inj hseal
    rw [hinitiator.2]
    rcases hbox with hbox | hbox
    · rw [← hbox]
    · exact absurd (congrArg SealedBox.ciphertext hbox) hdistinct
  · obtain rfl := Option.some.inj hseal
    rw [hresponder.2]
    rcases hbox with hbox | hbox
    · exact absurd (congrArg SealedBox.ciphertext hbox).symm hdistinct
    · rw [← hbox]

theorem transcript_binds_substituted :
    RefusesAll vectorAead
        (Machine.stateAt (Link.step vectorAead) (Link.start substitutedInitiator vectorResponder)
          [.EncryptB 0 .PeerInfo crossLanguage] 1).a
        (Machine.stateAt (Link.step vectorAead) (Link.start substitutedInitiator vectorResponder)
          [.EncryptB 0 .PeerInfo crossLanguage] 1).b
      ∧ (Machine.stateAt (Link.step vectorAead) (Link.start substitutedInitiator vectorResponder)
          [.EncryptB 0 .PeerInfo crossLanguage] 1).b.sent.length = 1 := by
  have hbinds := @transcript_binds substitutedCrates vectorAead binding_vectorAead
  refine ⟨(hbinds.2 vectorInitiatorPairing vectorResponderPairing substitutedHello
    vectorInitiatorHello substitutedInitiator vectorResponder ?_ ?_ ?_ ?_ _ 1 1).2,
    by decide +kernel⟩
  · exact ⟨pendingSession vectorInitiatorHello substitutedHello substitutedTranscriptHash
      substitutedMaterial 0, 0, 0, 0, "189405", by decide +kernel, by decide +kernel⟩
  · exact ⟨vectorResponderPending, 0, 0, 0, "729801", by decide +kernel, by decide +kernel⟩
  · rintro _ (rfl | rfl) _ (rfl | rfl) heq
    · rfl
    · exact absurd heq (by decide +kernel)
    · exact absurd heq (by decide +kernel)
    · rfl
  · decide +kernel

end SubstitutedHello

end FtnlDesktop
