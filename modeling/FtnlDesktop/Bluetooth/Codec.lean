import FtnlDesktop.Bluetooth.Channel
import FtnlDesktop.Core.Slice

/-!
# One frame for one message

`encrypt` and `decrypt` write and read the same format, at every boundary: a frame is accepted
exactly when it is the one frame that the peer makes of the message at this point of the session.
There is no second spelling of a header, a counter or a length.

`decryptIndexed` is `decrypt` with its indexing, so that a read outside the frame would be a panic.

* **`frame_codec_agrees`** — the agreement, the frame limit, and that no frame makes `decrypt`
  index outside it.

The direction that needs an argument is from an accepted frame to its header:
`take_eq_headerBytes` puts the checked fields together again.
-/

namespace FtnlDesktop

open Method BigEndian SecureBluetoothSession

/-- The contract of the cipher, with nothing sealed that does not open and nothing opened that was
not sealed. -/
structure Aead.Exact (aead : Aead) : Prop where
  decrypt_eq_some : ∀ {key nonce aad plaintext ciphertext},
    aead.decrypt key nonce aad ciphertext = some plaintext ↔
      aead.encrypt key nonce aad plaintext = some ciphertext
  length_encrypt : ∀ {key nonce aad plaintext ciphertext},
    aead.encrypt key nonce aad plaintext = some ciphertext →
      ciphertext.length = plaintext.length + AEAD_TAG_LEN

lemma Aead.Exact.lawful {aead : Aead} (h : aead.Exact) : aead.Lawful :=
  ⟨fun hseal => h.decrypt_eq_some.mpr hseal, fun hseal => h.length_encrypt hseal⟩

/-! ## Indexing -/

namespace SecureBluetoothSession

open Slice in
/-- `SecureBluetoothSession::decrypt` with its indexing; the session is returned with the
payload. -/
def decryptIndexed (aead : Aead) (now : Instant) (frame : Bytes) (self : SecureBluetoothSession) :
    Panicking SecureBluetoothError ((BluetoothMessageType × Bytes) × SecureBluetoothSession) := do
  ofResult (self.ensureActive now)
  rejectIf (frame.length < FRAME_HEADER_LEN + AEAD_TAG_LEN
    ∨ rangeAt frame 0 4 ≠ some FRAME_MAGIC) SecureBluetoothError.InvalidFrame
  let version ← index frame 4
  rejectIf (version ≠ VERSION) SecureBluetoothError.InvalidFrame
  let typeByte ← index frame 5
  let messageType ← ofResult (BluetoothMessageType.fromByte typeByte)
  let counterBytes ← range frame 6 14
  let counter := fromBeBytes counterBytes
  let lenBytes ← range frame 14 16
  let ciphertextLen := fromBeBytes lenBytes
  rejectIf (counter ≠ min (self.rxCounter + 1) (2 ^ 64 - 1)) SecureBluetoothError.ReplayOrOutOfOrder
  rejectIf (MAX_BLUETOOTH_FRAMES_PER_DIRECTION < counter) SecureBluetoothError.FrameLimit
  rejectIf (¬ (AEAD_TAG_LEN ≤ ciphertextLen
      ∧ ciphertextLen ≤ MAX_BLUETOOTH_PLAINTEXT_LEN + AEAD_TAG_LEN)
    ∨ frame.length ≠ FRAME_HEADER_LEN + ciphertextLen) SecureBluetoothError.InvalidFrame
  let header ← range frame 0 FRAME_HEADER_LEN
  let ciphertext ← range frame FRAME_HEADER_LEN frame.length
  let aad := associatedData self.transcriptHash self.sessionId header
  let plaintext ← ofResult (okOr
    (aead.decrypt self.rxKey (nonce self.rxPrefix counter) aad ciphertext)
    SecureBluetoothError.Decrypt)
  return ((messageType, plaintext), { self with rxCounter := counter })

/-- **`decrypt` returns on every frame.** -/
theorem completes_decryptIndexed (aead : Aead) (now : Instant) (frame : Bytes)
    (self : SecureBluetoothSession) : Slice.Completes (decryptIndexed aead now frame self) := by
  refine Slice.completes_ofResult_bind fun _ _ => ?_
  refine Slice.completes_rejectIf_bind fun hlen => ?_
  rw [not_or, not_lt, FRAME_HEADER_LEN, AEAD_TAG_LEN] at hlen
  refine Slice.completes_index_bind (by omega) fun version _ => ?_
  refine Slice.completes_rejectIf_bind fun _ => ?_
  refine Slice.completes_index_bind (by omega) fun typeByte _ => ?_
  refine Slice.completes_ofResult_bind fun messageType _ => ?_
  refine Slice.completes_range_bind (by omega) (by omega) fun counterBytes _ => ?_
  refine Slice.completes_range_bind (by omega) (by omega) fun lenBytes _ => ?_
  refine Slice.completes_rejectIf_bind fun _ => ?_
  refine Slice.completes_rejectIf_bind fun _ => ?_
  refine Slice.completes_rejectIf_bind fun _ => ?_
  refine Slice.completes_range_bind (by omega) (by rw [FRAME_HEADER_LEN]; omega) fun header _ => ?_
  refine Slice.completes_range_bind (by rw [FRAME_HEADER_LEN]; omega) le_rfl
    fun ciphertext _ => ?_
  exact Slice.completes_ofResult_bind fun _ _ => Slice.completes_pure _

lemma rangeAt_of_le {frame : Bytes} {lo hi : ℕ} (hle : lo ≤ hi) (h : hi ≤ frame.length) :
    Slice.rangeAt frame lo hi = some ((frame.take hi).drop lo) := by
  rw [Slice.rangeAt, if_pos ⟨hle, h⟩, List.drop_take]

lemma getElem?_of_lt {frame : Bytes} {i : ℕ} (h : i < frame.length) :
    frame[i]? = some (frame.getD i 0) := by
  rw [List.getD_eq_getElem?_getD, List.getElem?_eq_getElem h, Option.getD_some]

/-- The two models of `decrypt` accept the same frames, with the same outcome. -/
theorem decryptIndexed_eq_ok {aead : Aead} {now : Instant} {frame plaintext : Bytes}
    {messageType : BluetoothMessageType} {self self' : SecureBluetoothSession} :
    (decryptIndexed aead now frame self).run = some (.ok ((messageType, plaintext), self')) ↔
      (decrypt aead now frame).run self = .ok (messageType, plaintext) self' := by
  by_cases hlong : FRAME_HEADER_LEN + AEAD_TAG_LEN ≤ frame.length
  · have hlen := hlong
    rw [FRAME_HEADER_LEN, AEAD_TAG_LEN] at hlen
    simp only [decryptIndexed, Slice.run_rejectIf_bind_eq_ok, Slice.run_index_bind_eq_ok,
      Slice.run_ofResult_bind_eq_ok, Slice.run_range_bind_eq_ok, Slice.run_pure_eq_ok,
      rangeAt_of_le (Nat.zero_le 4) (show 4 ≤ frame.length by omega),
      rangeAt_of_le (show 6 ≤ 14 by decide) (show 14 ≤ frame.length by omega),
      rangeAt_of_le (show 14 ≤ 16 by decide) (show 16 ≤ frame.length by omega),
      rangeAt_of_le (Nat.zero_le FRAME_HEADER_LEN)
        (show FRAME_HEADER_LEN ≤ frame.length by rw [FRAME_HEADER_LEN]; omega),
      rangeAt_of_le (show FRAME_HEADER_LEN ≤ frame.length by rw [FRAME_HEADER_LEN]; omega) le_rfl,
      getElem?_of_lt (show 4 < frame.length by omega),
      getElem?_of_lt (show 5 < frame.length by omega), ensureActive_eq_ok,
      okOr_eq_ok, Option.some.injEq, exists_eq_left', List.drop_zero,
      List.take_length, not_or, not_not, not_lt, ne_eq, Prod.mk.injEq, run_decrypt_eq_ok]
    change _ ↔ _ ∧ _ ∧ _ ∧ _ ∧ fromBeBytes ((frame.take 14).drop 6) = _ ∧ _ ∧ _
    rw [show frameCiphertextLen frame = fromBeBytes ((frame.take 16).drop 14) from rfl]
    generalize fromBeBytes ((frame.take 14).drop 6) = counter
    constructor
    · rintro ⟨-, hactive, ⟨-, hmagic⟩, hversion, _, htype, hcounter, hlimit, ⟨hrange, hsize⟩, _,
        hopen, ⟨rfl, rfl⟩, rfl⟩
      obtain rfl : counter = self.rxCounter + 1 := by
        simp only [MAX_BLUETOOTH_FRAMES_PER_DIRECTION] at hlimit
        omega
      exact ⟨hactive, hmagic, hversion, htype, rfl, hlimit, hrange.1, hrange.2, hsize, hopen, rfl⟩
    · rintro ⟨hactive, hmagic, hversion, htype, rfl, hlimit, hmin, hmax, hsize, hopen, rfl⟩
      have hcounter : self.rxCounter + 1 = min (self.rxCounter + 1) (2 ^ 64 - 1) := by
        simp only [MAX_BLUETOOTH_FRAMES_PER_DIRECTION] at hlimit
        omega
      exact ⟨(), hactive, ⟨hlong, hmagic⟩, hversion, messageType, htype, hcounter, hlimit,
        ⟨⟨hmin, hmax⟩, hsize⟩, plaintext, hopen, ⟨rfl, rfl⟩, rfl⟩
  · -- a frame below the minimal length is refused by both
    constructor
    · intro h
      simp only [decryptIndexed, Slice.run_rejectIf_bind_eq_ok, Slice.run_ofResult_bind_eq_ok,
        not_or, not_lt] at h
      obtain ⟨-, -, ⟨hlen, -⟩, -⟩ := h
      exact absurd hlen hlong
    · intro h
      obtain ⟨-, -, -, -, -, -, hmin, -, hlen, -⟩ := run_decrypt_eq_ok.mp h
      omega

end SecureBluetoothSession

/-! ## Accepted frames -/

lemma BluetoothMessageType.fromByte_eq_ok {value : UInt8} {messageType : BluetoothMessageType} :
    BluetoothMessageType.fromByte value = .ok messageType ↔ value = messageType.toByte := by
  constructor
  · intro h
    rw [BluetoothMessageType.fromByte] at h
    split_ifs at h with hone htwo hthree
    · obtain rfl := Except.ok.inj h
      exact hone
    · obtain rfl := Except.ok.inj h
      exact htwo
    · obtain rfl := Except.ok.inj h
      exact hthree
  · rintro rfl
    exact fromByte_toByte messageType

lemma take_append_drop_take {frame : Bytes} {lo hi : ℕ} (h : lo ≤ hi) :
    frame.take lo ++ (frame.take hi).drop lo = frame.take hi := by
  conv_rhs => rw [← List.take_append_drop lo (frame.take hi), List.take_take, min_eq_left h]

/-- The checked fields make up the whole header. -/
lemma take_eq_headerBytes {frame : Bytes} {messageType : BluetoothMessageType}
    (hlen : FRAME_HEADER_LEN ≤ frame.length) (hmagic : frame.take 4 = FRAME_MAGIC)
    (hversion : frame.getD 4 0 = VERSION) (htype : frame.getD 5 0 = messageType.toByte) :
    frame.take FRAME_HEADER_LEN
      = headerBytes messageType (frameCounter frame) (frameCiphertextLen frame) := by
  rw [FRAME_HEADER_LEN] at hlen
  have htwo : (frame.take 6).drop 4 = [VERSION, messageType.toByte] := by
    have hfourth := Slice.getElem?_eq_some_iff_drop.mp
      (getElem?_of_lt (show 4 < frame.length by omega))
    have hfifth := Slice.getElem?_eq_some_iff_drop.mp
      (getElem?_of_lt (show 5 < frame.length by omega))
    rw [List.drop_take, hfourth, hfifth, hversion, htype]
    rfl
  have hcounter : toBeBytes 8 (frameCounter frame) = (frame.take 14).drop 6 :=
    toBeBytes_fromBeBytes (by rw [List.length_drop, List.length_take]; omega)
  have hcount : toBeBytes 2 (frameCiphertextLen frame) = (frame.take 16).drop 14 :=
    toBeBytes_fromBeBytes (by rw [List.length_drop, List.length_take]; omega)
  rw [headerBytes, ← hmagic, ← htwo, hcounter, hcount, take_append_drop_take (by decide),
    take_append_drop_take (by decide), take_append_drop_take (by decide), FRAME_HEADER_LEN]

section Codec

variable {aead : Aead} {sender receiver : SecureBluetoothSession}

/-- **A frame is accepted exactly when it is the one that the sender makes.** -/
theorem decrypt_iff_encrypt (hexact : aead.Exact) (hpair : SameHandshake sender receiver)
    (hcounter : sender.txCounter = receiver.rxCounter) {now now' : Instant}
    (hsender : sender.Active now) (hreceiver : receiver.Active now') {frame plaintext : Bytes}
    {messageType : BluetoothMessageType} :
    (∃ session, (decrypt aead now' frame).run receiver = .ok (messageType, plaintext) session) ↔
      plaintext.length ≤ MAX_BLUETOOTH_PLAINTEXT_LEN ∧
        ∃ session, (encrypt aead now messageType plaintext).run sender = .ok frame session := by
  constructor
  · rintro ⟨session, hrun⟩
    obtain ⟨-, hmagic, hversion, htype, hnext, hlimit, hmin, hmax, hlen, hopen, -⟩ :=
      run_decrypt_eq_ok.mp hrun
    have hseal := hexact.decrypt_eq_some.mp hopen
    have hsize := hexact.length_encrypt hseal
    rw [List.length_drop, hlen, Nat.add_sub_cancel_left] at hsize
    have hheader := take_eq_headerBytes (by omega) hmagic hversion
      (BluetoothMessageType.fromByte_eq_ok.mp htype)
    rw [hnext, hsize, ← hcounter] at hheader
    have hseal' : aead.encrypt sender.txKey (nonce sender.txPrefix (sender.txCounter + 1))
        (associatedData sender.transcriptHash sender.sessionId (frame.take FRAME_HEADER_LEN))
        plaintext = some (frame.drop FRAME_HEADER_LEN) := by
      rw [hcounter, hpair.key, hpair.noncePrefix, hpair.transcriptHash, hpair.sessionId]
      exact hseal
    exact ⟨by omega, _, run_encrypt_eq_ok.mpr ⟨hsender, by omega, hcounter ▸ hlimit, _, _, hheader,
      hseal', (List.take_append_drop _ _).symm, rfl⟩⟩
  · rintro ⟨-, session, hrun⟩
    obtain ⟨-, hlen, hlimit, header, ciphertext, hheader, hseal, hframe, -⟩ :=
      run_encrypt_eq_ok.mp hrun
    rw [hcounter] at hlimit hheader hseal
    have hsealed : SealedAs aead sender (receiver.rxCounter + 1)
        ⟨messageType, plaintext, frame⟩ :=
      ⟨hlen, hlimit, header, ciphertext, hheader, hseal, hframe⟩
    exact ⟨_, hsealed.run_decrypt hexact.lawful hpair hreceiver⟩

/-- After its last frame the sender makes no other. -/
lemma run_encrypt_frameLimit {now : Instant} (hsender : sender.Active now)
    (hcounter : sender.txCounter = MAX_BLUETOOTH_FRAMES_PER_DIRECTION) {plaintext : Bytes}
    (hlen : plaintext.length ≤ MAX_BLUETOOTH_PLAINTEXT_LEN) (messageType : BluetoothMessageType) :
    (encrypt aead now messageType plaintext).run sender = .error .FrameLimit sender := by
  have hactive : sender.ensureActive now = .ok () := ensureActive_eq_ok.mpr hsender
  have hnext : checkedAddU64 sender.txCounter 1
      = some (MAX_BLUETOOTH_FRAMES_PER_DIRECTION + 1) := by
    rw [hcounter]
    rfl
  simp only [encrypt, EStateM.run_bind, EStateM.run_get, hactive, run_attempt_ok, run_rejectIf,
    if_neg (not_lt.mpr hlen), hnext, run_okOr_some, if_pos (Nat.lt_succ_self _)]

/-- **Agreement of the frame codec** for two sessions that match, at every frame number. -/
theorem frame_codec_agrees (hexact : aead.Exact) (hpair : SameHandshake sender receiver) {n : ℕ}
    (htx : sender.txCounter = n) (hrx : receiver.rxCounter = n) {now now' : Instant}
    (hsender : sender.Active now) (hreceiver : receiver.Active now') :
    (n < MAX_BLUETOOTH_FRAMES_PER_DIRECTION → ∀ frame messageType plaintext,
      (∃ session, (decrypt aead now' frame).run receiver = .ok (messageType, plaintext) session) ↔
        plaintext.length ≤ MAX_BLUETOOTH_PLAINTEXT_LEN ∧
          ∃ session, (encrypt aead now messageType plaintext).run sender = .ok frame session) ∧
    (n = MAX_BLUETOOTH_FRAMES_PER_DIRECTION →
      (∀ messageType plaintext, plaintext.length ≤ MAX_BLUETOOTH_PLAINTEXT_LEN →
        (encrypt aead now messageType plaintext).run sender = .error .FrameLimit sender) ∧
      ∀ frame payload session,
        (decrypt aead now' frame).run receiver ≠ .ok payload session) ∧
    ∀ frame, ∃ outcome, (decryptIndexed aead now' frame receiver).run = some outcome ∧
      ∀ payload session, outcome = .ok (payload, session) ↔
        (decrypt aead now' frame).run receiver = .ok payload session := by
  refine ⟨?_, ?_, ?_⟩
  · intro _ frame messageType plaintext
    exact decrypt_iff_encrypt hexact hpair (htx.trans hrx.symm) hsender hreceiver
  · rintro rfl
    refine ⟨fun messageType plaintext hlen => run_encrypt_frameLimit hsender htx hlen messageType,
      ?_⟩
    intro frame payload session hrun
    obtain ⟨-, -, -, -, -, hlimit, -⟩ := run_decrypt_eq_ok.mp hrun
    omega
  · intro frame
    obtain ⟨outcome, houtcome⟩ :=
      Option.ne_none_iff_exists'.mp (completes_decryptIndexed aead now' frame receiver)
    refine ⟨outcome, houtcome, ?_⟩
    rintro ⟨messageType, plaintext⟩ session
    rw [← decryptIndexed_eq_ok, houtcome, Option.some.injEq]

end Codec

/-! ## The conformance vector -/

lemma exact_vectorAead : vectorAead.Exact where
  decrypt_eq_some := by
    intro key nonce aad plaintext ciphertext
    refine ⟨fun hopen => ?_, fun hseal => lawful_vectorAead.decrypt_encrypt hseal⟩
    simp only [vectorAead] at hopen ⊢
    split_ifs at hopen with hbox
    obtain rfl := Option.some.inj hopen
    rcases hbox with hbox | hbox
    · rw [← hbox, if_pos ⟨rfl, rfl⟩]
    · have hkeys : key ≠ vectorInitiatorBox.key := by
        rw [show key = vectorResponderBox.key from congrArg SealedBox.key hbox]
        decide +kernel
      rw [← hbox, if_neg fun h => hkeys (congrArg Prod.fst h.2), if_pos ⟨rfl, rfl⟩]
  length_encrypt := lawful_vectorAead.length_encrypt

/-- The frame of the vector is the one that carries its message. -/
theorem frame_codec_agrees_vector :
    ∃ session, (decrypt vectorAead 1 (vectorHeader ++ vectorInitiatorBox.ciphertext)).run
      vectorResponder = .ok (.PeerInfo, crossLanguage) session := by
  have hsender : vectorInitiator.Active 0 := by
    rw [SecureBluetoothSession.Active]
    decide +kernel
  have hreceiver : vectorResponder.Active 1 := by
    rw [SecureBluetoothSession.Active]
    decide +kernel
  have hpair : SameHandshake vectorInitiator vectorResponder := ⟨rfl, rfl, rfl, rfl⟩
  have hcodec := frame_codec_agrees exact_vectorAead hpair rfl rfl hsender hreceiver
  refine (hcodec.1 (by decide) _ _ _).mpr ⟨by decide, _, run_encrypt_eq_ok.mpr ⟨hsender, by decide,
    by decide, _, _, rfl, ?_, rfl, rfl⟩⟩
  decide +kernel

end FtnlDesktop
