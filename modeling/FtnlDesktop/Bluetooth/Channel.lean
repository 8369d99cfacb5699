import FtnlDesktop.Core.Fifo
import FtnlDesktop.Bluetooth.Frame

/-!
# The secure channel under an active attacker

Two confirmed sessions of one handshake, `a` and `b`, and everything between them in the hands of
an attacker: `b.decrypt` is called with **whatever byte strings the attacker likes** — frames of
`a` in any order and number, altered ones, invented ones, `b`'s own frames sent back.  The history
lists of `Endpoint` record what each party has sent and accepted; no method reads them.

Two things are assumed of ChaCha20-Poly1305.  `Aead.Lawful` is its functional contract.
`NoForgery` is its authenticity, as a condition on the call: what opens under `b`'s key has been
sealed before, under the same key, nonce and associated data, by one of the two parties.

* **`secure_channel_is_fifo`** — what `b` has accepted is at every moment a prefix of what `a` has
  sent; a failing `decrypt` changes nothing; and the genuine next frame is always accepted.
* **`link_implements_fifo`** — the same as a refinement: every run of the two sessions is a
  behaviour of the channel of `Core.Fifo`.

The key argument is `mem_sent_of_opened`.  Associated data and ciphertext make up the frame, so an
opened frame is one that a party has sent; the nonce carries the direction, so it was not `b`.
-/

namespace FtnlDesktop

open Method SecureBluetoothSession

/-! ## The system -/

/-- What a successful `encrypt` was given, and the frame it returned. -/
structure SentMessage where
  messageType : BluetoothMessageType
  plaintext : Bytes
  frame : Bytes
deriving DecidableEq

/-- What the receiver of the message is meant to see. -/
def SentMessage.payload (message : SentMessage) : BluetoothMessageType × Bytes :=
  (message.messageType, message.plaintext)

/-- A session with the history of its successful calls. -/
structure Endpoint where
  session : SecureBluetoothSession
  sent : List SentMessage
  received : List (BluetoothMessageType × Bytes)
deriving DecidableEq

namespace Endpoint

/-- The session leaves the call as the method left it, also when the method failed. -/
def encrypt (aead : Aead) (self : Endpoint) (now : Instant) (messageType : BluetoothMessageType)
    (plaintext : Bytes) : Endpoint :=
  match (SecureBluetoothSession.encrypt aead now messageType plaintext).run self.session with
  | .ok frame session =>
      { self with session, sent := self.sent ++ [⟨messageType, plaintext, frame⟩] }
  | .error _ session => { self with session }

def decrypt (aead : Aead) (self : Endpoint) (now : Instant) (frame : Bytes) : Endpoint :=
  match (SecureBluetoothSession.decrypt aead now frame).run self.session with
  | .ok payload session => { self with session, received := self.received ++ [payload] }
  | .error _ session => { self with session }

end Endpoint

structure Link where
  a : Endpoint
  b : Endpoint
deriving DecidableEq

/-- A call on one of the two sessions.  The instants and the frames are the attacker's choice. -/
inductive LinkCall where
  | EncryptA (now : Instant) (messageType : BluetoothMessageType) (plaintext : Bytes)
  | EncryptB (now : Instant) (messageType : BluetoothMessageType) (plaintext : Bytes)
  | DecryptA (now : Instant) (frame : Bytes)
  | DecryptB (now : Instant) (frame : Bytes)

namespace Link

def step (aead : Aead) (link : Link) : LinkCall → Link
  | .EncryptA now messageType plaintext =>
      { link with a := link.a.encrypt aead now messageType plaintext }
  | .EncryptB now messageType plaintext =>
      { link with b := link.b.encrypt aead now messageType plaintext }
  | .DecryptA now frame => { link with a := link.a.decrypt aead now frame }
  | .DecryptB now frame => { link with b := link.b.decrypt aead now frame }

/-- Two sessions on which no call has been made. -/
def start (a b : SecureBluetoothSession) : Link := ⟨⟨a, [], []⟩, ⟨b, [], []⟩⟩

end Link

/-! ## What the cipher sees -/

/-- The functional contract of the cipher. -/
structure Aead.Lawful (aead : Aead) : Prop where
  decrypt_encrypt : ∀ {key nonce aad plaintext ciphertext},
    aead.encrypt key nonce aad plaintext = some ciphertext →
      aead.decrypt key nonce aad ciphertext = some plaintext
  length_encrypt : ∀ {key nonce aad plaintext ciphertext},
    aead.encrypt key nonce aad plaintext = some ciphertext →
      ciphertext.length = plaintext.length + AEAD_TAG_LEN

/-- A ciphertext together with all that it is authenticated under. -/
structure SealedBox where
  key : AeadKey
  nonce : AeadNonce
  aad : Bytes
  ciphertext : Bytes
deriving DecidableEq

def Aead.opens (aead : Aead) (box : SealedBox) : Bool :=
  (aead.decrypt box.key box.nonce box.aad box.ciphertext).isSome

/-- The box that `encrypt` has put into the frame. -/
def SecureBluetoothSession.sealedIn (self : SecureBluetoothSession) (frame : Bytes) :
    SealedBox where
  key := self.txKey
  nonce := nonce self.txPrefix (frameCounter frame)
  aad := associatedData self.transcriptHash self.sessionId (frame.take FRAME_HEADER_LEN)
  ciphertext := frame.drop FRAME_HEADER_LEN

/-- The box that `decrypt` takes out of the frame. -/
def SecureBluetoothSession.toOpen (self : SecureBluetoothSession) (frame : Bytes) : SealedBox where
  key := self.rxKey
  nonce := nonce self.rxPrefix (frameCounter frame)
  aad := associatedData self.transcriptHash self.sessionId (frame.take FRAME_HEADER_LEN)
  ciphertext := frame.drop FRAME_HEADER_LEN

/-- Everything the two parties have sealed so far. -/
def Link.sealed (link : Link) : List SealedBox :=
  link.a.sent.map (fun message => link.a.session.sealedIn message.frame)
    ++ link.b.sent.map (fun message => link.b.session.sealedIn message.frame)

/-- **Authenticity.**  The attacker presents to `b` no box that opens and was never sealed. -/
def NoForgery (aead : Aead) (link : Link) : LinkCall → Prop
  | .DecryptB _ frame =>
      aead.opens (link.b.session.toOpen frame) → link.b.session.toOpen frame ∈ link.sealed
  | _ => True

instance instDecidableNoForgery (aead : Aead) (link : Link) :
    ∀ call, Decidable (NoForgery aead link call)
  | .EncryptA .. => isTrue trivial
  | .EncryptB .. => isTrue trivial
  | .DecryptA .. => isTrue trivial
  | .DecryptB _ frame =>
      inferInstanceAs (Decidable (aead.opens (link.b.session.toOpen frame) →
        link.b.session.toOpen frame ∈ link.sealed))

/-! ## Sessions of one handshake -/

/-- What `a` sends with is what `b` receives with. -/
structure SameHandshake (a b : SecureBluetoothSession) : Prop where
  key : a.txKey = b.rxKey
  noncePrefix : a.txPrefix = b.rxPrefix
  transcriptHash : a.transcriptHash = b.transcriptHash
  sessionId : a.sessionId = b.sessionId

/-- Calls move only the counters. -/
lemma SameHandshake.withCounters {a b : SecureBluetoothSession} (h : SameHandshake a b)
    (atx arx btx brx : ℕ) :
    SameHandshake { a with txCounter := atx, rxCounter := arx }
      { b with txCounter := btx, rxCounter := brx } :=
  ⟨h.key, h.noncePrefix, h.transcriptHash, h.sessionId⟩

/-- The key derivation has given the two directions different secrets. -/
def DirectionsSeparated (self : SecureBluetoothSession) : Prop :=
  (self.txKey, self.txPrefix) ≠ (self.rxKey, self.rxPrefix)
deriving Decidable

/-- The session is one that `confirm` has returned. -/
def Confirmed (self : SecureBluetoothSession) : Prop :=
  ∃ (pending : PendingBluetoothSession) (checked now : Instant) (observedSas : String),
    pending.confirm checked now observedSas = .ok self

/-- A confirmed session has sent and received nothing. -/
lemma Confirmed.counters {self : SecureBluetoothSession} (h : Confirmed self) :
    self.txCounter = 0 ∧ self.rxCounter = 0 := by
  obtain ⟨pending, checked, now, observedSas, hconfirm⟩ := h
  simp only [PendingBluetoothSession.confirm, bind_eq_ok, pure_eq_ok] at hconfirm
  obtain ⟨-, -, -, -, rfl⟩ := hconfirm
  exact ⟨rfl, rfl⟩

/-! ## Genuine frames -/

/-- The message went out on this session as its frame number `counter`. -/
def SealedAs (aead : Aead) (session : SecureBluetoothSession) (counter : ℕ)
    (message : SentMessage) : Prop :=
  message.plaintext.length ≤ MAX_BLUETOOTH_PLAINTEXT_LEN
    ∧ counter ≤ MAX_BLUETOOTH_FRAMES_PER_DIRECTION
    ∧ ∃ header ciphertext,
      header = headerBytes message.messageType counter (message.plaintext.length + AEAD_TAG_LEN)
      ∧ aead.encrypt session.txKey (nonce session.txPrefix counter)
          (associatedData session.transcriptHash session.sessionId header) message.plaintext
          = some ciphertext
      ∧ message.frame = header ++ ciphertext

section SealedAs

variable {aead : Aead} {session : SecureBluetoothSession} {counter : ℕ} {message : SentMessage}

/-- The frame carries the number it was sent under. -/
lemma SealedAs.frameCounter_eq (h : SealedAs aead session counter message) :
    frameCounter message.frame = counter := by
  obtain ⟨-, hlimit, _, ciphertext, rfl, -, hframe⟩ := h
  rw [hframe]
  refine frameCounter_headerBytes_append _ _ ?_
  simp only [MAX_BLUETOOTH_FRAMES_PER_DIRECTION] at hlimit
  omega

/-- **The genuine next frame is accepted**, with the payload that went into it. -/
theorem SealedAs.run_decrypt (hlaw : aead.Lawful) {peer : SecureBluetoothSession}
    (hpair : SameHandshake session peer)
    (h : SealedAs aead session (peer.rxCounter + 1) message) {now : Instant}
    (hactive : peer.Active now) :
    (SecureBluetoothSession.decrypt aead now message.frame).run peer
      = .ok message.payload { peer with rxCounter := peer.rxCounter + 1 } := by
  have hcounter := h.frameCounter_eq
  obtain ⟨hlen, hlimit, _, ciphertext, rfl, hseal, hframe⟩ := h
  have hsize := hlaw.length_encrypt hseal
  have hsmall : message.plaintext.length + AEAD_TAG_LEN < 2 ^ 16 := by
    simp only [MAX_BLUETOOTH_PLAINTEXT_LEN, AEAD_TAG_LEN] at hlen ⊢
    omega
  have hlenField : frameCiphertextLen (headerBytes message.messageType (peer.rxCounter + 1)
      (message.plaintext.length + AEAD_TAG_LEN) ++ ciphertext)
      = message.plaintext.length + AEAD_TAG_LEN :=
    frameCiphertextLen_headerBytes_append _ _ hsmall
  refine run_decrypt_eq_ok.mpr ⟨hactive, ?_⟩
  rw [hcounter, hframe, hlenField, take_headerBytes_append, drop_headerBytes_append]
  rw [take_four_headerBytes_append, getD_four_headerBytes_append, getD_five_headerBytes_append]
  refine ⟨rfl, rfl, fromByte_toByte _, rfl, hlimit, by omega, by omega, ?_, ?_, rfl⟩
  · rw [List.length_append, length_headerBytes, hsize]
  · rw [← hpair.key, ← hpair.noncePrefix, ← hpair.transcriptHash, ← hpair.sessionId]
    exact hlaw.decrypt_encrypt hseal

end SealedAs

/-! ## What one call does -/

/-- `encrypt` fails and changes nothing, or it seals the message under the next counter. -/
lemma Endpoint.encrypt_cases (aead : Aead) (self : Endpoint) (now : Instant)
    (messageType : BluetoothMessageType) (plaintext : Bytes) :
    self.encrypt aead now messageType plaintext = self ∨
      ∃ message, SealedAs aead self.session (self.session.txCounter + 1) message ∧
        self.encrypt aead now messageType plaintext
          = { self with
              session := { self.session with txCounter := self.session.txCounter + 1 }
              sent := self.sent ++ [message] } := by
  rw [Endpoint.encrypt]
  cases hrun : (SecureBluetoothSession.encrypt aead now messageType plaintext).run
      self.session with
  | error e session =>
      rw [atomic_encrypt aead now messageType plaintext _ _ _ hrun]
      exact Or.inl rfl
  | ok frame session =>
      obtain ⟨-, hlen, hlimit, header, ciphertext, hheader, hseal, hframe, rfl⟩ :=
        run_encrypt_eq_ok.mp hrun
      refine Or.inr ⟨⟨messageType, plaintext, frame⟩, ?_, rfl⟩
      exact ⟨hlen, hlimit, header, ciphertext, hheader, hseal, hframe⟩

/-- `decrypt` fails and changes nothing, or it accepts one payload. -/
lemma Endpoint.decrypt_cases (aead : Aead) (self : Endpoint) (now : Instant) (frame : Bytes) :
    self.decrypt aead now frame = self ∨
      ∃ payload session,
        (SecureBluetoothSession.decrypt aead now frame).run self.session = .ok payload session ∧
        self.decrypt aead now frame
          = { self with
              session := { self.session with rxCounter := self.session.rxCounter + 1 }
              received := self.received ++ [payload] } := by
  rw [Endpoint.decrypt]
  cases hrun : (SecureBluetoothSession.decrypt aead now frame).run self.session with
  | error e session =>
      rw [atomic_decrypt aead now frame _ _ _ hrun]
      exact Or.inl rfl
  | ok payload session =>
      obtain ⟨-, -, -, -, -, -, -, -, -, -, rfl⟩ := run_decrypt_eq_ok.mp hrun
      exact Or.inr ⟨payload, _, rfl, rfl⟩

/-! ## The invariant -/

/-- What holds of the two parties at every moment. -/
structure Link.Inv (aead : Aead) (link : Link) : Prop where
  handshake : SameHandshake link.a.session link.b.session
  separated : DirectionsSeparated link.b.session
  txCounter : link.a.session.txCounter = link.a.sent.length
  rxCounter : link.b.session.rxCounter = link.b.received.length
  genuine : ∀ i message, link.a.sent[i]? = some message →
    SealedAs aead link.a.session (i + 1) message
  fifo : link.b.received <+: link.a.sent.map SentMessage.payload

/-- The two histories, as a channel. -/
def Link.channel {aead : Aead} (link : Link) (h : link.Inv aead) :
    Fifo.Channel (BluetoothMessageType × Bytes) :=
  ⟨link.a.sent.map SentMessage.payload, link.b.received, h.fifo⟩

lemma Link.inv_start {aead : Aead} {a b : SecureBluetoothSession} (hpair : SameHandshake a b)
    (hsep : DirectionsSeparated b) (ha : Confirmed a) (hb : Confirmed b) :
    (Link.start a b).Inv aead where
  handshake := hpair
  separated := hsep
  txCounter := ha.counters.1
  rxCounter := hb.counters.2
  genuine := by
    intro i message h
    simp [Link.start] at h
  fifo := List.prefix_rfl

lemma nonce_prefix_injective {p q : NoncePrefix} {m n : ℕ} (h : nonce p m = nonce q n) :
    p = q := by
  have hlist : p.toList ++ BigEndian.toBeBytes 8 m = q.toList ++ BigEndian.toBeBytes 8 n :=
    congrArg List.Vector.toList h
  exact List.Vector.toList_injective (List.append_inj_left hlist (by simp))

/-- Associated data and ciphertext make up the frame. -/
lemma frame_eq_of_aad_of_ciphertext {hash : Digest} {sessionId : SessionId} {f g : Bytes}
    (haad : associatedData hash sessionId (f.take FRAME_HEADER_LEN)
      = associatedData hash sessionId (g.take FRAME_HEADER_LEN))
    (hciphertext : f.drop FRAME_HEADER_LEN = g.drop FRAME_HEADER_LEN) : f = g := by
  have hheader : f.take FRAME_HEADER_LEN = g.take FRAME_HEADER_LEN := List.append_cancel_left haad
  rw [← List.take_append_drop FRAME_HEADER_LEN f, hheader, hciphertext, List.take_append_drop]

/-- **What opens was sent by `a`**, and it was this very frame. -/
theorem mem_sent_of_opened {aead : Aead} {link : Link} (h : link.Inv aead) {frame : Bytes}
    (hsealed : link.b.session.toOpen frame ∈ link.sealed) :
    ∃ message ∈ link.a.sent, message.frame = frame := by
  rcases List.mem_append.mp hsealed with hmem | hmem
  · obtain ⟨message, hsent, hbox⟩ := List.mem_map.mp hmem
    simp only [sealedIn, toOpen, SealedBox.mk.injEq, h.handshake.transcriptHash,
      h.handshake.sessionId] at hbox
    exact ⟨message, hsent, frame_eq_of_aad_of_ciphertext hbox.2.2.1 hbox.2.2.2⟩
  · -- a frame of `b` itself: its nonce has the prefix of the other direction
    obtain ⟨message, -, hbox⟩ := List.mem_map.mp hmem
    simp only [sealedIn, toOpen, SealedBox.mk.injEq] at hbox
    exact absurd (Prod.ext hbox.1 (nonce_prefix_injective hbox.2.1)) h.separated

/-- Hence what `b` accepts is the message of `a` that follows those it has accepted before. -/
theorem accepted_is_next {aead : Aead} (hlaw : aead.Lawful) {link : Link} (h : link.Inv aead)
    {now : Instant} {frame : Bytes} (hforge : NoForgery aead link (.DecryptB now frame))
    {payload : BluetoothMessageType × Bytes} {session : SecureBluetoothSession}
    (hrun : (SecureBluetoothSession.decrypt aead now frame).run link.b.session
      = .ok payload session) :
    ∃ message, link.a.sent[link.b.received.length]? = some message
      ∧ message.payload = payload := by
  obtain ⟨hactive, -, -, -, hcounter, -, -, -, -, hopen, -⟩ := run_decrypt_eq_ok.mp hrun
  have hopens : aead.opens (link.b.session.toOpen frame) := by
    rw [Aead.opens, toOpen, hcounter, hopen]
    rfl
  obtain ⟨message, hsent, rfl⟩ := mem_sent_of_opened h (hforge hopens)
  obtain ⟨i, hi⟩ := List.getElem?_of_mem hsent
  have hgenuine := h.genuine i message hi
  -- the counter in the frame is the position of the message
  have hindex : i = link.b.received.length := by
    have hrx := h.rxCounter
    have hnumber := hgenuine.frameCounter_eq
    omega
  subst hindex
  refine ⟨message, hi, ?_⟩
  have hnext := SealedAs.run_decrypt hlaw h.handshake (h.rxCounter ▸ hgenuine) hactive
  rw [hnext, EStateM.Result.ok.injEq] at hrun
  exact hrun.1

/-! ## Steps and runs -/

section Steps

variable {aead : Aead} {link : Link}

/-- A message sealed by `a` enters the channel. -/
lemma Link.Inv.send (h : link.Inv aead) {message : SentMessage}
    (hsealed : SealedAs aead link.a.session (link.a.session.txCounter + 1) message) :
    ({ link with a := { link.a with
        session := { link.a.session with txCounter := link.a.session.txCounter + 1 }
        sent := link.a.sent ++ [message] } } : Link).Inv aead where
  handshake := h.handshake.withCounters _ _ _ _
  separated := h.separated
  txCounter := by simp [h.txCounter]
  rxCounter := h.rxCounter
  genuine := by
    intro i m hm
    rcases Nat.lt_trichotomy i link.a.sent.length with hlt | rfl | hgt
    · exact h.genuine i m (by rwa [List.getElem?_append_left hlt] at hm)
    · obtain rfl : message = m := by simpa using hm
      exact h.txCounter ▸ hsealed
    · rw [List.getElem?_eq_none (by simpa using hgt)] at hm
      exact absurd hm (by simp)
  fifo := by
    rw [List.map_append]
    exact h.fifo.trans (List.prefix_append _ _)

/-- The next message of `a` leaves the channel. -/
lemma Link.Inv.receive (h : link.Inv aead) {message : SentMessage}
    (hnext : link.a.sent[link.b.received.length]? = some message) :
    ({ link with b := { link.b with
        session := { link.b.session with rxCounter := link.b.session.rxCounter + 1 }
        received := link.b.received ++ [message.payload] } } : Link).Inv aead where
  handshake := h.handshake.withCounters _ _ _ _
  separated := h.separated
  txCounter := h.txCounter
  rxCounter := by simp [h.rxCounter]
  genuine := h.genuine
  fifo := by
    refine Fifo.concat_prefix h.fifo ?_
    rw [List.getElem?_map, hnext]
    rfl

/-- The other direction does not touch what this one uses. -/
lemma Link.Inv.otherDirection (h : link.Inv aead) (rxCounter txCounter : ℕ)
    (received : List (BluetoothMessageType × Bytes)) (sent : List SentMessage) :
    ({ a := { link.a with session := { link.a.session with rxCounter }, received }
       b := { link.b with session := { link.b.session with txCounter }, sent } } : Link).Inv
      aead where
  handshake := h.handshake.withCounters _ _ _ _
  separated := h.separated
  txCounter := h.txCounter
  rxCounter := h.rxCounter
  genuine := h.genuine
  fifo := h.fifo

/-- **One call is one step of the channel, or none.** -/
theorem step_implements_fifo (hlaw : aead.Lawful) (h : link.Inv aead) (call : LinkCall)
    (hforge : NoForgery aead link call) :
    ∃ h' : (link.step aead call).Inv aead,
      Fifo.Next (link.channel h) ((link.step aead call).channel h')
        ∨ (link.step aead call).channel h' = link.channel h := by
  cases call with
  | EncryptA now messageType plaintext =>
      rw [Link.step]
      rcases link.a.encrypt_cases aead now messageType plaintext with heq | ⟨message, hsealed, heq⟩
      · rw [heq]
        exact ⟨h, Or.inr rfl⟩
      · rw [heq]
        refine ⟨h.send hsealed, Or.inl ?_⟩
        have hchannel := Fifo.Next.send (link.channel h) message.payload
        simpa [Link.channel, Fifo.Channel.send] using hchannel
  | EncryptB now messageType plaintext =>
      rw [Link.step]
      rcases link.b.encrypt_cases aead now messageType plaintext with heq | ⟨message, -, heq⟩
      · rw [heq]
        exact ⟨h, Or.inr rfl⟩
      · rw [heq]
        exact ⟨h.otherDirection _ _ _ _, Or.inr rfl⟩
  | DecryptA now frame =>
      rw [Link.step]
      rcases link.a.decrypt_cases aead now frame with heq | ⟨payload, session, -, heq⟩
      · rw [heq]
        exact ⟨h, Or.inr rfl⟩
      · rw [heq]
        exact ⟨h.otherDirection _ _ _ _, Or.inr rfl⟩
  | DecryptB now frame =>
      rw [Link.step]
      rcases link.b.decrypt_cases aead now frame with heq | ⟨payload, session, hrun, heq⟩
      · rw [heq]
        exact ⟨h, Or.inr rfl⟩
      · obtain ⟨message, hnext, rfl⟩ := accepted_is_next hlaw h hforge hrun
        rw [heq]
        refine ⟨h.receive hnext, Or.inl (Fifo.Next.receive (link.channel h) message.payload ?_)⟩
        simp [Fifo.Channel.head?, Link.channel, hnext]

end Steps

/-- Every run of the two sessions is a behaviour of a FIFO channel. -/
theorem link_implements_fifo {aead : Aead} (hlaw : aead.Lawful) {a b : SecureBluetoothSession}
    (ha : Confirmed a) (hb : Confirmed b) (hpair : SameHandshake a b)
    (hsep : DirectionsSeparated b) {calls : List LinkCall}
    (hforge : Machine.Along (Link.step aead) (NoForgery aead) (Link.start a b) calls) :
    ∃ behaviour : ℕ → Fifo.Channel (BluetoothMessageType × Bytes),
      Machine.IsBehaviour (· = .fresh) Fifo.Next behaviour ∧
      ∃ point : ℕ → ℕ, Monotone point ∧ ∀ n,
        let link := Machine.stateAt (Link.step aead) (Link.start a b) calls n
        (behaviour (point n)).sent = link.a.sent.map SentMessage.payload
          ∧ (behaviour (point n)).delivered = link.b.received := by
  have hstart : (Link.start a b).Inv aead := Link.inv_start hpair hsep ha hb
  have hstep : ∀ link call channel, (∃ h : link.Inv aead, channel = link.channel h) →
      NoForgery aead link call → ∃ channel', Relation.ReflTransGen Fifo.Next channel channel' ∧
        ∃ h : (link.step aead call).Inv aead, channel' = (link.step aead call).channel h := by
    rintro link call _ ⟨h, rfl⟩ hforge
    obtain ⟨h', hnext | heq⟩ := step_implements_fifo hlaw h call hforge
    · exact ⟨_, .single hnext, h', rfl⟩
    · exact ⟨_, heq ▸ .refl, h', rfl⟩
  obtain ⟨behaviour, hbehaviour, point, hmono, hpoint⟩ :=
    Machine.exists_behaviour_along hstep (I := (· = .fresh)) rfl ⟨hstart, rfl⟩ hforge
  refine ⟨behaviour, hbehaviour, point, hmono, fun n => ?_⟩
  obtain ⟨h, heq⟩ := hpoint n
  rw [heq]
  exact ⟨rfl, rfl⟩

/-- What is claimed of the two sessions at one moment. -/
structure Link.ExactFifo (aead : Aead) (link : Link) : Prop where
  inOrder : link.b.received <+: link.a.sent.map SentMessage.payload
  errorUnchanged : ∀ now frame error session,
    (SecureBluetoothSession.decrypt aead now frame).run link.b.session = .error error session →
      session = link.b.session
  nextAccepted : ∀ message now, link.a.sent[link.b.received.length]? = some message →
    link.b.session.Active now →
      (SecureBluetoothSession.decrypt aead now message.frame).run link.b.session
        = .ok message.payload { link.b.session with rxCounter := link.b.session.rxCounter + 1 }

/-- **The secure channel is an exact FIFO**, whatever the attacker presents and whenever. -/
theorem secure_channel_is_fifo {aead : Aead} (hlaw : aead.Lawful)
    {a b : SecureBluetoothSession} (ha : Confirmed a) (hb : Confirmed b)
    (hpair : SameHandshake a b) (hsep : DirectionsSeparated b) {calls : List LinkCall}
    (hforge : Machine.Along (Link.step aead) (NoForgery aead) (Link.start a b) calls) (n : ℕ) :
    (Machine.stateAt (Link.step aead) (Link.start a b) calls n).ExactFifo aead := by
  have hinv : (Machine.stateAt (Link.step aead) (Link.start a b) calls n).Inv aead := by
    refine Machine.stateAt_invariant_along ?_ (Link.inv_start hpair hsep ha hb) hforge n
    intro link call h hcall
    exact (step_implements_fifo hlaw h call hcall).1
  refine ⟨hinv.fifo, ?_, ?_⟩
  · intro now frame error session hrun
    exact atomic_decrypt aead now frame _ _ _ hrun
  · intro message now hnext hactive
    have hgenuine := hinv.genuine _ message hnext
    exact (hinv.rxCounter ▸ hgenuine).run_decrypt hlaw hinv.handshake hactive

/-! ## The conformance vector

The sessions and the frame of the test `fixed_vector_is_stable_for_dart_conformance`, and the
frame that the responder makes of the same payload. -/

section ConformanceVector

def vectorTranscriptHash : Digest :=
  ⟨[0x3c, 0x1a, 0xc6, 0x14, 0x5e, 0x8b, 0xef, 0x69, 0x09, 0x02, 0xa7, 0xb1,
    0x4f, 0x7f, 0x86, 0xe4, 0x1f, 0x4b, 0xd0, 0x6d, 0x99, 0x65, 0xe5, 0x4b,
    0xa0, 0x36, 0xa8, 0x67, 0x2a, 0x5c, 0xb2, 0xee], rfl⟩

def vectorInitiatorKey : AeadKey :=
  ⟨[0x31, 0x85, 0xf4, 0x98, 0xe8, 0xb7, 0x11, 0x13, 0x0a, 0xeb, 0x00, 0x73,
    0xe6, 0x98, 0x90, 0xef, 0x21, 0x14, 0x78, 0x8f, 0x0d, 0x98, 0x3c, 0x2e,
    0x7c, 0xf6, 0xc9, 0x0a, 0xff, 0x4b, 0x5b, 0x52], rfl⟩

def vectorResponderKey : AeadKey :=
  ⟨[0xef, 0x10, 0x0f, 0xcb, 0xfc, 0x6f, 0xf5, 0x8d, 0xeb, 0x32, 0xed, 0x82,
    0xf6, 0xf9, 0xe4, 0xb5, 0xdf, 0x67, 0xe9, 0x78, 0x52, 0x73, 0xeb, 0x02,
    0x8a, 0x67, 0x1a, 0x96, 0x32, 0xc0, 0x27, 0xee], rfl⟩

def vectorInitiatorPrefix : NoncePrefix := ⟨[0x81, 0xbf, 0x23, 0x44], rfl⟩

def vectorResponderPrefix : NoncePrefix := ⟨[0x40, 0x8f, 0x06, 0x1e], rfl⟩

def vectorInitiatorPending : PendingBluetoothSession where
  localRole := .Initiator
  sessionId := List.Vector.replicate 16 1
  localDeviceId := "desktop-a"
  peerDeviceId := "desktop-b"
  transcriptHash := vectorTranscriptHash
  txKey := vectorInitiatorKey
  rxKey := vectorResponderKey
  txPrefix := vectorInitiatorPrefix
  rxPrefix := vectorResponderPrefix
  sas := "729801"
  createdAt := 0

def vectorResponderPending : PendingBluetoothSession where
  localRole := .Responder
  sessionId := List.Vector.replicate 16 1
  localDeviceId := "desktop-b"
  peerDeviceId := "desktop-a"
  transcriptHash := vectorTranscriptHash
  txKey := vectorResponderKey
  rxKey := vectorInitiatorKey
  txPrefix := vectorResponderPrefix
  rxPrefix := vectorInitiatorPrefix
  sas := "729801"
  createdAt := 0

/-- `b"cross-language"`. -/
def crossLanguage : Bytes := [99, 114, 111, 115, 115, 45, 108, 97, 110, 103, 117, 97, 103, 101]

def vectorHeader : Bytes := headerBytes .PeerInfo 1 30

/-- What the initiator seals for its first frame. -/
def vectorInitiatorBox : SealedBox where
  key := vectorInitiatorKey
  nonce := nonce vectorInitiatorPrefix 1
  aad := associatedData vectorTranscriptHash (List.Vector.replicate 16 1) vectorHeader
  ciphertext := [0x27, 0x09, 0x9d, 0x19, 0x81, 0x44, 0x72, 0x69, 0x53, 0x38, 0xd6, 0x97,
    0xc0, 0x59, 0x06, 0x36, 0x22, 0x84, 0x9a, 0xdf, 0xb5, 0x0b, 0xde, 0x36,
    0x45, 0x37, 0xbd, 0x94, 0xe3, 0x5c]

/-- What the responder seals for its first frame. -/
def vectorResponderBox : SealedBox where
  key := vectorResponderKey
  nonce := nonce vectorResponderPrefix 1
  aad := associatedData vectorTranscriptHash (List.Vector.replicate 16 1) vectorHeader
  ciphertext := [0x6e, 0x25, 0xdd, 0xfb, 0x20, 0x6f, 0x49, 0x06, 0x9e, 0xbb, 0x98, 0xe8,
    0x24, 0x12, 0x7f, 0x6f, 0x72, 0xac, 0x5d, 0x21, 0x8b, 0x00, 0xf0, 0x27,
    0x34, 0x74, 0xad, 0x6f, 0x24, 0x50]

/-- ChaCha20-Poly1305 on the two boxes. -/
def vectorAead : Aead where
  encrypt key nonce aad plaintext :=
    if plaintext = crossLanguage ∧ (key, nonce, aad)
        = (vectorInitiatorBox.key, vectorInitiatorBox.nonce, vectorInitiatorBox.aad) then
      some vectorInitiatorBox.ciphertext
    else if plaintext = crossLanguage ∧ (key, nonce, aad)
        = (vectorResponderBox.key, vectorResponderBox.nonce, vectorResponderBox.aad) then
      some vectorResponderBox.ciphertext
    else
      none
  decrypt key nonce aad ciphertext :=
    if (⟨key, nonce, aad, ciphertext⟩ : SealedBox) = vectorInitiatorBox
        ∨ (⟨key, nonce, aad, ciphertext⟩ : SealedBox) = vectorResponderBox then
      some crossLanguage
    else
      none

lemma lawful_vectorAead : vectorAead.Lawful where
  decrypt_encrypt := by
    intro key nonce aad plaintext ciphertext h
    simp only [vectorAead] at h ⊢
    split_ifs at h with hinitiator hresponder
    · obtain ⟨rfl, heq⟩ := hinitiator
      obtain ⟨rfl, rfl, rfl⟩ := by simpa using heq
      obtain rfl := Option.some.inj h
      exact if_pos (Or.inl rfl)
    · obtain ⟨rfl, heq⟩ := hresponder
      obtain ⟨rfl, rfl, rfl⟩ := by simpa using heq
      obtain rfl := Option.some.inj h
      exact if_pos (Or.inr rfl)
  length_encrypt := by
    intro key nonce aad plaintext ciphertext h
    simp only [vectorAead] at h
    split_ifs at h with hinitiator hresponder
    · rw [hinitiator.1, ← Option.some.inj h]
      rfl
    · rw [hresponder.1, ← Option.some.inj h]
      rfl

def vectorInitiator : SecureBluetoothSession where
  __ := vectorInitiatorPending
  txCounter := 0
  rxCounter := 0

def vectorResponder : SecureBluetoothSession where
  __ := vectorResponderPending
  txCounter := 0
  rxCounter := 0

/-- Both parties send; the attacker then presents to the responder an altered frame, the
responder's own frame, the genuine frame, and the genuine frame again. -/
def vectorCalls : List LinkCall :=
  [.EncryptA 0 .PeerInfo crossLanguage,
    .EncryptB 0 .PeerInfo crossLanguage,
    .DecryptB 1 (vectorHeader ++ vectorInitiatorBox.ciphertext.set 0 0),
    .DecryptB 2 (vectorHeader ++ vectorResponderBox.ciphertext),
    .DecryptB 3 (vectorHeader ++ vectorInitiatorBox.ciphertext),
    .DecryptB 4 (vectorHeader ++ vectorInitiatorBox.ciphertext)]

theorem secure_channel_is_fifo_vector :
    (Machine.stateAt (Link.step vectorAead) (Link.start vectorInitiator vectorResponder)
        vectorCalls 4).ExactFifo vectorAead
      ∧ (Machine.stateAt (Link.step vectorAead) (Link.start vectorInitiator vectorResponder)
        vectorCalls 4).b.received = []
      ∧ (Machine.stateAt (Link.step vectorAead) (Link.start vectorInitiator vectorResponder)
        vectorCalls 6).b.received = [(.PeerInfo, crossLanguage)] :=
  ⟨secure_channel_is_fifo lawful_vectorAead (a := vectorInitiator) (b := vectorResponder)
    ⟨vectorInitiatorPending, 0, 0, "729801", by decide +kernel⟩
    ⟨vectorResponderPending, 0, 0, "729801", by decide +kernel⟩
    ⟨rfl, rfl, rfl, rfl⟩ (by decide +kernel) (by decide +kernel) 4,
    by decide +kernel, by decide +kernel⟩

end ConformanceVector

end FtnlDesktop
