import FtnlDesktop.Bluetooth.Binding
import FtnlDesktop.Bluetooth.Nonces

/-!
# From the hellos to the payloads

The whole protocol of two devices, an initiator and a responder, as one machine.  Each device goes
from its pairing to a pending session and on to a confirmed one; the attacker chooses every hello
that is delivered, every frame that is presented, the order of all calls and the instants, and the
users may type whatever they like.  One side may be sending while the other has not confirmed yet.

The attacker may deliver a hello of its own, and then it holds the keys of the session that comes of
it: of such a session nothing is claimed.  A session is `Honest` when the hello that the device got
carries the public key of the other device; the rest of that hello may still be the attacker's.

`Assumed` collects what is asked of the cryptography, call by call: nobody but the two devices seals
a box that opens in an honest session, a device does not draw a key that the other has got before
from somebody else, SHA-256 does not collide on the transcripts at hand, and HKDF gives the two
directions different keys or prefixes.

* **`accepted_payloads_are_authentic`** — in every reachable state and in both directions, what a
  device has accepted in an honest session is a prefix of what the other has sent; if it has
  accepted anything, it was paired with that very device, and that device with it; and between two
  devices that were paired with each other the genuine next frame is always accepted.

Nothing is assumed of the digits that were typed.  A user who compares them finds out whose hello
the session was made with; a user who does not may confirm a session with the attacker.
-/

namespace FtnlDesktop

open Machine Method SecureBluetoothSession

/-! ## Devices -/

/-- A device, with the hello it got as history. -/
inductive Device where
  | Idle
  | Paired (pairing : BluetoothPairing)
  | Pending (pairing : BluetoothPairing) (peer : BluetoothHello)
      (pending : PendingBluetoothSession)
  | Secure (pairing : BluetoothPairing) (peer : BluetoothHello) (endpoint : Endpoint)
  | Failed (pairing : BluetoothPairing)
deriving DecidableEq

inductive DeviceCall where
  | Initiate (deviceId : String) (sessionId : SessionId) (secret : SecretKey)
      (contribution : Contribution)
  | Respond (deviceId : String) (initiator : BluetoothHello) (secret : SecretKey)
      (contribution : Contribution)
  | Derive (now : Instant) (peer : BluetoothHello)
  | Confirm (checked now : Instant) (observedSas : String)
  | Encrypt (now : Instant) (messageType : BluetoothMessageType) (plaintext : Bytes)
  | Decrypt (now : Instant) (frame : Bytes)

namespace Device

/-- A device whose pairing was drawn, if that succeeded. -/
def paired : Except SecureBluetoothError BluetoothPairing → Device
  | .ok pairing => .Paired pairing
  | .error _ => .Idle

/-- `derive` consumes the pairing, also when it fails. -/
def derived (pairing : BluetoothPairing) (peer : BluetoothHello) :
    Except SecureBluetoothError PendingBluetoothSession → Device
  | .ok pending => .Pending pairing peer pending
  | .error _ => .Failed pairing

/-- `confirm` consumes the pending session, also when it fails. -/
def confirmed (pairing : BluetoothPairing) (peer : BluetoothHello) :
    Except SecureBluetoothError SecureBluetoothSession → Device
  | .ok session => .Secure pairing peer ⟨session, [], []⟩
  | .error _ => .Failed pairing

/-- A call on the device with this role. -/
def step (crates : HandshakeCrates) (aead : Aead) (role : BluetoothRole) :
    Device → DeviceCall → Device
  | .Idle, .Initiate deviceId sessionId secret contribution =>
      if role = .Initiator then
        paired (BluetoothPairing.initiator crates deviceId sessionId secret contribution)
      else .Idle
  | .Idle, .Respond deviceId initiator secret contribution =>
      if role = .Responder then
        paired (BluetoothPairing.responder crates deviceId initiator secret contribution)
      else .Idle
  | .Paired pairing, .Derive now peer => derived pairing peer (pairing.derive crates now peer)
  | .Pending pairing peer pending, .Confirm checked now observedSas =>
      confirmed pairing peer (pending.confirm checked now observedSas)
  | .Secure pairing peer endpoint, .Encrypt now messageType plaintext =>
      .Secure pairing peer (endpoint.encrypt aead now messageType plaintext)
  | .Secure pairing peer endpoint, .Decrypt now frame =>
      .Secure pairing peer (endpoint.decrypt aead now frame)
  | device, _ => device

def endpoint : Device → Option Endpoint
  | .Secure _ _ endpoint => some endpoint
  | _ => none

/-- The messages that the device has sent. -/
def sent (device : Device) : List SentMessage := device.endpoint.elim [] Endpoint.sent

/-- The payloads that the device has accepted. -/
def received (device : Device) : List (BluetoothMessageType × Bytes) :=
  device.endpoint.elim [] Endpoint.received

/-- The pairing that the device has drawn. -/
def drawn : Device → Option BluetoothPairing
  | .Idle => none
  | .Paired pairing => some pairing
  | .Pending pairing _ _ => some pairing
  | .Secure pairing _ _ => some pairing
  | .Failed pairing => some pairing

/-- The hello that the device got. -/
def peer : Device → Option BluetoothHello
  | .Pending _ peer _ => some peer
  | .Secure _ peer _ => some peer
  | _ => none

/-- The public key that the device got is that of the other. -/
def KnowsKeyOf (device other : Device) : Prop :=
  ∃ peer ∈ device.peer, ∃ pairing ∈ other.drawn, peer.publicKey = pairing.hello.publicKey

/-- The transcript that the device has hashed. -/
def transcript : Device → Option Bytes
  | .Pending pairing peer _ => some (viewTranscript (pairing.view peer))
  | .Secure pairing peer _ => some (viewTranscript (pairing.view peer))
  | _ => none

/-- What the device has sealed. -/
def sealed (device : Device) : List SealedBox :=
  device.endpoint.elim [] fun endpoint =>
    endpoint.sent.map fun message => endpoint.session.sealedIn message.frame

end Device

/-! ## The protocol -/

/-- The two devices, by their roles. -/
abbrev Protocol := BluetoothRole → Device

namespace Protocol

def start : Protocol := fun _ => .Idle

def step (crates : HandshakeCrates) (aead : Aead) (self : Protocol)
    (input : BluetoothRole × DeviceCall) : Protocol :=
  Function.update self input.1 (Device.step crates aead input.1 (self input.1) input.2)

def sealed (self : Protocol) : List SealedBox :=
  (self .Initiator).sealed ++ (self .Responder).sealed

def transcripts (self : Protocol) : List Bytes :=
  (self .Initiator).transcript.toList ++ (self .Responder).transcript.toList

/-- The session of the device with this role is with the other device, by its public key. -/
def Honest (self : Protocol) (role : BluetoothRole) : Prop :=
  (self role).KnowsKeyOf (self role.opposite)

end Protocol

/-- What opens in an honest session has been sealed by one of the two. -/
def DeviceCall.NoForgery (aead : Aead) (protocol : Protocol) (role : BluetoothRole) :
    DeviceCall → Prop
  | .Decrypt _ frame => protocol.Honest role → ∀ endpoint ∈ (protocol role).endpoint,
      aead.opens (endpoint.session.toOpen frame) →
        endpoint.session.toOpen frame ∈ protocol.sealed
  | _ => True

/-- What is assumed of the cryptography in one step. -/
structure Assumed (crates : HandshakeCrates) (aead : Aead) (protocol : Protocol)
    (input : BluetoothRole × DeviceCall) : Prop where
  noForgery : input.2.NoForgery aead protocol input.1
  /-- A pairing that is drawn now has a key that the other device has not got yet. -/
  fresh : (protocol input.1).drawn = none →
    ¬ (protocol input.1.opposite).KnowsKeyOf (protocol.step crates aead input input.1)
  noCollision : ∀ t ∈ (protocol.step crates aead input).transcripts,
    ∀ t' ∈ (protocol.step crates aead input).transcripts,
      crates.sha256 t = crates.sha256 t' → t = t'
  separated : ∀ endpoint ∈ (protocol.step crates aead input input.1).endpoint,
    DirectionsSeparated endpoint.session

/-! ## The invariant -/

/-- What holds of an endpoint by itself. -/
structure Endpoint.Inv (aead : Aead) (endpoint : Endpoint) : Prop where
  txCounter : endpoint.session.txCounter = endpoint.sent.length
  rxCounter : endpoint.session.rxCounter = endpoint.received.length
  genuine : ∀ i message, endpoint.sent[i]? = some message →
    SealedAs aead endpoint.session (i + 1) message

/-- The session as it was when it was confirmed. -/
def SecureBluetoothSession.origin (self : SecureBluetoothSession) : SecureBluetoothSession :=
  { self with txCounter := 0, rxCounter := 0 }

/-- What holds of a device by itself. -/
inductive Device.Inv (crates : HandshakeCrates) (aead : Aead) (role : BluetoothRole) :
    Device → Prop
  | Idle : Device.Inv crates aead role .Idle
  | Failed {pairing : BluetoothPairing} : Device.Inv crates aead role (.Failed pairing)
  | Paired {pairing : BluetoothPairing} {secret : SecretKey}
      (hholds : pairing.Holds crates secret) (hrole : pairing.hello.role = role) :
      Device.Inv crates aead role (.Paired pairing)
  | Pending {pairing : BluetoothPairing} {secret : SecretKey} {peer : BluetoothHello}
      {pending : PendingBluetoothSession} {since : Instant}
      (hholds : pairing.Holds crates secret) (hrole : pairing.hello.role = role)
      (hderive : pairing.derive crates since peer = .ok pending) :
      Device.Inv crates aead role (.Pending pairing peer pending)
  | Secure {pairing : BluetoothPairing} {secret : SecretKey} {peer : BluetoothHello}
      {endpoint : Endpoint} (hholds : pairing.Holds crates secret)
      (hrole : pairing.hello.role = role)
      (hestablishes : pairing.Establishes crates peer endpoint.session.origin)
      (hseparated : DirectionsSeparated endpoint.session) (hinv : endpoint.Inv aead) :
      Device.Inv crates aead role (.Secure pairing peer endpoint)

/-- What the receiver has accepted is what the sender has sent, and then their sessions belong
together. -/
structure Direction (sender receiver : Device) : Prop where
  inOrder : receiver.received <+: sender.sent.map SentMessage.payload
  sameHandshake : receiver.received ≠ [] → ∃ s ∈ sender.endpoint, ∃ r ∈ receiver.endpoint,
    SameHandshake s.session r.session

structure Protocol.Inv (crates : HandshakeCrates) (aead : Aead) (protocol : Protocol) : Prop where
  device : ∀ role, (protocol role).Inv crates aead role
  direction : ∀ role : BluetoothRole, protocol.Honest role →
    Direction (protocol role.opposite) (protocol role)
  noCollision : ∀ t ∈ protocol.transcripts, ∀ t' ∈ protocol.transcripts,
    crates.sha256 t = crates.sha256 t' → t = t'

/-! ## What one call does to a device -/

section Device

variable {crates : HandshakeCrates} {aead : Aead} {role : BluetoothRole} {device : Device}

/-- **The ways in which a call may end**: a handshake goes on, a session stays as it is, or one of
its two methods is called. -/
inductive Device.Moves (aead : Aead) (device : Device) (call : DeviceCall) : Device → Prop where
  | handshake {device' : Device} (hnone : device.endpoint = none) (hsent : device'.sent = [])
      (hreceived : device'.received = []) : Device.Moves aead device call device'
  | unchanged : Device.Moves aead device call device
  | encrypt {pairing : BluetoothPairing} {peer : BluetoothHello} {endpoint : Endpoint}
      (hdevice : device = .Secure pairing peer endpoint) (now : Instant)
      (messageType : BluetoothMessageType) (plaintext : Bytes) :
      Device.Moves aead device call
        (.Secure pairing peer (endpoint.encrypt aead now messageType plaintext))
  | decrypt {pairing : BluetoothPairing} {peer : BluetoothHello} {endpoint : Endpoint}
      {now : Instant} {frame : Bytes} (hdevice : device = .Secure pairing peer endpoint)
      (hcall : call = .Decrypt now frame) :
      Device.Moves aead device call (.Secure pairing peer (endpoint.decrypt aead now frame))

variable (crates aead role) in
lemma Device.moves_step (device : Device) (call : DeviceCall) :
    Device.Moves aead device call (device.step crates aead role call) := by
  cases device with
  | Idle =>
      cases call with
      | Initiate deviceId sessionId secret contribution =>
          simp only [Device.step]
          split_ifs
          · cases BluetoothPairing.initiator crates deviceId sessionId secret contribution
            all_goals exact .handshake rfl rfl rfl
          · exact .unchanged
      | Respond deviceId initiator secret contribution =>
          simp only [Device.step]
          split_ifs
          · cases BluetoothPairing.responder crates deviceId initiator secret contribution
            all_goals exact .handshake rfl rfl rfl
          · exact .unchanged
      | _ => exact .unchanged
  | Paired pairing =>
      cases call with
      | Derive now peer =>
          simp only [Device.step]
          cases pairing.derive crates now peer
          all_goals exact .handshake rfl rfl rfl
      | _ => exact .unchanged
  | Pending pairing peer pending =>
      cases call with
      | Confirm checked now observedSas =>
          simp only [Device.step]
          cases pending.confirm checked now observedSas
          all_goals exact .handshake rfl rfl rfl
      | _ => exact .unchanged
  | Secure pairing peer endpoint =>
      cases call with
      | Encrypt now messageType plaintext => exact .encrypt rfl now messageType plaintext
      | Decrypt now frame => exact .decrypt rfl rfl
      | _ => exact .unchanged
  | Failed pairing => exact .unchanged

variable (crates aead role) in
/-- A pairing is drawn once. -/
lemma Device.drawn_step (device : Device) (call : DeviceCall) :
    device.drawn = none ∨ (device.step crates aead role call).drawn = device.drawn := by
  cases device with
  | Idle => exact Or.inl rfl
  | Paired pairing =>
      refine Or.inr ?_
      cases call with
      | Derive now peer =>
          simp only [Device.step]
          cases pairing.derive crates now peer <;> rfl
      | _ => rfl
  | Pending pairing peer pending =>
      refine Or.inr ?_
      cases call with
      | Confirm checked now observedSas =>
          simp only [Device.step]
          cases pending.confirm checked now observedSas <;> rfl
      | _ => rfl
  | Secure pairing peer endpoint =>
      refine Or.inr ?_
      cases call <;> rfl
  | Failed pairing => exact Or.inr rfl

/-! ## A device by itself -/

lemma Endpoint.Inv.encrypt {endpoint : Endpoint} (h : endpoint.Inv aead) (now : Instant)
    (messageType : BluetoothMessageType) (plaintext : Bytes) :
    (endpoint.encrypt aead now messageType plaintext).Inv aead ∧
      (endpoint.encrypt aead now messageType plaintext).session.origin = endpoint.session.origin ∧
      endpoint.sent <+: (endpoint.encrypt aead now messageType plaintext).sent ∧
      (endpoint.encrypt aead now messageType plaintext).received = endpoint.received := by
  rcases endpoint.encrypt_cases aead now messageType plaintext with heq | ⟨message, hsealed, heq⟩
  · rw [heq]
    exact ⟨h, rfl, List.prefix_rfl, rfl⟩
  · rw [heq]
    refine ⟨⟨?_, h.rxCounter, ?_⟩, rfl, List.prefix_append _ _, rfl⟩
    · simp [h.txCounter]
    · refine forall_getElem?_concat (P := fun i message => SealedAs aead endpoint.session (i + 1)
        message) h.genuine ?_
      rw [← h.txCounter]
      exact hsealed

lemma Endpoint.Inv.decrypt {endpoint : Endpoint} (h : endpoint.Inv aead) (now : Instant)
    (frame : Bytes) :
    (endpoint.decrypt aead now frame).Inv aead ∧
      (endpoint.decrypt aead now frame).session.origin = endpoint.session.origin ∧
      (endpoint.decrypt aead now frame).sent = endpoint.sent := by
  rcases endpoint.decrypt_cases aead now frame with heq | ⟨payload, session, -, heq⟩
  · rw [heq]
    exact ⟨h, rfl, rfl⟩
  · rw [heq]
    exact ⟨⟨h.txCounter, by simp [h.rxCounter], h.genuine⟩, rfl, rfl⟩

lemma DirectionsSeparated.of_origin {a b : SecureBluetoothSession} (h : DirectionsSeparated a)
    (horigin : b.origin = a.origin) : DirectionsSeparated b := by
  have hsame : DirectionsSeparated b.origin := horigin ▸ h
  exact hsame

/-- The two functions that draw a pairing give the device its secret and its role. -/
lemma Device.inv_paired {draw : Except SecureBluetoothError BluetoothPairing}
    (hdraw : ∀ pairing, draw = .ok pairing →
      ∃ secret, pairing.Holds crates secret ∧ pairing.hello.role = role) :
    (Device.paired draw).Inv crates aead role := by
  cases draw with
  | error error => exact .Idle
  | ok pairing =>
      obtain ⟨secret, hholds, hrole⟩ := hdraw pairing rfl
      exact .Paired hholds hrole

/-- **Every call** keeps what holds of a device by itself. -/
lemma Device.Inv.step (h : device.Inv crates aead role) (call : DeviceCall)
    (hseparated : ∀ endpoint ∈ (device.step crates aead role call).endpoint,
      DirectionsSeparated endpoint.session) :
    (device.step crates aead role call).Inv crates aead role := by
  cases h with
  | Idle =>
      cases call with
      | Initiate deviceId sessionId secret contribution =>
          simp only [Device.step]
          split_ifs with hrole
          · refine Device.inv_paired ?_
            intro pairing hpairing
            obtain ⟨hholds, hinitiator, -⟩ := holds_of_new hpairing
            exact ⟨secret, hholds, hinitiator.trans hrole.symm⟩
          · exact .Idle
      | Respond deviceId initiator secret contribution =>
          simp only [Device.step]
          split_ifs with hrole
          · refine Device.inv_paired ?_
            intro pairing hpairing
            simp only [BluetoothPairing.responder, bind_eq_ok] at hpairing
            obtain ⟨-, -, -, -, hnew⟩ := hpairing
            obtain ⟨hholds, hresponder, -⟩ := holds_of_new hnew
            exact ⟨secret, hholds, hresponder.trans hrole.symm⟩
          · exact .Idle
      | _ => exact .Idle
  | Failed => exact .Failed
  | @Paired pairing secret hholds hrole =>
      cases call with
      | Derive now peer =>
          simp only [Device.step]
          cases hderive : pairing.derive crates now peer with
          | error error => exact .Failed
          | ok pending => exact .Pending hholds hrole hderive
      | _ => exact .Paired hholds hrole
  | @Pending pairing secret peer pending since hholds hrole hderive =>
      cases call with
      | Confirm checked now observedSas =>
          simp only [Device.step] at hseparated ⊢
          cases hconfirm : pending.confirm checked now observedSas with
          | error error => exact .Failed
          | ok session =>
              rw [hconfirm] at hseparated
              obtain ⟨htx, hrx⟩ := Confirmed.counters ⟨pending, checked, now, observedSas, hconfirm⟩
              have horigin : session.origin = session := by
                obtain ⟨_, _, _, _, _, _, _, _, _, _⟩ := session
                obtain rfl := htx
                obtain rfl := hrx
                rfl
              refine .Secure hholds hrole ?_ (hseparated _ rfl) ⟨htx, hrx, by simp⟩
              rw [horigin]
              exact ⟨pending, since, checked, now, observedSas, hderive, hconfirm⟩
      | _ => exact .Pending hholds hrole hderive
  | @Secure pairing secret peer endpoint hholds hrole hestablishes hsep hinv =>
      cases call with
      | Encrypt now messageType plaintext =>
          obtain ⟨hinv', horigin, -, -⟩ := hinv.encrypt now messageType plaintext
          refine .Secure hholds hrole ?_ (hsep.of_origin horigin) hinv'
          rw [horigin]
          exact hestablishes
      | Decrypt now frame =>
          obtain ⟨hinv', horigin, -⟩ := hinv.decrypt now frame
          refine .Secure hholds hrole ?_ (hsep.of_origin horigin) hinv'
          rw [horigin]
          exact hestablishes
      | _ => exact .Secure hholds hrole hestablishes hsep hinv

end Device

/-! ## One direction -/

section Direction

variable {crates : HandshakeCrates} {aead : Aead} {sender receiver sender' receiver' : Device}

/-- Only the counters differ. -/
lemma SameHandshake.of_origin {a b a' b' : SecureBluetoothSession} (h : SameHandshake a b)
    (ha : a'.origin = a.origin) (hb : b'.origin = b.origin) : SameHandshake a' b' := by
  have hsame : SameHandshake a'.origin b'.origin := by
    rw [ha, hb]
    exact ⟨h.key, h.noncePrefix, h.transcriptHash, h.sessionId⟩
  exact ⟨hsame.key, hsame.noncePrefix, hsame.transcriptHash, hsame.sessionId⟩

/-- A device goes on with its session, and has sent what it had sent. -/
structure Device.Continues (device device' : Device) : Prop where
  sent : device.sent <+: device'.sent
  session : ∀ e ∈ device.endpoint, ∃ e' ∈ device'.endpoint, e'.session.origin = e.session.origin

lemma Device.Continues.refl (device : Device) : device.Continues device :=
  ⟨List.prefix_rfl, fun e he => ⟨e, he, rfl⟩⟩

lemma Device.Moves.continues {role : BluetoothRole} {device device' : Device} {call : DeviceCall}
    (h : device.Inv crates aead role) (hmoves : Device.Moves aead device call device') :
    device.Continues device' := by
  cases hmoves with
  | handshake hnone hsent _ =>
      refine ⟨?_, ?_⟩
      · rw [Device.sent, hnone]
        exact List.nil_prefix
      · rw [hnone]
        exact nofun
  | unchanged => exact .refl device
  | encrypt hdevice now messageType plaintext =>
      subst hdevice
      cases h with
      | Secure _ _ _ _ hinv =>
          obtain ⟨-, horigin, hsent, -⟩ := hinv.encrypt now messageType plaintext
          refine ⟨hsent, ?_⟩
          rintro e ⟨⟩
          exact ⟨_, rfl, horigin⟩
  | @decrypt _ _ _ now frame hdevice _ =>
      subst hdevice
      cases h with
      | Secure _ _ _ _ hinv =>
          obtain ⟨-, horigin, hsent⟩ := hinv.decrypt now frame
          refine ⟨?_, ?_⟩
          · simp only [Device.sent, Device.endpoint, Option.elim_some, hsent]
            exact List.prefix_rfl
          · rintro e ⟨⟩
            exact ⟨_, rfl, horigin⟩

/-- **The sender may go on** whatever it does. -/
lemma Direction.of_sender (h : Direction sender receiver) (hcontinues : sender.Continues sender') :
    Direction sender' receiver := by
  refine ⟨h.inOrder.trans (hcontinues.sent.map _), ?_⟩
  intro hreceived
  obtain ⟨s, hs, r, hr, hsame⟩ := h.sameHandshake hreceived
  obtain ⟨s', hs', horigin⟩ := hcontinues.session s hs
  exact ⟨s', hs', r, hr, hsame.of_origin horigin rfl⟩

/-- The receiver may go on without accepting anything. -/
lemma Direction.of_receiver (h : Direction sender receiver)
    (hcontinues : receiver.Continues receiver')
    (hreceived : receiver'.received = receiver.received) : Direction sender receiver' := by
  refine ⟨by rw [hreceived]; exact h.inOrder, ?_⟩
  rw [hreceived]
  intro hsome
  obtain ⟨s, hs, r, hr, hsame⟩ := h.sameHandshake hsome
  obtain ⟨r', hr', horigin⟩ := hcontinues.session r hr
  exact ⟨s, hs, r', hr', hsame.of_origin rfl horigin⟩

/-- A box that was sealed for another session is not the one that is opened. -/
lemma sameHandshake_of_sealedIn {a b : SecureBluetoothSession} {frame frame' : Bytes}
    (h : a.sealedIn frame = b.toOpen frame') : SameHandshake a b := by
  simp only [sealedIn, toOpen, SealedBox.mk.injEq, associatedData, List.append_assoc] at h
  obtain ⟨hkey, hnonce, haad, -⟩ := h
  obtain ⟨hhash, hrest⟩ := List.append_inj haad (by simp)
  exact ⟨hkey, nonce_prefix_injective hnonce, List.Vector.toList_injective hhash,
    List.Vector.toList_injective (List.append_inj_left hrest (by simp))⟩

/-- Sessions of one handshake, with what they have sent and received, are a link. -/
lemma Endpoint.Inv.link {s r : Endpoint} (hs : s.Inv aead) (hr : r.Inv aead)
    (hsame : SameHandshake s.session r.session) (hseparated : DirectionsSeparated r.session)
    (hfifo : r.received <+: s.sent.map SentMessage.payload) : Link.Inv aead ⟨s, r⟩ :=
  ⟨hsame, hseparated, hs.txCounter, hr.rxCounter, hs.genuine, hfifo⟩

/-- **What is accepted is authentic.**  A box that opens was sealed by the sender, so the sessions
belong together, and the payload is the next one. -/
lemma Direction.accept (hlaw : aead.Lawful) (h : Direction sender receiver)
    {role : BluetoothRole} (hsender : sender.Inv crates aead role) {r : Endpoint}
    (hr : receiver.endpoint = some r) (hinv : r.Inv aead)
    (hseparated : DirectionsSeparated r.session) {now : Instant} {frame : Bytes}
    (hforge : aead.opens (r.session.toOpen frame) →
      r.session.toOpen frame ∈ sender.sealed ∨ r.session.toOpen frame ∈ receiver.sealed)
    {payload : BluetoothMessageType × Bytes} {session : SecureBluetoothSession}
    (hrun : (SecureBluetoothSession.decrypt aead now frame).run r.session
      = .ok payload session) :
    ∃ s, sender.endpoint = some s ∧ SameHandshake s.session r.session ∧
      r.received ++ [payload] <+: s.sent.map SentMessage.payload := by
  obtain ⟨-, -, -, -, hcounter, -, -, -, -, hopen, -⟩ := run_decrypt_eq_ok.mp hrun
  have hopens : aead.opens (r.session.toOpen frame) := by
    rw [Aead.opens, toOpen, hcounter, hopen]
    rfl
  rcases hforge hopens with hmem | hmem
  · cases hsender with
    | @Secure pairing secret peer s _ _ _ _ hs =>
        obtain ⟨message, hsent, hbox⟩ := List.mem_map.mp hmem
        have hsame := sameHandshake_of_sealedIn hbox
        have hfifo : r.received <+: s.sent.map SentMessage.payload := by
          have hreceived : receiver.received = r.received := by
            rw [Device.received, hr, Option.elim_some]
          exact hreceived ▸ h.inOrder
        have hlink := hs.link hinv hsame hseparated hfifo
        have hlinkForge : NoForgery aead ⟨s, r⟩ (.DecryptB now frame) :=
          fun _ => List.mem_append_left _ hmem
        obtain ⟨next, hnext, rfl⟩ := accepted_is_next hlaw hlink hlinkForge hrun
        refine ⟨s, rfl, hsame, Fifo.concat_prefix hfifo ?_⟩
        rw [List.getElem?_map, hnext]
        rfl
    | Idle => cases hmem
    | Failed => cases hmem
    | Paired _ _ => cases hmem
    | Pending _ _ _ => cases hmem
  · -- a frame of its own has the prefix of the other direction
    rw [Device.sealed, hr, Option.elim_some] at hmem
    obtain ⟨message, -, hbox⟩ := List.mem_map.mp hmem
    simp only [sealedIn, toOpen, SealedBox.mk.injEq] at hbox
    exact absurd (Prod.ext hbox.1 (nonce_prefix_injective hbox.2.1)) hseparated

end Direction

/-! ## Both directions -/

section Protocol

variable {crates : HandshakeCrates} {aead : Aead} {protocol : Protocol}

lemma BluetoothRole.opposite_ne (role : BluetoothRole) : role.opposite ≠ role := by
  cases role <;> decide

@[simp] lemma BluetoothRole.opposite_opposite (role : BluetoothRole) :
    role.opposite.opposite = role := by
  cases role <;> rfl

lemma BluetoothRole.eq_or_eq_opposite (role role' : BluetoothRole) :
    role' = role ∨ role' = role.opposite := by
  cases role <;> cases role' <;> decide

lemma Protocol.mem_sealed {box : SealedBox} (role : BluetoothRole) (h : box ∈ protocol.sealed) :
    box ∈ (protocol role.opposite).sealed ∨ box ∈ (protocol role).sealed := by
  rcases List.mem_append.mp h with hmem | hmem
  · cases role
    · exact Or.inr hmem
    · exact Or.inl hmem
  · cases role
    · exact Or.inl hmem
    · exact Or.inr hmem

lemma Protocol.inv_start : Protocol.start.Inv crates aead where
  device _ := .Idle
  direction _ _ := ⟨List.prefix_rfl, fun hreceived => absurd rfl hreceived⟩
  noCollision := nofun

/-- The device that was called still gets what the other has sent.  A call on a session changes
neither hello, so the session was honest before. -/
lemma Protocol.Inv.direction_step (hlaw : aead.Lawful) (h : protocol.Inv crates aead)
    {role : BluetoothRole} {call : DeviceCall} {device' : Device}
    (hforge : call.NoForgery aead protocol role)
    (hmoves : Device.Moves aead (protocol role) call device')
    (hhonest : device'.KnowsKeyOf (protocol role.opposite)) :
    Direction (protocol role.opposite) device' := by
  have hcontinues := hmoves.continues (h.device role)
  cases hmoves with
  | handshake hnone hsent hreceived =>
      refine ⟨by rw [hreceived]; exact List.nil_prefix, ?_⟩
      intro hsome
      exact absurd hreceived hsome
  | unchanged => exact h.direction role hhonest
  | @encrypt pairing peer endpoint hdevice now messageType plaintext =>
      have hbefore : protocol.Honest role := by
        rw [Protocol.Honest, hdevice]
        exact hhonest
      refine (h.direction role hbefore).of_receiver hcontinues ?_
      have hdev := h.device role
      rw [hdevice] at hdev ⊢
      cases hdev with
      | Secure _ _ _ _ hinv => exact (hinv.encrypt now messageType plaintext).2.2.2
  | @decrypt pairing peer endpoint now frame hdevice hcall =>
      have hbefore : protocol.Honest role := by
        rw [Protocol.Honest, hdevice]
        exact hhonest
      have hdirection := h.direction role hbefore
      rcases endpoint.decrypt_cases aead now frame with heq | ⟨payload, session, hrun, heq⟩
      · refine hdirection.of_receiver hcontinues ?_
        rw [hdevice, heq]
      · have hdev := h.device role
        subst hcall
        have hopen := hforge hbefore endpoint (by rw [hdevice]; rfl)
        rw [hdevice] at hdev
        cases hdev with
        | Secure _ _ _ hseparated hinv =>
            obtain ⟨s, hs, hsame, hnext⟩ := hdirection.accept hlaw (h.device role.opposite)
              (by rw [hdevice]; rfl) hinv hseparated
              (fun hopens => Protocol.mem_sealed role (hopen hopens)) hrun
            rw [heq]
            refine ⟨?_, fun _ => ⟨s, hs, _, rfl, hsame.of_origin rfl rfl⟩⟩
            rw [Device.sent, hs, Option.elim_some]
            exact hnext

/-- **Every step keeps the invariant.** -/
lemma Protocol.Inv.step (hlaw : aead.Lawful) (h : protocol.Inv crates aead)
    {input : BluetoothRole × DeviceCall} (hassumed : Assumed crates aead protocol input) :
    (protocol.step crates aead input).Inv crates aead := by
  obtain ⟨role, call⟩ := input
  have hself : protocol.step crates aead (role, call) role
      = (protocol role).step crates aead role call := Function.update_self _ _ _
  have hother : protocol.step crates aead (role, call) role.opposite = protocol role.opposite :=
    Function.update_of_ne role.opposite_ne _ _
  have hmoves := (protocol role).moves_step crates aead role call
  have hfresh := hassumed.fresh
  have hseparated := hassumed.separated
  simp only [hself] at hfresh hseparated
  refine ⟨?_, ?_, hassumed.noCollision⟩
  · intro role'
    rcases role.eq_or_eq_opposite role' with rfl | rfl
    · rw [hself]
      exact (h.device role').step call hseparated
    · rw [hother]
      exact h.device role.opposite
  · intro role'
    rw [Protocol.Honest]
    rcases role.eq_or_eq_opposite role' with rfl | rfl
    · rw [hself, hother]
      exact h.direction_step hlaw hassumed.noForgery hmoves
    · have hdirection := h.direction role.opposite
      rw [Protocol.Honest, BluetoothRole.opposite_opposite] at hdirection
      rw [BluetoothRole.opposite_opposite, hself, hother]
      intro hhonest
      rcases (protocol role).drawn_step crates aead role call with hnone | hsame
      · exact absurd hhonest (hfresh hnone)
      · rw [Device.KnowsKeyOf, hsame] at hhonest
        exact (hdirection hhonest).of_sender (hmoves.continues (h.device role))

/-! ## Who is at the other end -/

/-- Both devices have a session, and each was paired with the hello of the other. -/
def Protocol.Mutual (protocol : Protocol) (role : BluetoothRole) (s r : Endpoint) : Prop :=
  ∃ pairing pairing', protocol role = .Secure pairing pairing'.hello r ∧
    protocol role.opposite = .Secure pairing' pairing.hello s

/-- Devices that were paired with each other have sessions that belong together. -/
lemma Protocol.Inv.sameHandshake (hcomm : crates.Commutes) (h : protocol.Inv crates aead)
    {role : BluetoothRole} {s r : Endpoint} (hmutual : protocol.Mutual role s r) :
    SameHandshake s.session r.session := by
  obtain ⟨pairing, pairing', hdevice, hdevice'⟩ := hmutual
  have hsender := h.device role.opposite
  have hreceiver := h.device role
  rw [hdevice] at hreceiver
  rw [hdevice'] at hsender
  cases hreceiver with
  | Secure hholds _ hestablishes _ _ =>
      cases hsender with
      | Secure hholds' _ hestablishes' _ _ =>
          obtain ⟨pending, since, checked, now, observedSas, hderive, hconfirm⟩ := hestablishes
          obtain ⟨pending', since', checked', now', observedSas', hderive', hconfirm'⟩ :=
            hestablishes'
          obtain ⟨-, -, -, horigin⟩ := confirm_eq_ok.mp hconfirm
          obtain ⟨-, -, -, horigin'⟩ := confirm_eq_ok.mp hconfirm'
          rcases derive_agrees hcomm hholds' hholds since' since with
            ⟨error, herror, -⟩ | ⟨_, _, hpending', hpending, hagreement, -, -⟩
          · exact nomatch hderive'.symm.trans herror
          · obtain rfl := Except.ok.inj (hderive'.symm.trans hpending')
            obtain rfl := Except.ok.inj (hderive.symm.trans hpending)
            have hsame := (hagreement.sameHandshake now' now).1
            rw [horigin, horigin'] at hsame
            exact ⟨hsame.key, hsame.noncePrefix, hsame.transcriptHash, hsame.sessionId⟩

end Protocol

/-! ## The conformance vector -/

section ConformanceVector

instance (device other : Device) : Decidable (device.KnowsKeyOf other) :=
  inferInstanceAs (Decidable (∃ peer ∈ device.peer, ∃ pairing ∈ other.drawn,
    peer.publicKey = pairing.hello.publicKey))

instance (protocol : Protocol) (role : BluetoothRole) : Decidable (protocol.Honest role) :=
  inferInstanceAs (Decidable ((protocol role).KnowsKeyOf (protocol role.opposite)))

instance (aead : Aead) (protocol : Protocol) (role : BluetoothRole) (call : DeviceCall) :
    Decidable (call.NoForgery aead protocol role) := by
  cases call with
  | Decrypt now frame =>
      exact inferInstanceAs (Decidable (protocol.Honest role →
        ∀ endpoint ∈ (protocol role).endpoint, aead.opens (endpoint.session.toOpen frame) →
          endpoint.session.toOpen frame ∈ protocol.sealed))
  | _ => exact isTrue trivial

instance (crates : HandshakeCrates) (aead : Aead) (protocol : Protocol)
    (input : BluetoothRole × DeviceCall) : Decidable (Assumed crates aead protocol input) :=
  decidable_of_iff
    (input.2.NoForgery aead protocol input.1 ∧
      ((protocol input.1).drawn = none →
        ¬ (protocol input.1.opposite).KnowsKeyOf (protocol.step crates aead input input.1)) ∧
      (∀ t ∈ (protocol.step crates aead input).transcripts,
        ∀ t' ∈ (protocol.step crates aead input).transcripts,
          crates.sha256 t = crates.sha256 t' → t = t') ∧
      ∀ endpoint ∈ (protocol.step crates aead input input.1).endpoint,
        DirectionsSeparated endpoint.session)
    ⟨fun h => ⟨h.1, h.2.1, h.2.2.1, h.2.2.2⟩,
      fun h => ⟨h.noForgery, h.fresh, h.noCollision, h.separated⟩⟩

end ConformanceVector

end FtnlDesktop
