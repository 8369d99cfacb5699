import FtnlDesktop.Bluetooth.Channel

/-!
# One nonce, one ciphertext

A confirmed session keeps one key for sending and one for receiving through its whole life, so its
nonces must not repeat.  They are made of the session's prefix and a counter, and the counter
advances with every frame that `encrypt` returns and with no other event: not with a payload that
is too long, not after the session has expired, and not when the cipher fails.

Calls of both methods come here in any order, and each brings its own cipher, so that the cipher
may fail at any call it likes.  `TracedSession` records the calls that succeeded.

* **`TracedSession.inv_exec`** — entry `i` of either record went under counter `i + 1`, and all
  that the calls have changed is the two counters.
* **`nonces_never_reused`** — the counters on the returned frames are `1, 2, …`, their nonces are
  distinct, and after `MAX_BLUETOOTH_FRAMES_PER_DIRECTION` of them nothing more is returned; the
  same for the frames that `decrypt` accepts.
-/

namespace FtnlDesktop

open Machine SecureBluetoothSession

/-! ## Calls -/

structure EncryptCall where
  aead : Aead
  now : Instant
  messageType : BluetoothMessageType
  plaintext : Bytes

structure DecryptCall where
  aead : Aead
  now : Instant
  frame : Bytes

inductive SessionCall where
  | Encrypt (call : EncryptCall)
  | Decrypt (call : DecryptCall)

def EncryptCall.run (call : EncryptCall) (session : SecureBluetoothSession) :
    EStateM.Result SecureBluetoothError SecureBluetoothSession Bytes :=
  (encrypt call.aead call.now call.messageType call.plaintext).run session

def DecryptCall.run (call : DecryptCall) (session : SecureBluetoothSession) :
    EStateM.Result SecureBluetoothError SecureBluetoothSession (BluetoothMessageType × Bytes) :=
  (decrypt call.aead call.now call.frame).run session

/-- A session with its successful calls, oldest first, and the frames that `encrypt` returned. -/
structure TracedSession where
  session : SecureBluetoothSession
  returned : List (EncryptCall × Bytes)
  accepted : List DecryptCall

namespace TracedSession

/-- The session leaves the call as the method left it, also when the method failed. -/
def step (traced : TracedSession) : SessionCall → TracedSession
  | .Encrypt call =>
      match call.run traced.session with
      | .ok frame session =>
          { traced with session, returned := traced.returned ++ [(call, frame)] }
      | .error _ session => { traced with session }
  | .Decrypt call =>
      match call.run traced.session with
      | .ok _ session => { traced with session, accepted := traced.accepted ++ [call] }
      | .error _ session => { traced with session }

/-- A session after `calls`. -/
def after (session : SecureBluetoothSession) (calls : List SessionCall) : TracedSession :=
  exec step ⟨session, [], []⟩ calls

/-- The nonces of the returned frames, under the prefix of the session they came from. -/
def nonces (origin : SecureBluetoothSession) (traced : TracedSession) : List AeadNonce :=
  traced.returned.map fun sent => nonce origin.txPrefix (frameCounter sent.2)

end TracedSession

/-! ## What one call does -/

/-- `encrypt` fails and changes nothing, or it advances the counter and seals under it. -/
lemma EncryptCall.run_cases (call : EncryptCall) (session : SecureBluetoothSession) :
    (∃ e, call.run session = .error e session) ∨
      session.txCounter < MAX_BLUETOOTH_FRAMES_PER_DIRECTION ∧
        ∃ frame, SealedAs call.aead session (session.txCounter + 1)
            ⟨call.messageType, call.plaintext, frame⟩ ∧
          call.run session = .ok frame { session with txCounter := session.txCounter + 1 } := by
  cases hrun : call.run session with
  | error e session' =>
      obtain rfl := atomic_encrypt call.aead call.now call.messageType call.plaintext _ _ _ hrun
      exact Or.inl ⟨e, rfl⟩
  | ok frame session' =>
      obtain ⟨-, hlen, hlimit, header, ciphertext, hheader, hseal, hframe, rfl⟩ :=
        run_encrypt_eq_ok.mp hrun
      exact Or.inr ⟨hlimit, frame, ⟨hlen, hlimit, header, ciphertext, hheader, hseal, hframe⟩, rfl⟩

/-- The frame was accepted under the counter `counter`. -/
def OpenedAs (session : SecureBluetoothSession) (counter : ℕ) (call : DecryptCall) : Prop :=
  frameCounter call.frame = counter ∧ ∃ plaintext,
    call.aead.decrypt session.rxKey (nonce session.rxPrefix counter)
      (associatedData session.transcriptHash session.sessionId
        (call.frame.take FRAME_HEADER_LEN))
      (call.frame.drop FRAME_HEADER_LEN) = some plaintext

/-- `decrypt` fails and changes nothing, or it advances the counter to that of the frame. -/
lemma DecryptCall.run_cases (call : DecryptCall) (session : SecureBluetoothSession) :
    (∃ e, call.run session = .error e session) ∨
      session.rxCounter < MAX_BLUETOOTH_FRAMES_PER_DIRECTION ∧
        OpenedAs session (session.rxCounter + 1) call ∧
        ∃ payload,
          call.run session = .ok payload { session with rxCounter := session.rxCounter + 1 } := by
  cases hrun : call.run session with
  | error e session' =>
      obtain rfl := atomic_decrypt call.aead call.now call.frame _ _ _ hrun
      exact Or.inl ⟨e, rfl⟩
  | ok payload session' =>
      obtain ⟨-, -, -, -, hcounter, hlimit, -, -, -, hopen, rfl⟩ := run_decrypt_eq_ok.mp hrun
      exact Or.inr ⟨hlimit, ⟨hcounter, _, hopen⟩, payload, rfl⟩

/-! ## The invariant -/

/-- What holds of a session that has come from `origin` by calls of the two methods. -/
structure TracedSession.Inv (origin : SecureBluetoothSession) (traced : TracedSession) :
    Prop where
  session_eq : traced.session =
    { origin with txCounter := traced.returned.length, rxCounter := traced.accepted.length }
  returned_le : traced.returned.length ≤ MAX_BLUETOOTH_FRAMES_PER_DIRECTION
  accepted_le : traced.accepted.length ≤ MAX_BLUETOOTH_FRAMES_PER_DIRECTION
  returned : ∀ i call frame, traced.returned[i]? = some (call, frame) →
    SealedAs call.aead origin (i + 1) ⟨call.messageType, call.plaintext, frame⟩
  accepted : ∀ i call, traced.accepted[i]? = some call → OpenedAs origin (i + 1) call

/-- A fact about every entry of a record, after one entry more. -/
lemma forall_getElem?_concat {α : Type} {P : ℕ → α → Prop} {l : List α} {a : α}
    (h : ∀ i b, l[i]? = some b → P i b) (ha : P l.length a) :
    ∀ i b, (l ++ [a])[i]? = some b → P i b := by
  intro i b hb
  rcases lt_trichotomy i l.length with hlt | rfl | hgt
  · rw [List.getElem?_append_left hlt] at hb
    exact h i b hb
  · rw [List.getElem?_concat_length] at hb
    obtain rfl := Option.some.inj hb
    exact ha
  · rw [List.getElem?_eq_none (by simp only [List.length_append, List.length_singleton]; omega)]
      at hb
    cases hb

namespace TracedSession

variable {origin : SecureBluetoothSession} {traced : TracedSession}

lemma inv_start {session : SecureBluetoothSession} (h : Confirmed session) :
    Inv session ⟨session, [], []⟩ where
  session_eq := by
    obtain ⟨htx, hrx⟩ := h.counters
    cases session
    simp only at htx hrx
    simp only [htx, hrx, List.length_nil]
  returned_le := Nat.zero_le _
  accepted_le := Nat.zero_le _
  returned := by simp
  accepted := by simp

/-- **One call** of either method. -/
theorem Inv.step (h : traced.Inv origin) (call : SessionCall) :
    (traced.step call).Inv origin := by
  have htx : traced.session.txCounter = traced.returned.length := by rw [h.session_eq]
  have hrx : traced.session.rxCounter = traced.accepted.length := by rw [h.session_eq]
  cases call with
  | Encrypt call =>
      rw [TracedSession.step]
      rcases call.run_cases traced.session with ⟨e, hrun⟩ | ⟨hlimit, frame, hsealed, hrun⟩
      · rw [hrun]
        exact h
      · rw [hrun]
        rw [htx] at hlimit
        refine ⟨?_, ?_, h.accepted_le, ?_, h.accepted⟩
        · simp only [List.length_append, List.length_singleton, htx]
          rw [h.session_eq]
        · rw [List.length_append]
          exact hlimit
        · intro i call' frame'
          refine forall_getElem?_concat (P := fun i sent => SealedAs sent.1.aead origin (i + 1)
            ⟨sent.1.messageType, sent.1.plaintext, sent.2⟩) (fun i sent => h.returned i _ _) ?_ i
            (call', frame')
          rw [h.session_eq] at hsealed
          exact hsealed
  | Decrypt call =>
      rw [TracedSession.step]
      rcases call.run_cases traced.session with ⟨e, hrun⟩ | ⟨hlimit, hopened, payload, hrun⟩
      · rw [hrun]
        exact h
      · rw [hrun]
        rw [hrx] at hlimit
        refine ⟨?_, h.returned_le, ?_, h.returned, ?_⟩
        · simp only [List.length_append, List.length_singleton, hrx]
          rw [h.session_eq]
        · rw [List.length_append]
          exact hlimit
        · refine forall_getElem?_concat h.accepted ?_
          rw [h.session_eq] at hopened
          exact hopened

/-- **Every sequence of calls.** -/
theorem inv_exec {session : SecureBluetoothSession} (h : Confirmed session)
    (calls : List SessionCall) : (after session calls).Inv session :=
  exec_invariant (fun _ call htraced => htraced.step call) (inv_start h) calls

end TracedSession

/-! ## Counters and nonces -/

/-- Entries that carry their own position, counted from one. -/
lemma map_eq_range'_of_getElem? {α : Type} {f : α → ℕ} {l : List α}
    (h : ∀ i a, l[i]? = some a → f a = i + 1) : l.map f = List.range' 1 l.length := by
  refine List.ext_getElem (by simp) fun i hi _ => ?_
  rw [List.getElem_map, List.getElem_range', Nat.one_mul, Nat.add_comm]
  refine h i _ (List.getElem?_eq_getElem ?_)
  simpa using hi

/-- A counter of eight bytes is recovered from its nonce. -/
lemma nonce_counter_injective {noncePrefix : NoncePrefix} {m n : ℕ} (hm : m < 2 ^ 64)
    (hn : n < 2 ^ 64) (h : nonce noncePrefix m = nonce noncePrefix n) : m = n := by
  have hlist : noncePrefix.toList ++ BigEndian.toBeBytes 8 m
      = noncePrefix.toList ++ BigEndian.toBeBytes 8 n := congrArg List.Vector.toList h
  have hbytes : m < 256 ^ 8 := hm
  rw [← BigEndian.fromBeBytes_toBeBytes hbytes, List.append_cancel_left hlist]
  exact BigEndian.fromBeBytes_toBeBytes hn

/-- Nonces of consecutive counters within the limit. -/
lemma nodup_nonces_of_range' (noncePrefix : NoncePrefix) {n : ℕ}
    (h : n ≤ MAX_BLUETOOTH_FRAMES_PER_DIRECTION) :
    ((List.range' 1 n).map (nonce noncePrefix)).Nodup := by
  refine List.Nodup.map_on ?_ List.nodup_range'
  intro i hi j hj hij
  rw [List.mem_range'_1] at hi hj
  rw [MAX_BLUETOOTH_FRAMES_PER_DIRECTION] at h
  exact nonce_counter_injective (by omega) (by omega) hij

namespace TracedSession

variable {origin : SecureBluetoothSession} {traced : TracedSession}

lemma Inv.returned_counters (h : traced.Inv origin) :
    (traced.returned.map fun sent => frameCounter sent.2)
      = List.range' 1 traced.returned.length :=
  map_eq_range'_of_getElem? fun i sent hsent => (h.returned i sent.1 sent.2 hsent).frameCounter_eq

lemma Inv.accepted_counters (h : traced.Inv origin) :
    (traced.accepted.map fun call => frameCounter call.frame)
      = List.range' 1 traced.accepted.length :=
  map_eq_range'_of_getElem? fun i call hcall => (h.accepted i call hcall).1

lemma Inv.nodup_nonces (h : traced.Inv origin) : (traced.nonces origin).Nodup := by
  have hmap : traced.nonces origin
      = (List.range' 1 traced.returned.length).map (nonce origin.txPrefix) := by
    rw [← h.returned_counters, List.map_map]
    rfl
  rw [hmap]
  exact nodup_nonces_of_range' _ h.returned_le

/-- The ciphertext in a returned frame is what the cipher made of the plaintext under the key of
the session and the nonce of the frame. -/
lemma Inv.sealed (h : traced.Inv origin) {call : EncryptCall} {frame : Bytes}
    (hmem : (call, frame) ∈ traced.returned) :
    call.aead.encrypt origin.txKey (nonce origin.txPrefix (frameCounter frame))
      (associatedData origin.transcriptHash origin.sessionId (frame.take FRAME_HEADER_LEN))
      call.plaintext = some (frame.drop FRAME_HEADER_LEN) := by
  obtain ⟨i, hi⟩ := List.mem_iff_getElem?.mp hmem
  have hsealed := h.returned i call frame hi
  have hcounter : frameCounter frame = i + 1 := hsealed.frameCounter_eq
  obtain ⟨-, -, header, ciphertext, rfl, hseal, hframe⟩ := hsealed
  simp only at hframe
  rw [hcounter, hframe, take_headerBytes_append, drop_headerBytes_append]
  exact hseal

/-- At the limit `encrypt` fails, whatever the call. -/
lemma Inv.encrypt_exhausted (h : traced.Inv origin)
    (hfull : traced.returned.length = MAX_BLUETOOTH_FRAMES_PER_DIRECTION) (call : EncryptCall) :
    ∃ e, call.run traced.session = .error e traced.session := by
  rcases call.run_cases traced.session with herror | ⟨hlimit, -⟩
  · exact herror
  · rw [h.session_eq, hfull] at hlimit
    exact absurd hlimit (lt_irrefl _)

lemma Inv.decrypt_exhausted (h : traced.Inv origin)
    (hfull : traced.accepted.length = MAX_BLUETOOTH_FRAMES_PER_DIRECTION) (call : DecryptCall) :
    ∃ e, call.run traced.session = .error e traced.session := by
  rcases call.run_cases traced.session with herror | ⟨hlimit, -⟩
  · exact herror
  · rw [h.session_eq, hfull] at hlimit
    exact absurd hlimit (lt_irrefl _)

end TracedSession

/-- **Nonces are never reused.**  Whatever calls are made on a confirmed session, in whatever order
and whenever the cipher fails: the returned frames are numbered `1, 2, …` up to the limit at most,
each holds what the cipher made of its plaintext under the one sending key and a nonce of its own,
a call that fails has changed nothing, and at the limit every call fails.  The frames accepted by
`decrypt` are numbered and bounded in the same way. -/
theorem nonces_never_reused {origin : SecureBluetoothSession} (h : Confirmed origin)
    (calls : List SessionCall) :
    let traced := TracedSession.after origin calls
    ((traced.returned.map fun sent => frameCounter sent.2)
        = List.range' 1 traced.returned.length ∧
      traced.returned.length ≤ MAX_BLUETOOTH_FRAMES_PER_DIRECTION ∧
      (traced.nonces origin).Nodup ∧
      (∀ call frame, (call, frame) ∈ traced.returned →
        call.aead.encrypt origin.txKey (nonce origin.txPrefix (frameCounter frame))
          (associatedData origin.transcriptHash origin.sessionId (frame.take FRAME_HEADER_LEN))
          call.plaintext = some (frame.drop FRAME_HEADER_LEN)) ∧
      (∀ (call : EncryptCall) e session, call.run traced.session = .error e session →
        session = traced.session) ∧
      (traced.returned.length = MAX_BLUETOOTH_FRAMES_PER_DIRECTION →
        ∀ call : EncryptCall, ∃ e, call.run traced.session = .error e traced.session)) ∧
    ((traced.accepted.map fun call => frameCounter call.frame)
        = List.range' 1 traced.accepted.length ∧
      traced.accepted.length ≤ MAX_BLUETOOTH_FRAMES_PER_DIRECTION ∧
      (∀ (call : DecryptCall) e session, call.run traced.session = .error e session →
        session = traced.session) ∧
      (traced.accepted.length = MAX_BLUETOOTH_FRAMES_PER_DIRECTION →
        ∀ call : DecryptCall, ∃ e, call.run traced.session = .error e traced.session)) ∧
    traced.session = { origin with
      txCounter := traced.returned.length, rxCounter := traced.accepted.length } := by
  intro traced
  have hinv : traced.Inv origin := TracedSession.inv_exec h calls
  refine ⟨⟨hinv.returned_counters, hinv.returned_le, hinv.nodup_nonces, ?_, ?_, ?_⟩,
    ⟨hinv.accepted_counters, hinv.accepted_le, ?_, ?_⟩, hinv.session_eq⟩
  · intro call frame hmem
    exact hinv.sealed hmem
  · intro call e session hrun
    exact atomic_encrypt call.aead call.now call.messageType call.plaintext _ _ _ hrun
  · intro hfull call
    exact hinv.encrypt_exhausted hfull call
  · intro call e session hrun
    exact atomic_decrypt call.aead call.now call.frame _ _ _ hrun
  · intro hfull call
    exact hinv.decrypt_exhausted hfull call

/-- The initiator of the conformance vector sends its one frame; a second call, for which the
cipher fails, returns nothing. -/
theorem nonces_never_reused_vector :
    let traced := TracedSession.after vectorInitiator
      [.Encrypt ⟨vectorAead, 0, .PeerInfo, crossLanguage⟩,
       .Encrypt ⟨vectorAead, 1, .PeerInfo, crossLanguage⟩]
    (traced.nonces vectorInitiator).Nodup ∧
      (traced.returned.map fun sent => frameCounter sent.2) = [1] := by
  refine ⟨(nonces_never_reused
    ⟨vectorInitiatorPending, 0, 0, "729801", by decide +kernel⟩ _).1.2.2.1, ?_⟩
  decide +kernel

end FtnlDesktop
