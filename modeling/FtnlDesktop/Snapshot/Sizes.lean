import FtnlDesktop.Snapshot.RoundTrip
import FtnlDesktop.Snapshot.Serde

/-!
# The two size limits of a snapshot

The writer bounds the plaintext by 6 MiB and the envelope around it by 8 MiB.  Base64 makes eight
bytes of six, so the second limit leaves no room for what is added to the plaintext: a tag of 16
bytes and 212 bytes of JSON, nonce included (`length_sealedEnvelope`).

* **`snapshot_limits_agree_iff`** — a plaintext within the first limit is sealed, and its envelope
  is not refused for its size, exactly when it has at most 6291281 bytes, 175 less than the limit.
* **`not_snapshot_limits_agree`** — a workspace in between, with 24 captures of 65472 characters.
-/

namespace FtnlDesktop

open Json Machine Method

variable {c : Crates} {w : ClipboardWorkspace} {key : Bytes} {nonce : SnapshotNonce}
  {plaintext : Bytes}

/-- The envelope is written compactly, bytes as URL-safe Base64 without padding, and the cipher
seals what is within the limit. -/
structure Crates.Compact (c : Crates) : Prop where
  envelope : ∀ envelope, c.envelopeToVec envelope
    = some (asBytes (String.ofList (writeEnvelope envelope)))
  base64 : ∀ bytes, c.base64Encode bytes = String.ofList (Base64.encode bytes)
  seals : ∀ key nonce msg aad, msg.length ≤ SNAPSHOT_MAX_PLAINTEXT_BYTES →
    ∃ ciphertext, c.encrypt key nonce msg aad = some ciphertext

/-! ## The size of an envelope -/

lemma size_string_base64 (bytes : Bytes) :
    size (string (String.ofList (Base64.encode bytes))) = (4 * bytes.length + 2) / 3 + 2 := by
  rw [string, String.toList_ofList, size_quote_of_plain fun _ => isPlain_base64,
    Base64.length_encode]

/-- The nonce takes 32 characters and the JSON around the two texts 180. -/
lemma length_sealedEnvelope (hcompact : c.Compact) (nonce : SnapshotNonce) (ciphertext : Bytes) :
    (asBytes (String.ofList (writeEnvelope (sealedEnvelope c nonce ciphertext)))).length
      = 212 + (4 * ciphertext.length + 2) / 3 := by
  have hnonce : nonce.toList.length = 24 := nonce.2
  rw [length_asBytes_ofList]
  show size _ = _
  simp only [writeEnvelope, sealedEnvelope, size_object, size_members_cons, size_members_single,
    hcompact.base64, size_string_base64, hnonce]
  have hkeys : size (string "document_type") + size (string "schema_version")
      + size (string "algorithm") + size (string "associated_data") + size (string "nonce")
      + size (string "ciphertext") = 78 := by decide +kernel
  have hvalues : size (string "encrypted_workspace_snapshot")
      + size (number SNAPSHOT_SCHEMA_VERSION) + size (string SNAPSHOT_ALGORITHM)
      + size (string SNAPSHOT_ASSOCIATED_DATA) = 85 := by decide +kernel
  omega

/-! ## What the reader makes of it -/

/-- No check of the plaintext document reports a size. -/
lemma decodeSnapshot_ne_tooLarge (encoded : Bytes) (now : SystemTime) :
    decodeSnapshot c encoded now ≠ .error .TooLarge := by
  have hitem : ∀ wire, decodeItem c wire ≠ .error .TooLarge := by
    intro wire
    refine bind_ne_error (rejectIf_ne_error (by decide)) fun _ => ?_
    refine bind_ne_error (okOr_ne_error (by decide)) fun itemId => ?_
    refine bind_ne_error (rejectIf_ne_error (by decide)) fun _ => ?_
    refine bind_ne_error ?_ fun capturedAt => ok_ne_error _
    refine bind_ne_error (okOr_ne_error (by decide)) fun dateTime => ?_
    refine bind_ne_error (rejectIf_ne_error (by decide)) fun _ => ?_
    refine bind_ne_error (okOr_ne_error (by decide)) fun seconds => ?_
    exact bind_ne_error (okOr_ne_error (by decide)) fun nanos => okOr_ne_error (by decide)
  refine bind_ne_error (okOr_ne_error (by decide)) fun wire => ?_
  refine bind_ne_error (rejectIf_ne_error (by decide)) fun _ => ?_
  refine bind_ne_error (okOr_ne_error (by decide)) fun captureState => ?_
  refine bind_ne_error (rejectIf_ne_error (by decide)) fun _ => ?_
  exact bind_ne_error (mapM_ne_error hitem _) fun items =>
    mapError_ne_error fun _ => by decide

/-- A snapshot that opens is read as its plaintext. -/
lemma decryptSnapshot_of_opensTo {encoded : Bytes} (h : OpensTo c encoded key plaintext)
    (now : SystemTime) : decryptSnapshot c encoded key now = decodeSnapshot c plaintext now := by
  obtain ⟨envelope, nonce, ciphertext, cipher, henvelope, ⟨htype, hschema, halgorithm, hdata⟩,
    hnonce, htext, ⟨hlow, hhigh⟩, hkey, hopen⟩ := h.opens
  rw [decryptSnapshot, rejectIf_bind, if_neg (not_lt.mpr h.encoded_le), okOr_bind, henvelope,
    Option.elim_some, rejectIf_bind, if_neg (by simp [htype, hschema, halgorithm, hdata]), hnonce,
    ok_bind, okOr_bind, htext, Option.elim_some, rejectIf_bind, if_neg (by omega), hkey, ok_bind,
    okOr_bind, hopen, Option.elim_some, rejectIf_bind, if_neg (not_lt.mpr h.plaintext_le)]

/-! ## The limits -/

lemma exists_cipherForKey (hkey : key.length = XCHACHA20_KEY_BYTES) :
    ∃ cipher, cipherForKey key = .ok cipher :=
  ⟨⟨key, hkey⟩, cipherForKey_eq_ok_iff.mpr rfl⟩

/-- The envelope of a plaintext that is within the first limit. -/
lemma exists_envelope (hc : c.Lawful) (hcompact : c.Compact) (cipher : SnapshotKey)
    (nonce : SnapshotNonce) (hsize : plaintext.length ≤ SNAPSHOT_MAX_PLAINTEXT_BYTES) :
    ∃ ciphertext encoded,
      c.encrypt cipher nonce plaintext (asBytes SNAPSHOT_ASSOCIATED_DATA) = some ciphertext ∧
      c.envelopeToVec (sealedEnvelope c nonce ciphertext) = some encoded ∧
      (encoded.length ≤ SNAPSHOT_MAX_ENVELOPE_BYTES ↔ plaintext.length ≤ 6291281) := by
  obtain ⟨ciphertext, hseal⟩ := hcompact.seals cipher nonce plaintext
    (asBytes SNAPSHOT_ASSOCIATED_DATA) hsize
  obtain ⟨-, htag⟩ := hc.cipher _ _ _ _ _ hseal
  refine ⟨ciphertext, _, hseal, hcompact.envelope _, ?_⟩
  rw [length_sealedEnvelope hcompact, htag, POLY1305_TAG_BYTES, SNAPSHOT_MAX_ENVELOPE_BYTES]
  omega

/-- **Where the two limits agree.**  Let `encode_snapshot` yield a plaintext within the plaintext
limit.  Sealing it under a key of 32 bytes gives an envelope within the envelope limit, which is
never refused as too large, if and only if the plaintext has at most 6291281 bytes. -/
theorem snapshot_limits_agree_iff (c : Crates) (hc : c.Lawful) (hcompact : c.Compact)
    (w : ClipboardWorkspace) (key : Bytes) (hkey : key.length = XCHACHA20_KEY_BYTES)
    (nonce : SnapshotNonce) (plaintext : Bytes) (hplain : encodeSnapshot c w = .ok plaintext)
    (hsize : plaintext.length ≤ SNAPSHOT_MAX_PLAINTEXT_BYTES) :
    (∃ encoded, encryptSnapshotWithNonce c w key nonce = .ok encoded ∧
      encoded.length ≤ SNAPSHOT_MAX_ENVELOPE_BYTES ∧
      ∀ now, decryptSnapshot c encoded key now ≠ .error .TooLarge) ↔
      plaintext.length ≤ 6291281 := by
  obtain ⟨cipher, hcipher⟩ := exists_cipherForKey hkey
  obtain ⟨ciphertext, encoded, hseal, hvec, hfits⟩ := exists_envelope hc hcompact cipher nonce hsize
  constructor
  · rintro ⟨encoded', hencrypt, hle, -⟩
    obtain ⟨plaintext', cipher', ciphertext', hplain', -, hcipher', hseal', hvec', -⟩ :=
      encryptSnapshotWithNonce_eq_ok_iff.mp hencrypt
    obtain rfl := Except.ok.inj (hplain.symm.trans hplain')
    obtain rfl := Except.ok.inj (hcipher.symm.trans hcipher')
    obtain rfl := Option.some.inj (hseal.symm.trans hseal')
    obtain rfl := Option.some.inj (hvec.symm.trans hvec')
    exact hfits.mp hle
  · intro hle
    have hencrypt : encryptSnapshotWithNonce c w key nonce = .ok encoded :=
      encryptSnapshotWithNonce_eq_ok_iff.mpr ⟨plaintext, cipher, ciphertext, hplain, hsize, hcipher,
        hseal, hvec, hfits.mpr hle⟩
    refine ⟨encoded, hencrypt, hfits.mpr hle, fun now => ?_⟩
    obtain ⟨plaintext', -, hopens⟩ := opensTo_of_encryptSnapshot hc hencrypt
    rw [decryptSnapshot_of_opensTo hopens]
    exact decodeSnapshot_ne_tooLarge plaintext' now

/-- A plaintext between the two limits is refused after it has been sealed. -/
lemma encryptSnapshotWithNonce_tooLarge (hc : c.Lawful) (hcompact : c.Compact)
    (hkey : key.length = XCHACHA20_KEY_BYTES) (hplain : encodeSnapshot c w = .ok plaintext)
    (hsize : plaintext.length ≤ SNAPSHOT_MAX_PLAINTEXT_BYTES) (hlong : 6291281 < plaintext.length) :
    encryptSnapshotWithNonce c w key nonce = .error .TooLarge := by
  obtain ⟨cipher, hcipher⟩ := exists_cipherForKey hkey
  obtain ⟨ciphertext, encoded, hseal, hvec, hfits⟩ := exists_envelope hc hcompact cipher nonce hsize
  have hover : encoded.length > SNAPSHOT_MAX_ENVELOPE_BYTES := by omega
  rw [encryptSnapshotWithNonce, hplain, ok_bind, rejectIf_bind, if_neg (not_lt.mpr hsize), hcipher,
    ok_bind, okOr_bind, hseal, Option.elim_some]
  show (okOr (c.envelopeToVec (sealedEnvelope c nonce ciphertext)) _ >>= _) = _
  rw [okOr_bind, hvec, Option.elim_some, rejectIf_bind, if_pos hover]

/-! ### Day one again -/

/-- The last byte of a placeholder is zero, that of the recorded ciphertext is not. -/
lemma append_placeholderTag_ne (msg : Bytes) : msg ++ placeholderTag ≠ dayOneCiphertext := by
  intro h
  have hlast := congrArg List.getLast? h
  have hrecorded : dayOneCiphertext.getLast? = some 0xae := by
    rw [dayOneCiphertext]
    rfl
  have htag : placeholderTag ≠ [] := by decide
  rw [hrecorded, List.getLast?_append_of_ne_nil _ htag] at hlast
  exact absurd hlast (by decide)

lemma lawful_dayOneCrates : dayOneRecording.serdeCrates.Lawful :=
  Recording.lawful_serdeCrates consistent_dayOneRecording append_placeholderTag_ne

lemma compact_dayOneCrates : dayOneRecording.serdeCrates.Compact where
  envelope _ := rfl
  base64 _ := rfl
  seals _ _ _ _ _ := ⟨_, rfl⟩

/-- Items captured on day one are written with the time that was recorded. -/
lemma encodeItem_dayOne {item : ClipboardItem} (h : item.capturedAt = dayOne) :
    encodeItem dayOneRecording.serdeCrates item
      = .ok (itemWire dayOneRecording.serdeCrates item "1970-01-02T00:00:00Z") := by
  refine encodeItem_eq_ok_iff.mpr
    ⟨_, (formatTimestamp_eq_ok_iff lawful_dayOneCrates).mpr ⟨?_, ?_⟩, rfl⟩
  · rw [h]
    decide
  · rw [h]
    exact Recording.formatRfc3339_recorded (r := dayOneRecording)

/-- The plaintext of a workspace whose items were captured on day one. -/
lemma encodeSnapshot_dayOne (hlen : w.items.length ≤ MAX_SNAPSHOT_ITEMS)
    (h : ∀ item ∈ w.items, item.capturedAt = dayOne) :
    encodeSnapshot dayOneRecording.serdeCrates w
      = .ok (asBytes (String.ofList (writeWire (snapshotWire w (w.items.map fun item =>
          itemWire dayOneRecording.serdeCrates item "1970-01-02T00:00:00Z"))))) :=
  encodeSnapshot_eq_ok_iff.mpr
    ⟨hlen, _, mapM_eq_ok_map fun item hitem => encodeItem_dayOne (h item hitem), rfl⟩

lemma encodeSnapshot_dayOneWorkspace :
    encodeSnapshot dayOneRecording.serdeCrates dayOneWorkspace = .ok (asBytes dayOneJson) := by
  have hjson : writeWire (snapshotWire dayOneWorkspace (dayOneWorkspace.items.map fun item =>
      itemWire dayOneRecording.serdeCrates item "1970-01-02T00:00:00Z")) = dayOneJson.toList := by
    rw [dayOneJson]
    simp only [String.toList_append]
    iterate 8 rw [String.toList_ofList]
    decide +kernel
  rw [encodeSnapshot_dayOne (by decide) (by decide), hjson, String.ofList_toList]

/-- The snapshot that was recorded is well below both limits. -/
theorem snapshot_limits_agree_iff_dayOne :
    ∃ encoded, encryptSnapshotWithNonce dayOneRecording.serdeCrates dayOneWorkspace
        dayOneRecording.key.toList dayOneRecording.nonce = .ok encoded ∧
      encoded.length ≤ SNAPSHOT_MAX_ENVELOPE_BYTES ∧
      ∀ now, decryptSnapshot dayOneRecording.serdeCrates encoded dayOneRecording.key.toList now
        ≠ .error .TooLarge := by
  have hsize : (asBytes dayOneJson).length = 461 := (length_asBytes _).trans utf8ByteSize_dayOneJson
  refine (snapshot_limits_agree_iff dayOneRecording.serdeCrates lawful_dayOneCrates
    compact_dayOneCrates dayOneWorkspace dayOneRecording.key.toList dayOneRecording.key.2
    dayOneRecording.nonce (asBytes dayOneJson) encodeSnapshot_dayOneWorkspace ?_).mpr ?_
  · rw [hsize]
    decide
  · rw [hsize]
    decide

/-! ### A workspace in between -/

/-- A text of `n` characters of four bytes each. -/
@[irreducible] def emojis (n : ℕ) : String := String.ofList (List.replicate n '😀')

lemma toList_emojis (n : ℕ) : (emojis n).toList = List.replicate n '😀' := by
  rw [emojis, String.toList_ofList]

lemma size_emojis (n : ℕ) : size (emojis n).toList = n * 4 := by
  have hwidth : '😀'.utf8Size = 4 := by decide
  rw [toList_emojis, size_replicate, hwidth]

lemma utf8ByteSize_emojis (n : ℕ) : (emojis n).utf8ByteSize = n * 4 := by
  rw [← size_emojis, size, ← length_asBytes_ofList, String.ofList_toList, length_asBytes]

lemma size_string_emojis (n : ℕ) : size (string (emojis n)) = n * 4 + 2 := by
  rw [string, size_quote, size_emojis]
  intro c hc
  rw [toList_emojis] at hc
  rw [List.eq_of_mem_replicate hc]
  decide

lemma wellFormedContent_emojis {sha256 : Bytes → Digest} {n : ℕ} (hpos : 0 < n)
    (hle : n ≤ MAX_TEXT_CHARACTERS) :
    WellFormedContent sha256 (emojis n) (contentSha256Hex sha256 (emojis n))
      (emojis n).utf8ByteSize none where
  nonempty := by
    rw [String.isEmpty_eq_false_iff]
    intro hempty
    have hsize := utf8ByteSize_emojis n
    rw [hempty, String.utf8ByteSize_empty] at hsize
    omega
  characters := by
    rw [← String.length_toList, toList_emojis, List.length_replicate]
    exact hle
  bytes := by
    rw [MAX_TEXT_CHARACTERS] at hle
    rw [utf8ByteSize_emojis, MAX_TEXT_BYTES]
    omega
  byteSize_eq := rfl
  digest_eq := rfl
  fingerprint := by simp

/-- The text that is captured 24 times: 261888 bytes. -/
def crowdedText : String := emojis 65472

def crowdedItem (k : ℕ) : ClipboardItem :=
  exampleItem (BitVec.ofNat 128 (k + 1)) crowdedText dayOne

/-- The `k`-th capture, after two commands. -/
def crowdedRequest (k : ℕ) : Request :=
  ⟨BitVec.ofNat 128 (k + 3), k + 2,
    exampleIngest (BitVec.ofNat 128 (k + 1)) crowdedText dayOne, dayOne⟩

/-- The default policy, keeping duplicates. -/
def keepDuplicates : RetentionPolicy :=
  { maxItems := 250, maxAgeDays := 30, deduplicate := false }

def crowdedRun : List Request :=
  [⟨1, 0, .ResumeCapture, dayOne⟩, ⟨2, 1, .SetRetention keepDuplicates, dayOne⟩]
    ++ (List.range 24).map crowdedRequest

/-- The workspace after `k` captures. -/
def crowdedWorkspace (k : ℕ) : ClipboardWorkspace :=
  { ClipboardWorkspace.default with
    revision := k + 2
    captureState := .Active
    retention := keepDuplicates
    items := ((List.range k).map crowdedItem).reverse
    processedCommands := (List.range (k + 2)).map fun n => BitVec.ofNat 128 (n + 1) }

lemma mem_crowdedWorkspace {k : ℕ} {item : ClipboardItem}
    (h : item ∈ (crowdedWorkspace k).items) : ∃ n, item = crowdedItem n := by
  obtain ⟨n, -, rfl⟩ := List.mem_map.mp (List.mem_reverse.mp h)
  exact ⟨n, rfl⟩

lemma items_crowdedWorkspace_succ (k : ℕ) :
    (crowdedWorkspace (k + 1)).items = crowdedItem k :: (crowdedWorkspace k).items := by
  simp only [crowdedWorkspace, List.range_succ, List.map_append, List.map_singleton,
    List.reverse_append, List.reverse_singleton, List.singleton_append]

/-- Each capture adds its item; none expires and none is evicted. -/
lemma serve_crowdedRequest {k : ℕ} (hk : k < 24) :
    serve exampleSha256 (crowdedWorkspace k) (crowdedRequest k) = crowdedWorkspace (k + 1) := by
  have hunused : ∀ k < 24, BitVec.ofNat 128 (k + 3)
      ∉ (List.range (k + 2)).map fun n => BitVec.ofNat 128 (n + 1) := by decide
  have hkept : retained keepDuplicates dayOne (crowdedWorkspace (k + 1)).items
      = (crowdedWorkspace (k + 1)).items := by
    refine retained_eq_self (fun item hitem => ?_) ?_
    · obtain ⟨n, rfl⟩ := mem_crowdedWorkspace hitem
      exact isFresh_of_le le_rfl
    · refine List.countP_le_length.trans ?_
      simp only [crowdedWorkspace, List.length_reverse, List.length_map, List.length_range,
        keepDuplicates]
      omega
  have heffect : Effect exampleSha256 (crowdedWorkspace k) dayOne
      (exampleIngest (BitVec.ofNat 128 (k + 1)) crowdedText dayOne)
      (withItems (crowdedWorkspace k) (retained keepDuplicates dayOne
        (crowdedItem k :: (crowdedWorkspace k).items))) :=
    .insert ⟨rfl, wellFormedContent_emojis (by decide) (by decide), by simp⟩ rfl
  rw [← items_crowdedWorkspace_succ, hkept] at heffect
  rw [serve_of_effect (hunused k hk) rfl ?_ heffect]
  · have hwindow : ((List.range (k + 2)).map fun n => BitVec.ofNat 128 (n + 1)).length
        < MAX_PROCESSED_COMMANDS := by
      rw [List.length_map, List.length_range, MAX_PROCESSED_COMMANDS]
      omega
    simp only [recordCommand, withItems, crowdedWorkspace, crowdedRequest,
      Window.push_of_lt _ hwindow, List.range_succ (n := k + 2), List.map_append,
      List.map_singleton]
  · show k + 2 < MAX_REVISION
    rw [MAX_REVISION]
    omega

lemma exec_crowdedRequests {k : ℕ} (hk : k ≤ 24) :
    exec (serve exampleSha256) (crowdedWorkspace 0) ((List.range k).map crowdedRequest)
      = crowdedWorkspace k := by
  induction k with
  | zero => rfl
  | succ k ih =>
      rw [List.range_succ, List.map_append, exec_append, ih (by omega)]
      exact serve_crowdedRequest (by omega)

lemma exec_crowdedRun : exec (serve exampleSha256) .default crowdedRun = crowdedWorkspace 24 := by
  have hstart : exec (serve exampleSha256) .default
      [⟨1, 0, .ResumeCapture, dayOne⟩, ⟨2, 1, .SetRetention keepDuplicates, dayOne⟩]
      = crowdedWorkspace 0 := by decide +kernel
  rw [crowdedRun, exec_append, hstart, exec_crowdedRequests le_rfl]

/-! ### Its document -/

lemma size_string_contentSha256Hex (sha256 : Bytes → Digest) (text : String) :
    size (string (contentSha256Hex sha256 text)) = 66 := by
  have hdigest : (sha256 (asBytes text)).toList.length = 32 := (sha256 (asBytes text)).2
  rw [string, contentSha256Hex, String.toList_ofList,
    size_quote_of_plain fun c hc => (isPlain_hex _ c hc).1, length_hex, hdigest]

lemma size_string_uuidText (uuid : Uuid) : size (string (String.ofList (uuidText uuid))) = 38 := by
  rw [string, String.toList_ofList, size_quote_of_plain fun _ => isPlain_uuidText, length_uuidText]

/-- Every capture takes the same room. -/
lemma size_crowdedItem (k : ℕ) :
    size (writeItem (itemWire dayOneRecording.serdeCrates (crowdedItem k)
      "1970-01-02T00:00:00Z")) = 262128 := by
  have hid : size (string (dayOneRecording.serdeCrates.uuidToString (crowdedItem k).itemId)) = 38 :=
    size_string_uuidText _
  have hdigest : size (string (crowdedItem k).contentSha256) = 66 :=
    size_string_contentSha256Hex _ _
  have htext : size (string (crowdedItem k).text) = 261890 := size_string_emojis 65472
  have hbytes : (crowdedItem k).byteSize = 261888 := utf8ByteSize_emojis 65472
  have hpin : (crowdedItem k).isPinned = false := rfl
  have hsource : writeSource (crowdedItem k).sourceFingerprint = [] := rfl
  simp only [writeItem, itemWire, size_object, size_members_cons, size_members_single, hid, hdigest,
    htext, hbytes, hpin, hsource]
  decide +kernel

/-- The document of the workspace is 134 bytes short of the limit. -/
lemma size_crowdedWorkspace :
    size (writeWire (snapshotWire (crowdedWorkspace 24) ((crowdedWorkspace 24).items.map fun item =>
      itemWire dayOneRecording.serdeCrates item "1970-01-02T00:00:00Z"))) = 6291322 := by
  have hitems : size (array writeItem ((crowdedWorkspace 24).items.map fun item =>
      itemWire dayOneRecording.serdeCrates item "1970-01-02T00:00:00Z")) = 6291097 := by
    have hlen : (crowdedWorkspace 23).items.length = 23 := by simp [crowdedWorkspace]
    rw [items_crowdedWorkspace_succ, List.map_cons, size_array_of_eq (size_crowdedItem 23) ?_,
      List.length_map, hlen]
    intro wire hwire
    obtain ⟨item, hitem, rfl⟩ := List.mem_map.mp hwire
    obtain ⟨n, rfl⟩ := mem_crowdedWorkspace hitem
    exact size_crowdedItem n
  simp only [writeWire, snapshotWire, size_object, size_members_cons, size_members_single, hitems]
  decide +kernel

/-- **The two limits do not agree.**  A run of 26 commands leads to a workspace of 24 items whose
plaintext is within the limit, and which is refused as too large. -/
theorem not_snapshot_limits_agree :
    dayOneRecording.serdeCrates.Lawful ∧ dayOneRecording.serdeCrates.Compact ∧
    (exec (serve exampleSha256) .default crowdedRun).items.length ≤ MAX_SNAPSHOT_ITEMS ∧
    (∀ item ∈ (exec (serve exampleSha256) .default crowdedRun).items, Writable item.capturedAt) ∧
    dayOneRecording.key.toList.length = XCHACHA20_KEY_BYTES ∧
    ∃ plaintext,
      encodeSnapshot dayOneRecording.serdeCrates (exec (serve exampleSha256) .default crowdedRun)
        = .ok plaintext ∧
      plaintext.length ≤ SNAPSHOT_MAX_PLAINTEXT_BYTES ∧
      encryptSnapshotWithNonce dayOneRecording.serdeCrates
        (exec (serve exampleSha256) .default crowdedRun) dayOneRecording.key.toList
        dayOneRecording.nonce = .error .TooLarge := by
  rw [exec_crowdedRun]
  have htimes : ∀ item ∈ (crowdedWorkspace 24).items, item.capturedAt = dayOne := by
    intro item hitem
    obtain ⟨n, rfl⟩ := mem_crowdedWorkspace hitem
    rfl
  have hlen : (crowdedWorkspace 24).items.length = 24 := by simp [crowdedWorkspace]
  have hmax : (crowdedWorkspace 24).items.length ≤ MAX_SNAPSHOT_ITEMS := by
    rw [hlen]
    decide
  have hplain := encodeSnapshot_dayOne hmax htimes
  have hsize := (length_asBytes_ofList _).trans size_crowdedWorkspace
  refine ⟨lawful_dayOneCrates, compact_dayOneCrates, hmax, fun item hitem => ?_,
    dayOneRecording.key.2, _, hplain, ?_, ?_⟩
  · rw [htimes item hitem]
    decide
  · rw [hsize]
    decide
  · refine encryptSnapshotWithNonce_tooLarge lawful_dayOneCrates compact_dayOneCrates
      dayOneRecording.key.2 hplain ?_ ?_
    · rw [hsize]
      decide
    · rw [hsize]
      decide

end FtnlDesktop
