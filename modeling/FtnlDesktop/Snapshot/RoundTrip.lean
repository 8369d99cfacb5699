import FtnlDesktop.Snapshot.Assumptions
import FtnlDesktop.Workspace.Identity

/-!
# The snapshot round trip

Reading undoes writing, one layer at a time: timestamps, items, the plaintext document, the sealed
envelope.  The reader checks far more than the writer — the writer bounds the number of items, the
plaintext and the envelope, the reader bounds everything — so what the writer leaves unchecked has
to come from the workspace: its representation invariant, and distinct item ids.
-/

namespace FtnlDesktop

open Machine Method

variable {c : Crates} {w : ClipboardWorkspace} {now : SystemTime}

/-! ## Timestamps -/

/-- A time the codec can write. -/
def Writable (time : SystemTime) : Prop := 0 ≤ time ∧ time ≤ MAX_DATE_TIME_NANOS

instance (time : SystemTime) : Decidable (Writable time) := inferInstanceAs (Decidable (_ ∧ _))

lemma asSecs_add_subsecNanos (duration : Duration) :
    (asSecs duration * 1000000000 + subsecNanos duration : ℤ) = duration := by
  have h := Nat.div_add_mod duration NANOS_PER_SEC
  rw [asSecs, subsecNanos]
  rw [NANOS_PER_SEC] at h ⊢
  omega

lemma formatTimestamp_eq_ok_iff (hc : c.Lawful) {time : SystemTime} {text : String} :
    formatTimestamp c time = .ok text ↔ Writable time ∧ c.formatRfc3339 ⟨time⟩ = some text := by
  simp only [formatTimestamp, bind_eq_ok, okOr_eq_ok, durationSince, hc.timestamp, UNIX_EPOCH,
    sub_zero, asSecs_add_subsecNanos]
  constructor
  · rintro ⟨duration, hduration, dateTime, ⟨hrange, rfl⟩, htext⟩
    split_ifs at hduration with hpos
    cases hduration
    rw [Int.toNat_of_nonneg hpos] at hrange htext
    exact ⟨⟨hpos, hrange.2⟩, htext⟩
  · rintro ⟨⟨hpos, hmax⟩, htext⟩
    have hmin : MIN_DATE_TIME_NANOS ≤ time := le_trans (by decide) hpos
    refine ⟨time.toNat, if_pos hpos, ⟨time⟩, ?_, htext⟩
    rw [Int.toNat_of_nonneg hpos]
    exact ⟨⟨hmin, hmax⟩, rfl⟩

/-- The seconds and nanoseconds of a non-negative instant, put together again. -/
lemma secs_mul_add_nanos {timestamp : ℤ} (h : 0 ≤ timestamp) :
    (((timestamp / 1000000000).toNat * NANOS_PER_SEC + (timestamp % 1000000000).toNat : ℕ) : ℤ)
      = timestamp := by
  have hsplit := Int.mul_ediv_add_emod timestamp 1000000000
  rw [NANOS_PER_SEC]
  push_cast
  omega

lemma parseTimestamp_eq_ok_iff {text : String} {time : SystemTime} :
    parseTimestamp c text = .ok time ↔
      c.parseRfc3339 text = some ⟨time⟩ ∧ 0 ≤ time ∧ time / 1000000000 < 2 ^ 63 := by
  simp only [parseTimestamp, bind_eq_ok, okOr_eq_ok, rejectIf_eq_ok, exists_const, not_lt]
  constructor
  · rintro ⟨⟨timestamp⟩, hparse, hpos, seconds, hseconds, nanos, hnanos, hadd⟩
    dsimp only at hpos hseconds hnanos
    rw [Int.tdiv_eq_ediv_of_nonneg hpos, tryFromInt] at hseconds
    rw [Int.tmod_eq_emod_of_nonneg hpos, tryFromInt] at hnanos
    split_ifs at hseconds hnanos
    cases hseconds
    cases hnanos
    rw [checkedAddTime, secs_mul_add_nanos hpos, UNIX_EPOCH, zero_add] at hadd
    split_ifs at hadd with hrange
    cases hadd
    exact ⟨hparse, hpos, hrange⟩
  · rintro ⟨hparse, hpos, hrange⟩
    have hmod := Int.emod_lt_of_pos time (show (0 : ℤ) < 1000000000 by decide)
    have hmod' := Int.emod_nonneg time (show (1000000000 : ℤ) ≠ 0 by decide)
    have hdiv : 0 ≤ time / 1000000000 := Int.ediv_nonneg hpos (by decide)
    refine ⟨⟨time⟩, hparse, hpos, (time / 1000000000).toNat, ?_, (time % 1000000000).toNat, ?_, ?_⟩
    · rw [Int.tdiv_eq_ediv_of_nonneg hpos, tryFromInt]
      exact if_pos ⟨hdiv, lt_trans hrange (by decide)⟩
    · rw [Int.tmod_eq_emod_of_nonneg hpos, tryFromInt, if_pos ⟨hmod', by omega⟩]
    · rw [checkedAddTime, secs_mul_add_nanos hpos, UNIX_EPOCH, zero_add, if_pos hrange]

/-- Formatting then parsing gives the instant back, to the nanosecond. -/
lemma parseTimestamp_formatTimestamp (hc : c.Lawful) {time : SystemTime} {text : String}
    (h : formatTimestamp c time = .ok text) : parseTimestamp c text = .ok time := by
  obtain ⟨⟨hpos, hmax⟩, htext⟩ := (formatTimestamp_eq_ok_iff hc).mp h
  obtain ⟨text', htext', hparse⟩ := hc.rfc3339 ⟨time⟩ hpos hmax
  obtain rfl : text' = text := Option.some.inj (htext'.symm.trans htext)
  refine parseTimestamp_eq_ok_iff.mpr ⟨hparse, hpos, ?_⟩
  have hbound : MAX_DATE_TIME_NANOS / 1000000000 < 2 ^ 63 := by decide
  exact lt_of_le_of_lt (Int.ediv_le_ediv (by decide) hmax) hbound

/-- A time is writable exactly when the writer writes it. -/
lemma exists_formatTimestamp_iff (hc : c.Lawful) {time : SystemTime} :
    (∃ text, formatTimestamp c time = .ok text) ↔ Writable time := by
  constructor
  · rintro ⟨text, h⟩
    exact ((formatTimestamp_eq_ok_iff hc).mp h).1
  · intro h
    obtain ⟨text, htext, -⟩ := hc.rfc3339 ⟨time⟩ h.1 h.2
    exact ⟨text, (formatTimestamp_eq_ok_iff hc).mpr ⟨h, htext⟩⟩

/-! ## Items -/

/-- The document of an item whose capture time is written as `capturedAt`. -/
def itemWire (c : Crates) (item : ClipboardItem) (capturedAt : String) : ItemWire :=
  { itemId := c.uuidToString item.itemId
    contentKind := "text"
    text := item.text
    contentSha256 := item.contentSha256
    byteSize := item.byteSize
    capturedAt
    isPinned := item.isPinned
    sourceFingerprint := item.sourceFingerprint }

lemma encodeItem_eq_ok_iff {item : ClipboardItem} {wire : ItemWire} :
    encodeItem c item = .ok wire ↔
      ∃ capturedAt, formatTimestamp c item.capturedAt = .ok capturedAt ∧
        wire = itemWire c item capturedAt := by
  rw [encodeItem, bind_eq_ok]
  refine exists_congr fun capturedAt => and_congr_right fun _ => ?_
  rw [pure_eq_ok, itemWire]
  exact eq_comm

/-- What the reader makes of one item of a document. -/
structure Decodes (c : Crates) (wire : ItemWire) (item : ClipboardItem) : Prop where
  contentKind : wire.contentKind = "text"
  parse : c.uuidParseStr wire.itemId = some item.itemId
  canonical : c.uuidToString item.itemId = wire.itemId
  capturedAt : parseTimestamp c wire.capturedAt = .ok item.capturedAt
  text : item.text = wire.text
  contentSha256 : item.contentSha256 = wire.contentSha256
  byteSize : item.byteSize = wire.byteSize
  isPinned : item.isPinned = wire.isPinned
  sourceFingerprint : item.sourceFingerprint = wire.sourceFingerprint

lemma decodeItem_eq_ok_iff {wire : ItemWire} {item : ClipboardItem} :
    decodeItem c wire = .ok item ↔ Decodes c wire item := by
  simp only [decodeItem, bind_eq_ok, rejectIf_eq_ok, okOr_eq_ok, pure_eq_ok, exists_const, not_not]
  constructor
  · rintro ⟨hkind, itemId, hparse, hcanonical, time, htime, rfl⟩
    exact ⟨hkind, hparse, hcanonical, htime, rfl, rfl, rfl, rfl, rfl⟩
  · rintro ⟨hkind, hparse, hcanonical, htime, htext, hdigest, hsize, hpin, hsource⟩
    refine ⟨hkind, _, hparse, hcanonical, _, htime, ?_⟩
    rw [← htext, ← hdigest, ← hsize, ← hpin, ← hsource]

/-- Every field of an item survives, including its id and its capture time. -/
lemma decodeItem_encodeItem (hc : c.Lawful) {item : ClipboardItem} {wire : ItemWire}
    (h : encodeItem c item = .ok wire) : decodeItem c wire = .ok item := by
  obtain ⟨capturedAt, htime, rfl⟩ := encodeItem_eq_ok_iff.mp h
  exact decodeItem_eq_ok_iff.mpr
    { contentKind := rfl
      parse := hc.uuid item.itemId
      canonical := rfl
      capturedAt := parseTimestamp_formatTimestamp hc htime
      text := rfl
      contentSha256 := rfl
      byteSize := rfl
      isPinned := rfl
      sourceFingerprint := rfl }

lemma mapM_decodeItem_encodeItem (hc : c.Lawful) {items : List ClipboardItem}
    {wires : List ItemWire} (h : items.mapM (encodeItem c) = .ok wires) :
    wires.mapM (decodeItem c) = .ok items := by
  refine mapM_eq_ok_iff.mpr (List.Forall₂.flip ?_)
  exact (mapM_eq_ok_iff.mp h).imp fun _ _ hitem => decodeItem_encodeItem hc hitem

/-! ## The plaintext document -/

lemma decodeCaptureState_encodeCaptureState (captureState : CaptureState) :
    decodeCaptureState (encodeCaptureState captureState) = some captureState := by
  cases captureState with
  | Active => rfl
  | Paused => rfl

/-- The document of a workspace whose items are written as `items`. -/
def snapshotWire (w : ClipboardWorkspace) (items : List ItemWire) : SnapshotWire :=
  { documentType := "workspace_snapshot"
    schemaVersion := SNAPSHOT_SCHEMA_VERSION
    revision := w.revision
    captureState := encodeCaptureState w.captureState
    retention :=
      { maxItems := w.retention.maxItems
        maxAgeDays := w.retention.maxAgeDays
        deduplicate := w.retention.deduplicate }
    searchQuery := w.searchQuery
    excludedSourceFingerprints := w.excludedSourceFingerprints.elems
    items }

lemma encodeSnapshot_eq_ok_iff {encoded : Bytes} :
    encodeSnapshot c w = .ok encoded ↔
      w.items.length ≤ MAX_SNAPSHOT_ITEMS ∧
        ∃ items, w.items.mapM (encodeItem c) = .ok items ∧
          c.wireToVec (snapshotWire w items) = some encoded := by
  simp only [encodeSnapshot, bind_eq_ok, rejectIf_eq_ok, okOr_eq_ok, exists_const, not_lt,
    snapshotWire]

/-- The reader's checks of the document itself, before `from_snapshot_parts`. -/
structure Readable (c : Crates) (wire : SnapshotWire) (captureState : CaptureState)
    (items : List ClipboardItem) : Prop where
  documentType : wire.documentType = "workspace_snapshot"
  schemaVersion : wire.schemaVersion = SNAPSHOT_SCHEMA_VERSION
  captureState : decodeCaptureState wire.captureState = some captureState
  exclusions : wire.excludedSourceFingerprints.Nodup
  items : List.Forall₂ (Decodes c) wire.items items

/-- The policy a document carries. -/
def RetentionWire.policy (wire : RetentionWire) : RetentionPolicy :=
  { maxItems := wire.maxItems, maxAgeDays := wire.maxAgeDays, deduplicate := wire.deduplicate }

lemma decodeSnapshot_eq_ok_iff {encoded : Bytes} :
    decodeSnapshot c encoded now = .ok w ↔
      ∃ wire captureState items, c.wireFromSlice encoded = some wire ∧
        Readable c wire captureState items ∧
        fromSnapshotParts c.sha256 wire.revision captureState wire.retention.policy
          wire.searchQuery (SortedSet.ofList wire.excludedSourceFingerprints) items now
          = .ok w := by
  simp only [decodeSnapshot, bind_eq_ok, rejectIf_eq_ok, okOr_eq_ok, exists_const, not_or, not_not,
    SortedSet.size_ofList_eq_length_iff, mapM_eq_ok_iff, decodeItem_eq_ok_iff, mapError_eq_ok]
  constructor
  · rintro ⟨wire, hwire, ⟨htype, hschema⟩, captureState, hcapture, hnodup, items, hitems, h⟩
    exact ⟨wire, captureState, items, hwire, ⟨htype, hschema, hcapture, hnodup, hitems⟩, h⟩
  · rintro ⟨wire, captureState, items, hwire, ⟨htype, hschema, hcapture, hnodup, hitems⟩, h⟩
    exact ⟨wire, hwire, ⟨htype, hschema⟩, captureState, hcapture, hnodup, items, hitems, h⟩

/-- The workspace that a snapshot of `w` is restored to. -/
def restored (now : SystemTime) (w : ClipboardWorkspace) : ClipboardWorkspace :=
  { enforceRetention now w with processedCommands := [] }

/-- A well-formed workspace is within what its document can express. -/
lemma fits_snapshotWire (hw : WellFormed c.sha256 w) {items : List ItemWire}
    (hitems : w.items.mapM (encodeItem c) = .ok items) : (snapshotWire w items).Fits where
  schemaVersion := show SNAPSHOT_SCHEMA_VERSION < 2 ^ 8 by decide
  revision := lt_of_le_of_lt hw.revision (by decide)
  maxItems := lt_of_le_of_lt hw.retention.items_le (by decide)
  maxAgeDays := lt_of_le_of_lt hw.retention.days_le (by decide)
  byteSize := by
    intro wire hwire
    obtain ⟨item, hitem, hencode⟩ := exists_of_mem_mapM hitems hwire
    obtain ⟨capturedAt, -, rfl⟩ := encodeItem_eq_ok_iff.mp hencode
    have hfaithful := hw.items item hitem
    show item.byteSize < 2 ^ 64
    rw [hfaithful.byteSize_eq]
    exact lt_of_le_of_lt hfaithful.bytes (by decide)

/-- **The plaintext round trip.**  The reader restores every workspace the writer writes, provided
it is well formed and its ids are distinct. -/
theorem decodeSnapshot_encodeSnapshot (hc : c.Lawful) (hw : WellFormed c.sha256 w)
    (hids : w.itemIds.Nodup) {encoded : Bytes} (h : encodeSnapshot c w = .ok encoded)
    (now : SystemTime) : decodeSnapshot c encoded now = .ok (restored now w) := by
  obtain ⟨hlength, items, hitems, hencoded⟩ := encodeSnapshot_eq_ok_iff.mp h
  obtain ⟨encoded', hencoded', hwire⟩ := hc.wire _ (fits_snapshotWire hw hitems)
  obtain rfl : encoded' = encoded := Option.some.inj (hencoded'.symm.trans hencoded)
  refine decodeSnapshot_eq_ok_iff.mpr ⟨_, w.captureState, w.items, hwire, ?_, ?_⟩
  · exact
      { documentType := rfl
        schemaVersion := rfl
        captureState := decodeCaptureState_encodeCaptureState w.captureState
        exclusions := w.excludedSourceFingerprints.nodup_elems
        items := (mapM_eq_ok_iff.mp (mapM_decodeItem_encodeItem hc hitems)).imp
          fun _ _ => decodeItem_eq_ok_iff.mp }
  · refine fromSnapshotParts_eq_ok_iff.mpr ⟨?_, ?_⟩
    · exact
        { revision_le := hw.revision
          query_le := hw.query
          exclusions_le := by
            rw [snapshotWire, SortedSet.ofList_elems]
            exact hw.exclusions_size
          exclusions_wf := by
            rw [snapshotWire, SortedSet.ofList_elems]
            exact hw.exclusions
          length_le := hlength
          policy := hw.retention
          faithful := hw.items
          ids := hids }
    · simp only [snapshotWire, SortedSet.ofList_elems, restored, enforceRetention_eq]
      rfl

/-! ## The sealed envelope -/

lemma cipherForKey_eq_ok_iff {key : Bytes} {cipher : SnapshotKey} :
    cipherForKey key = .ok cipher ↔ cipher.toList = key := by
  rw [cipherForKey]
  split_ifs with hlen
  · constructor
    · intro h
      cases h
      rfl
    · rintro rfl
      rfl
  · simp only [false_iff]
    rintro rfl
    exact hlen cipher.2

lemma decodeExact_base64Encode (hc : c.Lawful) (nonce : SnapshotNonce) :
    decodeExact c (c.base64Encode nonce.toList) = .ok nonce := by
  rw [decodeExact, hc.base64]
  exact dif_pos nonce.2

/-- The envelope of a sealed document. -/
def sealedEnvelope (c : Crates) (nonce : SnapshotNonce) (ciphertext : Bytes) : Envelope :=
  { documentType := "encrypted_workspace_snapshot"
    schemaVersion := SNAPSHOT_SCHEMA_VERSION
    algorithm := SNAPSHOT_ALGORITHM
    associatedData := SNAPSHOT_ASSOCIATED_DATA
    nonce := c.base64Encode nonce.toList
    ciphertext := c.base64Encode ciphertext }

lemma encryptSnapshotWithNonce_eq_ok_iff {key encoded : Bytes} {nonce : SnapshotNonce} :
    encryptSnapshotWithNonce c w key nonce = .ok encoded ↔
      ∃ plaintext cipher ciphertext, encodeSnapshot c w = .ok plaintext ∧
        plaintext.length ≤ SNAPSHOT_MAX_PLAINTEXT_BYTES ∧ cipherForKey key = .ok cipher ∧
        c.encrypt cipher nonce plaintext (asBytes SNAPSHOT_ASSOCIATED_DATA) = some ciphertext ∧
        c.envelopeToVec (sealedEnvelope c nonce ciphertext) = some encoded ∧
        encoded.length ≤ SNAPSHOT_MAX_ENVELOPE_BYTES := by
  simp only [encryptSnapshotWithNonce, bind_eq_ok, rejectIf_eq_ok, okOr_eq_ok, pure_eq_ok,
    exists_const, not_lt, sealedEnvelope]
  constructor
  · rintro ⟨plaintext, hplain, hsize, cipher, hkey, ciphertext, hseal, encoded', hvec, hmax, rfl⟩
    exact ⟨plaintext, cipher, ciphertext, hplain, hsize, hkey, hseal, hvec, hmax⟩
  · rintro ⟨plaintext, cipher, ciphertext, hplain, hsize, hkey, hseal, hvec, hmax⟩
    exact ⟨plaintext, hplain, hsize, cipher, hkey, ciphertext, hseal, encoded, hvec, hmax, rfl⟩

/-- The plaintext that a sealed snapshot opens to under a key. -/
structure OpensTo (c : Crates) (encoded key plaintext : Bytes) : Prop where
  encoded_le : encoded.length ≤ SNAPSHOT_MAX_ENVELOPE_BYTES
  plaintext_le : plaintext.length ≤ SNAPSHOT_MAX_PLAINTEXT_BYTES
  opens : ∃ envelope nonce ciphertext cipher, c.envelopeFromSlice encoded = some envelope ∧
    (envelope.documentType = "encrypted_workspace_snapshot"
      ∧ envelope.schemaVersion = SNAPSHOT_SCHEMA_VERSION
      ∧ envelope.algorithm = SNAPSHOT_ALGORITHM
      ∧ envelope.associatedData = SNAPSHOT_ASSOCIATED_DATA) ∧
    decodeExact c envelope.nonce = .ok nonce ∧
    c.base64Decode (asBytes envelope.ciphertext) = some ciphertext ∧
    (POLY1305_TAG_BYTES ≤ ciphertext.length
      ∧ ciphertext.length ≤ SNAPSHOT_MAX_PLAINTEXT_BYTES + POLY1305_TAG_BYTES) ∧
    cipherForKey key = .ok cipher ∧
    c.decrypt cipher nonce ciphertext (asBytes SNAPSHOT_ASSOCIATED_DATA) = some plaintext

lemma decryptSnapshot_eq_ok_iff {encoded key : Bytes} :
    decryptSnapshot c encoded key now = .ok w ↔
      ∃ plaintext, OpensTo c encoded key plaintext ∧ decodeSnapshot c plaintext now = .ok w := by
  simp only [decryptSnapshot, bind_eq_ok, rejectIf_eq_ok, okOr_eq_ok, exists_const, not_or, not_not,
    not_lt]
  constructor
  · rintro ⟨hmax, envelope, henvelope, hheader, nonce, hnonce, ciphertext, hcipher, hlen, cipher,
      hkey, plaintext, hopen, hsize, h⟩
    exact ⟨plaintext, ⟨hmax, hsize, envelope, nonce, ciphertext, cipher, henvelope, hheader, hnonce,
      hcipher, hlen, hkey, hopen⟩, h⟩
  · rintro ⟨plaintext, ⟨hmax, hsize, envelope, nonce, ciphertext, cipher, henvelope, hheader,
      hnonce, hcipher, hlen, hkey, hopen⟩, h⟩
    exact ⟨hmax, envelope, henvelope, hheader, nonce, hnonce, ciphertext, hcipher, hlen, cipher,
      hkey, plaintext, hopen, hsize, h⟩

/-- A sealed snapshot opens to one plaintext. -/
lemma OpensTo.unique {encoded key plaintext plaintext' : Bytes}
    (h : OpensTo c encoded key plaintext) (h' : OpensTo c encoded key plaintext') :
    plaintext = plaintext' := by
  obtain ⟨envelope, nonce, ciphertext, cipher, henvelope, -, hnonce, htext, -, hkey, hopen⟩ :=
    h.opens
  obtain ⟨envelope', nonce', ciphertext', cipher', henvelope', -, hnonce', htext', -, hkey',
    hopen'⟩ := h'.opens
  obtain rfl := Option.some.inj (henvelope.symm.trans henvelope')
  obtain rfl := Except.ok.inj (hnonce.symm.trans hnonce')
  obtain rfl := Option.some.inj (htext.symm.trans htext')
  obtain rfl := Except.ok.inj (hkey.symm.trans hkey')
  exact Option.some.inj (hopen.symm.trans hopen')

/-- What was sealed opens to what was written. -/
lemma opensTo_of_encryptSnapshot (hc : c.Lawful) {key encoded : Bytes} {nonce : SnapshotNonce}
    (h : encryptSnapshotWithNonce c w key nonce = .ok encoded) :
    ∃ plaintext, encodeSnapshot c w = .ok plaintext ∧ OpensTo c encoded key plaintext := by
  obtain ⟨plaintext, cipher, ciphertext, hplain, hsize, hkey, hseal, hvec, hmax⟩ :=
    encryptSnapshotWithNonce_eq_ok_iff.mp h
  obtain ⟨hopen, hlen⟩ := hc.cipher _ _ _ _ _ hseal
  refine ⟨plaintext, hplain, hmax, hsize, _, nonce, ciphertext, cipher, hc.envelope _ _ ?_ hvec,
    ⟨rfl, rfl, rfl, rfl⟩, decodeExact_base64Encode hc nonce, hc.base64 ciphertext, ⟨?_, ?_⟩, hkey,
    hopen⟩
  · show SNAPSHOT_SCHEMA_VERSION < 2 ^ 8
    decide
  · omega
  · omega

/-- **The sealed round trip.**  Under the same key, what was sealed restores to the workspace, with
retention enforced and the replay window emptied. -/
theorem decryptSnapshot_encryptSnapshot (hc : c.Lawful) (hw : WellFormed c.sha256 w)
    (hids : w.itemIds.Nodup) {key encoded : Bytes} {nonce : SnapshotNonce}
    (h : encryptSnapshotWithNonce c w key nonce = .ok encoded) (now : SystemTime) :
    decryptSnapshot c encoded key now = .ok (restored now w) := by
  obtain ⟨plaintext, hplain, hopens⟩ := opensTo_of_encryptSnapshot hc h
  exact decryptSnapshot_eq_ok_iff.mpr
    ⟨plaintext, hopens, decodeSnapshot_encodeSnapshot hc hw hids hplain now⟩

/-! ### Recorded snapshots -/

section Recorded

variable {r : Recording}

/-- A recorded snapshot opens to the document that was recorded. -/
lemma Recording.opensTo (h : r.Consistent) (hsize : r.wireJson.utf8ByteSize ≤ 1024) :
    OpensTo r.crates (asBytes r.envelopeJson) r.key.toList (asBytes r.wireJson) := by
  have hc := Recording.lawful_crates h
  have htag := h.tag
  have hjson : (asBytes r.wireJson).length = r.wireJson.utf8ByteSize := length_asBytes _
  have henvelope : (asBytes r.envelopeJson).length ≤ 500 + 6 * r.ciphertext.length :=
    (length_asBytes _).trans_le Recording.utf8ByteSize_envelopeJson_le
  rw [POLY1305_TAG_BYTES] at htag
  refine ⟨le_trans henvelope ?_, ?_, r.envelope, r.nonce, r.ciphertext, r.key,
    Recording.envelopeFromSlice_recorded h, ⟨rfl, rfl, rfl, rfl⟩,
    decodeExact_base64Encode hc r.nonce, hc.base64 r.ciphertext, ⟨?_, ?_⟩,
    cipherForKey_eq_ok_iff.mpr rfl, if_pos ⟨rfl, rfl, rfl, rfl⟩⟩
  · rw [SNAPSHOT_MAX_ENVELOPE_BYTES]
    omega
  · rw [SNAPSHOT_MAX_PLAINTEXT_BYTES]
    omega
  · rw [POLY1305_TAG_BYTES]
    omega
  · rw [SNAPSHOT_MAX_PLAINTEXT_BYTES, POLY1305_TAG_BYTES]
    omega

/-- A workspace whose document was recorded is sealed as recorded. -/
lemma Recording.encrypt_eq_ok (h : r.Consistent) (hsize : r.wireJson.utf8ByteSize ≤ 1024)
    (item : ClipboardItem) (hitems : w.items = [item]) (hid : item.itemId = r.itemId)
    (htime : r.capturedAt = ⟨item.capturedAt⟩) (hwritable : Writable item.capturedAt)
    (hwire : r.wire = snapshotWire w
      [{ itemWire r.crates item r.capturedAtText with itemId := r.itemIdText }]) :
    encryptSnapshotWithNonce r.crates w r.key.toList r.nonce = .ok (asBytes r.envelopeJson) := by
  have hopens := Recording.opensTo h hsize
  have hmap : w.items.mapM (encodeItem r.crates)
      = .ok [{ itemWire r.crates item r.capturedAtText with itemId := r.itemIdText }] := by
    rw [hitems]
    refine mapM_eq_ok_iff.mpr (List.Forall₂.cons ?_ List.Forall₂.nil)
    have htext : formatTimestamp r.crates item.capturedAt = .ok r.capturedAtText :=
      (formatTimestamp_eq_ok_iff (Recording.lawful_crates h)).mpr
        ⟨hwritable, htime ▸ Recording.formatRfc3339_recorded⟩
    refine encodeItem_eq_ok_iff.mpr ⟨r.capturedAtText, htext, ?_⟩
    rw [itemWire, hid, Recording.uuidToString_recorded]
  have hplain : encodeSnapshot r.crates w = .ok (asBytes r.wireJson) := by
    refine encodeSnapshot_eq_ok_iff.mpr ⟨?_, _, hmap, hwire ▸ Recording.wireToVec_recorded⟩
    rw [hitems]
    show 1 ≤ MAX_SNAPSHOT_ITEMS
    decide
  refine encryptSnapshotWithNonce_eq_ok_iff.mpr ⟨_, r.key, r.ciphertext, hplain,
    hopens.plaintext_le, cipherForKey_eq_ok_iff.mpr rfl, if_pos ⟨rfl, rfl, rfl, rfl⟩,
    Recording.envelopeToVec_recorded, hopens.encoded_le⟩

end Recorded

/-! ## Every run -/

/-- **Snapshot round trip.**  Take any run from the empty workspace in which every ingest brings an
id that is not stored yet.  If its workspace can be sealed, the sealed snapshot restores at any time
to the same revision, capture state, policy, query and exclusions, to the same items after the
retention clean-up of that time, and to an empty replay window. -/
theorem snapshot_round_trip (c : Crates) (hc : c.Lawful) (rs : List Request)
    (hfresh : Along (serve c.sha256) UsesFreshId .default rs) (key : Bytes) (nonce : SnapshotNonce)
    (now : SystemTime) (encoded : Bytes)
    (h : encryptSnapshotWithNonce c (exec (serve c.sha256) .default rs) key nonce = .ok encoded) :
    ∃ w', decryptSnapshot c encoded key now = .ok w' ∧
      w'.revision = (exec (serve c.sha256) .default rs).revision ∧
      w'.captureState = (exec (serve c.sha256) .default rs).captureState ∧
      w'.retention = (exec (serve c.sha256) .default rs).retention ∧
      w'.searchQuery = (exec (serve c.sha256) .default rs).searchQuery ∧
      w'.excludedSourceFingerprints
        = (exec (serve c.sha256) .default rs).excludedSourceFingerprints ∧
      w'.items = (enforceRetention now (exec (serve c.sha256) .default rs)).items ∧
      w'.processedCommands = [] := by
  have hw : WellFormed c.sha256 (exec (serve c.sha256) .default rs) := wellFormed_default.exec rs
  have hids : (exec (serve c.sha256) .default rs).itemIds.Nodup :=
    exec_invariant_along (P := fun w => w.itemIds.Nodup)
      (fun _ _ hnodup hr => nodup_itemIds_serve hnodup (not_reusesId_of_usesFreshId hr))
      List.nodup_nil hfresh
  refine ⟨_, decryptSnapshot_encryptSnapshot hc hw hids h now, ?_⟩
  rw [restored, enforceRetention_eq]
  exact ⟨rfl, rfl, rfl, rfl, rfl, rfl, rfl⟩

/-! ### A recorded run -/

def dayOne : SystemTime := fromSecs (24 * 60 * 60)

def dayOneRun : List Request :=
  [⟨1, 0, .ResumeCapture, dayOne⟩,
   ⟨2, 1, exampleIngest 0x00000000000040008000000000000001 "a" dayOne, dayOne⟩]

def dayOneItem : ClipboardItem :=
  exampleItem 0x00000000000040008000000000000001 "a" dayOne

def dayOneWorkspace : ClipboardWorkspace :=
  { ClipboardWorkspace.default with
    revision := 2
    captureState := .Active
    items := [dayOneItem]
    processedCommands := [1, 2] }

lemma exec_dayOneRun : exec (serve exampleSha256) .default dayOneRun = dayOneWorkspace := by
  decide +kernel

/-- The document of `dayOneWorkspace`, as `serde_json` writes it. -/
@[irreducible] def dayOneJson : String :=
  "\x7b\"document_type\":\"workspace_snapshot\",\"schema_version\":1,"
    ++ "\"revision\":2,\"capture_state\":\"active\",\"retention\":\x7b\"max_items\":250,"
    ++ "\"max_age_days\":30,\"deduplicate\":true\x7d,\"search_query\":\"\","
    ++ "\"excluded_source_fingerprints\":[],\"items\":[\x7b\"item_id\":\"00000000-0000-4000-80"
    ++ "00-000000000001\",\"content_kind\":\"text\",\"text\":\"a\","
    ++ "\"content_sha256\":\"ca978112ca1bbdcafac231b39a23dc4da786eff8147c4e72b9807785afee48bb"
    ++ "\",\"byte_size\":1,\"captured_at\":\"1970-01-02T00:00:00Z\","
    ++ "\"is_pinned\":false\x7d]\x7d"

/-- The document sealed under the key and nonce of `dayOneRecording`. -/
@[irreducible] def dayOneCiphertext : Bytes :=
  [0xf8, 0x45, 0x83, 0x63, 0x3f, 0xcc, 0x89, 0xf1, 0x8b, 0x39, 0x4b, 0xbf, 0xc4, 0x09, 0xc4,
   0xc0, 0x08, 0xb5, 0xb4, 0xbb, 0x67, 0xf5, 0x89, 0x94, 0x01, 0x28, 0x13, 0xb8, 0x02, 0x8e,
   0x38, 0x55, 0x2d, 0xbf, 0xd9, 0x37, 0xa7, 0xd3, 0xf8, 0x31, 0x84, 0x17, 0x06, 0x47, 0x36,
   0x6b, 0x55, 0x4d, 0x00, 0xcb, 0x41, 0x43, 0x04, 0x85, 0xbc, 0x39, 0x13, 0x36, 0xae, 0x9e,
   0xb1, 0x88, 0x4f, 0xa3, 0xa0, 0xfa, 0x2b, 0xce, 0xcd, 0x41, 0xb7, 0x39, 0x3b, 0xaf, 0xf1,
   0x87, 0x52, 0x21, 0xb3, 0x24, 0x3d, 0x3c, 0xcf, 0x1b, 0xbe, 0x69, 0xc4, 0x9d, 0x78, 0xa1,
   0xe0, 0x38, 0xcc, 0x09, 0x3f, 0x5d, 0xe7, 0x9a, 0xc8, 0x86, 0xb7, 0xdc, 0x5f, 0x42, 0xf8,
   0xe7, 0xb4, 0xc8, 0xcc, 0xd2, 0x7e, 0x70, 0x49, 0x13, 0xc6, 0x5b, 0x1f, 0x6a, 0xd5, 0xda,
   0x06, 0x3b, 0x1a, 0xc4, 0xf2, 0x15, 0x19, 0x0b, 0x47, 0xe8, 0x78, 0xf0, 0xaf, 0x88, 0xca,
   0x56, 0x50, 0x48, 0x2a, 0xb1, 0xd9, 0xaf, 0x96, 0x74, 0x07, 0x59, 0xd9, 0x49, 0xc1, 0xf6,
   0xc1, 0x01, 0xcf, 0x1b, 0x10, 0x75, 0x4c, 0x09, 0xfc, 0x1f, 0x98, 0xb0, 0x9c, 0x56, 0xd6,
   0x28, 0xae, 0x2f, 0x11, 0xf4, 0x3e, 0xb6, 0x87, 0xef, 0x44, 0xcb, 0x34, 0xef, 0x6f, 0xee,
   0x57, 0x11, 0x76, 0x3f, 0x68, 0x2b, 0xa3, 0x7e, 0x81, 0x2a, 0xd0, 0xc5, 0xa3, 0xd5, 0x97,
   0x4a, 0x2f, 0x49, 0xb8, 0x32, 0x0b, 0x9c, 0xd0, 0x2a, 0x1a, 0x5a, 0xdb, 0xaa, 0x61, 0xf6,
   0xe0, 0xcb, 0x20, 0x83, 0xd9, 0x03, 0xad, 0x2f, 0x0a, 0xa8, 0x2d, 0x89, 0x26, 0x79, 0x4a,
   0xf4, 0x15, 0x08, 0x67, 0xf2, 0x42, 0x57, 0x37, 0xe2, 0x44, 0x81, 0x9f, 0x03, 0x03, 0x84,
   0xe1, 0xde, 0x64, 0x2b, 0x44, 0xf0, 0xa2, 0x7e, 0xa3, 0x69, 0xe3, 0xf5, 0x07, 0x96, 0x3e,
   0x31, 0xe7, 0x40, 0xa4, 0x48, 0x22, 0x65, 0xda, 0x1d, 0xee, 0x4f, 0x99, 0x5e, 0x6e, 0x9c,
   0xe5, 0xba, 0x75, 0x4b, 0x69, 0x50, 0x63, 0xa4, 0xbd, 0xb2, 0x67, 0xe0, 0x45, 0x99, 0x80,
   0x08, 0xe7, 0xea, 0x54, 0xf1, 0x20, 0x94, 0x20, 0x29, 0xcf, 0xc7, 0xdf, 0x04, 0xf2, 0x6e,
   0x73, 0xf4, 0x77, 0xd7, 0x84, 0x84, 0x31, 0xed, 0xfd, 0xb6, 0xd4, 0x71, 0x42, 0x06, 0x2d,
   0x6e, 0xa9, 0x70, 0xb7, 0x8b, 0x36, 0x3e, 0xca, 0x36, 0x35, 0x22, 0x29, 0xde, 0x12, 0x4b,
   0x1a, 0xd1, 0xa6, 0x39, 0x17, 0xbd, 0xcc, 0xa5, 0x27, 0xb1, 0x35, 0x25, 0x48, 0x92, 0xd7,
   0xa2, 0x9e, 0xc8, 0x04, 0xb0, 0x57, 0xf8, 0x4a, 0x90, 0x34, 0xd6, 0x1f, 0x63, 0xb2, 0x67,
   0xd6, 0x46, 0xb5, 0xeb, 0x16, 0xca, 0xfe, 0xeb, 0xa5, 0x7e, 0xe7, 0x11, 0x53, 0x2c, 0x19,
   0xf6, 0xbb, 0xe0, 0x02, 0x7d, 0x21, 0x1e, 0x38, 0xbb, 0xb5, 0xf0, 0x15, 0x86, 0x10, 0x85,
   0x2c, 0x7b, 0x2e, 0x22, 0x9b, 0xb3, 0x0b, 0x1f, 0xf5, 0x2d, 0x59, 0x07, 0x69, 0xb1, 0xa6,
   0x1a, 0x5e, 0x41, 0x97, 0xec, 0x09, 0xf7, 0xe9, 0xcc, 0x7b, 0x47, 0xb4, 0xe4, 0xf6, 0x9b,
   0x80, 0x24, 0x5f, 0x88, 0x1a, 0xfd, 0x65, 0xd6, 0xdb, 0x77, 0x1e, 0x0f, 0x92, 0x07, 0xa5,
   0x8a, 0x90, 0xda, 0xa9, 0x2d, 0xcf, 0x71, 0xeb, 0x7f, 0x8b, 0xf3, 0x62, 0x84, 0x90, 0x3b,
   0x45, 0x12, 0xc6, 0x39, 0xad, 0x88, 0x32, 0x42, 0x65, 0xfa, 0x0f, 0x0b, 0x1e, 0x5d, 0x7b,
   0x23, 0x9e, 0x2f, 0x8d, 0x89, 0xf1, 0xfc, 0x8d, 0xda, 0x86, 0x83, 0xae]

def dayOneRecording : Recording where
  sha256 := exampleSha256
  wire := snapshotWire dayOneWorkspace
    [{ itemId := "00000000-0000-4000-8000-000000000001"
       contentKind := "text"
       text := "a"
       contentSha256 := "ca978112ca1bbdcafac231b39a23dc4da786eff8147c4e72b9807785afee48bb"
       byteSize := 1
       capturedAt := "1970-01-02T00:00:00Z"
       isPinned := false
       sourceFingerprint := none }]
  wireJson := dayOneJson
  key := List.Vector.replicate 32 0x11
  nonce := List.Vector.replicate 24 0x22
  ciphertext := dayOneCiphertext
  itemId := 0x00000000000040008000000000000001
  itemIdText := "00000000-0000-4000-8000-000000000001"
  capturedAt := ⟨dayOne⟩
  capturedAtText := "1970-01-02T00:00:00Z"
  foreignText := "1970-01-02T00:00:00+00:00"
  foreignInstant := ⟨dayOne⟩

lemma utf8ByteSize_dayOneJson : dayOneJson.utf8ByteSize = 461 := by
  rw [dayOneJson]
  simp only [String.utf8ByteSize_append]
  decide

lemma length_dayOneCiphertext : dayOneCiphertext.length = 477 := by
  decide +kernel

lemma consistent_dayOneRecording : dayOneRecording.Consistent where
  uuid := by decide
  time := by decide
  foreign := by decide
  tag := by
    show dayOneCiphertext.length = dayOneJson.utf8ByteSize + POLY1305_TAG_BYTES
    rw [utf8ByteSize_dayOneJson, length_dayOneCiphertext]
    rfl

lemma encrypt_dayOneRecording :
    encryptSnapshotWithNonce dayOneRecording.crates dayOneWorkspace dayOneRecording.key.toList
      dayOneRecording.nonce = .ok (asBytes dayOneRecording.envelopeJson) := by
  refine Recording.encrypt_eq_ok consistent_dayOneRecording ?_ dayOneItem rfl rfl rfl ?_ ?_
  · show dayOneJson.utf8ByteSize ≤ 1024
    rw [utf8ByteSize_dayOneJson]
    decide
  · decide
  · have hdigest : contentSha256Hex exampleSha256 "a"
        = "ca978112ca1bbdcafac231b39a23dc4da786eff8147c4e72b9807785afee48bb" := by decide +kernel
    show snapshotWire dayOneWorkspace _ = snapshotWire dayOneWorkspace _
    rw [← hdigest]
    rfl

/-- The recorded snapshot of a run restores to revision 2. -/
theorem snapshot_round_trip_dayOne :
    ∃ w', decryptSnapshot dayOneRecording.crates (asBytes dayOneRecording.envelopeJson)
        dayOneRecording.key.toList dayOne = .ok w' ∧ w'.revision = 2 ∧ w'.items = [dayOneItem] := by
  have hexec : exec (serve dayOneRecording.crates.sha256) .default dayOneRun = dayOneWorkspace :=
    exec_dayOneRun
  obtain ⟨w', hw', hrevision, -, -, -, -, hitems, -⟩ :=
    snapshot_round_trip dayOneRecording.crates (Recording.lawful_crates consistent_dayOneRecording)
      dayOneRun (show Along (serve exampleSha256) _ _ _ by decide +kernel)
      dayOneRecording.key.toList dayOneRecording.nonce dayOne
      (asBytes dayOneRecording.envelopeJson) (hexec ▸ encrypt_dayOneRecording)
  rw [hexec] at hrevision hitems
  refine ⟨w', hw', hrevision, hitems.trans ?_⟩
  decide +kernel

end FtnlDesktop
