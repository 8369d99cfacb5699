import FtnlDesktop.Snapshot.RoundTrip

/-!
# Saving what was restored

The reader accepts more documents than the writer produces: any RFC 3339 spelling, any UTC offset.
What it restores is well formed and survives another clean-up unchanged, so only one thing can
keep the writer from saving it again: a capture time that `parse_timestamp` accepts and
`format_timestamp` does not.  The first checks that the instant is not before 1970 and leaves the
other end open; the second also needs a UTC year of at most 9999.  With a negative offset, a local
time in the last hours of the year 9999 lies beyond that.

* **`resaves_iff`** — a restored workspace can be saved and read again exactly when no item of the
  document that survives the load-time clean-up lies beyond the year 9999 in UTC.
* **`restored_not_resaved`** — a document that restores and cannot be saved.

The clean-up of `survivors` is stated on the document, with the general eviction of `Eviction`.
-/

namespace FtnlDesktop

open Eviction Method

variable {c : Crates} {w : ClipboardWorkspace} {now : SystemTime}

/-! ## The document in a snapshot -/

/-- The document that a sealed snapshot holds. -/
def Document (c : Crates) (encoded key : Bytes) (wire : SnapshotWire) : Prop :=
  ∃ plaintext, OpensTo c encoded key plaintext ∧ c.wireFromSlice plaintext = some wire

/-- The item is pinned, or its instant is not older than the maximal age. -/
def wireFresh (c : Crates) (maxAge : Duration) (now : SystemTime) (item : ItemWire) : Bool :=
  item.isPinned || (c.parseRfc3339 item.capturedAt).all fun dateTime =>
    (durationSince now dateTime.unixTimestampNanos).all fun age => age ≤ maxAge

/-- The items of a document that a clean-up at load time keeps: the pinned ones, and the first
`max_items` unpinned ones within their age. -/
def survivors (c : Crates) (now : SystemTime) (wire : SnapshotWire) : List ItemWire :=
  keepFirst (fun item => !item.isPinned) wire.retention.maxItems
    (wire.items.filter (wireFresh c wire.retention.policy.maxAge now))

/-- The capture time, in UTC, is not beyond the year 9999. -/
def InUtcRange (c : Crates) (item : ItemWire) : Prop :=
  ∀ dateTime ∈ c.parseRfc3339 item.capturedAt, dateTime.unixTimestampNanos ≤ MAX_DATE_TIME_NANOS

lemma Decodes.parseRfc3339 {wire : ItemWire} {item : ClipboardItem} (h : Decodes c wire item) :
    c.parseRfc3339 wire.capturedAt = some ⟨item.capturedAt⟩ :=
  (parseTimestamp_eq_ok_iff.mp h.capturedAt).1

lemma Decodes.wireFresh_eq {wire : ItemWire} {item : ClipboardItem} (h : Decodes c wire item)
    (maxAge : Duration) : wireFresh c maxAge now wire = isFresh maxAge now item := by
  rw [wireFresh, isFresh, h.parseRfc3339, h.isPinned]
  rfl

lemma Decodes.inUtcRange_iff {wire : ItemWire} {item : ClipboardItem} (h : Decodes c wire item) :
    InUtcRange c wire ↔ Writable item.capturedAt := by
  have hpos := (parseTimestamp_eq_ok_iff.mp h.capturedAt).2.1
  simp only [InUtcRange, h.parseRfc3339, Option.mem_def, Option.some.injEq, forall_eq', Writable,
    hpos, true_and]

/-- The clean-up of the restored items is the clean-up of the document. -/
lemma forall₂_survivors {wire : SnapshotWire} {items : List ClipboardItem}
    (h : List.Forall₂ (Decodes c) wire.items items) :
    List.Forall₂ (Decodes c) (survivors c now wire)
      (retained wire.retention.policy now items) := by
  refine forall₂_keepFirst ?_ (List.rel_filter ?_ h) _
  · intro a b hab
    rw [isUnpinned, hab.isPinned]
  · intro a b hab
    show wireFresh c wire.retention.policy.maxAge now a = true ↔ _
    rw [hab.wireFresh_eq]

/-- The survivors are in range exactly when the restored items are writable. -/
lemma inUtcRange_iff_writable {wires : List ItemWire} {items : List ClipboardItem}
    (h : List.Forall₂ (Decodes c) wires items) :
    (∀ wire ∈ wires, InUtcRange c wire) ↔ ∀ item ∈ items, Writable item.capturedAt := by
  induction h with
  | nil => simp
  | cons hhead _ ih => rw [List.forall_mem_cons, List.forall_mem_cons, hhead.inUtcRange_iff, ih]

/-! ## Writing a restored workspace -/

/-- A well-formed workspace of at most 500 items is written exactly when its times are writable. -/
lemma exists_encodeSnapshot_iff (hc : c.Lawful) (hw : WellFormed c.sha256 w)
    (hlength : w.items.length ≤ MAX_SNAPSHOT_ITEMS) :
    (∃ encoded, encodeSnapshot c w = .ok encoded) ↔
      ∀ item ∈ w.items, Writable item.capturedAt := by
  have hitems : (∃ items, w.items.mapM (encodeItem c) = .ok items) ↔
      ∀ item ∈ w.items, Writable item.capturedAt := by
    rw [exists_mapM_iff]
    refine forall₂_congr fun item _ => ?_
    simp only [encodeItem_eq_ok_iff, ← exists_formatTimestamp_iff hc]
    constructor
    · rintro ⟨wire, capturedAt, htime, -⟩
      exact ⟨capturedAt, htime⟩
    · rintro ⟨capturedAt, htime⟩
      exact ⟨_, capturedAt, htime, rfl⟩
  rw [← hitems]
  simp only [encodeSnapshot_eq_ok_iff, hlength, true_and]
  constructor
  · rintro ⟨encoded, items, hmap, -⟩
    exact ⟨items, hmap⟩
  · rintro ⟨items, hmap⟩
    obtain ⟨encoded, hencoded, -⟩ := hc.wire _ (fits_snapshotWire hw hmap)
    exact ⟨encoded, items, hmap, hencoded⟩

/-- **Saving what was restored.**  A workspace that a sealed snapshot restores to can be written,
and the result reads back as the same workspace, exactly when every item of the document that
survives the load-time clean-up was captured no later than the end of the year 9999 in UTC. -/
theorem resaves_iff (c : Crates) (hc : c.Lawful) (encoded key : Bytes) (now : SystemTime)
    (w : ClipboardWorkspace) (h : decryptSnapshot c encoded key now = .ok w) :
    ∃ wire, Document c encoded key wire ∧
      ((∃ p, encodeSnapshot c w = .ok p ∧ decodeSnapshot c p now = .ok w) ↔
        ∀ item ∈ survivors c now wire, InUtcRange c item) := by
  obtain ⟨plaintext, hopens, hdecode⟩ := decryptSnapshot_eq_ok_iff.mp h
  obtain ⟨wire, captureState, items, hwire, hreadable, hparts⟩ :=
    decodeSnapshot_eq_ok_iff.mp hdecode
  have hw : WellFormed c.sha256 w := wellFormed_of_fromSnapshotParts hparts
  obtain ⟨hload, hclean⟩ := fromSnapshotParts_eq_ok_iff.mp hparts
  rw [enforceRetention_eq] at hclean
  have hwitems : w.items = retained wire.retention.policy now items := by
    rw [hclean]
  have hids : w.itemIds.Nodup := by
    rw [ClipboardWorkspace.itemIds, hwitems]
    exact nodup_itemIds_retained hload.ids
  have hlength : w.items.length ≤ MAX_SNAPSHOT_ITEMS :=
    hwitems ▸ retained_sublist.length_le.trans hload.length_le
  have hstable : restored now w = w := by
    rw [restored, enforceRetention_eq, hclean]
    simp only [retained_retained]
  refine ⟨wire, ⟨plaintext, hopens, hwire⟩, ?_⟩
  have hrange : (∀ item ∈ survivors c now wire, InUtcRange c item) ↔
      ∀ item ∈ w.items, Writable item.capturedAt := by
    rw [hwitems]
    exact inUtcRange_iff_writable (forall₂_survivors hreadable.items)
  rw [hrange, ← exists_encodeSnapshot_iff hc hw hlength]
  refine exists_congr fun p => and_iff_left_of_imp fun hp => ?_
  rw [decodeSnapshot_encodeSnapshot hc hw hids hp now, hstable]

/-- The recorded snapshot of `dayOneRun`, restored on the same day. -/
theorem resaves_iff_dayOne :
    ∃ wire, Document dayOneRecording.crates (asBytes dayOneRecording.envelopeJson)
        dayOneRecording.key.toList wire ∧
      ((∃ p, encodeSnapshot dayOneRecording.crates (restored dayOne dayOneWorkspace) = .ok p ∧
          decodeSnapshot dayOneRecording.crates p dayOne = .ok (restored dayOne dayOneWorkspace)) ↔
        ∀ item ∈ survivors dayOneRecording.crates dayOne wire,
          InUtcRange dayOneRecording.crates item) := by
  have hc := Recording.lawful_crates consistent_dayOneRecording
  have hw : WellFormed exampleSha256 dayOneWorkspace :=
    exec_dayOneRun ▸ wellFormed_default.exec dayOneRun
  have hids : dayOneWorkspace.itemIds.Nodup := List.nodup_singleton _
  exact resaves_iff dayOneRecording.crates hc _ _ dayOne _
    (decryptSnapshot_encryptSnapshot hc hw hids encrypt_dayOneRecording dayOne)

/-! ## A local year in range, a UTC year beyond it -/

/-- `9999-12-31T23:59:59-23:59`, which is almost a day after the last writable second. -/
def farFuture : SystemTime := 253402387139 * 1000000000

/-- A document whose item was captured at `farFuture`. -/
@[irreducible] def farFutureJson : String :=
  "\x7b\"document_type\":\"workspace_snapshot\",\"schema_version\":1,"
    ++ "\"revision\":2,\"capture_state\":\"active\",\"retention\":\x7b\"max_items\":250,"
    ++ "\"max_age_days\":30,\"deduplicate\":true\x7d,\"search_query\":\"\","
    ++ "\"excluded_source_fingerprints\":[],\"items\":[\x7b\"item_id\":\"00000000-0000-4000-80"
    ++ "00-000000000001\",\"content_kind\":\"text\",\"text\":\"a\","
    ++ "\"content_sha256\":\"ca978112ca1bbdcafac231b39a23dc4da786eff8147c4e72b9807785afee48bb"
    ++ "\",\"byte_size\":1,\"captured_at\":\"9999-12-31T23:59:59-23:59\","
    ++ "\"is_pinned\":false\x7d]\x7d"

/-- The document sealed under the key and nonce of `farFutureRecording`. -/
@[irreducible] def farFutureCiphertext : Bytes :=
  [0xf8, 0x45, 0x83, 0x63, 0x3f, 0xcc, 0x89, 0xf1, 0x8b, 0x39, 0x4b, 0xbf, 0xc4, 0x09, 0xc4,
   0xc0, 0x08, 0xb5, 0xb4, 0xbb, 0x67, 0xf5, 0x89, 0x94, 0x01, 0x28, 0x13, 0xb8, 0x02, 0x8e,
   0x38, 0x55, 0x2d, 0xbf, 0xd9, 0x37, 0xa7, 0xd3, 0xf8, 0x31, 0x84, 0x17, 0x06, 0x47, 0x36,
   0x6b, 0x55, 0x4d, 0x00, 0xcb, 0x41, 0x43, 0x04, 0x85, 0xbc, 0x39, 0x13, 0x36, 0xae, 0x9e,
   0xb1, 0x88, 0x4f, 0xa3, 0xa0, 0xfa, 0x2b, 0xce, 0xcd, 0x41, 0xb7, 0x39, 0x3b, 0xaf, 0xf1,
   0x87, 0x52, 0x21, 0xb3, 0x24, 0x3d, 0x3c, 0xcf, 0x1b, 0xbe, 0x69, 0xc4, 0x9d, 0x78, 0xa1,
   0xe0, 0x38, 0xcc, 0x09, 0x3f, 0x5d, 0xe7, 0x9a, 0xc8, 0x86, 0xb7, 0xdc, 0x5f, 0x42, 0xf8,
   0xe7, 0xb4, 0xc8, 0xcc, 0xd2, 0x7e, 0x70, 0x49, 0x13, 0xc6, 0x5b, 0x1f, 0x6a, 0xd5, 0xda,
   0x06, 0x3b, 0x1a, 0xc4, 0xf2, 0x15, 0x19, 0x0b, 0x47, 0xe8, 0x78, 0xf0, 0xaf, 0x88, 0xca,
   0x56, 0x50, 0x48, 0x2a, 0xb1, 0xd9, 0xaf, 0x96, 0x74, 0x07, 0x59, 0xd9, 0x49, 0xc1, 0xf6,
   0xc1, 0x01, 0xcf, 0x1b, 0x10, 0x75, 0x4c, 0x09, 0xfc, 0x1f, 0x98, 0xb0, 0x9c, 0x56, 0xd6,
   0x28, 0xae, 0x2f, 0x11, 0xf4, 0x3e, 0xb6, 0x87, 0xef, 0x44, 0xcb, 0x34, 0xef, 0x6f, 0xee,
   0x57, 0x11, 0x76, 0x3f, 0x68, 0x2b, 0xa3, 0x7e, 0x81, 0x2a, 0xd0, 0xc5, 0xa3, 0xd5, 0x97,
   0x4a, 0x2f, 0x49, 0xb8, 0x32, 0x0b, 0x9c, 0xd0, 0x2a, 0x1a, 0x5a, 0xdb, 0xaa, 0x61, 0xf6,
   0xe0, 0xcb, 0x20, 0x83, 0xd9, 0x03, 0xad, 0x2f, 0x0a, 0xa8, 0x2d, 0x89, 0x26, 0x79, 0x4a,
   0xf4, 0x15, 0x08, 0x67, 0xf2, 0x42, 0x57, 0x37, 0xe2, 0x44, 0x81, 0x9f, 0x03, 0x03, 0x84,
   0xe1, 0xde, 0x64, 0x2b, 0x44, 0xf0, 0xa2, 0x7e, 0xa3, 0x69, 0xe3, 0xf5, 0x07, 0x96, 0x3e,
   0x31, 0xe7, 0x40, 0xa4, 0x48, 0x22, 0x65, 0xda, 0x1d, 0xee, 0x4f, 0x99, 0x5e, 0x6e, 0x9c,
   0xe5, 0xba, 0x75, 0x4b, 0x69, 0x50, 0x63, 0xa4, 0xbd, 0xb2, 0x67, 0xe0, 0x45, 0x99, 0x80,
   0x08, 0xe7, 0xea, 0x54, 0xf1, 0x20, 0x94, 0x20, 0x29, 0xcf, 0xc7, 0xdf, 0x04, 0xf2, 0x6e,
   0x73, 0xf4, 0x77, 0xd7, 0x84, 0x84, 0x31, 0xed, 0xfd, 0xb6, 0xd4, 0x71, 0x42, 0x06, 0x2d,
   0x6e, 0xa9, 0x70, 0xb7, 0x8b, 0x36, 0x3e, 0xca, 0x36, 0x35, 0x22, 0x29, 0xde, 0x12, 0x4b,
   0x1a, 0xd1, 0xa6, 0x39, 0x17, 0xbd, 0xcc, 0xa5, 0x27, 0xb1, 0x35, 0x25, 0x48, 0x92, 0xd7,
   0xa2, 0x9e, 0xc8, 0x04, 0xb0, 0x57, 0xf8, 0x4a, 0x90, 0x34, 0xd6, 0x1f, 0x63, 0xb2, 0x67,
   0xd6, 0x46, 0xb5, 0xeb, 0x16, 0xca, 0xfe, 0xeb, 0xa5, 0x7e, 0xe7, 0x11, 0x53, 0x2c, 0x19,
   0xf6, 0xbb, 0xe0, 0x02, 0x7d, 0x21, 0x1e, 0x38, 0xbb, 0xb5, 0xf0, 0x15, 0x86, 0x10, 0x85,
   0x2c, 0x7b, 0x2e, 0x22, 0x9b, 0xb3, 0x0b, 0x1f, 0xf5, 0x2d, 0x59, 0x07, 0x69, 0xb1, 0xa6,
   0x1a, 0x5e, 0x41, 0x97, 0xec, 0x09, 0xf7, 0xe9, 0xcc, 0x7b, 0x47, 0xb4, 0xe4, 0xf6, 0x93,
   0x80, 0x2a, 0x56, 0x88, 0x1b, 0xfe, 0x65, 0xd5, 0xd8, 0x77, 0x1c, 0x0c, 0x92, 0x02, 0xac,
   0x8a, 0x95, 0xd3, 0xde, 0x3d, 0xd0, 0x69, 0xb7, 0x35, 0xf6, 0xaf, 0x29, 0x83, 0x8d, 0x01,
   0x51, 0x59, 0x92, 0x31, 0xa9, 0x80, 0x63, 0x1d, 0x7e, 0xc6, 0x1e, 0xdf, 0x4c, 0x8d, 0xb1,
   0x12, 0xec, 0x1a, 0x44, 0xa7, 0x2c, 0x55, 0x4f, 0xd1, 0xaf, 0xe7, 0xcb, 0x31, 0x8b, 0x30,
   0x79, 0x58]

def farFutureItem : ClipboardItem :=
  exampleItem 0x00000000000040008000000000000001 "a" farFuture

def farFutureWorkspace : ClipboardWorkspace :=
  { ClipboardWorkspace.default with
    revision := 2
    captureState := .Active
    items := [farFutureItem] }

def farFutureItemWire : ItemWire :=
  { itemId := "00000000-0000-4000-8000-000000000001"
    contentKind := "text"
    text := "a"
    contentSha256 := "ca978112ca1bbdcafac231b39a23dc4da786eff8147c4e72b9807785afee48bb"
    byteSize := 1
    capturedAt := "9999-12-31T23:59:59-23:59"
    isPinned := false
    sourceFingerprint := none }

def farFutureRecording : Recording where
  sha256 := exampleSha256
  wire := snapshotWire farFutureWorkspace [farFutureItemWire]
  wireJson := farFutureJson
  key := List.Vector.replicate 32 0x11
  nonce := List.Vector.replicate 24 0x22
  ciphertext := farFutureCiphertext
  itemId := 0x00000000000040008000000000000001
  itemIdText := "00000000-0000-4000-8000-000000000001"
  capturedAt := ⟨UNIX_EPOCH⟩
  capturedAtText := "1970-01-01T00:00:00Z"
  foreignText := "9999-12-31T23:59:59-23:59"
  foreignInstant := ⟨farFuture⟩

lemma utf8ByteSize_farFutureJson : farFutureJson.utf8ByteSize = 466 := by
  rw [farFutureJson]
  simp only [String.utf8ByteSize_append]
  decide

lemma length_farFutureCiphertext : farFutureCiphertext.length = 482 := by
  decide +kernel

lemma consistent_farFutureRecording : farFutureRecording.Consistent where
  uuid := by decide
  time := by decide
  foreign := by decide
  tag := by
    show farFutureCiphertext.length = farFutureJson.utf8ByteSize + POLY1305_TAG_BYTES
    rw [utf8ByteSize_farFutureJson, length_farFutureCiphertext]
    rfl

lemma decodes_farFutureItemWire :
    Decodes farFutureRecording.crates farFutureItemWire farFutureItem := by
  have hid : farFutureRecording.crates.uuidToString farFutureItem.itemId
      = farFutureItemWire.itemId := Recording.uuidToString_recorded (r := farFutureRecording)
  have htime : farFutureRecording.crates.parseRfc3339 farFutureItemWire.capturedAt
      = some ⟨farFuture⟩ := Recording.parseRfc3339_foreign (r := farFutureRecording)
  have hdigest : farFutureItem.contentSha256 = farFutureItemWire.contentSha256 := by decide
  have hparse := (Recording.lawful_crates consistent_farFutureRecording).uuid farFutureItem.itemId
  rw [hid] at hparse
  exact
    { contentKind := rfl
      parse := hparse
      canonical := hid
      capturedAt := parseTimestamp_eq_ok_iff.mpr ⟨htime, by decide, by decide⟩
      text := rfl
      contentSha256 := hdigest
      byteSize := by decide
      isPinned := rfl
      sourceFingerprint := rfl }

/-- **Restored, not saved again.**  With crates that obey every law, a sealed document that spells
its capture time `9999-12-31T23:59:59-23:59` restores, and what it restores to cannot be written. -/
theorem restored_not_resaved :
    farFutureRecording.crates.Lawful ∧
    decryptSnapshot farFutureRecording.crates (asBytes farFutureRecording.envelopeJson)
      farFutureRecording.key.toList dayOne = .ok farFutureWorkspace ∧
    encodeSnapshot farFutureRecording.crates farFutureWorkspace
      = .error SnapshotError.InvalidWorkspace := by
  have hsize : farFutureRecording.wireJson.utf8ByteSize ≤ 1024 := by
    show farFutureJson.utf8ByteSize ≤ 1024
    rw [utf8ByteSize_farFutureJson]
    decide
  have hopens := Recording.opensTo consistent_farFutureRecording hsize
  have hwire := Recording.wireFromSlice_recorded (r := farFutureRecording)
  have hreadable : Readable farFutureRecording.crates farFutureRecording.wire .Active
      [farFutureItem] :=
    { documentType := rfl
      schemaVersion := rfl
      captureState := by decide
      exclusions := List.nodup_nil
      items := List.Forall₂.cons decodes_farFutureItemWire List.Forall₂.nil }
  have hdecode : decodeSnapshot farFutureRecording.crates (asBytes farFutureRecording.wireJson)
      dayOne = .ok farFutureWorkspace := by
    refine decodeSnapshot_eq_ok_iff.mpr ⟨_, _, _, hwire, hreadable, ?_⟩
    show fromSnapshotParts exampleSha256 2 .Active RetentionPolicy.default "" (SortedSet.ofList [])
      [farFutureItem] dayOne = .ok farFutureWorkspace
    decide +kernel
  exact ⟨Recording.lawful_crates consistent_farFutureRecording,
    decryptSnapshot_eq_ok_iff.mpr ⟨_, hopens, hdecode⟩, rfl⟩

end FtnlDesktop
