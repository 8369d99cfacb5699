import FtnlDesktop.Workspace.Model

/-!
# Encrypted workspace snapshots

The codec of `src/workspace_snapshot.rs`: a workspace is written as a JSON document, sealed with
XChaCha20-Poly1305, and wrapped in a JSON envelope; reading undoes the three layers and rebuilds
the workspace through `from_snapshot_parts`.

JSON, Base64, UUID texts, dates and the cipher belong to third-party crates.  They are the
fields of `Crates`, one function for each entry point the codec calls, and come without laws here;
what the proofs assume of them is collected in `Snapshot.Assumptions`.

`SystemTime` is counted in nanoseconds, as on Unix, where its seconds are an `i64`.
-/

namespace FtnlDesktop

open Method

def SNAPSHOT_ASSOCIATED_DATA : String := "file-tunnel.desktop-workspace.v1"
def SNAPSHOT_ALGORITHM : String := "xchacha20-poly1305"
def SNAPSHOT_MAX_ENVELOPE_BYTES : ℕ := 8 * 1024 * 1024
def SNAPSHOT_MAX_PLAINTEXT_BYTES : ℕ := 6 * 1024 * 1024
def SNAPSHOT_SCHEMA_VERSION : ℕ := 1
def XCHACHA20_KEY_BYTES : ℕ := 32
def XCHACHA20_NONCE_BYTES : ℕ := 24
def POLY1305_TAG_BYTES : ℕ := 16

inductive SnapshotError where
  | InvalidKey
  | InvalidEnvelope
  | TooLarge
  | InvalidEncoding
  | AuthenticationFailed
  | InvalidWorkspace
deriving DecidableEq, Repr

/-! ## The wire types -/

structure Envelope where
  documentType : String
  schemaVersion : ℕ
  algorithm : String
  associatedData : String
  nonce : String
  ciphertext : String
deriving DecidableEq

structure RetentionWire where
  maxItems : ℕ
  maxAgeDays : ℕ
  deduplicate : Bool
deriving DecidableEq

structure ItemWire where
  itemId : String
  contentKind : String
  text : String
  contentSha256 : String
  byteSize : ℕ
  capturedAt : String
  isPinned : Bool
  sourceFingerprint : Option String
deriving DecidableEq

structure SnapshotWire where
  documentType : String
  schemaVersion : ℕ
  revision : ℕ
  captureState : String
  retention : RetentionWire
  searchQuery : String
  excludedSourceFingerprints : List String
  items : List ItemWire
deriving DecidableEq

/-! ## Third-party crates -/

/-- A `time::OffsetDateTime`, by the instant it denotes. -/
structure OffsetDateTime where
  unixTimestampNanos : ℤ
deriving DecidableEq

/-- A `chacha20poly1305::Key` and an `XNonce`. -/
abbrev SnapshotKey := List.Vector UInt8 XCHACHA20_KEY_BYTES
abbrev SnapshotNonce := List.Vector UInt8 XCHACHA20_NONCE_BYTES

/-- What the codec calls outside the repository. -/
structure Crates where
  sha256 : Bytes → Digest
  envelopeToVec : Envelope → Option Bytes
  envelopeFromSlice : Bytes → Option Envelope
  wireToVec : SnapshotWire → Option Bytes
  wireFromSlice : Bytes → Option SnapshotWire
  base64Encode : Bytes → String
  base64Decode : Bytes → Option Bytes
  uuidToString : Uuid → String
  uuidParseStr : String → Option Uuid
  fromUnixTimestampNanos : ℤ → Option OffsetDateTime
  formatRfc3339 : OffsetDateTime → Option String
  parseRfc3339 : String → Option OffsetDateTime
  encrypt : SnapshotKey → SnapshotNonce → (msg : Bytes) → (aad : Bytes) → Option Bytes
  decrypt : SnapshotKey → SnapshotNonce → (msg : Bytes) → (aad : Bytes) → Option Bytes

/-! ## Timestamps -/

def UNIX_EPOCH : SystemTime := 0

/-- `Duration::as_secs` and `Duration::subsec_nanos`. -/
def asSecs (duration : Duration) : ℕ := duration / NANOS_PER_SEC
def subsecNanos (duration : Duration) : ℕ := duration % NANOS_PER_SEC

/-- `u64::try_from` and `u32::try_from` on an `i128`. -/
def tryFromInt (bits : ℕ) (value : ℤ) : Option ℕ :=
  if 0 ≤ value ∧ value < 2 ^ bits then some value.toNat else none

/-- `SystemTime::checked_add`: the seconds of the sum must fit an `i64`. -/
def checkedAddTime (time : SystemTime) (duration : Duration) : Option SystemTime :=
  if (time + duration) / 1000000000 < 2 ^ 63 then some (time + duration) else none

section

variable (c : Crates)

def formatTimestamp (value : SystemTime) : Except SnapshotError String := do
  let duration ← okOr (durationSince value UNIX_EPOCH) SnapshotError.InvalidWorkspace
  let nanos : ℤ := asSecs duration * 1000000000 + subsecNanos duration
  let dateTime ← okOr (c.fromUnixTimestampNanos nanos) SnapshotError.InvalidWorkspace
  okOr (c.formatRfc3339 dateTime) SnapshotError.InvalidWorkspace

def parseTimestamp (value : String) : Except SnapshotError SystemTime := do
  let dateTime ← okOr (c.parseRfc3339 value) SnapshotError.InvalidWorkspace
  let timestamp := dateTime.unixTimestampNanos
  rejectIf (timestamp < 0) SnapshotError.InvalidWorkspace
  let seconds ← okOr (tryFromInt 64 (timestamp.tdiv 1000000000)) SnapshotError.InvalidWorkspace
  let nanos ← okOr (tryFromInt 32 (timestamp.tmod 1000000000)) SnapshotError.InvalidWorkspace
  okOr (checkedAddTime UNIX_EPOCH (seconds * NANOS_PER_SEC + nanos)) SnapshotError.InvalidWorkspace

/-! ## The plaintext document -/

/-- The closure that `encode_snapshot` maps over the items. -/
def encodeItem (item : ClipboardItem) : Except SnapshotError ItemWire := do
  let capturedAt ← formatTimestamp c item.capturedAt
  return {
    itemId := c.uuidToString item.itemId
    contentKind := "text"
    text := item.text
    contentSha256 := item.contentSha256
    byteSize := item.byteSize
    capturedAt
    isPinned := item.isPinned
    sourceFingerprint := item.sourceFingerprint }

def encodeCaptureState : CaptureState → String
  | .Active => "active"
  | .Paused => "paused"

def encodeSnapshot (workspace : ClipboardWorkspace) : Except SnapshotError Bytes := do
  rejectIf (workspace.items.length > MAX_SNAPSHOT_ITEMS) SnapshotError.InvalidWorkspace
  let items ← workspace.items.mapM (encodeItem c)
  let wire : SnapshotWire :=
    { documentType := "workspace_snapshot"
      schemaVersion := SNAPSHOT_SCHEMA_VERSION
      revision := workspace.revision
      captureState := encodeCaptureState workspace.captureState
      retention :=
        { maxItems := workspace.retention.maxItems
          maxAgeDays := workspace.retention.maxAgeDays
          deduplicate := workspace.retention.deduplicate }
      searchQuery := workspace.searchQuery
      excludedSourceFingerprints := workspace.excludedSourceFingerprints.elems
      items }
  okOr (c.wireToVec wire) SnapshotError.InvalidEncoding

/-- The closure that `decode_snapshot` maps over the items. -/
def decodeItem (item : ItemWire) : Except SnapshotError ClipboardItem := do
  rejectIf (item.contentKind ≠ "text") SnapshotError.InvalidWorkspace
  let itemId ← okOr (c.uuidParseStr item.itemId) SnapshotError.InvalidWorkspace
  rejectIf (c.uuidToString itemId ≠ item.itemId) SnapshotError.InvalidWorkspace
  let capturedAt ← parseTimestamp c item.capturedAt
  return {
    itemId
    text := item.text
    contentSha256 := item.contentSha256
    byteSize := item.byteSize
    capturedAt
    isPinned := item.isPinned
    sourceFingerprint := item.sourceFingerprint }

def decodeCaptureState (captureState : String) : Option CaptureState :=
  if captureState = "active" then some .Active
  else if captureState = "paused" then some .Paused
  else none

def decodeSnapshot (encoded : Bytes) (now : SystemTime) :
    Except SnapshotError ClipboardWorkspace := do
  let wire ← okOr (c.wireFromSlice encoded) SnapshotError.InvalidEnvelope
  rejectIf (wire.documentType ≠ "workspace_snapshot"
    ∨ wire.schemaVersion ≠ SNAPSHOT_SCHEMA_VERSION) SnapshotError.InvalidEnvelope
  let captureState ← okOr (decodeCaptureState wire.captureState) SnapshotError.InvalidWorkspace
  let exclusions := SortedSet.ofList wire.excludedSourceFingerprints
  rejectIf (exclusions.size ≠ wire.excludedSourceFingerprints.length)
    SnapshotError.InvalidWorkspace
  let items ← wire.items.mapM (decodeItem c)
  let retention : RetentionPolicy :=
    { maxItems := wire.retention.maxItems
      maxAgeDays := wire.retention.maxAgeDays
      deduplicate := wire.retention.deduplicate }
  (fromSnapshotParts c.sha256 wire.revision captureState retention wire.searchQuery exclusions
    items now).mapError fun _ => SnapshotError.InvalidWorkspace

/-! ## The envelope -/

def cipherForKey (key : Bytes) : Except SnapshotError SnapshotKey :=
  if h : key.length = XCHACHA20_KEY_BYTES then
    .ok ⟨key, h⟩
  else
    .error SnapshotError.InvalidKey

/-- `decode_exact::<24>`. -/
def decodeExact (value : String) : Except SnapshotError SnapshotNonce := do
  let bytes ← okOr (c.base64Decode (asBytes value)) SnapshotError.InvalidEncoding
  if h : bytes.length = XCHACHA20_NONCE_BYTES then
    .ok ⟨bytes, h⟩
  else
    .error SnapshotError.InvalidEnvelope

def encryptSnapshotWithNonce (workspace : ClipboardWorkspace) (key : Bytes)
    (nonce : SnapshotNonce) : Except SnapshotError Bytes := do
  let plaintext ← encodeSnapshot c workspace
  rejectIf (plaintext.length > SNAPSHOT_MAX_PLAINTEXT_BYTES) SnapshotError.TooLarge
  let cipher ← cipherForKey key
  let ciphertext ← okOr (c.encrypt cipher nonce plaintext (asBytes SNAPSHOT_ASSOCIATED_DATA))
    SnapshotError.AuthenticationFailed
  let envelope : Envelope :=
    { documentType := "encrypted_workspace_snapshot"
      schemaVersion := SNAPSHOT_SCHEMA_VERSION
      algorithm := SNAPSHOT_ALGORITHM
      associatedData := SNAPSHOT_ASSOCIATED_DATA
      nonce := c.base64Encode nonce.toList
      ciphertext := c.base64Encode ciphertext }
  let encoded ← okOr (c.envelopeToVec envelope) SnapshotError.InvalidEncoding
  rejectIf (encoded.length > SNAPSHOT_MAX_ENVELOPE_BYTES) SnapshotError.TooLarge
  return encoded

def decryptSnapshot (encoded : Bytes) (key : Bytes) (now : SystemTime) :
    Except SnapshotError ClipboardWorkspace := do
  rejectIf (encoded.length > SNAPSHOT_MAX_ENVELOPE_BYTES) SnapshotError.TooLarge
  let envelope ← okOr (c.envelopeFromSlice encoded) SnapshotError.InvalidEnvelope
  rejectIf (envelope.documentType ≠ "encrypted_workspace_snapshot"
    ∨ envelope.schemaVersion ≠ SNAPSHOT_SCHEMA_VERSION
    ∨ envelope.algorithm ≠ SNAPSHOT_ALGORITHM
    ∨ envelope.associatedData ≠ SNAPSHOT_ASSOCIATED_DATA) SnapshotError.InvalidEnvelope
  let nonce ← decodeExact c envelope.nonce
  let ciphertext ← okOr (c.base64Decode (asBytes envelope.ciphertext))
    SnapshotError.InvalidEncoding
  rejectIf (ciphertext.length < POLY1305_TAG_BYTES
    ∨ ciphertext.length > SNAPSHOT_MAX_PLAINTEXT_BYTES + POLY1305_TAG_BYTES)
    SnapshotError.TooLarge
  let cipher ← cipherForKey key
  let plaintext ← okOr (c.decrypt cipher nonce ciphertext (asBytes SNAPSHOT_ASSOCIATED_DATA))
    SnapshotError.AuthenticationFailed
  rejectIf (plaintext.length > SNAPSHOT_MAX_PLAINTEXT_BYTES) SnapshotError.TooLarge
  decodeSnapshot c plaintext now

end

end FtnlDesktop
