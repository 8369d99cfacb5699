import FtnlDesktop.Core.Base64
import FtnlDesktop.Core.Recorded
import FtnlDesktop.Snapshot.Model

/-!
# What the codec assumes of its crates

`Crates.Lawful` is the documented behaviour of `serde_json`, `base64`, `uuid`, `time` and
`chacha20poly1305` that the round trips rest on: what is printed parses back, what is sealed opens
again, and which instants are dates.  Nothing is assumed about texts and bytes that these crates did
not write themselves, so the laws say nothing about how a foreign document is spelled.

A `Recording` holds what the crates answered while one snapshot was sealed or opened.
**`Recording.lawful_crates`** completes every consistent recording to lawful crates, so the laws are
satisfiable together with what was observed, and theorems that assume them can be applied there.
-/

namespace FtnlDesktop

open Function

/-- The integers of the document are in the range of their Rust types. -/
structure SnapshotWire.Fits (wire : SnapshotWire) : Prop where
  schemaVersion : wire.schemaVersion < 2 ^ 8
  revision : wire.revision < 2 ^ 64
  maxItems : wire.retention.maxItems < 2 ^ 64
  maxAgeDays : wire.retention.maxAgeDays < 2 ^ 16
  byteSize : ∀ item ∈ wire.items, item.byteSize < 2 ^ 64

/-- `-9999-01-01T00:00:00Z`, the first instant that `time` represents. -/
def MIN_DATE_TIME_NANOS : ℤ := -377705116800 * 1000000000

/-- `9999-12-31T23:59:59.999999999Z`, the last one. -/
def MAX_DATE_TIME_NANOS : ℤ := 253402300800 * 1000000000 - 1

/-- The instants that `time` represents. -/
def InDateTimeRange (timestamp : ℤ) : Prop :=
  MIN_DATE_TIME_NANOS ≤ timestamp ∧ timestamp ≤ MAX_DATE_TIME_NANOS

instance (timestamp : ℤ) : Decidable (InDateTimeRange timestamp) :=
  inferInstanceAs (Decidable (_ ∧ _))

/-- Printing and parsing are inverse, opening undoes sealing, and every instant between the years
-9999 and 9999 is a date and time. -/
structure Crates.Lawful (c : Crates) : Prop where
  envelope : ∀ envelope encoded, envelope.schemaVersion < 2 ^ 8 →
    c.envelopeToVec envelope = some encoded → c.envelopeFromSlice encoded = some envelope
  wire : ∀ wire, wire.Fits →
    ∃ encoded, c.wireToVec wire = some encoded ∧ c.wireFromSlice encoded = some wire
  base64 : ∀ bytes, c.base64Decode (asBytes (c.base64Encode bytes)) = some bytes
  uuid : ∀ uuid, c.uuidParseStr (c.uuidToString uuid) = some uuid
  timestamp : ∀ timestamp dateTime, c.fromUnixTimestampNanos timestamp = some dateTime ↔
    InDateTimeRange timestamp ∧ dateTime = ⟨timestamp⟩
  rfc3339 : ∀ dateTime : OffsetDateTime, 0 ≤ dateTime.unixTimestampNanos →
    dateTime.unixTimestampNanos ≤ MAX_DATE_TIME_NANOS →
    ∃ text, c.formatRfc3339 dateTime = some text ∧ c.parseRfc3339 text = some dateTime
  cipher : ∀ key nonce msg aad ciphertext, c.encrypt key nonce msg aad = some ciphertext →
    c.decrypt key nonce ciphertext aad = some msg ∧
      ciphertext.length = msg.length + POLY1305_TAG_BYTES

/-! ## Recorded exchanges -/

instance countable_char : Countable Char :=
  (show Injective Char.val from fun _ _ h => Char.ext h).countable

instance countable_string : Countable String :=
  (show Injective String.toList from fun _ _ h => String.toList_inj.mp h).countable

deriving instance Countable for Envelope
deriving instance Countable for OffsetDateTime
deriving instance Countable for RetentionWire
deriving instance Countable for ItemWire
deriving instance Countable for SnapshotWire

/-- What the crates answered about one snapshot with one item. -/
structure Recording where
  sha256 : Bytes → Digest
  wire : SnapshotWire
  wireJson : String
  key : SnapshotKey
  nonce : SnapshotNonce
  ciphertext : Bytes
  itemId : Uuid
  itemIdText : String
  capturedAt : OffsetDateTime
  capturedAtText : String
  /-- A text that `time` parses and does not print, and the instant it parses to. -/
  foreignText : String
  foreignInstant : OffsetDateTime

namespace Recording

/-- The mark of a text that was not recorded. -/
def MARK : Char := '·'

variable (r : Recording)

/-- The text of some bytes in URL-safe Base64. -/
def base64Text (bytes : Bytes) : String := String.ofList (Base64.encode bytes)

def envelope : Envelope :=
  { documentType := "encrypted_workspace_snapshot"
    schemaVersion := SNAPSHOT_SCHEMA_VERSION
    algorithm := SNAPSHOT_ALGORITHM
    associatedData := SNAPSHOT_ASSOCIATED_DATA
    nonce := base64Text r.nonce.toList
    ciphertext := base64Text r.ciphertext }

/-- What `serde_json` writes before the nonce. -/
def envelopeHead : String :=
  "\x7b\"document_type\":\"encrypted_workspace_snapshot\",\"schema_version\":1,"
    ++ "\"algorithm\":\"xchacha20-poly1305\","
    ++ "\"associated_data\":\"file-tunnel.desktop-workspace.v1\",\"nonce\":\""

/-- The JSON text of the envelope. -/
def envelopeJson : String :=
  envelopeHead ++ base64Text r.nonce.toList ++ "\",\"ciphertext\":\"" ++ base64Text r.ciphertext
    ++ "\"\x7d"

def envelopeTable : List (Envelope × List UInt8) := [(r.envelope, asBytes r.envelopeJson)]
def wireTable : List (SnapshotWire × List UInt8) := [(r.wire, asBytes r.wireJson)]
def uuidTable : List (Uuid × List Char) := [(r.itemId, r.itemIdText.toList)]
def timeTable : List (OffsetDateTime × List Char) := [(r.capturedAt, r.capturedAtText.toList)]

/-- Nothing recorded contradicts the laws. -/
structure Consistent : Prop where
  uuid : MARK ∉ r.itemIdText.toList
  time : MARK ∉ r.capturedAtText.toList
  foreign : MARK ∉ r.foreignText.toList ∧ r.foreignText ≠ r.capturedAtText
  tag : r.ciphertext.length = r.wireJson.utf8ByteSize + POLY1305_TAG_BYTES

/-- The date and time of an instant in the range. -/
def dateTimeOf (timestamp : ℤ) : Option OffsetDateTime :=
  if InDateTimeRange timestamp then some ⟨timestamp⟩ else none

/-- Crates that answer as recorded. -/
noncomputable def crates : Crates where
  sha256 := r.sha256
  envelopeToVec envelope := some (Recorded.encode 255 r.envelopeTable envelope)
  envelopeFromSlice := Recorded.decode 255 r.envelopeTable
  wireToVec wire := some (Recorded.encode 255 r.wireTable wire)
  wireFromSlice := Recorded.decode 255 r.wireTable
  base64Encode := base64Text
  base64Decode := partialInv (asBytes ∘ base64Text)
  uuidToString uuid := String.ofList (Recorded.encode MARK r.uuidTable uuid)
  uuidParseStr text := Recorded.decode MARK r.uuidTable text.toList
  fromUnixTimestampNanos := dateTimeOf
  formatRfc3339 dateTime := some (String.ofList (Recorded.encode MARK r.timeTable dateTime))
  parseRfc3339 text :=
    if text = r.foreignText then some r.foreignInstant
    else Recorded.decode MARK r.timeTable text.toList
  encrypt key nonce msg aad :=
    if key = r.key ∧ nonce = r.nonce ∧ msg = asBytes r.wireJson
        ∧ aad = asBytes SNAPSHOT_ASSOCIATED_DATA then
      some r.ciphertext
    else
      none
  decrypt key nonce msg aad :=
    if key = r.key ∧ nonce = r.nonce ∧ msg = r.ciphertext
        ∧ aad = asBytes SNAPSHOT_ASSOCIATED_DATA then
      some (asBytes r.wireJson)
    else
      none

variable {r}

lemma sound_singleton {α μ : Type} {mark : μ} {a : α} {b : List μ} (h : mark ∉ b) :
    Recorded.Sound mark [(a, b)] :=
  ⟨List.nodup_singleton b, by simpa using h⟩

lemma dateTimeOf_eq_some_iff (timestamp : ℤ) (dateTime : OffsetDateTime) :
    dateTimeOf timestamp = some dateTime ↔ InDateTimeRange timestamp ∧ dateTime = ⟨timestamp⟩ := by
  rw [dateTimeOf, Option.ite_none_right_eq_some, eq_comm]
  exact and_congr_right fun _ => Option.some_inj

lemma base64Text_injective : Injective base64Text := by
  intro l m h
  exact Base64.encode_injective (String.ofList_inj.mp h)

/-- A foreign spelling is printed for no instant. -/
lemma format_ne_foreign (h : r.Consistent) (dateTime : OffsetDateTime) :
    String.ofList (Recorded.encode MARK r.timeTable dateTime) ≠ r.foreignText := by
  intro heq
  have hlist := congrArg String.toList heq
  rw [String.toList_ofList] at hlist
  refine Recorded.encode_ne h.foreign.1 ?_ dateTime hlist
  rw [timeTable, List.map_singleton, List.mem_singleton]
  exact fun hsame => h.foreign.2 (String.toList_inj.mp hsame)

/-- **Consistency of the assumptions.**  Crates that answer as recorded obey the laws. -/
theorem lawful_crates (h : r.Consistent) : r.crates.Lawful where
  envelope envelope encoded _ hencoded := by
    obtain rfl := Option.some.inj hencoded
    exact Recorded.decode_encode (sound_singleton (not_mem_asBytes _)) envelope
  wire wire _ :=
    ⟨_, rfl, Recorded.decode_encode (sound_singleton (not_mem_asBytes _)) wire⟩
  base64 bytes := partialInv_left (asBytes_injective.comp base64Text_injective) bytes
  uuid uuid := by
    show Recorded.decode MARK r.uuidTable (String.ofList _).toList = some uuid
    rw [String.toList_ofList]
    exact Recorded.decode_encode (sound_singleton h.uuid) uuid
  timestamp := dateTimeOf_eq_some_iff
  rfc3339 dateTime _ _ := by
    refine ⟨_, rfl, ?_⟩
    show (if _ then _ else _) = _
    rw [if_neg (format_ne_foreign h dateTime), String.toList_ofList]
    exact Recorded.decode_encode (sound_singleton h.time) dateTime
  cipher key nonce msg aad ciphertext hseal := by
    change (if key = r.key ∧ nonce = r.nonce ∧ msg = asBytes r.wireJson
      ∧ aad = asBytes SNAPSHOT_ASSOCIATED_DATA then some r.ciphertext else none) = _ at hseal
    split_ifs at hseal with hrecorded
    obtain ⟨rfl, rfl, rfl, rfl⟩ := hrecorded
    cases hseal
    refine ⟨if_pos ⟨rfl, rfl, rfl, rfl⟩, ?_⟩
    rw [length_asBytes]
    exact h.tag

/-! ### What was recorded is answered -/

lemma envelopeToVec_recorded :
    r.crates.envelopeToVec r.envelope = some (asBytes r.envelopeJson) :=
  congrArg some (Recorded.encode_recorded r.envelope (asBytes r.envelopeJson))

lemma wireToVec_recorded : r.crates.wireToVec r.wire = some (asBytes r.wireJson) :=
  congrArg some (Recorded.encode_recorded r.wire (asBytes r.wireJson))

lemma envelopeFromSlice_recorded (h : r.Consistent) :
    r.crates.envelopeFromSlice (asBytes r.envelopeJson) = some r.envelope :=
  (lawful_crates h).envelope _ _ (show SNAPSHOT_SCHEMA_VERSION < 2 ^ 8 by decide)
    envelopeToVec_recorded

lemma wireFromSlice_recorded :
    r.crates.wireFromSlice (asBytes r.wireJson) = some r.wire := by
  have hdecode : Recorded.decode 255 r.wireTable (Recorded.encode 255 r.wireTable r.wire)
      = some r.wire := Recorded.decode_encode (sound_singleton (not_mem_asBytes _)) r.wire
  rwa [wireTable, Recorded.encode_recorded] at hdecode

lemma uuidToString_recorded : r.crates.uuidToString r.itemId = r.itemIdText := by
  show String.ofList (Recorded.encode MARK r.uuidTable r.itemId) = _
  rw [uuidTable, Recorded.encode_recorded, String.ofList_toList]

lemma formatRfc3339_recorded : r.crates.formatRfc3339 r.capturedAt = some r.capturedAtText := by
  show some (String.ofList (Recorded.encode MARK r.timeTable r.capturedAt)) = _
  rw [timeTable, Recorded.encode_recorded, String.ofList_toList]

lemma parseRfc3339_foreign : r.crates.parseRfc3339 r.foreignText = some r.foreignInstant :=
  if_pos rfl

/-- The envelope is not much longer than what it carries. -/
lemma utf8ByteSize_envelopeJson_le :
    r.envelopeJson.utf8ByteSize ≤ 500 + 6 * r.ciphertext.length := by
  have htext : ∀ bytes : Bytes,
      (base64Text bytes).utf8ByteSize ≤ 4 * ((4 * bytes.length + 2) / 3) :=
    fun bytes => (utf8ByteSize_ofList_le _).trans_eq (by rw [Base64.length_encode])
  have hnonce := htext r.nonce.toList
  have hciphertext := htext r.ciphertext
  have hhead : envelopeHead.utf8ByteSize = 162 := by decide +kernel
  have hmiddle : "\",\"ciphertext\":\"".utf8ByteSize = 16 := by decide +kernel
  have htail : "\"\x7d".utf8ByteSize = 2 := by decide +kernel
  have hlen : r.nonce.toList.length = 24 := r.nonce.2
  rw [envelopeJson, String.utf8ByteSize_append, String.utf8ByteSize_append,
    String.utf8ByteSize_append, String.utf8ByteSize_append, hhead, hmiddle, htail]
  rw [hlen] at hnonce
  omega

end Recording

end FtnlDesktop
