import FtnlDesktop.Core.Json
import FtnlDesktop.Core.BigEndian
import FtnlDesktop.Snapshot.Assumptions

/-!
# The documents as `serde_json` writes them

`serde_json::to_vec` writes the fields of a struct in their order, without white space, and leaves
out a `skip_serializing_if` field that is `None`.  Each document is self-delimiting, because its
fields are, so a document is read back in one way only.

`serdeCrates` puts these writers together with Base64 and the hyphenated form of an identifier.
**`lawful_serdeCrates`** — they obey the laws of `Crates.Lawful`.
-/

namespace FtnlDesktop

open Function Json

/-! ## The documents -/

def writeEnvelope (envelope : Envelope) : List Char :=
  object
    [("document_type", string envelope.documentType),
     ("schema_version", number envelope.schemaVersion),
     ("algorithm", string envelope.algorithm),
     ("associated_data", string envelope.associatedData),
     ("nonce", string envelope.nonce),
     ("ciphertext", string envelope.ciphertext)]

def writeRetention (retention : RetentionWire) : List Char :=
  object
    [("max_items", number retention.maxItems),
     ("max_age_days", number retention.maxAgeDays),
     ("deduplicate", bool retention.deduplicate)]

/-- The member that `skip_serializing_if` may leave out. -/
def writeSource : Option String → List (String × List Char)
  | none => []
  | some value => [("source_fingerprint", string value)]

def writeItem (item : ItemWire) : List Char :=
  object
    (("item_id", string item.itemId) :: ("content_kind", string item.contentKind)
      :: ("text", string item.text) :: ("content_sha256", string item.contentSha256)
      :: ("byte_size", number item.byteSize) :: ("captured_at", string item.capturedAt)
      :: ("is_pinned", bool item.isPinned) :: writeSource item.sourceFingerprint)

def writeWire (wire : SnapshotWire) : List Char :=
  object
    [("document_type", string wire.documentType),
     ("schema_version", number wire.schemaVersion),
     ("revision", number wire.revision),
     ("capture_state", string wire.captureState),
     ("retention", writeRetention wire.retention),
     ("search_query", string wire.searchQuery),
     ("excluded_source_fingerprints", array string wire.excludedSourceFingerprints),
     ("items", array writeItem wire.items)]

/-! ## Each is read in one way -/

lemma string_delimited : Delimited IsStop string := string_selfDelimiting.delimited IsStop

lemma bool_delimited : Delimited IsStop bool := bool_selfDelimiting.delimited IsStop

theorem writeEnvelope_injective : Injective writeEnvelope := by
  intro a b h
  have hmembers := congrArg (· ++ []) (List.cons.inj h).2
  obtain ⟨hdocument, hmembers⟩ := members_cons string_delimited hmembers
  obtain ⟨hschema, hmembers⟩ := members_cons number_delimited hmembers
  obtain ⟨halgorithm, hmembers⟩ := members_cons string_delimited hmembers
  obtain ⟨hassociated, hmembers⟩ := members_cons string_delimited hmembers
  obtain ⟨hnonce, hmembers⟩ := members_cons string_delimited hmembers
  obtain ⟨hciphertext, -⟩ := members_single string_delimited hmembers
  cases a
  cases b
  simp only [Envelope.mk.injEq]
  exact ⟨hdocument, hschema, halgorithm, hassociated, hnonce, hciphertext⟩

theorem writeRetention_selfDelimiting : SelfDelimiting writeRetention := by
  intro a b x y h
  have hmembers := (List.cons.inj h).2
  obtain ⟨hitems, hmembers⟩ := members_cons number_delimited hmembers
  obtain ⟨hdays, hmembers⟩ := members_cons number_delimited hmembers
  obtain ⟨hdeduplicate, hrest⟩ := members_single bool_delimited hmembers
  cases a
  cases b
  simp only [RetentionWire.mk.injEq]
  exact ⟨⟨hitems, hdays, hdeduplicate⟩, hrest⟩

/-- The pin and what follows it: the source fingerprint or the end. -/
lemma members_isPinned {pinned pinned' : Bool} {source source' : Option String} {x y : List Char}
    (h : members (("is_pinned", bool pinned) :: writeSource source) ++ x
      = members (("is_pinned", bool pinned') :: writeSource source') ++ y) :
    pinned = pinned' ∧ source = source' ∧ x = y := by
  cases source with
  | none =>
      cases source' with
      | none =>
          obtain ⟨hpinned, hrest⟩ := members_single bool_delimited h
          exact ⟨hpinned, rfl, hrest⟩
      | some value' => exact absurd h (members_single_ne bool_delimited)
  | some value =>
      cases source' with
      | none => exact absurd h.symm (members_single_ne bool_delimited)
      | some value' =>
          obtain ⟨hpinned, h⟩ := members_cons bool_delimited h
          obtain ⟨hvalue, hrest⟩ := members_single string_delimited h
          exact ⟨hpinned, congrArg some hvalue, hrest⟩

theorem writeItem_selfDelimiting : SelfDelimiting writeItem := by
  intro a b x y h
  have hmembers := (List.cons.inj h).2
  obtain ⟨hid, hmembers⟩ := members_cons string_delimited hmembers
  obtain ⟨hkind, hmembers⟩ := members_cons string_delimited hmembers
  obtain ⟨htext, hmembers⟩ := members_cons string_delimited hmembers
  obtain ⟨hdigest, hmembers⟩ := members_cons string_delimited hmembers
  obtain ⟨hsize, hmembers⟩ := members_cons number_delimited hmembers
  obtain ⟨hcaptured, hmembers⟩ := members_cons string_delimited hmembers
  obtain ⟨hpinned, hsource, hrest⟩ := members_isPinned hmembers
  cases a
  cases b
  simp only [ItemWire.mk.injEq]
  exact ⟨⟨hid, hkind, htext, hdigest, hsize, hcaptured, hpinned, hsource⟩, hrest⟩

lemma strings_selfDelimiting : SelfDelimiting (array string) :=
  array_selfDelimiting string_selfDelimiting (fun _ => ⟨_, rfl⟩) (show '"' ≠ ']' by decide)

lemma items_selfDelimiting : SelfDelimiting (array writeItem) :=
  array_selfDelimiting writeItem_selfDelimiting (fun _ => ⟨_, rfl⟩) (show '\x7b' ≠ ']' by decide)

theorem writeWire_injective : Injective writeWire := by
  intro a b h
  have hmembers := congrArg (· ++ []) (List.cons.inj h).2
  obtain ⟨hdocument, hmembers⟩ := members_cons string_delimited hmembers
  obtain ⟨hschema, hmembers⟩ := members_cons number_delimited hmembers
  obtain ⟨hrevision, hmembers⟩ := members_cons number_delimited hmembers
  obtain ⟨hcapture, hmembers⟩ := members_cons string_delimited hmembers
  obtain ⟨hretention, hmembers⟩ :=
    members_cons (writeRetention_selfDelimiting.delimited IsStop) hmembers
  obtain ⟨hquery, hmembers⟩ := members_cons string_delimited hmembers
  obtain ⟨hexclusions, hmembers⟩ :=
    members_cons (strings_selfDelimiting.delimited IsStop) hmembers
  obtain ⟨hitems, -⟩ := members_single (items_selfDelimiting.delimited IsStop) hmembers
  cases a
  cases b
  simp only [SnapshotWire.mk.injEq]
  exact ⟨hdocument, hschema, hrevision, hcapture, hretention, hquery, hexclusions, hitems⟩

/-! ## Hexadecimal and Base64 texts -/

/-- No letter of a hexadecimal text needs an escape. -/
lemma isPlain_hexByte (byte : UInt8) : ∀ c ∈ hexByte byte, IsPlain c ∧ c ≠ '-' := by
  have hdigit : ∀ n < 16, IsPlain (hexDigit n) ∧ hexDigit n ≠ '-' := by decide
  have hlt := byte.toNat_lt
  intro c hc
  simp only [hexByte, List.mem_cons, List.not_mem_nil, or_false] at hc
  rcases hc with rfl | rfl
  · exact hdigit _ (by omega)
  · exact hdigit _ (by omega)

lemma isPlain_hex (bytes : List UInt8) : ∀ c ∈ bytes.flatMap hexByte, IsPlain c ∧ c ≠ '-' := by
  intro c hc
  obtain ⟨byte, -, hmem⟩ := List.mem_flatMap.mp hc
  exact isPlain_hexByte byte c hmem

lemma length_hex (bytes : List UInt8) : (bytes.flatMap hexByte).length = 2 * bytes.length := by
  induction bytes with
  | nil => rfl
  | cons byte bytes ih =>
      rw [List.flatMap_cons, List.length_append, ih, List.length_cons]
      simp only [hexByte, List.length_cons, List.length_nil]
      omega

lemma hexByte_selfDelimiting : SelfDelimiting hexByte := by
  have hinj : ∀ m < 16, ∀ n < 16, hexDigit m = hexDigit n → m = n := by decide
  refine SelfDelimiting.of_isPrefix fun a b h => ?_
  have ha := a.toNat_lt
  have hb := b.toNat_lt
  simp only [hexByte, List.cons_prefix_cons, List.prefix_nil, and_true] at h
  have hhigh := hinj _ (by omega) _ (by omega) h.1
  have hlow := hinj _ (by omega) _ (by omega) h.2
  exact UInt8.toNat_inj.mp (by omega)

lemma hex_injective : Injective fun bytes : List UInt8 => bytes.flatMap hexByte := by
  have hblocks : SelfDelimiting fun bytes : List UInt8 => bytes.flatMap hexByte ++ ['-'] := by
    refine SelfDelimiting.flatMap hexByte_selfDelimiting fun byte x y h => ?_
    exact (isPlain_hexByte byte _ List.mem_cons_self).2 (List.cons.inj h).1
  intro bytes bytes' h
  exact hblocks.injective (congrArg (· ++ ['-']) h)

lemma isPlain_base64 {bytes : Bytes} {c : Char} (h : c ∈ Base64.encode bytes) : IsPlain c := by
  have hletter : ∀ n < 64, IsPlain (Base64.letter n) := by decide
  obtain ⟨n, hn, rfl⟩ := Base64.mem_encode h
  exact hletter n hn

/-- `Uuid::to_string`: 32 digits in five groups. -/
def uuidText (uuid : Uuid) : List Char :=
  let digits := (BigEndian.toBeBytes 16 uuid.toNat).flatMap hexByte
  digits.take 8 ++ '-' :: ((digits.drop 8).take 4 ++ '-' :: ((digits.drop 12).take 4
    ++ '-' :: ((digits.drop 16).take 4 ++ '-' :: digits.drop 20)))

/-- Without its hyphens an identifier is its digits. -/
lemma filter_uuidText (uuid : Uuid) :
    (uuidText uuid).filter (· ≠ '-') = (BigEndian.toBeBytes 16 uuid.toNat).flatMap hexByte := by
  have hself : ∀ l : List Char,
      List.Sublist l ((BigEndian.toBeBytes 16 uuid.toNat).flatMap hexByte) →
      l.filter (· ≠ '-') = l := by
    intro l hl
    refine List.filter_eq_self.mpr fun c hc => ?_
    simpa using (isPlain_hex _ c (hl.subset hc)).2
  rw [uuidText]
  generalize (BigEndian.toBeBytes 16 uuid.toNat).flatMap hexByte = digits at hself ⊢
  have htake : ∀ m n, ((digits.drop m).take n).filter (· ≠ '-') = (digits.drop m).take n :=
    fun m n => hself _ ((List.take_sublist _ _).trans (List.drop_sublist _ _))
  have hjoin : ∀ m n, (digits.drop m).take n ++ digits.drop (m + n) = digits.drop m := by
    intro m n
    rw [← List.drop_drop, List.take_append_drop]
  have hhead := htake 0 8
  rw [List.drop_zero] at hhead
  have hhyphen : ∀ l : List Char, ('-' :: l).filter (· ≠ '-') = l.filter (· ≠ '-') :=
    fun l => List.filter_cons_of_neg (by decide)
  simp only [List.filter_append, hhyphen, hhead, htake, hself _ (List.drop_sublist _ _)]
  rw [hjoin 16 4, hjoin 12 4, hjoin 8 4, List.take_append_drop]

lemma uuidText_injective : Injective uuidText := by
  intro uuid uuid' h
  have hdigits := congrArg (List.filter (· ≠ '-')) h
  rw [filter_uuidText, filter_uuidText] at hdigits
  have hbytes := congrArg BigEndian.fromBeBytes (hex_injective hdigits)
  have hwidth : 256 ^ 16 = 2 ^ 128 := by norm_num
  rw [BigEndian.fromBeBytes_toBeBytes (hwidth ▸ uuid.isLt),
    BigEndian.fromBeBytes_toBeBytes (hwidth ▸ uuid'.isLt)] at hbytes
  exact BitVec.eq_of_toNat_eq hbytes

lemma length_uuidText (uuid : Uuid) : (uuidText uuid).length = 36 := by
  have hdigits := length_hex (BigEndian.toBeBytes 16 uuid.toNat)
  rw [BigEndian.length_toBeBytes] at hdigits
  simp only [uuidText, List.length_append, List.length_cons, List.length_take, List.length_drop,
    hdigits]
  omega

lemma isPlain_uuidText {uuid : Uuid} {c : Char} (h : c ∈ uuidText uuid) : IsPlain c := by
  by_cases hyphen : c = '-'
  · subst hyphen
    decide
  · have hmem : c ∈ (uuidText uuid).filter (· ≠ '-') := List.mem_filter.mpr ⟨h, by simpa⟩
    rw [filter_uuidText] at hmem
    exact (isPlain_hex _ c hmem).1

/-! ## The crates -/

lemma asBytes_ofList_injective : Injective fun text : List Char => asBytes (String.ofList text) :=
  fun _ _ h => String.ofList_injective (asBytes_injective h)

/-- The tag of a ciphertext that was not recorded. -/
def placeholderTag : Bytes := List.replicate POLY1305_TAG_BYTES 0

namespace Recording

variable (r : Recording)

/-- Sealing, with the recorded ciphertext where there is one. -/
def sealMsg (key : SnapshotKey) (nonce : SnapshotNonce) (aad msg : Bytes) : Bytes :=
  if key = r.key ∧ nonce = r.nonce ∧ msg = asBytes r.wireJson
      ∧ aad = asBytes SNAPSHOT_ASSOCIATED_DATA then
    r.ciphertext
  else
    msg ++ placeholderTag

/-- Crates that print as `serde_json`, `base64` and `uuid` do, and otherwise answer as recorded. -/
noncomputable def serdeCrates : Crates where
  sha256 := r.sha256
  envelopeToVec envelope := some (asBytes (String.ofList (writeEnvelope envelope)))
  envelopeFromSlice := partialInv fun envelope => asBytes (String.ofList (writeEnvelope envelope))
  wireToVec wire := some (asBytes (String.ofList (writeWire wire)))
  wireFromSlice := partialInv fun wire => asBytes (String.ofList (writeWire wire))
  base64Encode := base64Text
  base64Decode := partialInv (asBytes ∘ base64Text)
  uuidToString uuid := String.ofList (uuidText uuid)
  uuidParseStr text := partialInv uuidText text.toList
  fromUnixTimestampNanos := dateTimeOf
  formatRfc3339 dateTime := some (String.ofList (Recorded.encode MARK r.timeTable dateTime))
  parseRfc3339 text := Recorded.decode MARK r.timeTable text.toList
  encrypt key nonce msg aad := some (r.sealMsg key nonce aad msg)
  decrypt key nonce msg aad := partialInv (r.sealMsg key nonce aad) msg

variable {r}

lemma sealMsg_injective (hforeign : ∀ msg, msg ++ placeholderTag ≠ r.ciphertext)
    (key : SnapshotKey) (nonce : SnapshotNonce) (aad : Bytes) :
    Injective (r.sealMsg key nonce aad) := by
  intro msg msg' h
  unfold sealMsg at h
  split_ifs at h with hmsg hmsg' hmsg'
  · exact hmsg.2.2.1.trans hmsg'.2.2.1.symm
  · exact absurd h.symm (hforeign msg')
  · exact absurd h (hforeign msg)
  · exact List.append_cancel_right h

lemma length_sealMsg (htag : r.ciphertext.length = r.wireJson.utf8ByteSize + POLY1305_TAG_BYTES)
    (key : SnapshotKey) (nonce : SnapshotNonce) (aad msg : Bytes) :
    (r.sealMsg key nonce aad msg).length = msg.length + POLY1305_TAG_BYTES := by
  rw [sealMsg]
  split_ifs with hmsg
  · rw [hmsg.2.2.1, length_asBytes, htag]
  · rw [List.length_append, placeholderTag, List.length_replicate]

/-- **The laws hold** of these crates. -/
theorem lawful_serdeCrates (h : r.Consistent)
    (hforeign : ∀ msg, msg ++ placeholderTag ≠ r.ciphertext) : r.serdeCrates.Lawful where
  envelope envelope encoded _ hencoded := by
    obtain rfl := Option.some.inj hencoded
    refine partialInv_left (f := fun envelope => asBytes (String.ofList (writeEnvelope envelope)))
      ?_ envelope
    exact asBytes_ofList_injective.comp writeEnvelope_injective
  wire wire _ := by
    refine ⟨_, rfl, partialInv_left (f := fun wire => asBytes (String.ofList (writeWire wire)))
      ?_ wire⟩
    exact asBytes_ofList_injective.comp writeWire_injective
  base64 bytes := partialInv_left (asBytes_injective.comp base64Text_injective) bytes
  uuid uuid := by
    show partialInv uuidText (String.ofList (uuidText uuid)).toList = some uuid
    rw [String.toList_ofList]
    exact partialInv_left uuidText_injective uuid
  timestamp := dateTimeOf_eq_some_iff
  rfc3339 dateTime _ _ := by
    refine ⟨_, rfl, ?_⟩
    show Recorded.decode MARK r.timeTable (String.ofList _).toList = some dateTime
    rw [String.toList_ofList]
    exact Recorded.decode_encode (sound_singleton h.time) dateTime
  cipher key nonce msg aad ciphertext hseal := by
    obtain rfl := Option.some.inj hseal
    exact ⟨partialInv_left (sealMsg_injective hforeign key nonce aad) msg,
      length_sealMsg h.tag key nonce aad msg⟩

end Recording

end FtnlDesktop
