import FtnlDesktop.Base
import FtnlDesktop.Core.Eviction
import FtnlDesktop.Core.Window

/-!
# The clipboard workspace

The reducer of `src/workspace.rs`: the workspace record, the ten actions, `apply` with its three
preliminary checks and final revision bump, `ingest_text` with its deduplicating path, the
two-stage retention clean-up, and the constructor that rebuilds a workspace from the parts of a
decoded snapshot.

`apply` is an `EStateM` method, so its early exits keep whatever an arm has already written.
The `while` loop of `enforce_retention` is `evictLoop`, with the number of items as its fuel: each
round removes one.
-/

namespace FtnlDesktop

open Method

def MAX_TEXT_CHARACTERS : ℕ := 65536
def MAX_TEXT_BYTES : ℕ := 1048576
def MAX_SEARCH_CHARACTERS : ℕ := 256
def MAX_SOURCE_EXCLUSIONS : ℕ := 256
def MAX_PROCESSED_COMMANDS : ℕ := 1024
def MAX_REVISION : ℕ := 9007199254740991
def MAX_SNAPSHOT_ITEMS : ℕ := 500

inductive CaptureState where
  | Active
  | Paused
deriving DecidableEq, Repr

inductive WorkspaceError where
  | CapturePaused
  | DuplicateCommand
  | ExcludedSource
  | InvalidContentHash
  | InvalidContentSize
  | InvalidRetention
  | InvalidSearch
  | InvalidSourceFingerprint
  | ItemNotFound
  | RevisionConflict
  | RevisionOverflow
  | InvalidSnapshot
deriving DecidableEq, Repr

structure RetentionPolicy where
  maxItems : ℕ
  maxAgeDays : ℕ
  deduplicate : Bool
deriving DecidableEq, Repr

/-- `RetentionPolicy::default()`. -/
def RetentionPolicy.default : RetentionPolicy :=
  { maxItems := 250, maxAgeDays := 30, deduplicate := true }

def RetentionPolicy.validate (policy : RetentionPolicy) : Except WorkspaceError RetentionPolicy :=
  if ¬ (1 ≤ policy.maxItems ∧ policy.maxItems ≤ 10000)
      ∨ ¬ (1 ≤ policy.maxAgeDays ∧ policy.maxAgeDays ≤ 365) then
    .error WorkspaceError.InvalidRetention
  else
    .ok policy

def RetentionPolicy.maxAge (policy : RetentionPolicy) : Duration :=
  fromSecs (policy.maxAgeDays * 24 * 60 * 60)

structure ClipboardItem where
  itemId : Uuid
  text : String
  contentSha256 : String
  byteSize : ℕ
  capturedAt : SystemTime
  isPinned : Bool
  sourceFingerprint : Option String
deriving DecidableEq

inductive WorkspaceAction where
  | PauseCapture
  | ResumeCapture
  | SetSearch (query : String)
  | PinItem (itemId : Uuid)
  | UnpinItem (itemId : Uuid)
  | DeleteItem (itemId : Uuid)
  | ClearUnpinned
  | SetRetention (policy : RetentionPolicy)
  | SetSourceExclusions (fingerprints : List String)
  | IngestText (itemId : Uuid) (text : String) (contentSha256 : String) (byteSize : ℕ)
      (capturedAt : SystemTime) (sourceFingerprint : Option String)
deriving DecidableEq

structure ClipboardWorkspace where
  revision : ℕ
  captureState : CaptureState
  retention : RetentionPolicy
  searchQuery : String
  excludedSourceFingerprints : SortedSet String
  items : List ClipboardItem
  processedCommands : List Uuid
deriving DecidableEq

namespace ClipboardWorkspace

/-- `ClipboardWorkspace::default()`: capture starts paused and nothing is stored. -/
def default : ClipboardWorkspace :=
  { revision := 0
    captureState := .Paused
    retention := RetentionPolicy.default
    searchQuery := ""
    excludedSourceFingerprints := ∅
    items := []
    processedCommands := [] }

end ClipboardWorkspace

/-- A method of the workspace: it may fail, and what it wrote before failing stays. -/
abbrev WorkspaceM := EStateM WorkspaceError ClipboardWorkspace

/-! ## Digests and fingerprints -/

/-- One lower-case hexadecimal digit. -/
def hexDigit (n : ℕ) : Char :=
  if n < 10 then Char.ofNat ('0'.toNat + n) else Char.ofNat ('a'.toNat + (n - 10))

/-- `{byte:02x}`. -/
def hexByte (byte : UInt8) : List Char :=
  [hexDigit (byte.toNat / 16), hexDigit (byte.toNat % 16)]

def contentSha256Hex (sha256 : Bytes → Digest) (text : String) : String :=
  String.ofList ((sha256 (asBytes text)).toList.flatMap hexByte)

/-- The unpinned item that ingesting a text in a closed example stores. -/
def exampleItem (itemId : Uuid) (text : String) (capturedAt : SystemTime) : ClipboardItem :=
  { itemId, text
    contentSha256 := contentSha256Hex exampleSha256 text
    byteSize := text.utf8ByteSize
    capturedAt
    isPinned := false
    sourceFingerprint := none }

/-- Ingesting a text without a source in a closed example. -/
def exampleIngest (itemId : Uuid) (text : String) (capturedAt : SystemTime) : WorkspaceAction :=
  .IngestText itemId text (contentSha256Hex exampleSha256 text) text.utf8ByteSize capturedAt none

def isSourceFingerprint (value : String) : Bool :=
  value.utf8ByteSize = 71
    && "sha256:".toList.isPrefixOf value.toList
    && ((asBytes value).drop 7).all fun byte =>
      (48 ≤ byte && byte ≤ 57) || (97 ≤ byte && byte ≤ 102)

/-! ## Retention -/

/-- The closure of `enforce_retention`'s `retain`: pinned, captured in the future, or not older
than the maximal age. -/
def isFresh (maxAge : Duration) (now : SystemTime) (item : ClipboardItem) : Bool :=
  item.isPinned || (durationSince now item.capturedAt).all fun age => age ≤ maxAge

/-- The `while` loop of `enforce_retention`; the first argument bounds the number of rounds. -/
def evictLoop (maxItems : ℕ) : ℕ → List ClipboardItem → List ClipboardItem
  | 0, items => items
  | fuel + 1, items =>
      if (items.filter fun item => !item.isPinned).length > maxItems then
        match Eviction.rposition (fun item => !item.isPinned) items with
        | some index => evictLoop maxItems fuel (items.eraseIdx index)
        | none => items
      else
        items

def enforceRetention (now : SystemTime) (workspace : ClipboardWorkspace) : ClipboardWorkspace :=
  let maxAge := workspace.retention.maxAge
  let items := workspace.items.filter (isFresh maxAge now)
  { workspace with items := evictLoop workspace.retention.maxItems items.length items }

/-! ## Applying commands -/

/-- `*item_mut(item_id)? = f(item)`: the first item with that id is rewritten in place. -/
def itemMut (itemId : Uuid) (f : ClipboardItem → ClipboardItem) : WorkspaceM Unit := do
  let workspace ← get
  let index ← okOr (workspace.items.findIdx? fun item => item.itemId = itemId)
    WorkspaceError.ItemNotFound
  modify fun workspace => { workspace with items := workspace.items.modify index f }

/-- `items.insert(0, f(items.remove(index)))`. -/
def moveToFront (index : ℕ) (f : ClipboardItem → ClipboardItem) (items : List ClipboardItem) :
    List ClipboardItem :=
  match items[index]? with
  | some item => f item :: items.eraseIdx index
  | none => items

section

variable (sha256 : Bytes → Digest)

/-- The five checks of `ingest_text`, in its order, for a workspace in the given state. -/
def checkIngest (workspace : ClipboardWorkspace) (text contentSha256 : String) (byteSize : ℕ)
    (sourceFingerprint : Option String) : Except WorkspaceError Unit := do
  rejectIf (workspace.captureState ≠ .Active) WorkspaceError.CapturePaused
  rejectIf (text.isEmpty ∨ text.length > MAX_TEXT_CHARACTERS
    ∨ text.utf8ByteSize > MAX_TEXT_BYTES ∨ byteSize ≠ text.utf8ByteSize)
    WorkspaceError.InvalidContentSize
  rejectIf (contentSha256 ≠ contentSha256Hex sha256 text) WorkspaceError.InvalidContentHash
  rejectIf (sourceFingerprint.any fun value => !isSourceFingerprint value)
    WorkspaceError.InvalidSourceFingerprint
  rejectIf (sourceFingerprint.any fun value => value ∈ workspace.excludedSourceFingerprints)
    WorkspaceError.ExcludedSource

/-- The index of the stored item that a deduplicating ingest of this digest moves to the front. -/
def duplicateIndex (workspace : ClipboardWorkspace) (contentSha256 : String) : Option ℕ :=
  if workspace.retention.deduplicate then
    workspace.items.findIdx? fun item => item.contentSha256 = contentSha256
  else
    none

def ingestText (itemId : Uuid) (text contentSha256 : String) (byteSize : ℕ)
    (capturedAt : SystemTime) (sourceFingerprint : Option String) (now : SystemTime) :
    WorkspaceM Unit := do
  let workspace ← get
  attempt (checkIngest sha256 workspace text contentSha256 byteSize sourceFingerprint)
  match duplicateIndex workspace contentSha256 with
  | some index =>
      modify fun workspace =>
        { workspace with
          items := moveToFront index (fun item => { item with capturedAt, sourceFingerprint })
            workspace.items }
      modify (enforceRetention now)
  | none =>
      modify fun workspace =>
        { workspace with
          items := { itemId, text, contentSha256, byteSize, capturedAt, isPinned := false,
                     sourceFingerprint } :: workspace.items }
      modify (enforceRetention now)

/-- The `match action` of `apply`. -/
def perform (action : WorkspaceAction) (now : SystemTime) : WorkspaceM Unit :=
  match action with
  | .PauseCapture => modify fun workspace => { workspace with captureState := .Paused }
  | .ResumeCapture => modify fun workspace => { workspace with captureState := .Active }
  | .SetSearch query => do
      rejectIf (query.length > MAX_SEARCH_CHARACTERS) WorkspaceError.InvalidSearch
      modify fun workspace => { workspace with searchQuery := query }
  | .PinItem itemId => itemMut itemId fun item => { item with isPinned := true }
  | .UnpinItem itemId => do
      itemMut itemId fun item => { item with isPinned := false }
      modify (enforceRetention now)
  | .DeleteItem itemId => do
      let before := (← get).items.length
      modify fun workspace =>
        { workspace with items := workspace.items.filter fun item => item.itemId ≠ itemId }
      rejectIf (before = (← get).items.length) WorkspaceError.ItemNotFound
  | .ClearUnpinned =>
      modify fun workspace => { workspace with items := workspace.items.filter (·.isPinned) }
  | .SetRetention policy => do
      let policy ← attempt policy.validate
      modify fun workspace => { workspace with retention := policy }
      modify (enforceRetention now)
  | .SetSourceExclusions fingerprints => do
      rejectIf (fingerprints.length > MAX_SOURCE_EXCLUSIONS
        ∨ fingerprints.any fun value => !isSourceFingerprint value)
        WorkspaceError.InvalidSourceFingerprint
      modify fun workspace =>
        { workspace with excludedSourceFingerprints := SortedSet.ofList fingerprints }
  | .IngestText itemId text contentSha256 byteSize capturedAt sourceFingerprint =>
      ingestText sha256 itemId text contentSha256 byteSize capturedAt sourceFingerprint now

def apply (commandId : Uuid) (expectedRevision : ℕ) (action : WorkspaceAction)
    (now : SystemTime) : WorkspaceM Unit := do
  let workspace ← get
  rejectIf (commandId ∈ workspace.processedCommands) WorkspaceError.DuplicateCommand
  rejectIf (expectedRevision ≠ workspace.revision) WorkspaceError.RevisionConflict
  rejectIf (workspace.revision ≥ MAX_REVISION) WorkspaceError.RevisionOverflow
  perform sha256 action now
  let workspace ← get
  let revision ← okOr (checkedAddU64 workspace.revision 1) WorkspaceError.RevisionOverflow
  modify fun workspace => { workspace with revision }
  modify fun workspace =>
    { workspace with
      processedCommands :=
        Window.push MAX_PROCESSED_COMMANDS workspace.processedCommands commandId }

/-! ## Clients

Any number of clients share one workspace.  A request is one call of `apply`; which client made
it, and when it read the revision it expects, is not recorded because `apply` cannot see it.
-/

structure Request where
  commandId : Uuid
  expectedRevision : ℕ
  action : WorkspaceAction
  now : SystemTime
deriving DecidableEq

/-- The call a request makes. -/
def Request.call (request : Request) : WorkspaceM Unit :=
  apply sha256 request.commandId request.expectedRevision request.action request.now

/-- The workspace after a request, whatever `apply` answered. -/
def serve (workspace : ClipboardWorkspace) (request : Request) : ClipboardWorkspace :=
  match (request.call sha256).run workspace with
  | .ok _ workspace => workspace
  | .error _ workspace => workspace

/-- Whether `apply` answers `Ok(())`. -/
def accepts (workspace : ClipboardWorkspace) (request : Request) : Bool :=
  match (request.call sha256).run workspace with
  | .ok _ _ => true
  | .error _ _ => false

/-! ## Rebuilding a workspace from a snapshot -/

/-- The item loop of `from_snapshot_parts`; `itemIds` is the set of ids seen so far. -/
def checkItems : List Uuid → List ClipboardItem → Except WorkspaceError Unit
  | _, [] => .ok ()
  | itemIds, item :: items => do
      rejectIf (item.itemId ∈ itemIds
        ∨ item.text.isEmpty
        ∨ item.text.length > MAX_TEXT_CHARACTERS
        ∨ item.text.utf8ByteSize > MAX_TEXT_BYTES
        ∨ item.byteSize ≠ item.text.utf8ByteSize
        ∨ item.contentSha256 ≠ contentSha256Hex sha256 item.text
        ∨ item.sourceFingerprint.any fun value => !isSourceFingerprint value)
        WorkspaceError.InvalidSnapshot
      checkItems (item.itemId :: itemIds) items

def fromSnapshotParts (revision : ℕ) (captureState : CaptureState) (retention : RetentionPolicy)
    (searchQuery : String) (excludedSourceFingerprints : SortedSet String)
    (items : List ClipboardItem) (now : SystemTime) :
    Except WorkspaceError ClipboardWorkspace := do
  rejectIf (revision > MAX_REVISION
    ∨ searchQuery.length > MAX_SEARCH_CHARACTERS
    ∨ excludedSourceFingerprints.size > MAX_SOURCE_EXCLUSIONS
    ∨ (excludedSourceFingerprints.elems.any fun value => !isSourceFingerprint value)
    ∨ items.length > MAX_SNAPSHOT_ITEMS) WorkspaceError.InvalidSnapshot
  let retention ← retention.validate.mapError fun _ => WorkspaceError.InvalidSnapshot
  checkItems sha256 [] items
  return enforceRetention now
    { revision, captureState, retention, searchQuery, excludedSourceFingerprints, items,
      processedCommands := [] }

end

/-! ## What the window shows -/

/-- The `matches` closure of `visible_items`; `toLowercase` is `str::to_lowercase`. -/
def matchesQuery (toLowercase : String → String) (query : String) (item : ClipboardItem) : Bool :=
  query.isEmpty || decide (query.toList <:+: (toLowercase item.text).toList)

def visibleItems (toLowercase : String → String) (workspace : ClipboardWorkspace) :
    List ClipboardItem :=
  let query := toLowercase workspace.searchQuery
  ((workspace.items.filter fun item => item.isPinned).filter (matchesQuery toLowercase query))
    ++ (workspace.items.filter fun item => !item.isPinned).filter (matchesQuery toLowercase query)

end FtnlDesktop
