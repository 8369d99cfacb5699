import FtnlDesktop.Base

/-!
# What the service may send

The checks of `src/transfer.rs` on everything that arrives over the network: a tunnel becomes a
`ReceiveSession` only through `validate_tunnel`, and a list of files is used only after
`validate_snapshot`.  Names of files are checked by `safe_default_destination`, whose path
components are those of a Unix path.

URLs belong to the crate `url` and UUID texts to the crate `uuid`; the functions called there are
the fields of `TransferCrates`, together with the address parser of the standard library.

* **`validateSnapshot_eq_ok`** — an accepted snapshot has at most ten files, each of them valid,
  and no two with one identifier.
-/

namespace FtnlDesktop.Receive

open Method

def MAX_FILES_PER_TUNNEL : ℕ := 10
def MAX_FILE_BYTES : ℕ := 50 * 1024 * 1024
def MAX_FILE_NAME_BYTES : ℕ := 255
def MAX_MEDIA_TYPE_BYTES : ℕ := 128
def MAX_CREATED_AT_BYTES : ℕ := 64

structure Tunnel where
  tunnelId : Uuid
  pairingUri : String
  desktopCapability : String
  expiresAt : String
  status : String
deriving DecidableEq

structure FileDescriptor where
  fileId : Uuid
  name : String
  mediaType : String
  sizeBytes : ℕ
  bytesTransferred : ℕ
  status : String
  createdAt : String
deriving DecidableEq

structure ReceiveSession where
  tunnelId : Uuid
  expiresAt : String
  pairingUri : String
  desktopCapability : String
deriving DecidableEq

def ReceiveSession.capability (self : ReceiveSession) : String := self.desktopCapability

inductive SessionError where
  | InvalidTunnel
deriving DecidableEq, Repr

inductive SaveError where
  | UnsafeFileName
  | InvalidMetadata
  | SizeMismatch
  | MissingOutputDirectory
  | Io
deriving DecidableEq, Repr

inductive DescriptorError where
  | TooManyFiles
  | DuplicateFileId
  | InvalidMetadata
deriving DecidableEq, Repr

/-! ## Characters and paths -/

/-- `char::is_control`: the Unicode category Cc. -/
def isControl (c : Char) : Bool := c.toNat < 0x20 || (0x7f ≤ c.toNat && c.toNat < 0xa0)

/-- `char::is_ascii_graphic`. -/
def isAsciiGraphic (c : Char) : Bool := 0x21 ≤ c.toNat && c.toNat ≤ 0x7e

/-- `str::eq_ignore_ascii_case`. -/
def eqIgnoreAsciiCase (a b : String) : Bool :=
  a.toList.map Char.toLower == b.toList.map Char.toLower

inductive Component where
  | RootDir
  | CurDir
  | ParentDir
  | Normal (component : String)
deriving DecidableEq, Repr

/-- `Path::components` on Unix.  Empty parts are skipped, and so is `.` unless the path begins
with it. -/
def components (path : String) : List Component :=
  let parts := path.toList.splitOn '/'
  let named := (parts.filter fun part => part ≠ [] ∧ part ≠ ['.']).map fun part =>
    if part = ['.', '.'] then Component.ParentDir else .Normal (String.ofList part)
  if path.toList.head? = some '/' then .RootDir :: named
  else if parts.head? = some ['.'] then .CurDir :: named
  else named

def reservedWindowsNames : List String :=
  ["CON", "PRN", "AUX", "NUL", "COM1", "COM2", "COM3", "COM4", "COM5", "COM6", "COM7", "COM8",
    "COM9", "LPT1", "LPT2", "LPT3", "LPT4", "LPT5", "LPT6", "LPT7", "LPT8", "LPT9"]

def safeDefaultDestination (name : String) : Except SaveError String := do
  let hasPortablePathPunctuation := name.toList.any fun c =>
    c = '\\' ∨ c = ':' ∨ c = '*' ∨ c = '?' ∨ c = '"' ∨ c = '<' ∨ c = '>' ∨ c = '|'
  let hasWindowsTrailingSeparator :=
    name.toList.getLast? = some ' ' ∨ name.toList.getLast? = some '.'
  let windowsStem := String.ofList (name.toList.takeWhile fun c => c ≠ '.')
  let isReservedWindowsName := reservedWindowsNames.any (eqIgnoreAsciiCase windowsStem)
  rejectIf (name.isEmpty ∨ name.utf8ByteSize > MAX_FILE_NAME_BYTES ∨ name.toList.any isControl
    ∨ hasPortablePathPunctuation ∨ hasWindowsTrailingSeparator ∨ isReservedWindowsName)
    SaveError.UnsafeFileName
  match components name with
  | [.Normal component] =>
      rejectIf (component.isEmpty) SaveError.UnsafeFileName
      return component
  | _ => throw .UnsafeFileName

/-! ## Files -/

def validateFileDescriptor (file : FileDescriptor) : Except DescriptorError Unit :=
  let validFileId := file.fileId ≠ 0
  let validName := ¬ file.name.isEmpty ∧ file.name.utf8ByteSize ≤ MAX_FILE_NAME_BYTES
    ∧ ¬ file.name.toList.any isControl ∧ (safeDefaultDestination file.name).isOk
  let validMediaType := ¬ file.mediaType.isEmpty
    ∧ file.mediaType.utf8ByteSize ≤ MAX_MEDIA_TYPE_BYTES
    ∧ file.mediaType.toList.all isAsciiGraphic
  let validStatus := file.status ∈
    ["declared", "uploading", "available", "downloaded", "rejected", "cancelled"]
  let validSizes := file.sizeBytes ≤ MAX_FILE_BYTES ∧ file.bytesTransferred ≤ file.sizeBytes
  let validCreatedAt := 1 ≤ file.createdAt.utf8ByteSize
    ∧ file.createdAt.utf8ByteSize ≤ MAX_CREATED_AT_BYTES ∧ ¬ file.createdAt.toList.any isControl
  rejectIf (¬ (validFileId ∧ validName ∧ validMediaType ∧ validStatus ∧ validSizes
    ∧ validCreatedAt)) DescriptorError.InvalidMetadata

/-- The loop of `validate_snapshot`, with the identifiers it has seen. -/
def validateFiles (identifiers : List Uuid) : List FileDescriptor → Except DescriptorError Unit
  | [] => return ()
  | file :: files => do
      validateFileDescriptor file
      rejectIf (identifiers.contains file.fileId) DescriptorError.DuplicateFileId
      validateFiles (file.fileId :: identifiers) files

def validateSnapshot (files : List FileDescriptor) : Except DescriptorError Unit := do
  rejectIf (files.length > MAX_FILES_PER_TUNNEL) DescriptorError.TooManyFiles
  validateFiles [] files

lemma validateFiles_eq_ok {identifiers : List Uuid} {files : List FileDescriptor} {u : Unit} :
    validateFiles identifiers files = .ok u ↔
      (∀ file ∈ files, validateFileDescriptor file = .ok ())
        ∧ (files.map fun file => file.fileId).Nodup
        ∧ ∀ file ∈ files, file.fileId ∉ identifiers := by
  induction files generalizing identifiers with
  | nil => simp [validateFiles]
  | cons file files ih =>
      simp only [validateFiles, bind_eq_ok, rejectIf_eq_ok, List.contains_iff_mem, ih,
        List.mem_cons, forall_eq_or_imp, List.map_cons, List.nodup_cons, not_or, List.mem_map,
        not_exists, not_and]
      constructor
      · rintro ⟨u, hfile, -, hnew, hfiles, hnodup, hrest⟩
        obtain rfl : u = () := rfl
        exact ⟨⟨hfile, hfiles⟩, ⟨fun g hg => (hrest g hg).1, hnodup⟩, hnew,
          fun g hg => (hrest g hg).2⟩
      · rintro ⟨⟨hfile, hfiles⟩, ⟨hdistinct, hnodup⟩, hnew, hrest⟩
        exact ⟨(), hfile, (), hnew, hfiles, hnodup, fun g hg => ⟨hdistinct g hg, hrest g hg⟩⟩

/-- **What an accepted snapshot is.** -/
theorem validateSnapshot_eq_ok {files : List FileDescriptor} {u : Unit} :
    validateSnapshot files = .ok u ↔
      files.length ≤ MAX_FILES_PER_TUNNEL
        ∧ (∀ file ∈ files, validateFileDescriptor file = .ok ())
        ∧ (files.map fun file => file.fileId).Nodup := by
  simp [validateSnapshot, bind_eq_ok, validateFiles_eq_ok]

/-! ## Tunnels -/

/-- A `url::Url`, by the parts that are looked at. -/
structure Url where
  scheme : String
  username : String
  password : Option String
  hostStr : Option String
  pathSegments : Option (List String)
  query : Option String
  fragment : Option String

/-- What the checks call outside the repository. -/
structure TransferCrates where
  parseUrl : String → Option Url
  formUrlencodedParse : Bytes → List (String × String)
  uuidToString : Uuid → String
  /-- `text.parse::<IpAddr>().is_ok_and(|address| address.is_loopback())`. -/
  isLoopbackAddress : String → Bool

/-- The characters of pairing secrets and capabilities. -/
def isTokenCharacter (c : Char) : Bool := c.isAlphanum || c == '-' || c == '_'

/-- `(32..=512).contains(&token.len())` and only token characters. -/
def isBoundedToken (token : String) : Prop :=
  32 ≤ token.utf8ByteSize ∧ token.utf8ByteSize ≤ 512 ∧ token.toList.all isTokenCharacter

instance (token : String) : Decidable (isBoundedToken token) := by
  unfold isBoundedToken
  infer_instance

/-- `host.trim_start_matches('[').trim_end_matches(']')`. -/
def trimBrackets (host : String) : String :=
  String.ofList ((host.toList.dropWhile (· = '[')).rdropWhile (· = ']'))

def secureScheme (crates : TransferCrates) (uri : Url) : Bool :=
  if uri.scheme = "https" then true
  else if uri.scheme = "http" then
    uri.hostStr.any fun host =>
      eqIgnoreAsciiCase host "localhost" || crates.isLoopbackAddress (trimBrackets host)
  else false

/-- The only field of the fragment is `c`, and it holds a token. -/
def pairingSecretIsBounded (fragmentFields : List (String × String)) : Prop :=
  ∃ secret, fragmentFields = [("c", secret)] ∧ isBoundedToken secret

instance (fragmentFields : List (String × String)) :
    Decidable (pairingSecretIsBounded fragmentFields) :=
  match fragmentFields with
  | [(key, secret)] =>
      decidable_of_iff (key = "c" ∧ isBoundedToken secret) (by simp [pairingSecretIsBounded])
  | [] => isFalse (by simp [pairingSecretIsBounded])
  | _ :: _ :: _ => isFalse (by simp [pairingSecretIsBounded])

def validateTunnel (crates : TransferCrates) (tunnel : Tunnel) : Except SessionError Unit := do
  let uri ← okOr (crates.parseUrl tunnel.pairingUri) SessionError.InvalidTunnel
  let pathMatches := uri.pathSegments = some ["t", crates.uuidToString tunnel.tunnelId]
  let fragmentFields := match uri.fragment with
    | some fragment => crates.formUrlencodedParse (asBytes fragment)
    | none => []
  let expiryIsBounded := 1 ≤ tunnel.expiresAt.utf8ByteSize ∧ tunnel.expiresAt.utf8ByteSize ≤ 64
    ∧ ¬ tunnel.expiresAt.toList.any isControl
  rejectIf (tunnel.tunnelId = 0
    ∨ tunnel.status ≠ "waiting"
    ∨ tunnel.pairingUri.utf8ByteSize > 2048
    ∨ tunnel.pairingUri.toList.any isControl
    ∨ ¬ secureScheme crates uri
    ∨ uri.hostStr.isNone
    ∨ ¬ uri.username.isEmpty
    ∨ uri.password.isSome
    ∨ uri.query.isSome
    ∨ ¬ pathMatches
    ∨ ¬ pairingSecretIsBounded fragmentFields
    ∨ ¬ isBoundedToken tunnel.desktopCapability
    ∨ ¬ expiryIsBounded) SessionError.InvalidTunnel

def ReceiveSession.fromTunnel (crates : TransferCrates) (tunnel : Tunnel) :
    Except SessionError ReceiveSession := do
  validateTunnel crates tunnel
  return {
    tunnelId := tunnel.tunnelId
    expiresAt := tunnel.expiresAt
    pairingUri := tunnel.pairingUri
    desktopCapability := tunnel.desktopCapability }

end FtnlDesktop.Receive
