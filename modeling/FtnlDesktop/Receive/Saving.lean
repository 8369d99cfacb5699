import FtnlDesktop.Receive.Naming

/-!
# Saving a download

`save_download` writes the bytes to a temporary file next to the destination, renames it into
place and then flushes the directory.  The disk is what the operations see of a Unix file system:
regular files by their paths, and which paths are directories.  One file has one path here; links
are not modelled.

The operations of the standard library fail where `IoFaults` says so.  The crate `tempfile` is the
parameter `Tempfile`, and `Tempfile.Lawful` is what its documentation promises: a new temporary
file was not there before, renaming replaces the destination at once, renaming without replacing
needs the destination to be absent, and dropping a temporary file removes it.  Its operations may
fail on any disk, and then change nothing.

* **`atomic_placeFile`** — up to and including the rename, a failure leaves the disk as it was.
* **`save_all_or_nothing_iff`** — the whole of `save_download` is all-or-nothing unless the file
  has been put in place, with a new content, and the directory can then not be opened or flushed.
* **`unsynced_download_in_place`** — such a download fails, and fails again when it is retried.
-/

namespace FtnlDesktop.Receive

open Method

/-! ## The disk -/

structure FileNode where
  content : Bytes
  mode : ℕ
deriving DecidableEq

structure Disk where
  files : String → Option FileNode
  isDir : String → Bool

namespace Disk

def put (disk : Disk) (path : String) (node : FileNode) : Disk :=
  { disk with files := Function.update disk.files path (some node) }

def remove (disk : Disk) (path : String) : Disk :=
  { disk with files := Function.update disk.files path none }

/-- Rewrite the file at a path, if there is one. -/
def modifyFile (disk : Disk) (path : String) (f : FileNode → FileNode) : Disk :=
  { disk with files := Function.update disk.files path ((disk.files path).map f) }

def content (disk : Disk) (path : String) : Option Bytes := (disk.files path).map (·.content)

/-- Nothing is at the path. -/
def Absent (disk : Disk) (path : String) : Prop :=
  disk.files path = none ∧ disk.isDir path = false

variable {disk : Disk} {path other : String} {node : FileNode}

@[simp] lemma modifyFile_put (f : FileNode → FileNode) :
    (disk.put path node).modifyFile path f = disk.put path (f node) := by
  simp [put, modifyFile]

/-- Removing a file that was not there before it was put there. -/
lemma remove_put (h : disk.files path = none) : (disk.put path node).remove path = disk := by
  simp [put, remove, ← h]

lemma content_put_self : (disk.put path node).content path = some node.content := by
  simp [content, put]

lemma content_put_of_ne (h : other ≠ path) :
    (disk.put path node).content other = disk.content other := by
  simp [content, put, h]

end Disk

/-! ## Paths -/

/-- `Path::parent` on Unix: the last component goes, and with it whatever the parser drops on
either side of it. -/
def parent (path : String) : Option String :=
  let chars := path.toList
  let start := if chars.head? = some '/' then ['/']
    else if (chars.splitOn '/').head? = some ['.'] then ['.'] else []
  let isDropped := fun part : List Char => part = [] ∨ part = ['.']
  match ((chars.drop start.length).splitOn '/').rdropWhile isDropped with
  | [] => if start = ['.'] then some "" else none
  | part :: parts =>
      let body := ((part :: parts).dropLast.rdropWhile isDropped)
      some (String.ofList (start ++ ['/'].intercalate body))

/-- `destination.parent()`, or `.` where that is empty or missing. -/
def parentDirectory (destination : String) : String :=
  match parent destination with
  | some path => if path.isEmpty then "." else path
  | none => "."

/-! ## Operations that may fail -/

/-- Which operations of the standard library fail. -/
structure IoFaults where
  setPermissions : Bool
  /-- `write_all` fails after this many bytes. -/
  writeAll : Option ℕ
  syncAll : Bool
  openParent : Bool
  syncParent : Bool

/-- The crate `tempfile`.  A `NamedTempFile` is its path; `none` is an error that has changed
nothing. -/
structure Tempfile where
  newIn : (dir : String) → Disk → Option (String × Disk)
  persist : (temporary destination : String) → Disk → Option Disk
  persistNoclobber : (temporary destination : String) → Disk → Option Disk
  drop : (temporary : String) → Disk → Disk

/-- `persist` or `persist_noclobber`. -/
def Tempfile.persistAs (tempfile : Tempfile) (force : Bool) :
    (temporary destination : String) → Disk → Option Disk :=
  if force then tempfile.persist else tempfile.persistNoclobber

/-- What is documented of the crate `tempfile`. -/
structure Tempfile.Lawful (tempfile : Tempfile) : Prop where
  newIn : ∀ {dir disk temporary disk'}, tempfile.newIn dir disk = some (temporary, disk') →
    disk.files temporary = none ∧ ∃ mode, disk' = disk.put temporary ⟨[], mode⟩
  persist : ∀ {temporary destination disk disk'},
    tempfile.persist temporary destination disk = some disk' →
    ∃ node, disk.files temporary = some node ∧ disk' = (disk.remove temporary).put destination node
  persistNoclobber : ∀ {temporary destination disk disk'},
    tempfile.persistNoclobber temporary destination disk = some disk' →
    disk.Absent destination ∧ ∃ node, disk.files temporary = some node ∧
      disk' = (disk.remove temporary).put destination node
  drop : ∀ temporary disk, tempfile.drop temporary disk = disk.remove temporary

abbrev SaveM := EStateM SaveError Disk

/-- `operation.map_err(SaveError::Io)?`. -/
def orIo {α : Type} (operation : Disk → Option (α × Disk)) : SaveM α := do
  let (a, disk) ← okOr (operation (← get)) SaveError.Io
  set disk
  return a

/-- An owned `NamedTempFile`: an early return drops it. -/
def dropOnError {α : Type} (tempfile : Tempfile) (temporary : String) (body : SaveM α) : SaveM α :=
  fun disk =>
    match body disk with
    | .ok a disk => .ok a disk
    | .error e disk => .error e (tempfile.drop temporary disk)

section

variable (tempfile : Tempfile) (faults : IoFaults)

/-- `set_permissions(Permissions::from_mode(mode))`. -/
def setPermissions (temporary : String) (mode : ℕ) : SaveM Unit := do
  rejectIf faults.setPermissions SaveError.Io
  modify fun disk => disk.modifyFile temporary fun node => { node with mode }

def writeAll (temporary : String) (bytes : Bytes) : SaveM Unit := do
  modify fun disk => disk.modifyFile temporary fun node =>
    { node with content := node.content ++ bytes.take (faults.writeAll.getD bytes.length) }
  rejectIf faults.writeAll.isSome SaveError.Io

/-- What is done with the temporary file while it is owned. -/
def writeAndPersist (temporary destination : String) (bytes : Bytes) (force : Bool) :
    SaveM Unit := do
  setPermissions faults temporary 0o600
  writeAll faults temporary bytes
  rejectIf faults.syncAll SaveError.Io
  orIo fun disk => (tempfile.persistAs force temporary destination disk).map fun disk => ((), disk)

/-- The temporary file, from its creation to the rename. -/
def placeFile (parent destination : String) (bytes : Bytes) (force : Bool) : SaveM Unit := do
  let temporary ← orIo (tempfile.newIn parent)
  dropOnError tempfile temporary
    (writeAndPersist tempfile faults temporary destination bytes force)

/-- `requested_destination`, or else a name from the descriptor. -/
def chosenDestination (file : FileDescriptor) (requestedDestination : Option String) :
    Except SaveError String :=
  requestedDestination.elim (safeDefaultDestination file.name) .ok

/-- Open the parent directory and flush it. -/
def syncParentDirectory : SaveM Unit := do
  rejectIf faults.openParent SaveError.Io
  rejectIf faults.syncParent SaveError.Io

def saveDownload (file : FileDescriptor) (bytes : Bytes) (requestedDestination : Option String)
    (force : Bool) : SaveM String := do
  attempt ((validateFileDescriptor file).mapError fun _ => SaveError.InvalidMetadata)
  rejectIf (2 ^ 64 ≤ bytes.length) SaveError.SizeMismatch
  rejectIf (bytes.length ≠ file.sizeBytes) SaveError.SizeMismatch
  let destination ← attempt (chosenDestination file requestedDestination)
  let parent := parentDirectory destination
  rejectIf ((← get).isDir parent = false) SaveError.MissingOutputDirectory
  placeFile tempfile faults parent destination bytes force
  syncParentDirectory faults
  return destination

end

/-! ## One operation -/

section

variable {tempfile : Tempfile} {faults : IoFaults} {disk disk' : Disk} {force : Bool}
  {temporary destination : String} {bytes : Bytes} {e : SaveError}

lemma run_orIo_eq_ok {α : Type} {operation : Disk → Option (α × Disk)} {a : α} :
    (orIo operation).run disk = .ok a disk' ↔ operation disk = some (a, disk') := by
  rw [orIo, run_get_bind_eq_ok, run_okOr_bind_eq_ok]
  constructor
  · rintro ⟨⟨b, disk₁⟩, hop, hrun⟩
    simp only [EStateM.run_bind, EStateM.run_set, EStateM.run_pure, EStateM.Result.ok.injEq] at hrun
    obtain ⟨rfl, rfl⟩ := hrun
    exact hop
  · intro hop
    exact ⟨_, hop, rfl⟩

lemma atomic_orIo {α : Type} (operation : Disk → Option (α × Disk)) : Atomic (orIo operation) := by
  refine Atomic.get_bind fun disk => Atomic.okOr_bind fun _ => Total.atomic ?_
  intro disk e disk' hrun
  simp at hrun

lemma run_dropOnError_eq_ok {α : Type} {body : SaveM α} {a : α} :
    (dropOnError tempfile temporary body).run disk = .ok a disk' ↔ body.run disk = .ok a disk' := by
  rw [EStateM.run, EStateM.run, dropOnError]
  cases body disk with
  | ok b disk₁ => rfl
  | error e disk₁ => simp

lemma run_dropOnError_eq_error {α : Type} {body : SaveM α} :
    (dropOnError tempfile temporary body).run disk = .error e disk' ↔
      ∃ disk₁, body.run disk = .error e disk₁ ∧ disk' = tempfile.drop temporary disk₁ := by
  rw [EStateM.run, EStateM.run, dropOnError]
  cases body disk with
  | ok b disk₁ => simp
  | error e' disk₁ =>
      simp only [EStateM.Result.error.injEq]
      constructor
      · rintro ⟨rfl, rfl⟩
        exact ⟨disk₁, ⟨rfl, rfl⟩, rfl⟩
      · rintro ⟨_, ⟨rfl, rfl⟩, rfl⟩
        exact ⟨rfl, rfl⟩

lemma run_setPermissions_eq_ok {mode : ℕ} {u : Unit} {node : FileNode} :
    (setPermissions faults temporary mode).run (disk.put temporary node) = .ok u disk' ↔
      faults.setPermissions = false ∧ disk' = disk.put temporary { node with mode } := by
  rw [setPermissions, run_rejectIf_bind_eq_ok, EStateM.run_modify, Disk.modifyFile_put,
    Bool.not_eq_true, EStateM.Result.ok.injEq]
  simp only [true_and, eq_comm (b := disk')]

lemma atomic_setPermissions (mode : ℕ) : Atomic (setPermissions faults temporary mode) :=
  Atomic.rejectIf_bind fun _ => (total_modify _).atomic

lemma run_writeAll (bytes : Bytes) (node : FileNode) :
    (writeAll faults temporary bytes).run (disk.put temporary node) =
      if faults.writeAll.isSome then
        .error .Io (disk.put temporary { node with
          content := node.content ++ bytes.take (faults.writeAll.getD bytes.length) })
      else .ok () (disk.put temporary { node with content := node.content ++ bytes }) := by
  rw [writeAll, EStateM.run_bind, EStateM.run_modify, Disk.modifyFile_put]
  cases hfault : faults.writeAll with
  | none => simp
  | some written => simp

/-- Writing the temporary file and renaming it succeeds when no operation fails. -/
lemma run_writeAndPersist_eq_ok {mode : ℕ} {u : Unit} :
    (writeAndPersist tempfile faults temporary destination bytes force).run
        (disk.put temporary ⟨[], mode⟩) = .ok u disk' ↔
      faults.setPermissions = false ∧ faults.writeAll = none ∧ faults.syncAll = false ∧
        tempfile.persistAs force temporary destination (disk.put temporary ⟨bytes, 0o600⟩)
          = some disk' := by
  simp only [writeAndPersist, run_bind_eq_ok, run_setPermissions_eq_ok, run_rejectIf_eq_ok,
    run_orIo_eq_ok, Option.map_eq_some_iff]
  constructor
  · rintro ⟨_, _, ⟨hmode, rfl⟩, _, disk₁, hwrite, _, _, ⟨hsync, rfl⟩, disk₂, hpersist, hdisk⟩
    obtain rfl : disk₂ = disk' := congrArg Prod.snd hdisk
    rw [run_writeAll] at hwrite
    split_ifs at hwrite with hfault
    cases hwrite
    exact ⟨hmode, Option.not_isSome_iff_eq_none.mp hfault, Bool.not_eq_true _ ▸ hsync, hpersist⟩
  · rintro ⟨hmode, hwrite, hsync, hpersist⟩
    refine ⟨(), _, ⟨hmode, rfl⟩, (), disk.put temporary ⟨bytes, 0o600⟩, ?_, (), _,
      ⟨by simp [hsync], rfl⟩, disk', hpersist, rfl⟩
    rw [run_writeAll]
    simp [hwrite]

/-- Wherever it fails, only the temporary file has been written. -/
lemma run_writeAndPersist_eq_error {node : FileNode}
    (h : (writeAndPersist tempfile faults temporary destination bytes force).run
      (disk.put temporary node) = .error e disk') : ∃ node', disk' = disk.put temporary node' := by
  rcases run_bind_eq_error.mp h with hmode | ⟨_, disk₁, hmode, h⟩
  · exact ⟨node, atomic_setPermissions _ _ _ _ hmode⟩
  obtain ⟨-, rfl⟩ := run_setPermissions_eq_ok.mp hmode
  rcases run_bind_eq_error.mp h with hwrite | ⟨_, disk₂, hwrite, h⟩
  · rw [run_writeAll] at hwrite
    split_ifs at hwrite
    cases hwrite
    exact ⟨_, rfl⟩
  rw [run_writeAll] at hwrite
  split_ifs at hwrite
  cases hwrite
  exact ⟨_, Atomic.rejectIf_bind (fun _ => atomic_orIo _) _ _ _ h⟩

/-! ## Putting the file in place -/

/-- None of the operations up to the rename fails. -/
structure Places (tempfile : Tempfile) (faults : IoFaults) (disk : Disk) (bytes : Bytes)
    (destination : String) (force : Bool) : Prop where
  setPermissions : faults.setPermissions = false
  writeAll : faults.writeAll = none
  syncAll : faults.syncAll = false
  persist : ∃ temporary disk₁,
    tempfile.newIn (parentDirectory destination) disk = some (temporary, disk₁) ∧
      (tempfile.persistAs force temporary destination
        (disk.put temporary ⟨bytes, 0o600⟩)).isSome

lemma Tempfile.Lawful.persistAs (h : tempfile.Lawful)
    (hpersist : tempfile.persistAs force temporary destination disk = some disk') :
    (force = false → disk.Absent destination) ∧ ∃ node, disk.files temporary = some node ∧
      disk' = (disk.remove temporary).put destination node := by
  cases force with
  | true => exact ⟨nofun, h.persist hpersist⟩
  | false =>
      obtain ⟨habsent, hnode⟩ := h.persistNoclobber hpersist
      exact ⟨fun _ => habsent, hnode⟩

/-- Renaming the written temporary file puts its content at the destination. -/
lemma Tempfile.Lawful.persistAs_put (h : tempfile.Lawful) {node : FileNode}
    (hfresh : disk.files temporary = none)
    (hpersist : tempfile.persistAs force temporary destination (disk.put temporary node)
      = some disk') :
    (force = false → disk.Absent destination) ∧ disk' = disk.put destination node := by
  obtain ⟨habsent, node', hnode, rfl⟩ := h.persistAs hpersist
  obtain rfl : node = node' := by simpa [Disk.put] using hnode
  refine ⟨?_, by rw [Disk.remove_put hfresh]⟩
  intro hforce
  obtain ⟨hfile, hdir⟩ := habsent hforce
  refine ⟨?_, hdir⟩
  rcases eq_or_ne destination temporary with rfl | hne
  · exact hfresh
  · simpa [Disk.put, hne] using hfile

/-- Without `force` a file is put only where nothing was. -/
lemma Places.absent (h : tempfile.Lawful) (hplaces : Places tempfile faults disk bytes destination
    force) (hforce : force = false) : disk.Absent destination := by
  obtain ⟨temporary, disk₁, hnew, hsome⟩ := hplaces.persist
  obtain ⟨disk₂, hpersist⟩ := Option.isSome_iff_exists.mp hsome
  obtain ⟨hfresh, -⟩ := h.newIn hnew
  exact (h.persistAs_put hfresh hpersist).1 hforce

/-- **The file is put in place** exactly when none of the operations fails, with the bytes, and
nothing else on the disk changes. -/
lemma run_placeFile_eq_ok (h : tempfile.Lawful) {u : Unit} :
    (placeFile tempfile faults (parentDirectory destination) destination bytes force).run disk
        = .ok u disk' ↔
      Places tempfile faults disk bytes destination force ∧
        disk' = disk.put destination ⟨bytes, 0o600⟩ := by
  simp only [placeFile, run_bind_eq_ok, run_orIo_eq_ok, run_dropOnError_eq_ok]
  constructor
  · rintro ⟨temporary, disk₁, hnew, hrun⟩
    obtain ⟨hfresh, mode, rfl⟩ := h.newIn hnew
    obtain ⟨hmode, hwrite, hsync, hpersist⟩ := run_writeAndPersist_eq_ok.mp hrun
    obtain ⟨-, rfl⟩ := h.persistAs_put hfresh hpersist
    exact ⟨⟨hmode, hwrite, hsync, temporary, _, hnew, hpersist ▸ rfl⟩, rfl⟩
  · rintro ⟨⟨hmode, hwrite, hsync, temporary, disk₁, hnew, hsome⟩, rfl⟩
    obtain ⟨disk₂, hpersist⟩ := Option.isSome_iff_exists.mp hsome
    obtain ⟨hfresh, mode, rfl⟩ := h.newIn hnew
    obtain ⟨-, rfl⟩ := h.persistAs_put hfresh hpersist
    exact ⟨temporary, _, hnew, run_writeAndPersist_eq_ok.mpr ⟨hmode, hwrite, hsync, hpersist⟩⟩

/-- **Up to the rename a failure changes nothing**: the temporary file is gone again. -/
theorem atomic_placeFile (h : tempfile.Lawful) (parent : String) :
    Atomic (placeFile tempfile faults parent destination bytes force) := by
  intro disk e disk' hrun
  rcases run_bind_eq_error.mp hrun with hnew | ⟨temporary, disk₁, hnew, hrun⟩
  · exact atomic_orIo _ _ _ _ hnew
  obtain ⟨hfresh, mode, rfl⟩ := h.newIn (run_orIo_eq_ok.mp hnew)
  obtain ⟨disk₂, herror, rfl⟩ := run_dropOnError_eq_error.mp hrun
  obtain ⟨node, rfl⟩ := run_writeAndPersist_eq_error herror
  rw [h.drop, Disk.remove_put hfresh]

/-! ## The whole of `save_download` -/

variable {file : FileDescriptor} {requestedDestination : Option String}

/-- The checks that `save_download` makes before it touches the disk. -/
structure PassesChecks (file : FileDescriptor) (bytes : Bytes)
    (requestedDestination : Option String) (disk : Disk) (destination : String) : Prop where
  descriptor : validateFileDescriptor file = .ok ()
  size : bytes.length = file.sizeBytes
  chosen : chosenDestination file requestedDestination = .ok destination
  directory : disk.isDir (parentDirectory destination) = true

lemma sizeBytes_le_of_validateFileDescriptor (h : validateFileDescriptor file = .ok ()) :
    file.sizeBytes ≤ MAX_FILE_BYTES := by
  rw [validateFileDescriptor, rejectIf_eq_ok, not_not] at h
  exact h.2.2.2.2.1.1

/-- Without the checks nothing happens; with them the file is put in place and the directory
flushed. -/
lemma run_saveDownload_cases (tempfile : Tempfile) (faults : IoFaults) (file : FileDescriptor)
    (bytes : Bytes) (requestedDestination : Option String) (force : Bool) (disk : Disk) :
    ((∀ destination, ¬ PassesChecks file bytes requestedDestination disk destination) ∧
      ∃ e, (saveDownload tempfile faults file bytes requestedDestination force).run disk
        = .error e disk) ∨
    ∃ destination, PassesChecks file bytes requestedDestination disk destination ∧
      (saveDownload tempfile faults file bytes requestedDestination force).run disk =
        (do placeFile tempfile faults (parentDirectory destination) destination bytes force
            syncParentDirectory faults
            return destination).run disk := by
  rw [saveDownload, EStateM.run_bind]
  cases hdescriptor : validateFileDescriptor file with
  | error e =>
    refine Or.inl ⟨fun _ h => ?_, _, rfl⟩
    have hvalid := h.descriptor
    rw [hdescriptor] at hvalid
    cases hvalid
  | ok u =>
  simp only [Except.mapError, run_attempt_ok, run_rejectIf_bind]
  split_ifs with hbig hsize
  · refine Or.inl ⟨fun _ h => ?_, _, rfl⟩
    have hle := sizeBytes_le_of_validateFileDescriptor h.descriptor
    have hlimit : MAX_FILE_BYTES < 2 ^ 64 := by decide
    rw [h.size] at hbig
    omega
  · exact Or.inl ⟨fun _ h => hsize h.size, _, rfl⟩
  · rw [EStateM.run_bind]
    cases hdestination : chosenDestination file requestedDestination with
    | error e =>
      refine Or.inl ⟨fun _ h => ?_, _, rfl⟩
      have hchosen := h.chosen
      rw [hdestination] at hchosen
      cases hchosen
    | ok destination =>
    simp only [run_attempt_ok, EStateM.run_bind, EStateM.run_get, run_rejectIf]
    split_ifs with hdir
    · refine Or.inl ⟨fun other h => ?_, _, rfl⟩
      obtain rfl : destination = other := Except.ok.inj (hdestination.symm.trans h.chosen)
      exact Bool.false_ne_true (hdir.symm.trans h.directory)
    · have hdir' := Bool.not_eq_false _ ▸ hdir
      exact Or.inr ⟨destination, ⟨hdescriptor, not_not.mp hsize, hdestination, hdir'⟩, rfl⟩

lemma run_syncParentDirectory (disk : Disk) :
    (syncParentDirectory faults).run disk =
      if faults.openParent ∨ faults.syncParent then .error .Io disk else .ok () disk := by
  rw [syncParentDirectory, run_rejectIf_bind, run_rejectIf]
  cases faults.openParent with
  | true => simp
  | false => simp

/-- **One call**: nothing happens, or the file is in place and the answer says whether the
directory could be flushed. -/
lemma run_saveDownload (h : tempfile.Lawful) (faults : IoFaults) (file : FileDescriptor)
    (bytes : Bytes) (requestedDestination : Option String) (force : Bool) (disk : Disk) :
    ((∃ e, (saveDownload tempfile faults file bytes requestedDestination force).run disk
        = .error e disk) ∧
      ∀ destination, PassesChecks file bytes requestedDestination disk destination →
        ¬ Places tempfile faults disk bytes destination force) ∨
    ∃ destination, PassesChecks file bytes requestedDestination disk destination ∧
      Places tempfile faults disk bytes destination force ∧
      (saveDownload tempfile faults file bytes requestedDestination force).run disk =
        if faults.openParent ∨ faults.syncParent then
          .error .Io (disk.put destination ⟨bytes, 0o600⟩)
        else .ok destination (disk.put destination ⟨bytes, 0o600⟩) := by
  rcases run_saveDownload_cases tempfile faults file bytes requestedDestination force disk with
    ⟨hreject, e, hrun⟩ | ⟨destination, hchecks, hrun⟩
  · exact Or.inl ⟨⟨e, hrun⟩, fun destination h => absurd h (hreject destination)⟩
  rw [hrun, EStateM.run_bind]
  cases hplace : (placeFile tempfile faults (parentDirectory destination) destination bytes
      force).run disk with
  | error e disk' =>
      obtain rfl := atomic_placeFile h _ _ _ _ hplace
      refine Or.inl ⟨⟨e, rfl⟩, ?_⟩
      intro other hother hplaces
      obtain rfl : destination = other := Except.ok.inj (hchecks.chosen.symm.trans hother.chosen)
      have hok := (run_placeFile_eq_ok (u := ()) h).mpr ⟨hplaces, rfl⟩
      exact nomatch hplace.symm.trans hok
  | ok u disk' =>
      obtain ⟨hplaces, rfl⟩ := (run_placeFile_eq_ok h).mp hplace
      refine Or.inr ⟨destination, hchecks, hplaces, ?_⟩
      simp only [EStateM.run_bind, run_syncParentDirectory]
      split_ifs
      · rfl
      · rfl

/-- After an error every file has the content it had, and no other file is there; after `Ok(path)`
the path holds the bytes, as many as were declared, nothing else has changed, and without `force`
nothing was there. -/
structure AllOrNothing (tempfile : Tempfile) (faults : IoFaults) (file : FileDescriptor)
    (bytes : Bytes) (requestedDestination : Option String) (force : Bool) (disk : Disk) :
    Prop where
  error : ∀ e disk', (saveDownload tempfile faults file bytes requestedDestination force).run disk
    = .error e disk' → ∀ path, disk'.content path = disk.content path
  ok : ∀ path disk', (saveDownload tempfile faults file bytes requestedDestination force).run disk
    = .ok path disk' →
      chosenDestination file requestedDestination = .ok path ∧ disk'.content path = some bytes ∧
      bytes.length = file.sizeBytes ∧ (force = false → disk.Absent path) ∧
      ∀ other, other ≠ path → disk'.content other = disk.content other

/-- The file is put in place, its content is new there, and then the parent directory can not be
opened or not be flushed. -/
def PlacedUnsynced (tempfile : Tempfile) (faults : IoFaults) (file : FileDescriptor)
    (bytes : Bytes) (requestedDestination : Option String) (force : Bool) (disk : Disk) : Prop :=
  (faults.openParent = true ∨ faults.syncParent = true) ∧
    ∃ destination, PassesChecks file bytes requestedDestination disk destination ∧
      Places tempfile faults disk bytes destination force ∧
      disk.content destination ≠ some bytes

lemma not_allOrNothing_of_placedUnsynced (h : tempfile.Lawful)
    (hunsynced : PlacedUnsynced tempfile faults file bytes requestedDestination force disk) :
    ¬ AllOrNothing tempfile faults file bytes requestedDestination force disk := by
  intro hall
  obtain ⟨hfault, destination, hchecks, hplaces, hnew⟩ := hunsynced
  rcases run_saveDownload h faults file bytes requestedDestination force disk with
    ⟨-, hnone⟩ | ⟨other, hother, -, hrun⟩
  · exact hnone destination hchecks hplaces
  · obtain rfl : other = destination := Except.ok.inj (hother.chosen.symm.trans hchecks.chosen)
    rw [if_pos hfault] at hrun
    refine hnew ?_
    rw [← hall.error _ _ hrun other, Disk.content_put_self]

lemma allOrNothing_of_not_placedUnsynced (h : tempfile.Lawful)
    (hsynced : ¬ PlacedUnsynced tempfile faults file bytes requestedDestination force disk) :
    AllOrNothing tempfile faults file bytes requestedDestination force disk := by
  rcases run_saveDownload h faults file bytes requestedDestination force disk with
    ⟨⟨e, hrun⟩, -⟩ | ⟨destination, hchecks, hplaces, hrun⟩
  · refine ⟨?_, ?_⟩
    · intro e' disk' herror path
      rw [hrun] at herror
      cases herror
      rfl
    · intro path disk' hok
      exact nomatch hrun.symm.trans hok
  · split_ifs at hrun with hfault
    · -- the file is in place, but its bytes were there before
      have hsame : disk.content destination = some bytes :=
        not_not.mp fun hnew => hsynced ⟨hfault, destination, hchecks, hplaces, hnew⟩
      refine ⟨?_, ?_⟩
      · intro e disk' herror path
        rw [hrun] at herror
        cases herror
        rcases eq_or_ne path destination with rfl | hne
        · rw [Disk.content_put_self, hsame]
        · exact Disk.content_put_of_ne hne
      · intro path disk' hok
        exact nomatch hrun.symm.trans hok
    · refine ⟨?_, ?_⟩
      · intro e disk' herror
        exact nomatch hrun.symm.trans herror
      · intro path disk' hok
        rw [hrun] at hok
        cases hok
        exact ⟨hchecks.chosen, Disk.content_put_self, hchecks.size, hplaces.absent h,
          fun other hne => Disk.content_put_of_ne hne⟩

/-- **All or nothing.**  For every disk, every pattern of failures and every way of calling it,
`save_download` is all-or-nothing if and only if it is not the case that the file has been put in
place with a new content and its directory can then not be opened or flushed. -/
theorem save_all_or_nothing_iff (tempfile : Tempfile) (h : tempfile.Lawful) (faults : IoFaults)
    (file : FileDescriptor) (bytes : Bytes) (requestedDestination : Option String) (force : Bool)
    (disk : Disk) :
    AllOrNothing tempfile faults file bytes requestedDestination force disk ↔
      ¬ PlacedUnsynced tempfile faults file bytes requestedDestination force disk :=
  ⟨fun hall hunsynced => not_allOrNothing_of_placedUnsynced h hunsynced hall,
    allOrNothing_of_not_placedUnsynced h⟩

end

/-! ## A directory that cannot be flushed -/

/-- A `tempfile` that always draws the same name and fails only where it must. -/
def exampleTempfile : Tempfile where
  newIn dir disk :=
    let temporary := dir ++ "/.tmpKq3v9T"
    if disk.files temporary = none then some (temporary, disk.put temporary ⟨[], 0o600⟩) else none
  persist temporary destination disk :=
    if disk.isDir destination then none
    else (disk.files temporary).map fun node => (disk.remove temporary).put destination node
  persistNoclobber temporary destination disk :=
    if disk.files destination = none ∧ disk.isDir destination = false then
      (disk.files temporary).map fun node => (disk.remove temporary).put destination node
    else none
  drop temporary disk := disk.remove temporary

lemma lawful_exampleTempfile : exampleTempfile.Lawful where
  newIn := by
    intro dir disk temporary disk' hnew
    simp only [exampleTempfile] at hnew
    split_ifs at hnew with hfresh
    simp only [Option.some.injEq, Prod.mk.injEq] at hnew
    obtain ⟨rfl, rfl⟩ := hnew
    exact ⟨hfresh, 0o600, rfl⟩
  persist := by
    intro temporary destination disk disk' hpersist
    simp only [exampleTempfile] at hpersist
    split_ifs at hpersist
    obtain ⟨node, hnode, rfl⟩ := Option.map_eq_some_iff.mp hpersist
    exact ⟨node, hnode, rfl⟩
  persistNoclobber := by
    intro temporary destination disk disk' hpersist
    simp only [exampleTempfile] at hpersist
    split_ifs at hpersist with habsent
    obtain ⟨node, hnode, rfl⟩ := Option.map_eq_some_iff.mp hpersist
    exact ⟨habsent, node, hnode, rfl⟩
  drop _ _ := rfl

def photo : FileDescriptor where
  fileId := 1
  name := "photo.jpg"
  mediaType := "application/octet-stream"
  sizeBytes := 3
  bytesTransferred := 3
  status := "available"
  createdAt := "2026-01-01T00:00:00Z"

def photoBytes : Bytes := [0x6f, 0x6e, 0x65]

/-- A disk without files. -/
def emptyDisk : Disk := { files := fun _ => none, isDir := fun path => path = "." }

def noFaults : IoFaults :=
  { setPermissions := false, writeAll := none, syncAll := false, openParent := false
    syncParent := false }

/-- The last flush fails, and nothing before it. -/
def syncFault : IoFaults := { noFaults with syncParent := true }

lemma isPortableName_photo : IsPortableName "photo.jpg" where
  nonempty := by decide
  bytes := by decide
  control := by simp [isControl]
  punctuation := by simp
  trailing := by simp
  device := by decide
  separator := by decide

lemma validateFileDescriptor_photo : validateFileDescriptor photo = .ok () := by
  have hname := safeDefaultDestination_of_isPortableName isPortableName_photo
  rw [validateFileDescriptor, rejectIf_eq_ok, not_not]
  refine ⟨by decide, ⟨by decide, by decide, by decide, ?_⟩, by decide, by decide, by decide,
    by decide⟩
  show (safeDefaultDestination "photo.jpg").isOk = true
  rw [hname]
  rfl

lemma passesChecks_photo :
    PassesChecks photo photoBytes none emptyDisk "photo.jpg" where
  descriptor := validateFileDescriptor_photo
  size := rfl
  chosen := by
    rw [chosenDestination, Option.elim_none]
    exact safeDefaultDestination_of_isPortableName isPortableName_photo
  directory := by decide

lemma places_photo {faults : IoFaults} (hmode : faults.setPermissions = false)
    (hwrite : faults.writeAll = none) (hsync : faults.syncAll = false) :
    Places exampleTempfile faults emptyDisk photoBytes "photo.jpg" false := by
  have hparent : parentDirectory "photo.jpg" = "." := by decide +kernel
  refine ⟨hmode, hwrite, hsync, "./.tmpKq3v9T", emptyDisk.put "./.tmpKq3v9T" ⟨[], 0o600⟩, ?_, ?_⟩
  · rw [hparent]
    rfl
  · decide +kernel

/-- When nothing fails, `photo.jpg` is saved. -/
theorem save_all_or_nothing_photo :
    AllOrNothing exampleTempfile noFaults photo photoBytes none false emptyDisk :=
  (save_all_or_nothing_iff exampleTempfile lawful_exampleTempfile noFaults photo photoBytes none
    false emptyDisk).mpr fun hunsynced => by simpa [noFaults] using hunsynced.1

/-- **A download that fails and is there.**  When the directory cannot be flushed the answer is an
error, `photo.jpg` holds the bytes, and retrying the same call fails although nothing fails any
more. -/
theorem unsynced_download_in_place :
    ¬ AllOrNothing exampleTempfile syncFault photo photoBytes none false emptyDisk ∧
    ∃ disk', (saveDownload exampleTempfile syncFault photo photoBytes none false).run emptyDisk
        = .error .Io disk' ∧
      emptyDisk.content "photo.jpg" = none ∧ disk'.content "photo.jpg" = some photoBytes ∧
      ∃ e, (saveDownload exampleTempfile noFaults photo photoBytes none false).run disk'
        = .error e disk' := by
  have hplaces : Places exampleTempfile syncFault emptyDisk photoBytes "photo.jpg" false :=
    places_photo rfl rfl rfl
  have hunsynced : PlacedUnsynced exampleTempfile syncFault photo photoBytes none false emptyDisk :=
    ⟨Or.inr rfl, "photo.jpg", passesChecks_photo, hplaces, nofun⟩
  refine ⟨not_allOrNothing_of_placedUnsynced lawful_exampleTempfile hunsynced,
    emptyDisk.put "photo.jpg" ⟨photoBytes, 0o600⟩, ?_, rfl, Disk.content_put_self, ?_⟩
  · rcases run_saveDownload lawful_exampleTempfile syncFault photo photoBytes none false emptyDisk
      with ⟨-, hnone⟩ | ⟨destination, hchecks, -, hrun⟩
    · exact absurd hplaces (hnone _ passesChecks_photo)
    · obtain rfl : "photo.jpg" = destination :=
        Except.ok.inj (passesChecks_photo.chosen.symm.trans hchecks.chosen)
      rw [hrun, if_pos hunsynced.1]
  · rcases run_saveDownload lawful_exampleTempfile noFaults photo photoBytes none false
      (emptyDisk.put "photo.jpg" ⟨photoBytes, 0o600⟩) with ⟨herror, -⟩ | ⟨destination, hchecks,
        hplaces', -⟩
    · exact herror
    · -- without `force` the rename needs the destination to be absent
      obtain rfl : "photo.jpg" = destination :=
        Except.ok.inj (passesChecks_photo.chosen.symm.trans hchecks.chosen)
      exact nomatch (hplaces'.absent lawful_exampleTempfile rfl).1

end FtnlDesktop.Receive
