import FtnlDesktop.Workspace.Model

/-!
# The clipboard side of the desktop app

The methods of `DesktopApp` in `src/desktop/app.rs` that touch the workspace: the periodic poll of
`update`, the tray actions of `process_shell`, and what the buttons of `render_clipboard` and
`render_privacy` do.  A `Desktop` is the app together with the system clipboard and the items that
the current frame shows, which `render_clipboard` clones before any of their buttons is handled.

Every button can be clicked at any time.  In the app a click needs its page to be shown, so its
runs are among those of the model.

What the environment decides during one input is in `Outside`: fresh identifiers, what the two
clocks show, and whether the system clipboard answers.  A clock that an input reads twice is there
twice.
-/

namespace FtnlDesktop.Clipboard

/-! ## The shell -/

inductive ShellAction where
  | OpenWindow
  | HideWindow
  | PauseCapture
  | ResumeCapture
  | Quit
deriving DecidableEq, Repr

structure ShellState where
  windowVisible : Bool
  captureActive : Bool
  quitRequested : Bool
deriving DecidableEq, Repr

namespace ShellState

def default : ShellState :=
  { windowVisible := true, captureActive := false, quitRequested := false }

def apply (state : ShellState) : ShellAction → ShellState
  | .OpenWindow => { state with windowVisible := true }
  | .HideWindow => { state with windowVisible := false }
  | .PauseCapture => { state with captureActive := false }
  | .ResumeCapture => { state with captureActive := true }
  | .Quit => { state with quitRequested := true }

def onCloseRequested (state : ShellState) (trayAvailable : Bool) : Bool × ShellState :=
  if state.quitRequested ∨ ¬ trayAvailable then (false, state)
  else (true, { state with windowVisible := false })

end ShellState

/-! ## The app -/

/-- `WorkspaceError::to_string`. -/
def errorMessage : WorkspaceError → String
  | .CapturePaused => "clipboard capture is paused"
  | .DuplicateCommand => "the command was already applied"
  | .ExcludedSource => "the clipboard source is excluded"
  | .InvalidContentHash => "clipboard content metadata is invalid"
  | .InvalidContentSize => "clipboard content is outside the supported bounds"
  | .InvalidRetention => "the retention policy is outside the supported bounds"
  | .InvalidSearch => "the search query is outside the supported bounds"
  | .InvalidSourceFingerprint => "a source fingerprint is malformed"
  | .ItemNotFound => "the clipboard item does not exist"
  | .RevisionConflict => "the workspace revision changed"
  | .RevisionOverflow => "the workspace revision cannot advance further"
  | .InvalidSnapshot => "the workspace snapshot is invalid"

/-- The clipboard fields of the struct.  `tray` and `clipboard` say whether there is one. -/
structure DesktopApp where
  tray : Bool
  shell : ShellState
  clipboard : Bool
  workspace : ClipboardWorkspace
  lastClipboardHash : Option String
  lastClipboardPoll : Instant
  workspaceMessage : Option String
  sourceExclusionInput : String
deriving DecidableEq

/-- What the environment decides during one input. -/
structure Outside where
  commandId : Uuid
  itemId : Uuid
  capturedAt : SystemTime
  now : SystemTime
  /-- What `last_clipboard_poll.elapsed()` reads. -/
  checked : Instant
  /-- What `Instant::now()` reads, after that. -/
  instant : Instant
  /-- Whether `get_text` answers, if there is a text. -/
  readable : Bool
  /-- Whether `set_text` succeeds. -/
  writable : Bool
deriving DecidableEq

/-- What was clicked in the row of an item. -/
structure RowClicks where
  delete : Bool
  pin : Bool
  copy : Bool
deriving DecidableEq

namespace DesktopApp

/-- `DesktopApp::new` at the instant `now`. -/
def new (tray clipboard : Bool) (now : Instant) : DesktopApp where
  tray
  shell := .default
  clipboard
  workspace := .default
  lastClipboardHash := none
  lastClipboardPoll := now
  workspaceMessage := none
  sourceExclusionInput := ""

variable (sha256 : Bytes → Digest) (outside : Outside)

def applyWorkspaceAction (self : DesktopApp) (action : WorkspaceAction) : Bool × DesktopApp :=
  match (apply sha256 outside.commandId self.workspace.revision action outside.now).run
      self.workspace with
  | .ok _ workspace => (true, { self with workspace, workspaceMessage := none })
  | .error error workspace =>
      (false, { self with workspace, workspaceMessage := some (errorMessage error) })

def setCaptureActive (self : DesktopApp) (active : Bool) : DesktopApp :=
  let expected := if active then CaptureState.Active else CaptureState.Paused
  let self :=
    if self.workspace.captureState ≠ expected then
      (self.applyWorkspaceAction sha256 outside
        (if active then .ResumeCapture else .PauseCapture)).2
    else
      self
  { self with
    shell := { self.shell with captureActive := self.workspace.captureState = .Active } }

/-- `clipboard.get_text().ok()`. -/
def getText (systemClipboard : Option String) : Option String :=
  if outside.readable then systemClipboard else none

def captureClipboardText (self : DesktopApp) (systemClipboard : Option String)
    (reportEmpty : Bool) : DesktopApp :=
  if self.workspace.captureState ≠ .Active then self
  else if ¬ self.clipboard then
    if reportEmpty then
      { self with
        workspaceMessage := some "Clipboard access is unavailable on this system." }
    else self
  else
    match getText outside systemClipboard with
    | none =>
        if reportEmpty then
          { self with workspaceMessage := some "The clipboard does not contain plain text." }
        else self
    | some text =>
        if text.isEmpty then self
        else
          let contentSha256 := contentSha256Hex sha256 text
          if self.lastClipboardHash = some contentSha256 then
            if reportEmpty then
              { self with workspaceMessage := some "That clipboard item is already current." }
            else self
          else
            match self.applyWorkspaceAction sha256 outside
              (.IngestText outside.itemId text contentSha256 text.utf8ByteSize outside.capturedAt
                none) with
            | (true, self) => { self with lastClipboardHash := some contentSha256 }
            | (false, self) => self

def pollClipboard (self : DesktopApp) (systemClipboard : Option String) : DesktopApp :=
  if self.workspace.captureState = .Active
      ∧ elapsed outside.checked self.lastClipboardPoll ≥ fromMillis 750 then
    { self with lastClipboardPoll := outside.instant }.captureClipboardText sha256 outside
      systemClipboard false
  else
    self

/-- One round of the loop of `process_shell`. -/
def processShellAction (self : DesktopApp) (action : ShellAction) : DesktopApp :=
  if self.tray then
    match action with
    | .OpenWindow => { self with shell := self.shell.apply action }
    | .HideWindow => { self with shell := self.shell.apply action }
    | .PauseCapture => self.setCaptureActive sha256 outside false
    | .ResumeCapture => self.setCaptureActive sha256 outside true
    | .Quit => { self with shell := self.shell.apply action }
  else
    self

/-- The end of `process_shell`. -/
def closeRequested (self : DesktopApp) : DesktopApp :=
  { self with shell := (self.shell.onCloseRequested self.tray).2 }

/-- "Clear unpinned", which is disabled when everything is pinned. -/
def clearUnpinned (self : DesktopApp) : DesktopApp :=
  if self.workspace.items.any fun item => !item.isPinned then
    (self.applyWorkspaceAction sha256 outside .ClearUnpinned).2
  else
    self

/-- "Apply retention policy", which is disabled when the form shows the current policy. -/
def applyRetentionPolicy (self : DesktopApp) (policy : RetentionPolicy) : DesktopApp :=
  if policy ≠ self.workspace.retention then
    (self.applyWorkspaceAction sha256 outside (.SetRetention policy)).2
  else
    self

/-- "Add". -/
def addExclusion (self : DesktopApp) : DesktopApp :=
  let values := self.workspace.excludedSourceFingerprints.elems ++ [trim self.sourceExclusionInput]
  match self.applyWorkspaceAction sha256 outside (.SetSourceExclusions values) with
  | (true, self) => { self with sourceExclusionInput := "" }
  | (false, self) => self

/-- "Remove". -/
def removeExclusion (self : DesktopApp) (fingerprint : String) : DesktopApp :=
  let values := self.workspace.excludedSourceFingerprints.elems.filter (· ≠ fingerprint)
  (self.applyWorkspaceAction sha256 outside (.SetSourceExclusions values)).2

end DesktopApp

/-! ## The desktop -/

structure Desktop where
  app : DesktopApp
  /-- The plain text on the system clipboard, if it holds one. -/
  systemClipboard : Option String
  /-- The local `items` of `render_clipboard`. -/
  items : List ClipboardItem
deriving DecidableEq

inductive Event where
  | ShellAction (action : ShellAction)
  | CloseRequested
  | Poll
  | ToggleCapture
  | CaptureNow
  | Search (query : String)
  | ClearUnpinned
  | ShowItems
  | Row (index : ℕ) (clicks : RowClicks)
  | ApplyRetention (policy : RetentionPolicy)
  | EditExclusion (text : String)
  | AddExclusion
  | RemoveExclusion (fingerprint : String)
  /-- Another application changes the system clipboard. -/
  | External (text : Option String)
deriving DecidableEq

structure Input where
  event : Event
  outside : Outside
deriving DecidableEq

section

variable (sha256 : Bytes → Digest) (toLowercase : String → String)

def copyClipboardItem (outside : Outside) (desktop : Desktop) (item : ClipboardItem) : Desktop :=
  let self := desktop.app
  if ¬ self.clipboard then
    { desktop with
      app := { self with
        workspaceMessage := some "Clipboard access is unavailable on this system." } }
  else if outside.writable then
    { desktop with
      systemClipboard := some item.text
      app := { self with
        lastClipboardHash := some item.contentSha256
        workspaceMessage := some "Copied to the system clipboard." } }
  else
    { desktop with
      app := { self with workspaceMessage := some "The clipboard could not be updated." } }

/-- The action of a row: a later button overwrites an earlier one. -/
def RowClicks.action (clicks : RowClicks) (item : ClipboardItem) : Option WorkspaceAction :=
  if clicks.pin then
    some (if item.isPinned then .UnpinItem item.itemId else .PinItem item.itemId)
  else if clicks.delete then some (.DeleteItem item.itemId)
  else none

/-- The row of an item, after its buttons have been shown. -/
def handleRow (outside : Outside) (desktop : Desktop) (item : ClipboardItem) (clicks : RowClicks) :
    Desktop :=
  let desktop := if clicks.copy then copyClipboardItem outside desktop item else desktop
  match clicks.action item with
  | some action =>
      { desktop with app := (desktop.app.applyWorkspaceAction sha256 outside action).2 }
  | none => desktop

def step (desktop : Desktop) (input : Input) : Desktop :=
  let self := desktop.app
  let outside := input.outside
  match input.event with
  | .ShellAction action => { desktop with app := self.processShellAction sha256 outside action }
  | .CloseRequested => { desktop with app := self.closeRequested }
  | .Poll =>
      { desktop with app := self.pollClipboard sha256 outside desktop.systemClipboard }
  | .ToggleCapture =>
      { desktop with
        app := self.setCaptureActive sha256 outside (self.workspace.captureState ≠ .Active) }
  | .CaptureNow =>
      { desktop with
        app := self.captureClipboardText sha256 outside desktop.systemClipboard true }
  | .Search query =>
      { desktop with app := (self.applyWorkspaceAction sha256 outside (.SetSearch query)).2 }
  | .ClearUnpinned => { desktop with app := self.clearUnpinned sha256 outside }
  | .ShowItems => { desktop with items := visibleItems toLowercase self.workspace }
  | .Row index clicks =>
      match desktop.items[index]? with
      | some item => handleRow sha256 outside desktop item clicks
      | none => desktop
  | .ApplyRetention policy =>
      { desktop with app := self.applyRetentionPolicy sha256 outside policy }
  | .EditExclusion text => { desktop with app := { self with sourceExclusionInput := text } }
  | .AddExclusion => { desktop with app := self.addExclusion sha256 outside }
  | .RemoveExclusion fingerprint =>
      { desktop with app := self.removeExclusion sha256 outside fingerprint }
  | .External text => { desktop with systemClipboard := text }

end

/-- The desktop at the start of the app. -/
def Desktop.start (tray clipboard : Bool) (now : Instant) (systemClipboard : Option String) :
    Desktop :=
  { app := .new tray clipboard now, systemClipboard, items := [] }

end FtnlDesktop.Clipboard
