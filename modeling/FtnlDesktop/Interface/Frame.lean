import FtnlDesktop.Interface.Shell
import FtnlDesktop.Receive.Progress

/-!
# A frame of the app

`eframe::App::update` for `DesktopApp`, from `src/desktop/app.rs`: the tray and the window, the
answers of the worker, the poll of the clipboard, the timer, the navigation, and the page that is
shown.  The clipboard side and the receive side of the struct are modelled by themselves; here
they are put together again, with the worker thread and the system clipboard around them.

A frame is a function of its `FrameInput`, which holds what the widgets report and everything that
happens beside the interface thread: the worker thread works on and other applications write to the
clipboard between any two widgets (`Click`).  What is drawn is left out.

The loop of `process_responses` is run with fuel for three looks into the channel; that this is
always enough is a theorem.
-/

namespace FtnlDesktop.Interface

open Clipboard (Outside RowClicks)
open Receive (Env FileDescriptor SystemInput WorkerStep)

inductive WorkspacePage where
  | Clipboard
  | Receive
  | Privacy
deriving DecidableEq, Repr

/-- What the app calls outside the repository. -/
structure Libraries where
  app : Receive.AppCrates
  sha256 : Bytes → Digest
  toLowercase : String → String

/-- `DesktopApp`, with the worker thread and the system clipboard. -/
structure World where
  clipboard : Clipboard.DesktopApp
  receive : Receive.System
  page : WorkspacePage
  systemClipboard : Option String
deriving DecidableEq

/-- The start of the app, which reads the clock for the poll and again for the refreshes. -/
def World.start (tray clipboard : Bool) (polled refreshed : Instant)
    (systemClipboard : Option String) : World where
  clipboard := .new tray clipboard polled
  receive := .start refreshed
  page := .Clipboard
  systemClipboard

/-! ## Beside the interface thread -/

inductive OtherStep where
  | Worker (step : WorkerStep)
  /-- Another application changes the system clipboard. -/
  | External (text : Option String)

/-- A widget that reports something, with what has happened before it is asked. -/
structure Click (α : Type) where
  others : List OtherStep
  value : α

namespace World

variable (lib : Libraries)

def other (self : World) : OtherStep → World
  | .Worker step => { self with receive := self.receive.step lib.app step.input }
  | .External text => { self with systemClipboard := text }

def others (self : World) (steps : List OtherStep) : World := steps.foldl (other lib) self

/-- `if widget.clicked() { … }`. -/
def on {α : Type} (self : World) (click : Option (Click α)) (body : World → α → World) : World :=
  match click with
  | some click => body (self.others lib click.others) click.value
  | none => self

def mapClipboard (self : World) (f : Clipboard.DesktopApp → Clipboard.DesktopApp) : World :=
  { self with clipboard := f self.clipboard }

def mapReceive (self : World) (f : Receive.DesktopApp → Receive.DesktopApp) : World :=
  { self with receive := { self.receive with app := f self.receive.app } }

end World

/-! ## The clipboard page -/

/-- What the widgets of `render_clipboard` report.  `rows` are those of the items shown. -/
structure ClipboardPage where
  toggleCapture : Option (Click Outside)
  captureNow : Option (Click Outside)
  search : Option (Click (String × Outside))
  clearUnpinned : Option (Click Outside)
  rows : ℕ → Click (RowClicks × Outside)

namespace World

variable (lib : Libraries)

/-- The row of an item. -/
def renderRow (self : World) (item : ClipboardItem) (clicks : RowClicks) (outside : Outside) :
    World :=
  let desktop := Clipboard.handleRow lib.sha256 outside
    { app := self.clipboard, systemClipboard := self.systemClipboard, items := [] } item clicks
  { self with clipboard := desktop.app, systemClipboard := desktop.systemClipboard }

/-- `for item in items`. -/
def renderRows (rows : ℕ → Click (RowClicks × Outside)) : List ClipboardItem → World → World
  | [], self => self
  | item :: items, self =>
      let self := self.others lib (rows 0).others
      renderRows (fun n => rows (n + 1)) items
        (self.renderRow lib item (rows 0).value.1 (rows 0).value.2)

def renderClipboard (page : ClipboardPage) (self : World) : World :=
  let active := self.clipboard.workspace.captureState = .Active
  let self := self.on lib page.toggleCapture fun self outside =>
    self.mapClipboard fun app => app.setCaptureActive lib.sha256 outside (¬ active)
  let self :=
    if active then
      self.on lib page.captureNow fun self outside =>
        self.mapClipboard fun app =>
          app.captureClipboardText lib.sha256 outside self.systemClipboard true
    else self
  let self := self.on lib page.search fun self (query, outside) =>
    self.mapClipboard fun app =>
      (app.applyWorkspaceAction lib.sha256 outside (.SetSearch query)).2
  let self := self.on lib page.clearUnpinned fun self outside =>
    self.mapClipboard fun app => app.clearUnpinned lib.sha256 outside
  let items := visibleItems lib.toLowercase self.clipboard.workspace
  self.renderRows lib page.rows items

end World

/-! ## The receive page -/

/-- `ftnl_ui_components::PickerAction`. -/
inductive PickerAction where
  | ChooseLocal
  | ChooseRemote
  | Retry
  | Cancel
deriving DecidableEq, Repr

/-- What the widgets of `render_receive` report.  `radios` are those of the files shown. -/
structure ReceivePage where
  baseUrl : Option String
  applicationId : Option String
  create : Option (Click Env)
  refresh : Option (Click Env)
  picker : Option (Click (PickerAction × Env))
  radios : ℕ → Bool
  destination : Option String
  force : Option Bool
  download : Option (Click Env)

section

variable (crates : Receive.AppCrates)

/-- The text fields of the address and the application. -/
def editService (page : ReceivePage) (app : Receive.DesktopApp) : Receive.DesktopApp :=
  if app.session.isNone ∧ ¬ app.lifecycle.isInFlight then
    { app with
      baseUrl := page.baseUrl.getD app.baseUrl
      applicationId := page.applicationId.getD app.applicationId }
  else app

/-- `for file in &self.files`, with the radio button of each file that is available. -/
def renderRadios (radios : ℕ → Bool) :
    List FileDescriptor → Receive.DesktopApp → Receive.DesktopApp
  | [], app => app
  | file :: files, app =>
      renderRadios (fun n => radios (n + 1)) files
        (if Receive.isAvailable crates file.status ∧ radios 0 then
          { app with selectedFile := some file.fileId }
        else app)

/-- The picker's action. -/
def pickerAction (env : Env) (app : Receive.DesktopApp) : PickerAction → Receive.DesktopApp
  | .ChooseRemote => app.create crates env
  | .Retry => app.retry crates env
  | .Cancel => app.cancel crates env
  | .ChooseLocal =>
      { app with message := some "Local file browsing remains in the host application." }

/-- `ui.add_enabled(self.lifecycle.can(command), …)`, and what a click does. -/
def ifCan (command : Receive.Command) (f : Receive.DesktopApp → Receive.DesktopApp)
    (app : Receive.DesktopApp) : Receive.DesktopApp :=
  if app.lifecycle.can crates.picker command then f app else app

end

namespace World

variable (lib : Libraries)

def renderReceive (page : ReceivePage) (self : World) : World :=
  let self := self.mapReceive (editService page)
  let self := self.on lib page.create fun self env =>
    self.mapReceive (ifCan lib.app .Start fun app => app.create lib.app env)
  let self := self.on lib page.refresh fun self env =>
    self.mapReceive (ifCan lib.app .Refresh fun app => app.refresh lib.app env)
  let self := self.on lib page.picker fun self (action, env) =>
    self.mapReceive fun app => pickerAction lib.app env app action
  if self.receive.app.files.isEmpty then self
  else
    let self := self.mapReceive fun app => renderRadios lib.app page.radios app.files app
    let self := self.mapReceive fun app => { app with
      destination := page.destination.getD app.destination
      force := page.force.getD app.force }
    self.on lib page.download fun self env =>
      self.mapReceive (ifCan lib.app .Download fun app => app.download lib.app env)

end World

/-! ## The privacy page -/

/-- What the widgets of `render_privacy` report.  `remove` are those of the exclusions shown. -/
structure PrivacyPage where
  applyRetention : Option (Click (RetentionPolicy × Outside))
  sourceExclusionInput : Option String
  add : Option (Click Outside)
  remove : ℕ → Option (Click Outside)

namespace World

variable (lib : Libraries)

/-- `for fingerprint in exclusions`. -/
def renderExclusions (remove : ℕ → Option (Click Outside)) : List String → World → World
  | [], self => self
  | fingerprint :: exclusions, self =>
      renderExclusions (fun n => remove (n + 1)) exclusions
        (self.on lib (remove 0) fun self outside =>
          self.mapClipboard fun app => app.removeExclusion lib.sha256 outside fingerprint)

def renderPrivacy (page : PrivacyPage) (self : World) : World :=
  let self := self.on lib page.applyRetention fun self (policy, outside) =>
    self.mapClipboard fun app => app.applyRetentionPolicy lib.sha256 outside policy
  let self := self.mapClipboard fun app => { app with
    sourceExclusionInput := page.sourceExclusionInput.getD app.sourceExclusionInput }
  let self := self.on lib page.add fun self outside =>
    self.mapClipboard fun app => app.addExclusion lib.sha256 outside
  self.renderExclusions lib page.remove
    self.clipboard.workspace.excludedSourceFingerprints.elems

end World

/-! ## The frame -/

structure FrameInput where
  /-- What has happened since the last frame. -/
  others : List OtherStep
  shell : ShellEvents
  /-- What the worker does before each look into the channel of the answers. -/
  schedule : ℕ → List WorkerStep
  responseEnv : ℕ → Env
  poll : Click Outside
  /-- What `last_refresh.elapsed()` reads, and the environment of the refresh. -/
  timer : Click (Instant × Env)
  navigation : Option WorkspacePage
  clipboardPage : ClipboardPage
  receivePage : ReceivePage
  privacyPage : PrivacyPage

namespace World

variable (lib : Libraries)

/-- The page that is shown. -/
def renderPage (input : FrameInput) (self : World) : World :=
  match self.page with
  | .Clipboard => self.renderClipboard lib input.clipboardPage
  | .Receive => self.renderReceive lib input.receivePage
  | .Privacy => self.renderPrivacy lib input.privacyPage

/-- `update` from the poll of the clipboard on. -/
def afterResponses (input : FrameInput) (self : World) : World :=
  let self := self.others lib input.poll.others
  let self := self.mapClipboard fun app =>
    app.pollClipboard lib.sha256 input.poll.value self.systemClipboard
  let self := self.others lib input.timer.others
  let self := self.mapReceive fun app =>
    app.timerRefresh lib.app input.timer.value.2 input.timer.value.1
  { self with page := input.navigation.getD self.page }.renderPage lib input

/-- `DesktopApp::update`, with the commands that it sends to the viewport. -/
def update (self : World) (input : FrameInput) : Option (List ViewportCommand × World) :=
  let self := self.others lib input.others
  let (commands, clipboard) := processShell lib.sha256 input.shell self.clipboard
  (self.receive.processResponses lib.app input.schedule input.responseEnv 3 0).map
    fun (_, receive) => (commands, { self with clipboard, receive }.afterResponses lib input)

/-- A run of frames, with the commands of each. -/
def frames : World → List FrameInput → Option (List (List ViewportCommand) × World)
  | self, [] => some ([], self)
  | self, input :: inputs =>
      match self.update lib input with
      | none => none
      | some (commands, self) =>
          (self.frames inputs).map fun (later, self) => (commands :: later, self)

end World

end FtnlDesktop.Interface
