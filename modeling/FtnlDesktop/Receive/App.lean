import FtnlDesktop.Receive.Worker

/-!
# The receive side of the desktop app

The methods of `DesktopApp` in `src/desktop/app.rs` that drive the receive lifecycle: the five
commands of the user, the periodic refresh of `update`, the edits of the form, and the treatment
of a worker's answer.  A release build is modelled: `process_response` ends without its
`debug_assert!`.

What the environment decides during a call is in `Env`.  Each method stores the time at most once
and sends at most one request, so one reading of the clock and one answer to "does the channel take
it?" are enough.  Only `update` looks at the clock besides; what it reads comes with the call.

The clipboard side of the struct is modelled under `Workspace` and not touched here.
-/

namespace FtnlDesktop.Receive

/-- `ftnl_interfaces::FileStatus`, as far as it is told apart. -/
inductive FileStatus where
  | Available
  | Downloaded
  | Other
deriving DecidableEq, Repr

/-- What the app calls outside the repository. -/
structure AppCrates where
  picker : PickerMachine
  decodeStatus : String → Option FileStatus

/-- What the environment decides during one call. -/
structure Env where
  /-- What `Instant::now()` reads. -/
  now : Instant
  /-- Whether the channel takes a request. -/
  taken : Bool
deriving DecidableEq

structure DesktopApp where
  worker : Worker
  lifecycle : Lifecycle
  baseUrl : String
  applicationId : String
  session : Option ReceiveSession
  files : List FileDescriptor
  selectedFile : Option Uuid
  destination : String
  force : Bool
  message : Option String
  lastRefresh : Instant
deriving DecidableEq

/-- `DesktopApp::default()` at the instant `now`. -/
def DesktopApp.default (now : Instant) : DesktopApp where
  worker := .spawn
  lifecycle := .default
  baseUrl := "https://api.file-tunnel.dev"
  applicationId := "ftnl-desktop-app"
  session := none
  files := []
  selectedFile := none
  destination := ""
  force := false
  message := none
  lastRefresh := now

def effectMatchesRequest : EffectKind → RequestKind → Bool
  | .Create, .Create .. => true
  | .Refresh, .Refresh .. => true
  | .Download, .Download .. => true
  | .Cancel, .Cancel .. => true
  | _, _ => false

variable (crates : AppCrates)

def isAvailable (value : String) : Bool :=
  (crates.decodeStatus value).any fun status => status = .Available ∨ status = .Downloaded

def snapshotCompletion (files : List FileDescriptor) : Completion :=
  if files.isEmpty then .SnapshotEmpty
  else if files.all fun file => crates.decodeStatus file.status = some .Downloaded then
    .AllFilesReceived
  else .SnapshotFiles

/-- What an answer completes its operation with. -/
def ResponseKind.completion : ResponseKind → Completion
  | .Created _ => .Created
  | .Snapshot files => snapshotCompletion crates files
  | .Downloaded _ => .Downloaded
  | .Cancelled => .Cancelled
  | .Failed _ => .Failed

namespace DesktopApp

/-- `let Ok(Some(effect)) = self.lifecycle.dispatch(command)`. -/
def dispatch (self : DesktopApp) (command : Command) : Option Effect × DesktopApp :=
  match (Lifecycle.dispatch crates.picker command).run self.lifecycle with
  | .ok effect lifecycle => (effect, { self with lifecycle })
  | .error _ lifecycle => (none, { self with lifecycle })

/-- `self.lifecycle.complete(operation, completion).is_ok()`. -/
def complete (self : DesktopApp) (operation : OperationId) (completion : Completion) :
    Bool × DesktopApp :=
  match (Lifecycle.complete crates.picker operation completion).run self.lifecycle with
  | .ok _ lifecycle => (true, { self with lifecycle })
  | .error _ lifecycle => (false, { self with lifecycle })

/-- `!self.lifecycle.state().metadata().requires_session`, then `self.session = None`. -/
def dropUnneededSession (self : DesktopApp) : DesktopApp :=
  if (crates.picker.metadata self.lifecycle.state).requiresSession then self
  else { self with session := none }

def sessionAuthority (self : DesktopApp) : Option (Uuid × String) :=
  self.session.map fun session => (session.tunnelId, session.capability)

def clearFiles (self : DesktopApp) : DesktopApp :=
  { self with files := [], selectedFile := none }

def rejectAction (self : DesktopApp) : DesktopApp :=
  { self with message := some "That action is not available in the current state." }

def failDispatch (self : DesktopApp) (effect : Effect) : DesktopApp :=
  match self.complete crates effect.operation .Failed with
  | (true, self) =>
      { self.dropUnneededSession crates with
        message := some "The background worker is unavailable. Try again." }
  | (false, self) => self

variable (env : Env)

def send (self : DesktopApp) (effect : Effect) (kind : RequestKind) : DesktopApp :=
  if effectMatchesRequest effect.kind kind then
    match self.worker.send env.taken ⟨effect.operation, kind⟩ with
    | (true, worker) => { self with worker }
    | (false, worker) => { self with worker }.failDispatch crates effect
  else
    self.failDispatch crates effect

/-! ## Commands -/

def create (self : DesktopApp) : DesktopApp :=
  match self.dispatch crates .Start with
  | (some effect, self) =>
      let self := { self with session := none }.clearFiles
      let self := { self with message := none }
      self.send crates env effect (.Create self.baseUrl self.applicationId)
  | (none, self) => self.rejectAction

def refresh (self : DesktopApp) : DesktopApp :=
  match self.sessionAuthority with
  | none => self.rejectAction
  | some (tunnelId, capability) =>
      match self.dispatch crates .Refresh with
      | (some effect, self) =>
          let self := { self with message := none, lastRefresh := env.now }
          self.send crates env effect (.Refresh self.baseUrl tunnelId capability)
      | (none, self) => self

def retry (self : DesktopApp) : DesktopApp :=
  let authority := self.sessionAuthority
  match self.dispatch crates .Retry with
  | (some effect, self) =>
      let self := { self with message := none }
      match effect.kind, authority with
      | .Create, _ =>
          let self := { self with session := none }.clearFiles
          self.send crates env effect (.Create self.baseUrl self.applicationId)
      | .Refresh, some (tunnelId, capability) =>
          self.send crates env effect (.Refresh self.baseUrl tunnelId capability)
      | _, _ => self.failDispatch crates effect
  | (none, self) => self.rejectAction

def cancel (self : DesktopApp) : DesktopApp :=
  match self.sessionAuthority with
  | none => self.rejectAction
  | some (tunnelId, capability) =>
      match self.dispatch crates .Cancel with
      | (some effect, self) =>
          let self := { self with session := none }.clearFiles
          let self := { self with message := some "Closing the secure tunnel…" }
          self.send crates env effect (.Cancel self.baseUrl tunnelId capability)
      | (none, self) => self.rejectAction

/-- The file that `download` would fetch. -/
def availableSelection (self : DesktopApp) : Option FileDescriptor :=
  (self.selectedFile.bind fun id => self.files.find? fun file => file.fileId = id).filter
    fun file => isAvailable crates file.status

def download (self : DesktopApp) : DesktopApp :=
  match self.sessionAuthority with
  | none => self.rejectAction
  | some (tunnelId, capability) =>
      match self.availableSelection crates with
      | none => { self with message := some "Select an available file first." }
      | some file =>
          let destination :=
            if (trim self.destination).isEmpty then none else some (trim self.destination)
          match self.dispatch crates .Download with
          | (some effect, self) =>
              let self := { self with message := none }
              self.send crates env effect
                (.Download self.baseUrl tunnelId capability file destination self.force)
          | (none, self) => self.rejectAction

/-- The periodic refresh of `update`, where `last_refresh.elapsed()` reads `checked`. -/
def timerRefresh (self : DesktopApp) (checked : Instant) : DesktopApp :=
  if self.lifecycle.can crates.picker .Refresh ∧ self.session.isSome
      ∧ fromSecs 2 ≤ elapsed checked self.lastRefresh then
    self.refresh crates env
  else
    self

/-! ## Answers -/

/-- The arms of `process_response` after their `if self.lifecycle.complete(…).is_ok()`. -/
def accept (self : DesktopApp) : ResponseKind → DesktopApp
  | .Created session =>
      { self with session := some session, message := none, lastRefresh := env.now }
  | .Snapshot files =>
      let self := { self with
        files
        selectedFile := self.selectedFile.filter fun id =>
          files.any fun file => file.fileId = id }
      if snapshotCompletion crates files = .AllFilesReceived then
        { self with session := none, message := some "All files were received." }
      else
        self
  | .Downloaded _ => { self with message := some "File saved successfully." }.refresh crates env
  | .Cancelled => { { self with session := none }.clearFiles with message := none }
  | .Failed message => { self.dropUnneededSession crates with message := some message }

/-- `DesktopApp::process_response`, of a release build.  Every arm first completes the operation,
each with its own completion, and does nothing if that is refused. -/
def processResponse (self : DesktopApp) (response : Response) : DesktopApp :=
  match self.complete crates response.operation (response.kind.completion crates) with
  | (true, self) => self.accept crates env response.kind
  | (false, self) => self

end DesktopApp

/-! ## What the lifecycle lets the app do -/

section Cases

variable {crates : AppCrates}

lemma DesktopApp.dispatch_cases (h : crates.picker.ControlsEffects) (self : DesktopApp)
    (command : Command) :
    self.dispatch crates command = (none, self) ∨
      (∃ next, crates.picker.transition self.lifecycle.state command.event = some next ∧
        (∀ kind : EffectKind, next ≠ kind.state) ∧
        (crates.picker.metadata next).inFlight = false ∧
        self.dispatch crates command = (none, { self with
          lifecycle := { self.lifecycle with state := next, activeOperation := none } })) ∨
      ∃ kind : EffectKind,
        crates.picker.transition self.lifecycle.state command.event = some kind.state ∧
        self.dispatch crates command = (some ⟨self.lifecycle.nextOperation, kind⟩, { self with
          lifecycle := ⟨kind.state, some self.lifecycle.nextOperation,
            nextId self.lifecycle.nextOperation⟩ }) := by
  rw [DesktopApp.dispatch]
  rcases Lifecycle.dispatch_cases h self.lifecycle command with
    ⟨error, -, hrun⟩ | ⟨next, ht, hnext, hidle, hrun⟩ | ⟨kind, ht, hrun⟩
  · exact Or.inl (by rw [hrun])
  · exact Or.inr (Or.inl ⟨next, ht, hnext, hidle, by rw [hrun]⟩)
  · exact Or.inr (Or.inr ⟨kind, ht, by rw [hrun]⟩)

variable (crates) in
lemma DesktopApp.complete_cases (self : DesktopApp) (operation : OperationId)
    (completion : Completion) :
    self.complete crates operation completion = (false, self) ∨
      ∃ next, self.lifecycle.activeOperation = some operation ∧
        crates.picker.transition self.lifecycle.state completion.event = some next ∧
        (crates.picker.metadata next).inFlight = false ∧
        self.complete crates operation completion = (true, { self with
          lifecycle := { self.lifecycle with state := next, activeOperation := none } }) := by
  rw [DesktopApp.complete]
  rcases Lifecycle.complete_cases crates.picker self.lifecycle operation completion with
    ⟨error, -, hrun⟩ | ⟨next, hactive, ht, hidle, hrun⟩
  · exact Or.inl (by rw [hrun])
  · exact Or.inr ⟨next, hactive, ht, hidle, by rw [hrun]⟩

end Cases

/-! ## What the user and the timer do -/

inductive UserCall where
  | Create
  | Refresh
  | Retry
  | Cancel
  | Download
  | TimerRefresh (checked : Instant)
  | EditBaseUrl (baseUrl : String)
  | EditApplicationId (applicationId : String)
  | SelectFile (fileId : Uuid)
  | EditDestination (destination : String)
  | SetForce (force : Bool)
deriving DecidableEq

/-- A call of the interface thread.  A field of the form changes only while it is shown and
enabled. -/
def DesktopApp.call (env : Env) (self : DesktopApp) : UserCall → DesktopApp
  | .Create => self.create crates env
  | .Refresh => self.refresh crates env
  | .Retry => self.retry crates env
  | .Cancel => self.cancel crates env
  | .Download => self.download crates env
  | .TimerRefresh checked => self.timerRefresh crates env checked
  | .EditBaseUrl baseUrl =>
      if self.session.isNone ∧ ¬ self.lifecycle.isInFlight then { self with baseUrl } else self
  | .EditApplicationId applicationId =>
      if self.session.isNone ∧ ¬ self.lifecycle.isInFlight then { self with applicationId }
      else self
  | .SelectFile fileId =>
      if ∃ file ∈ self.files, file.fileId = fileId ∧ isAvailable crates file.status then
        { self with selectedFile := some fileId }
      else self
  | .EditDestination destination =>
      if self.files.isEmpty then self else { self with destination }
  | .SetForce force => if self.files.isEmpty then self else { self with force }

end FtnlDesktop.Receive
