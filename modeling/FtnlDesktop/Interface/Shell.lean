import FtnlDesktop.Clipboard.App

/-!
# The window and the tray

`src/desktop/shell.rs` and `process_shell` of `src/desktop/app.rs`: what the tray reports becomes
shell actions, and an action may send commands to the viewport.  `ShellState` itself is with the
clipboard side, where the capture state it mirrors is kept.

`NativeTray` is only asked whether it is there and what it reports; its icon is not modelled.
-/

namespace FtnlDesktop.Interface

open Clipboard (ShellAction ShellState Outside)

/-! ## The tray -/

def OPEN_ID : String := "ftnl.open"
def HIDE_ID : String := "ftnl.hide"
def PAUSE_ID : String := "ftnl.pause"
def RESUME_ID : String := "ftnl.resume"
def QUIT_ID : String := "ftnl.quit"

def menuAction (id : String) : Option ShellAction :=
  if id = OPEN_ID then some .OpenWindow
  else if id = HIDE_ID then some .HideWindow
  else if id = PAUSE_ID then some .PauseCapture
  else if id = RESUME_ID then some .ResumeCapture
  else if id = QUIT_ID then some .Quit
  else none

inductive MouseButton where
  | Left
  | Right
  | Middle
deriving DecidableEq, Repr

inductive MouseButtonState where
  | Up
  | Down
deriving DecidableEq, Repr

/-- `tray_icon::TrayIconEvent`, as far as it is told apart. -/
inductive TrayIconEvent where
  | Click (button : MouseButton) (buttonState : MouseButtonState)
  | DoubleClick (button : MouseButton)
  | Other
deriving DecidableEq, Repr

def TrayIconEvent.action : TrayIconEvent → Option ShellAction
  | .Click .Left .Up => some .OpenWindow
  | .DoubleClick .Left => some .OpenWindow
  | _ => none

/-- `NativeTray::poll_actions`: first the menu, then the icon. -/
def pollActions (menuEvents : List String) (trayIconEvents : List TrayIconEvent) :
    List ShellAction :=
  menuEvents.filterMap menuAction ++ trayIconEvents.filterMap TrayIconEvent.action

/-! ## The window -/

/-- `egui::ViewportCommand`. -/
inductive ViewportCommand where
  | Visible (visible : Bool)
  | Focus
  | Close
  | CancelClose
deriving DecidableEq, Repr

/-- What an action sends to the viewport. -/
def viewportCommands : ShellAction → List ViewportCommand
  | .OpenWindow => [.Visible true, .Focus]
  | .HideWindow => [.Visible false]
  | .PauseCapture => []
  | .ResumeCapture => []
  | .Quit => [.Close]

/-- What the tray and the viewport report to a frame. -/
structure ShellEvents where
  menuEvents : List String
  trayIconEvents : List TrayIconEvent
  closeRequested : Bool
  /-- What the environment decides during the `n`-th action. -/
  outside : ℕ → Outside

/-- `self.tray.as_ref().map(NativeTray::poll_actions).unwrap_or_default()`. -/
def ShellEvents.actions (events : ShellEvents) (tray : Bool) : List ShellAction :=
  if tray then pollActions events.menuEvents events.trayIconEvents else []

section

variable (sha256 : Bytes → Digest)

/-- The loop of `process_shell`. -/
def processActions (outside : ℕ → Outside) :
    List ShellAction → Clipboard.DesktopApp → List ViewportCommand × Clipboard.DesktopApp
  | [], state => ([], state)
  | action :: actions, state =>
      let (commands, state) := processActions (fun n => outside (n + 1)) actions
        (state.processShellAction sha256 (outside 0) action)
      (viewportCommands action ++ commands, state)

def processShell (events : ShellEvents) (state : Clipboard.DesktopApp) :
    List ViewportCommand × Clipboard.DesktopApp :=
  let (commands, state) :=
    processActions sha256 events.outside (events.actions state.tray) state
  if events.closeRequested then
    match state.shell.onCloseRequested state.tray with
    | (true, shell) => (commands ++ [.CancelClose, .Visible false], { state with shell })
    | (false, shell) => (commands, { state with shell })
  else
    (commands, state)

lemma processShell_snd (events : ShellEvents) (state : Clipboard.DesktopApp) :
    (processShell sha256 events state).2
      = if events.closeRequested then
          (processActions sha256 events.outside (events.actions state.tray) state).2.closeRequested
        else (processActions sha256 events.outside (events.actions state.tray) state).2 := by
  rw [processShell]
  generalize processActions sha256 events.outside (events.actions state.tray) state = result
  obtain ⟨commands, app⟩ := result
  by_cases hclose : events.closeRequested = true
  · simp only [hclose, ↓reduceIte, Clipboard.DesktopApp.closeRequested]
    rcases app.shell.onCloseRequested app.tray with ⟨_ | _, shell⟩ <;> rfl
  · simp only [hclose, ↓reduceIte, Bool.false_eq_true]

end

end FtnlDesktop.Interface
