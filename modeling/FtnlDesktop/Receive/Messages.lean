import FtnlDesktop.Receive.Conservation

/-!
# The message is only shown

`DesktopApp::message` is written by every method and read by none: what the app does next does not
depend on it (`System.step_silent`).  Whoever writes a message into the app, as the page does for an
action that it does not support, changes nothing else about any run.
-/

namespace FtnlDesktop.Receive

section Silent

variable {crates : AppCrates} {env : Env}

/-- The app without its message. -/
def DesktopApp.silent (app : DesktopApp) : DesktopApp := { app with message := none }

lemma dispatch_silent (app : DesktopApp) (command : Command) :
    app.silent.dispatch crates command
      = ((app.dispatch crates command).1, (app.dispatch crates command).2.silent) := by
  simp only [DesktopApp.dispatch, DesktopApp.silent]
  cases (Lifecycle.dispatch crates.picker command).run app.lifecycle <;> rfl

lemma complete_silent (app : DesktopApp) (operation : OperationId) (completion : Completion) :
    app.silent.complete crates operation completion
      = ((app.complete crates operation completion).1,
          (app.complete crates operation completion).2.silent) := by
  simp only [DesktopApp.complete, DesktopApp.silent]
  cases (Lifecycle.complete crates.picker operation completion).run app.lifecycle <;> rfl

lemma dropUnneededSession_silent (app : DesktopApp) :
    app.silent.dropUnneededSession crates = (app.dropUnneededSession crates).silent := by
  by_cases h : (crates.picker.metadata app.lifecycle.state).requiresSession = true
  · rw [DesktopApp.dropUnneededSession, DesktopApp.dropUnneededSession, if_pos h]
    exact if_pos h
  · rw [DesktopApp.dropUnneededSession, DesktopApp.dropUnneededSession, if_neg h]
    exact if_neg h

lemma create_silent (app : DesktopApp) :
    (app.silent.create crates env).silent = (app.create crates env).silent := by
  rw [DesktopApp.create, DesktopApp.create, dispatch_silent]
  rcases app.dispatch crates .Start with ⟨_ | effect, app'⟩ <;> rfl

lemma refresh_silent (app : DesktopApp) :
    (app.silent.refresh crates env).silent = (app.refresh crates env).silent := by
  have hauthority : app.silent.sessionAuthority = app.sessionAuthority := rfl
  rw [DesktopApp.refresh, DesktopApp.refresh, dispatch_silent, hauthority]
  rcases app.sessionAuthority with _ | ⟨tunnelId, capability⟩
  · rfl
  · rcases app.dispatch crates .Refresh with ⟨_ | effect, app'⟩ <;> rfl

lemma retry_silent (app : DesktopApp) :
    (app.silent.retry crates env).silent = (app.retry crates env).silent := by
  have hauthority : app.silent.sessionAuthority = app.sessionAuthority := rfl
  rw [DesktopApp.retry, DesktopApp.retry, dispatch_silent, hauthority]
  rcases app.dispatch crates .Retry with ⟨_ | effect, app'⟩ <;> rfl

lemma cancel_silent (app : DesktopApp) :
    (app.silent.cancel crates env).silent = (app.cancel crates env).silent := by
  have hauthority : app.silent.sessionAuthority = app.sessionAuthority := rfl
  rw [DesktopApp.cancel, DesktopApp.cancel, dispatch_silent, hauthority]
  rcases app.sessionAuthority with _ | ⟨tunnelId, capability⟩
  · rfl
  · rcases app.dispatch crates .Cancel with ⟨_ | effect, app'⟩ <;> rfl

lemma download_silent (app : DesktopApp) :
    (app.silent.download crates env).silent = (app.download crates env).silent := by
  have hauthority : app.silent.sessionAuthority = app.sessionAuthority := rfl
  have hselection : app.silent.availableSelection crates = app.availableSelection crates := rfl
  rw [DesktopApp.download, DesktopApp.download, dispatch_silent, hauthority, hselection]
  rcases app.sessionAuthority with _ | ⟨tunnelId, capability⟩
  · rfl
  · rcases app.availableSelection crates with _ | file
    · rfl
    · rcases app.dispatch crates .Download with ⟨_ | effect, app'⟩ <;> rfl

lemma timerRefresh_silent (app : DesktopApp) (checked : Instant) :
    (app.silent.timerRefresh crates env checked).silent
      = (app.timerRefresh crates env checked).silent := by
  simp only [DesktopApp.timerRefresh, apply_ite DesktopApp.silent, refresh_silent]
  rfl

lemma call_silent (app : DesktopApp) (call : UserCall) :
    (app.silent.call crates env call).silent = (app.call crates env call).silent := by
  cases call with
  | Create => exact create_silent app
  | Refresh => exact refresh_silent app
  | Retry => exact retry_silent app
  | Cancel => exact cancel_silent app
  | Download => exact download_silent app
  | TimerRefresh checked => exact timerRefresh_silent app checked
  | EditBaseUrl baseUrl => simp only [DesktopApp.call, apply_ite DesktopApp.silent]; rfl
  | EditApplicationId applicationId =>
      simp only [DesktopApp.call, apply_ite DesktopApp.silent]; rfl
  | SelectFile fileId => simp only [DesktopApp.call, apply_ite DesktopApp.silent]; rfl
  | EditDestination destination =>
      simp only [DesktopApp.call, apply_ite DesktopApp.silent]; rfl
  | SetForce force => simp only [DesktopApp.call, apply_ite DesktopApp.silent]; rfl

lemma accept_silent (app : DesktopApp) (response : ResponseKind) :
    (app.silent.accept crates env response).silent = (app.accept crates env response).silent := by
  cases response with
  | Created session => rfl
  | Snapshot files => simp only [DesktopApp.accept, apply_ite DesktopApp.silent]; rfl
  | Downloaded path =>
      refine (refresh_silent _).symm.trans ?_
      exact refresh_silent { app with message := some "File saved successfully." }
  | Cancelled => rfl
  | Failed message =>
      simp only [DesktopApp.accept, dropUnneededSession_silent]
      rfl

lemma processResponse_silent (app : DesktopApp) (response : Response) :
    (app.silent.processResponse crates env response).silent
      = (app.processResponse crates env response).silent := by
  rw [DesktopApp.processResponse, DesktopApp.processResponse, complete_silent]
  rcases app.complete crates response.operation (response.kind.completion crates) with
    ⟨_ | _, app'⟩
  · rfl
  · exact accept_silent app' response.kind

end Silent

/-- The system without the message of the app. -/
def System.silent (system : System) : System := { system with app := system.app.silent }

/-- **No step reads the message.** -/
theorem System.step_silent (crates : AppCrates) (system : System) (input : SystemInput) :
    (system.silent.step crates input).silent = (system.step crates input).silent := by
  obtain ⟨app, handling⟩ := system
  cases input with
  | Call env call =>
      exact congrArg (fun app => (⟨app, handling⟩ : System)) (call_silent app call)
  | ProcessResponse env =>
      simp only [System.step, System.silent, DesktopApp.silent, Worker.tryRecv]
      cases app.worker.responses with
      | nil => rfl
      | cons response responses =>
          exact congrArg (fun app => (⟨app, handling⟩ : System)) (processResponse_silent
            { app with worker := { app.worker with responses } } response)
  | Recv =>
      simp only [System.step, System.silent, DesktopApp.silent]
      cases handling with
      | none => cases app.worker.requests <;> rfl
      | some request => rfl
  | Answer service => cases handling <;> rfl

lemma System.silent_step_congr {crates : AppCrates} {system system' : System}
    (hsilent : system.silent = system'.silent) (input : SystemInput) :
    (system.step crates input).silent = (system'.step crates input).silent := by
  rw [← step_silent, hsilent, step_silent]

end FtnlDesktop.Receive
