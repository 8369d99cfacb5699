import FtnlDesktop.Receive.App

/-!
# How the methods of the app end

Five commands, a timer and five fields of the form: what they do comes down to four endings
(`Ends`).  The form has changed or nothing has; the address was edited; an effect was started and
its request handed to `send`; an effect was started and given up at once.

* **`call_ends`** — every call of the user and of the timer ends in one of these ways.

Only the endings know the methods.  What is proved of whole runs is proved of the endings: that no
message is lost, and that no request leaves with the authority of another session.
-/

namespace FtnlDesktop.Receive

/-! ## The fields that a request is made of -/

section Fields

/-- The fields in question are as they were, but the session may be gone. -/
structure Keeps (app app' : DesktopApp) : Prop where
  baseUrl : app'.baseUrl = app.baseUrl
  session : app'.session = app.session ∨ app'.session = none
  files : app'.files = app.files
  selectedFile : app'.selectedFile = app.selectedFile

/-- They are kept, or all but the address are cleared. -/
def KeepsOrClears (app app' : DesktopApp) : Prop :=
  Keeps app app' ∨ (app'.baseUrl = app.baseUrl ∧ app'.session = none ∧ app'.files = []
    ∧ app'.selectedFile = none)

/-- The request carries what the app holds, and the app is left in the state that waits for its
answer. -/
def Carries (crates : AppCrates) (app app' : DesktopApp) : RequestKind → Prop
  | .Create baseUrl _ => baseUrl = app.baseUrl ∧ app'.session = none ∧ app'.files = []
  | .Refresh baseUrl tunnelId capability =>
      baseUrl = app.baseUrl ∧ app.sessionAuthority = some (tunnelId, capability) ∧
        app'.session = app.session
  | .Cancel baseUrl tunnelId capability =>
      baseUrl = app.baseUrl ∧ app.sessionAuthority = some (tunnelId, capability)
  | .Download baseUrl tunnelId capability file _ _ =>
      baseUrl = app.baseUrl ∧ app.sessionAuthority = some (tunnelId, capability) ∧
        app.availableSelection crates = some file

variable (crates : AppCrates)

lemma Keeps.refl (app : DesktopApp) : Keeps app app := ⟨rfl, Or.inl rfl, rfl, rfl⟩

lemma KeepsOrClears.trans {app app' app'' : DesktopApp} (h : KeepsOrClears app app')
    (h' : Keeps app' app'') : KeepsOrClears app app'' := by
  obtain ⟨hurl', hsession', hfiles', hselected'⟩ := h'
  rcases h with ⟨hurl, hsession, hfiles, hselected⟩ | ⟨hurl, hsession, hfiles, hselected⟩
  · refine Or.inl ⟨hurl'.trans hurl, ?_, hfiles'.trans hfiles, hselected'.trans hselected⟩
    rcases hsession' with hsame | hnone
    · exact hsame ▸ hsession
    · exact Or.inr hnone
  · refine Or.inr ⟨hurl'.trans hurl, ?_, hfiles'.trans hfiles, hselected'.trans hselected⟩
    rcases hsession' with hsame | hnone
    · exact hsame.trans hsession
    · exact hnone

lemma keeps_dropUnneededSession (app : DesktopApp) :
    Keeps app (app.dropUnneededSession crates) := by
  rw [DesktopApp.dropUnneededSession]
  split_ifs
  · exact .refl app
  · exact ⟨rfl, Or.inr rfl, rfl, rfl⟩

lemma dropUnneededSession_worker (app : DesktopApp) :
    (app.dropUnneededSession crates).worker = app.worker := by
  rw [DesktopApp.dropUnneededSession]
  split_ifs
  · rfl
  · rfl

/-- An effect that is not sent is failed. -/
lemma failDispatch_keeps (app : DesktopApp) (effect : Effect) :
    Keeps app (app.failDispatch crates effect)
      ∧ (app.failDispatch crates effect).worker = app.worker := by
  rw [DesktopApp.failDispatch]
  rcases app.complete_cases crates effect.operation .Failed with heq | ⟨next, -, -, -, heq⟩
  · rw [heq]
    exact ⟨.refl app, rfl⟩
  · rw [heq]
    obtain ⟨hurl, hsession, hfiles, hselected⟩ := keeps_dropUnneededSession crates
      { app with lifecycle := { app.lifecycle with state := next, activeOperation := none } }
    exact ⟨⟨hurl, hsession, hfiles, hselected⟩, dropUnneededSession_worker crates _⟩

/-- A request goes into the channel, or its effect is failed. -/
lemma send_cases (env : Env) (app : DesktopApp) (effect : Effect) (kind : RequestKind) :
    (effectMatchesRequest effect.kind kind = true ∧
      app.send crates env effect kind = { app with worker :=
        { app.worker with requests := app.worker.requests ++ [⟨effect.operation, kind⟩] } }) ∨
      app.send crates env effect kind = app.failDispatch crates effect := by
  rw [DesktopApp.send]
  by_cases hmatch : effectMatchesRequest effect.kind kind = true
  · rw [if_pos hmatch, Worker.send]
    by_cases htaken : env.taken = true
    · rw [if_pos htaken]
      exact Or.inl ⟨hmatch, rfl⟩
    · rw [if_neg htaken]
      exact Or.inr rfl
  · rw [if_neg hmatch]
    exact Or.inr rfl

end Fields

/-! ## The fields that no ending touches -/

section Untouched

/-- The lifecycle, the worker, the session and the message are not part of what `f` reads. -/
structure IsUntouched {α : Type} (f : DesktopApp → α) : Prop where
  lifecycle : ∀ app lifecycle, f { app with lifecycle } = f app
  worker : ∀ app worker, f { app with worker } = f app
  session : ∀ app session, f { app with session } = f app
  message : ∀ app message, f { app with message } = f app

variable (crates : AppCrates) {α : Type} {f : DesktopApp → α} (hf : IsUntouched f)

include hf

lemma IsUntouched.dispatch (app : DesktopApp) (command : Command) :
    f (app.dispatch crates command).2 = f app := by
  rw [DesktopApp.dispatch]
  cases (Lifecycle.dispatch crates.picker command).run app.lifecycle with
  | ok effect lifecycle => exact hf.lifecycle app lifecycle
  | error e lifecycle => exact hf.lifecycle app lifecycle

lemma IsUntouched.complete (app : DesktopApp) (operation : OperationId)
    (completion : Completion) : f (app.complete crates operation completion).2 = f app := by
  rw [DesktopApp.complete]
  cases (Lifecycle.complete crates.picker operation completion).run app.lifecycle with
  | ok u lifecycle => exact hf.lifecycle app lifecycle
  | error e lifecycle => exact hf.lifecycle app lifecycle

lemma IsUntouched.dropUnneededSession (app : DesktopApp) :
    f (app.dropUnneededSession crates) = f app := by
  rw [DesktopApp.dropUnneededSession]
  split_ifs
  · rfl
  · exact hf.session app none

lemma IsUntouched.failDispatch (app : DesktopApp) (effect : Effect) :
    f (app.failDispatch crates effect) = f app := by
  have hcomplete := hf.complete crates app effect.operation .Failed
  rw [DesktopApp.failDispatch]
  rcases hresult : app.complete crates effect.operation .Failed with ⟨_ | _, app'⟩
  · rw [hresult] at hcomplete
    exact hcomplete
  · rw [hresult] at hcomplete
    exact (hf.message _ _).trans ((hf.dropUnneededSession crates app').trans hcomplete)

lemma IsUntouched.send (env : Env) (app : DesktopApp) (effect : Effect) (kind : RequestKind) :
    f (app.send crates env effect kind) = f app := by
  rcases send_cases crates env app effect kind with ⟨-, heq⟩ | heq
  · rw [heq]
    exact hf.worker app _
  · rw [heq]
    exact hf.failDispatch crates app effect

end Untouched

/-! ## The endings -/

/-- The lifecycle has not moved, or it has moved to a state that waits for nothing. -/
def Rests (picker : PickerMachine) (lifecycle lifecycle' : Lifecycle) : Prop :=
  lifecycle' = lifecycle ∨ ∃ (command : Command) (next : PickerMachineState),
    picker.transition lifecycle.state command.event = some next ∧
      (picker.metadata next).inFlight = false ∧
      lifecycle' = { lifecycle with state := next, activeOperation := none }

/-- A command has started an effect, under the next operation id. -/
structure Starts (picker : PickerMachine) (app app' : DesktopApp) (kind : EffectKind) : Prop where
  transition : ∃ command : Command,
    picker.transition app.lifecycle.state command.event = some kind.state
  lifecycle : app'.lifecycle = ⟨kind.state, some app.lifecycle.nextOperation,
    nextId app.lifecycle.nextOperation⟩
  worker : app'.worker = app.worker
  fields : KeepsOrClears app app'

/-- **The ways in which a method may end.** -/
inductive Ends (crates : AppCrates) (env : Env) (app : DesktopApp) : DesktopApp → Prop where
  /-- Nothing but the form has changed; a file may have been selected. -/
  | quiet {app' : DesktopApp} (hrests : Rests crates.picker app.lifecycle app'.lifecycle)
      (hworker : app'.worker = app.worker) (hurl : app'.baseUrl = app.baseUrl)
      (hsession : app'.session = app.session) (hfiles : app'.files = app.files)
      (hselected : app'.selectedFile = app.selectedFile
        ∨ ∃ file ∈ app.files, app'.selectedFile = some file.fileId) : Ends crates env app app'
  /-- The address was edited, without a session and with nothing under way. -/
  | edit (hnone : app.session = none) (hactive : app.lifecycle.activeOperation = none)
      (baseUrl : String) : Ends crates env app { app with baseUrl }
  /-- An effect was started, and its request goes to the worker if that takes it. -/
  | sends {app' : DesktopApp} {kind : EffectKind} {request : RequestKind}
      (hstarts : Starts crates.picker app app' kind)
      (hcarries : ∀ worker, Carries crates app { app' with worker } request) :
      Ends crates env app (app'.send crates env ⟨app.lifecycle.nextOperation, kind⟩ request)
  /-- An effect was started, and there is nothing to send for it. -/
  | fails {app' : DesktopApp} {kind : EffectKind} (hstarts : Starts crates.picker app app' kind) :
      Ends crates env app (app'.failDispatch crates ⟨app.lifecycle.nextOperation, kind⟩)

section Ends

variable {crates : AppCrates} (h : crates.picker.ControlsEffects) (env : Env) (app : DesktopApp)

/-- A method that does nothing to these fields. -/
lemma ends_self (message : Option String) : Ends crates env app { app with message } :=
  .quiet (Or.inl rfl) rfl rfl rfl rfl (Or.inl rfl)

include h

/-- A command is refused or has nothing to send, or it yields an effect. -/
lemma dispatch_starts (command : Command) :
    (∃ lifecycle, Rests crates.picker app.lifecycle lifecycle ∧
      app.dispatch crates command = (none, { app with lifecycle })) ∨
    ∃ kind : EffectKind,
      (∃ command : Command,
        crates.picker.transition app.lifecycle.state command.event = some kind.state) ∧
      app.dispatch crates command = (some ⟨app.lifecycle.nextOperation, kind⟩, { app with
        lifecycle := ⟨kind.state, some app.lifecycle.nextOperation,
          nextId app.lifecycle.nextOperation⟩ }) := by
  rcases app.dispatch_cases h command with heq | ⟨next, ht, -, hidle, heq⟩ | ⟨kind, ht, heq⟩
  · exact Or.inl ⟨app.lifecycle, Or.inl rfl, heq⟩
  · exact Or.inl ⟨_, Or.inr ⟨command, next, ht, hidle, rfl⟩, heq⟩
  · exact Or.inr ⟨kind, ⟨command, ht⟩, heq⟩

lemma create_ends : Ends crates env app (app.create crates env) := by
  rw [DesktopApp.create]
  rcases dispatch_starts h app .Start with ⟨lifecycle, hrests, heq⟩ | ⟨kind, ht, heq⟩
  · rw [heq]
    exact .quiet hrests rfl rfl rfl rfl (Or.inl rfl)
  · rw [heq]
    refine .sends ⟨ht, rfl, rfl, ?_⟩ ?_
    · exact Or.inr ⟨rfl, rfl, rfl, rfl⟩
    · intro worker
      exact ⟨rfl, rfl, rfl⟩

lemma refresh_ends : Ends crates env app (app.refresh crates env) := by
  rw [DesktopApp.refresh]
  cases hauthority : app.sessionAuthority with
  | none => exact ends_self env app _
  | some authority =>
      rcases dispatch_starts h app .Refresh with ⟨lifecycle, hrests, heq⟩ | ⟨kind, ht, heq⟩
      · rw [heq]
        exact .quiet hrests rfl rfl rfl rfl (Or.inl rfl)
      · rw [heq]
        refine .sends ⟨ht, rfl, rfl, ?_⟩ ?_
        · exact Or.inl ⟨rfl, Or.inl rfl, rfl, rfl⟩
        · intro worker
          exact ⟨rfl, hauthority, rfl⟩

lemma retry_ends : Ends crates env app (app.retry crates env) := by
  rw [DesktopApp.retry]
  rcases dispatch_starts h app .Retry with ⟨lifecycle, hrests, heq⟩ | ⟨kind, ht, heq⟩
  · rw [heq]
    exact .quiet hrests rfl rfl rfl rfl (Or.inl rfl)
  · rw [heq]
    cases kind with
    | Create =>
        refine .sends ⟨ht, rfl, rfl, ?_⟩ ?_
        · exact Or.inr ⟨rfl, rfl, rfl, rfl⟩
        · intro worker
          exact ⟨rfl, rfl, rfl⟩
    | Refresh =>
        cases hauthority : app.sessionAuthority with
        | none => exact .fails ⟨ht, rfl, rfl, Or.inl ⟨rfl, Or.inl rfl, rfl, rfl⟩⟩
        | some authority =>
            refine .sends ⟨ht, rfl, rfl, ?_⟩ ?_
            · exact Or.inl ⟨rfl, Or.inl rfl, rfl, rfl⟩
            · intro worker
              exact ⟨rfl, hauthority, rfl⟩
    | Download => exact .fails ⟨ht, rfl, rfl, Or.inl ⟨rfl, Or.inl rfl, rfl, rfl⟩⟩
    | Cancel => exact .fails ⟨ht, rfl, rfl, Or.inl ⟨rfl, Or.inl rfl, rfl, rfl⟩⟩

lemma cancel_ends : Ends crates env app (app.cancel crates env) := by
  rw [DesktopApp.cancel]
  cases hauthority : app.sessionAuthority with
  | none => exact ends_self env app _
  | some authority =>
      rcases dispatch_starts h app .Cancel with ⟨lifecycle, hrests, heq⟩ | ⟨kind, ht, heq⟩
      · rw [heq]
        exact .quiet hrests rfl rfl rfl rfl (Or.inl rfl)
      · rw [heq]
        refine .sends ⟨ht, rfl, rfl, ?_⟩ ?_
        · exact Or.inr ⟨rfl, rfl, rfl, rfl⟩
        · intro worker
          exact ⟨rfl, hauthority⟩

lemma download_ends : Ends crates env app (app.download crates env) := by
  rw [DesktopApp.download]
  cases hauthority : app.sessionAuthority with
  | none => exact ends_self env app _
  | some authority =>
      cases hfile : app.availableSelection crates with
      | none => exact ends_self env app _
      | some file =>
          rcases dispatch_starts h app .Download with ⟨lifecycle, hrests, heq⟩ | ⟨kind, ht, heq⟩
          · rw [heq]
            exact .quiet hrests rfl rfl rfl rfl (Or.inl rfl)
          · rw [heq]
            refine .sends ⟨ht, rfl, rfl, ?_⟩ ?_
            · exact Or.inl ⟨rfl, Or.inl rfl, rfl, rfl⟩
            · intro worker
              exact ⟨rfl, hauthority, hfile⟩

/-- **Every call** of the user and of the timer. -/
theorem call_ends (call : UserCall) : Ends crates env app (app.call crates env call) := by
  cases call with
  | Create => exact create_ends h env app
  | Refresh => exact refresh_ends h env app
  | Retry => exact retry_ends h env app
  | Cancel => exact cancel_ends h env app
  | Download => exact download_ends h env app
  | TimerRefresh checked =>
      simp only [DesktopApp.call, DesktopApp.timerRefresh]
      split_ifs
      · exact refresh_ends h env app
      · exact ends_self env app _
  | EditBaseUrl baseUrl =>
      simp only [DesktopApp.call]
      split_ifs with hedit
      · obtain ⟨hnone, hidle⟩ := hedit
        exact .edit (Option.isNone_iff_eq_none.mp hnone)
          (by simpa [Lifecycle.isInFlight] using hidle) baseUrl
      · exact ends_self env app _
  | SelectFile fileId =>
      simp only [DesktopApp.call]
      split_ifs with hfile
      · obtain ⟨file, hmem, rfl, -⟩ := hfile
        exact .quiet (Or.inl rfl) rfl rfl rfl rfl (Or.inr ⟨file, hmem, rfl⟩)
      · exact ends_self env app _
  | EditApplicationId _ | EditDestination _ | SetForce _ =>
      simp only [DesktopApp.call]
      split_ifs
      all_goals exact .quiet (Or.inl rfl) rfl rfl rfl rfl (Or.inl rfl)

end Ends

end FtnlDesktop.Receive
