import FtnlDesktop.Clipboard.Resurrection
import FtnlDesktop.Interface.Refinement

/-!
# The window, the tray and the capture state

The app keeps three bits about its shell: whether the window is shown, whether capture is on, and
whether the user has quit.  None of them is read back from where it comes from; the window is told
by commands, and capture is decided by the workspace.

* **`shell_agrees`** — over every run of frames the three bits say what is the case: the window is
  as the commands left it, capture is as the workspace has it, and a request to close the window is
  cancelled exactly while there is a tray to come back from and nobody has quit.

Only `process_shell` touches the first and the last; everything else in a frame keeps them
(`KeepsWindow`).
-/

namespace FtnlDesktop.Interface

open Clipboard (Outside RowClicks ShellAction ShellState)

/-! ## What leaves the window alone -/

/-- The bit of the shell says whether capture is active. -/
def Mirrors (app : Clipboard.DesktopApp) : Prop :=
  app.shell.captureActive = decide (app.workspace.captureState = .Active)

structure KeepsWindow (app app' : Clipboard.DesktopApp) : Prop where
  tray : app'.tray = app.tray
  windowVisible : app'.shell.windowVisible = app.shell.windowVisible
  quitRequested : app'.shell.quitRequested = app.shell.quitRequested
  mirrors : Mirrors app → Mirrors app'

lemma KeepsWindow.refl (app : Clipboard.DesktopApp) : KeepsWindow app app := ⟨rfl, rfl, rfl, id⟩

lemma KeepsWindow.trans {app app' app'' : Clipboard.DesktopApp} (h : KeepsWindow app app')
    (h' : KeepsWindow app' app'') : KeepsWindow app app'' :=
  ⟨h'.tray.trans h.tray, h'.windowVisible.trans h.windowVisible,
    h'.quitRequested.trans h.quitRequested, h'.mirrors ∘ h.mirrors⟩

/-- What keeps the shell and the capture state keeps the window. -/
lemma keepsWindow_of_same {app app' : Clipboard.DesktopApp} (htray : app'.tray = app.tray)
    (hshell : app'.shell = app.shell)
    (hstate : app'.workspace.captureState = app.workspace.captureState) : KeepsWindow app app' := by
  refine ⟨htray, by rw [hshell], by rw [hshell], fun hmirrors => ?_⟩
  rw [Mirrors, hshell, hstate]
  exact hmirrors

section Methods

variable {sha256 : Bytes → Digest} {outside : Outside}

/-- Only the two actions for it change the capture state. -/
lemma captureState_serve {w : ClipboardWorkspace} {r : Request} (hpause : r.action ≠ .PauseCapture)
    (hresume : r.action ≠ .ResumeCapture) :
    (serve sha256 w r).captureState = w.captureState := by
  rcases serve_cases sha256 w r with ⟨-, hsame⟩ | ⟨-, -, -, -, m, heffect, hserve⟩
  · rw [hsame]
  · rw [hserve]
    obtain ⟨commandId, expectedRevision, action, now⟩ := r
    cases heffect with
    | pause => exact absurd rfl hpause
    | resume => exact absurd rfl hresume
    | _ => rfl

variable (sha256 outside) in
lemma shell_applyWorkspaceAction (app : Clipboard.DesktopApp) (action : WorkspaceAction) :
    (app.applyWorkspaceAction sha256 outside action).2.tray = app.tray ∧
      (app.applyWorkspaceAction sha256 outside action).2.shell = app.shell := by
  rw [Clipboard.DesktopApp.applyWorkspaceAction]
  cases (apply sha256 outside.commandId app.workspace.revision action outside.now).run
      app.workspace <;> exact ⟨rfl, rfl⟩

variable (sha256 outside) in
lemma keepsWindow_apply (app : Clipboard.DesktopApp) (action : WorkspaceAction)
    (hpause : action ≠ .PauseCapture) (hresume : action ≠ .ResumeCapture) :
    KeepsWindow app (app.applyWorkspaceAction sha256 outside action).2 := by
  obtain ⟨htray, hshell⟩ := shell_applyWorkspaceAction sha256 outside app action
  obtain ⟨hworkspace, -⟩ := Clipboard.applyWorkspaceAction_cases sha256 outside app action
  refine keepsWindow_of_same htray hshell ?_
  rw [hworkspace]
  exact captureState_serve hpause hresume

/-- The bit is set from the workspace at the end, whatever became of the action. -/
lemma keepsWindow_setCaptureActive (app : Clipboard.DesktopApp) (active : Bool) :
    KeepsWindow app (app.setCaptureActive sha256 outside active) := by
  have hset : ∀ app' : Clipboard.DesktopApp, app'.tray = app.tray → app'.shell = app.shell →
      KeepsWindow app { app' with shell := { app'.shell with
        captureActive := app'.workspace.captureState = .Active } } := by
    intro app' htray hshell
    exact ⟨htray, by rw [hshell], by rw [hshell], fun _ => rfl⟩
  rw [Clipboard.DesktopApp.setCaptureActive]
  split_ifs
  all_goals first
    | exact hset app rfl rfl
    | exact hset _ (shell_applyWorkspaceAction sha256 outside app _).1
        (shell_applyWorkspaceAction sha256 outside app _).2

lemma keepsWindow_captureClipboardText (app : Clipboard.DesktopApp) (content : Option String)
    (reportEmpty : Bool) :
    KeepsWindow app (app.captureClipboardText sha256 outside content reportEmpty) := by
  have hmessage : ∀ message, KeepsWindow app { app with workspaceMessage := message } :=
    fun _ => keepsWindow_of_same rfl rfl rfl
  have hingest : ∀ text, KeepsWindow app (app.applyWorkspaceAction sha256 outside
      (.IngestText outside.itemId text (contentSha256Hex sha256 text) text.utf8ByteSize
        outside.capturedAt none)).2 :=
    fun _ => keepsWindow_apply sha256 outside app _ (by simp) (by simp)
  rw [Clipboard.DesktopApp.captureClipboardText]
  cases Clipboard.DesktopApp.getText outside content with
  | none =>
      split_ifs
      all_goals first | exact .refl app | exact hmessage _
  | some text =>
      dsimp only
      specialize hingest text
      generalize app.applyWorkspaceAction sha256 outside
        (.IngestText outside.itemId text (contentSha256Hex sha256 text) text.utf8ByteSize
          outside.capturedAt none) = result at hingest ⊢
      rcases result with ⟨_ | _, app'⟩
      · split_ifs
        all_goals first | exact .refl app | exact hmessage _ | exact hingest
      · split_ifs
        all_goals first
          | exact .refl app
          | exact hmessage _
          | exact hingest.trans (keepsWindow_of_same rfl rfl rfl)

lemma keepsWindow_pollClipboard (app : Clipboard.DesktopApp) (content : Option String) :
    KeepsWindow app (app.pollClipboard sha256 outside content) := by
  rw [Clipboard.DesktopApp.pollClipboard]
  split_ifs
  · have hinstant : KeepsWindow app { app with lastClipboardPoll := outside.instant } :=
      keepsWindow_of_same rfl rfl rfl
    exact hinstant.trans (keepsWindow_captureClipboardText _ content false)
  · exact .refl app

lemma keepsWindow_clearUnpinned (app : Clipboard.DesktopApp) :
    KeepsWindow app (app.clearUnpinned sha256 outside) := by
  rw [Clipboard.DesktopApp.clearUnpinned]
  split_ifs
  · exact keepsWindow_apply sha256 outside app _ (by simp) (by simp)
  · exact .refl app

lemma keepsWindow_applyRetentionPolicy (app : Clipboard.DesktopApp) (policy : RetentionPolicy) :
    KeepsWindow app (app.applyRetentionPolicy sha256 outside policy) := by
  rw [Clipboard.DesktopApp.applyRetentionPolicy]
  split_ifs
  · exact keepsWindow_apply sha256 outside app _ (by simp) (by simp)
  · exact .refl app

lemma keepsWindow_addExclusion (app : Clipboard.DesktopApp) :
    KeepsWindow app (app.addExclusion sha256 outside) := by
  rw [Clipboard.DesktopApp.addExclusion]
  have hset := keepsWindow_apply sha256 outside app
    (.SetSourceExclusions (app.workspace.excludedSourceFingerprints.elems
      ++ [trim app.sourceExclusionInput])) (by simp) (by simp)
  generalize app.applyWorkspaceAction sha256 outside
    (.SetSourceExclusions (app.workspace.excludedSourceFingerprints.elems
      ++ [trim app.sourceExclusionInput])) = result at hset ⊢
  rcases result with ⟨_ | _, app'⟩
  · exact hset
  · exact hset.trans (keepsWindow_of_same rfl rfl rfl)

lemma keepsWindow_handleRow (desktop : Clipboard.Desktop) (item : ClipboardItem)
    (clicks : RowClicks) :
    KeepsWindow desktop.app
      (Clipboard.handleRow sha256 outside desktop item clicks).app := by
  have hcopy : KeepsWindow desktop.app
      (if clicks.copy then Clipboard.copyClipboardItem outside desktop item else desktop).app := by
    rw [Clipboard.copyClipboardItem]
    split_ifs
    all_goals exact keepsWindow_of_same rfl rfl rfl
  rw [Clipboard.handleRow]
  cases haction : clicks.action item with
  | none => exact hcopy
  | some action =>
      have hkind : action ≠ .PauseCapture ∧ action ≠ .ResumeCapture := by
        rw [Clipboard.RowClicks.action] at haction
        split_ifs at haction <;> cases haction <;> exact ⟨by simp, by simp⟩
      exact hcopy.trans (keepsWindow_apply sha256 outside _ _ hkind.1 hkind.2)

end Methods

/-! ## What a frame does to it -/

section Frame

variable {lib : Libraries} {world : World}

lemma keepsWindow_on {α : Type} {click : Option (Click α)} {body : World → α → World}
    (h : ∀ world value, KeepsWindow world.clipboard (body world value).clipboard) :
    KeepsWindow world.clipboard (world.on lib click body).clipboard := by
  cases click with
  | none => exact .refl world.clipboard
  | some click =>
      rw [← clipboard_others lib click.others]
      exact h _ click.value

lemma keepsWindow_renderRows (rows : ℕ → Click (RowClicks × Outside))
    (items : List ClipboardItem) :
    KeepsWindow world.clipboard (world.renderRows lib rows items).clipboard := by
  induction items generalizing world rows with
  | nil => exact .refl world.clipboard
  | cons item items ih =>
      refine KeepsWindow.trans ?_ (ih fun n => rows (n + 1))
      rw [← clipboard_others lib (rows 0).others]
      exact keepsWindow_handleRow ⟨(world.others lib (rows 0).others).clipboard, _, []⟩ item _

lemma keepsWindow_renderClipboard (page : ClipboardPage) :
    KeepsWindow world.clipboard (world.renderClipboard lib page).clipboard := by
  rw [World.renderClipboard]
  refine KeepsWindow.trans ?_ (keepsWindow_renderRows page.rows _)
  refine KeepsWindow.trans ?_ (keepsWindow_on fun world outside => ?clear)
  case clear => exact keepsWindow_clearUnpinned world.clipboard
  refine KeepsWindow.trans ?_ (keepsWindow_on fun world search => ?search)
  case search => exact keepsWindow_apply _ _ world.clipboard _ (by simp) (by simp)
  split_ifs
  · refine KeepsWindow.trans ?_ (keepsWindow_on fun world outside => ?_)
    · exact keepsWindow_on fun world outside => keepsWindow_setCaptureActive world.clipboard _
    · exact keepsWindow_captureClipboardText world.clipboard _ _
  · exact keepsWindow_on fun world outside => keepsWindow_setCaptureActive world.clipboard _

lemma clipboard_on {α : Type} {click : Option (Click α)} {body : World → α → World}
    (h : ∀ world value, (body world value).clipboard = world.clipboard) :
    (world.on lib click body).clipboard = world.clipboard := by
  cases click with
  | none => rfl
  | some click => exact (h _ click.value).trans (clipboard_others lib click.others)

/-- The receive page is nothing to the clipboard side. -/
lemma clipboard_renderReceive (page : ReceivePage) :
    (world.renderReceive lib page).clipboard = world.clipboard := by
  have hon : ∀ {α : Type} (world : World) (click : Option (Click α))
      (f : α → Receive.DesktopApp → Receive.DesktopApp),
      (world.on lib click fun self value => self.mapReceive (f value)).clipboard
        = world.clipboard :=
    fun world click f => clipboard_on fun _ _ => rfl
  have hforms :=
    (hon _ page.picker fun action app => pickerAction lib.app action.2 app action.1).trans
      ((hon _ page.refresh fun env => ifCan lib.app .Refresh fun app => app.refresh lib.app env).trans
        (hon (world.mapReceive (editService page)) page.create
          fun env => ifCan lib.app .Start fun app => app.create lib.app env))
  rw [World.renderReceive]
  split_ifs
  · exact hforms
  · exact (hon _ page.download _).trans hforms

lemma keepsWindow_renderExclusions (remove : ℕ → Option (Click Outside))
    (exclusions : List String) :
    KeepsWindow world.clipboard (world.renderExclusions lib remove exclusions).clipboard := by
  induction exclusions generalizing world remove with
  | nil => exact .refl world.clipboard
  | cons fingerprint exclusions ih =>
      refine KeepsWindow.trans (keepsWindow_on fun world outside => ?_) (ih fun n => remove (n + 1))
      exact keepsWindow_apply _ _ world.clipboard _ (by simp) (by simp)

lemma keepsWindow_renderPrivacy (page : PrivacyPage) :
    KeepsWindow world.clipboard (world.renderPrivacy lib page).clipboard := by
  rw [World.renderPrivacy]
  refine KeepsWindow.trans ?_ (keepsWindow_renderExclusions page.remove _)
  refine KeepsWindow.trans ?_ (keepsWindow_on fun world outside => ?add)
  case add => exact keepsWindow_addExclusion world.clipboard
  refine KeepsWindow.trans (keepsWindow_on fun world retention => ?_)
    (keepsWindow_of_same rfl rfl rfl)
  exact keepsWindow_applyRetentionPolicy world.clipboard retention.1

lemma keepsWindow_renderPage (input : FrameInput) :
    KeepsWindow world.clipboard (world.renderPage lib input).clipboard := by
  rw [World.renderPage]
  cases world.page with
  | Clipboard => exact keepsWindow_renderClipboard input.clipboardPage
  | Receive =>
      rw [clipboard_renderReceive]
      exact .refl world.clipboard
  | Privacy => exact keepsWindow_renderPrivacy input.privacyPage

/-- From the poll on a frame leaves the window alone. -/
lemma keepsWindow_afterResponses (input : FrameInput) :
    KeepsWindow world.clipboard (world.afterResponses lib input).clipboard := by
  rw [World.afterResponses]
  refine KeepsWindow.trans ?_ (keepsWindow_renderPage input)
  show KeepsWindow world.clipboard (World.others lib _ input.timer.others).clipboard
  rw [clipboard_others lib]
  refine KeepsWindow.trans ?_ (keepsWindow_pollClipboard _ _)
  rw [clipboard_others lib]
  exact .refl world.clipboard

end Frame

/-! ## The commands of a frame -/

/-- What a command makes of a window that is shown or not. -/
def ViewportCommand.window (visible : Bool) : ViewportCommand → Bool
  | .Visible visible => visible
  | _ => visible

/-- The window after the commands. -/
def windowAfter (visible : Bool) (commands : List ViewportCommand) : Bool :=
  commands.foldl ViewportCommand.window visible

lemma windowAfter_append (visible : Bool) (commands later : List ViewportCommand) :
    windowAfter visible (commands ++ later) = windowAfter (windowAfter visible commands) later :=
  List.foldl_append

section Shell

variable {sha256 : Bytes → Digest}

variable (sha256) in
lemma processActions_fst (outside : ℕ → Outside) (actions : List ShellAction)
    (app : Clipboard.DesktopApp) :
    (processActions sha256 outside actions app).1 = actions.flatMap viewportCommands := by
  induction actions generalizing outside app with
  | nil => rfl
  | cons action actions ih =>
      rw [processActions, List.flatMap_cons, ← ih (fun n => outside (n + 1))
        (app.processShellAction sha256 (outside 0) action)]

/-- The loop over the actions of the tray, which is there. -/
structure Processed (actions : List ShellAction) (app app' : Clipboard.DesktopApp) : Prop where
  tray : app'.tray = app.tray
  windowVisible : app'.shell.windowVisible
    = windowAfter app.shell.windowVisible (actions.flatMap viewportCommands)
  quitRequested : app'.shell.quitRequested = true
    ↔ app.shell.quitRequested = true ∨ .Quit ∈ actions
  mirrors : Mirrors app → Mirrors app'

variable (sha256) in
lemma processed_action (outside : Outside) {app : Clipboard.DesktopApp} (htray : app.tray = true)
    (action : ShellAction) :
    Processed [action] app (app.processShellAction sha256 outside action) := by
  have hcapture : ∀ active, KeepsWindow app (app.setCaptureActive sha256 outside active) :=
    keepsWindow_setCaptureActive app
  simp only [Clipboard.DesktopApp.processShellAction, if_pos htray]
  cases action with
  | OpenWindow => exact ⟨rfl, rfl, by simp [ShellState.apply], id⟩
  | HideWindow => exact ⟨rfl, rfl, by simp [ShellState.apply], id⟩
  | PauseCapture =>
      exact ⟨(hcapture false).tray, (hcapture false).windowVisible,
        by simp [(hcapture false).quitRequested], (hcapture false).mirrors⟩
  | ResumeCapture =>
      exact ⟨(hcapture true).tray, (hcapture true).windowVisible,
        by simp [(hcapture true).quitRequested], (hcapture true).mirrors⟩
  | Quit => exact ⟨rfl, rfl, by simp [ShellState.apply], id⟩

lemma processed_actions (outside : ℕ → Outside) (actions : List ShellAction)
    {app : Clipboard.DesktopApp} (htray : app.tray = true) :
    Processed actions app (processActions sha256 outside actions app).2 := by
  induction actions generalizing outside app with
  | nil => exact ⟨rfl, rfl, by simp [processActions], id⟩
  | cons action actions ih =>
      have haction := processed_action sha256 (outside 0) htray action
      have hrest := ih (fun n => outside (n + 1)) (haction.tray.trans htray)
      refine ⟨hrest.tray.trans haction.tray, ?_, ?_, hrest.mirrors ∘ haction.mirrors⟩
      · refine hrest.windowVisible.trans ?_
        simp only [haction.windowVisible, List.flatMap_cons, List.flatMap_nil, List.append_nil,
          windowAfter_append]
      · refine hrest.quitRequested.trans ?_
        simp only [haction.quitRequested, List.mem_cons, List.not_mem_nil, or_false, or_assoc]

/-- **What `process_shell` does**, given the actions that the tray reports. -/
structure ShellStep (events : ShellEvents) (app app' : Clipboard.DesktopApp)
    (commands : List ViewportCommand) : Prop where
  tray : app'.tray = app.tray
  windowVisible : app'.shell.windowVisible = windowAfter app.shell.windowVisible commands
  quitRequested : app'.shell.quitRequested = true
    ↔ app.shell.quitRequested = true ∨ .Quit ∈ events.actions app.tray
  mirrors : Mirrors app → Mirrors app'
  closes : .Close ∈ commands ↔ .Quit ∈ events.actions app.tray
  cancels : .CancelClose ∈ commands
    ↔ events.closeRequested = true ∧ app.tray = true ∧ app'.shell.quitRequested = false
  untouched : app.tray = false → commands = []

/-- Only an action sends `Close`, and none sends `CancelClose`. -/
lemma mem_viewportCommands (actions : List ShellAction) :
    (.Close ∈ actions.flatMap viewportCommands ↔ .Quit ∈ actions) ∧
      .CancelClose ∉ actions.flatMap viewportCommands := by
  constructor
  · rw [List.mem_flatMap]
    constructor
    · rintro ⟨action, hmem, hclose⟩
      cases action <;> first | exact hmem | simp [viewportCommands] at hclose
    · exact fun hmem => ⟨.Quit, hmem, by simp [viewportCommands]⟩
  · rw [List.mem_flatMap]
    rintro ⟨action, -, hcancel⟩
    cases action <;> simp [viewportCommands] at hcancel

lemma ShellStep.keeps {events : ShellEvents} {app app' app'' : Clipboard.DesktopApp}
    {commands : List ViewportCommand} (h : ShellStep events app app' commands)
    (hkeeps : KeepsWindow app' app'') : ShellStep events app app'' commands where
  tray := hkeeps.tray.trans h.tray
  windowVisible := hkeeps.windowVisible.trans h.windowVisible
  quitRequested := by rw [hkeeps.quitRequested, h.quitRequested]
  mirrors := hkeeps.mirrors ∘ h.mirrors
  closes := h.closes
  cancels := by rw [hkeeps.quitRequested, h.cancels]
  untouched := h.untouched

/-- Nobody has quit after the frame if nobody had before and nobody does in it. -/
lemma ShellStep.stays {events : ShellEvents} {app app' : Clipboard.DesktopApp}
    {commands : List ViewportCommand} (h : ShellStep events app app' commands) :
    app'.shell.quitRequested = false
      ↔ app.shell.quitRequested = false ∧ .Quit ∉ events.actions app.tray := by
  rw [← Bool.not_eq_true, h.quitRequested, not_or, Bool.not_eq_true]

variable (sha256) in
lemma shellStep_processShell (events : ShellEvents) (app : Clipboard.DesktopApp) :
    ShellStep events app (processShell sha256 events app).2 (processShell sha256 events app).1 := by
  obtain ⟨hclose, hcancel⟩ := mem_viewportCommands (events.actions app.tray)
  have hcommands := processActions_fst sha256 events.outside
    (events.actions app.tray) app
  have hprocessed : Processed (events.actions app.tray) app
      (processActions sha256 events.outside (events.actions app.tray) app).2 := by
    cases htray : app.tray with
    | true => exact processed_actions events.outside _ htray
    | false => exact ⟨rfl, rfl, by simp [ShellEvents.actions, processActions], id⟩
  rw [processShell]
  generalize processActions sha256 events.outside (events.actions app.tray) app = result
    at hcommands hprocessed ⊢
  obtain ⟨commands, app'⟩ := result
  obtain rfl : commands = (events.actions app.tray).flatMap viewportCommands := hcommands
  obtain ⟨htray, hvisible, hquit, hmirrors⟩ := hprocessed
  have hnone : app.tray = false → (events.actions app.tray).flatMap viewportCommands = [] := by
    intro hfalse
    rw [hfalse]
    rfl
  by_cases hrequested : events.closeRequested = true
  · by_cases hgoes : app'.shell.quitRequested = true ∨ ¬ app'.tray = true
    · -- the request goes through
      simp only [hrequested, ↓reduceIte, ShellState.onCloseRequested, if_pos hgoes]
      refine ⟨htray, hvisible, hquit, hmirrors, hclose, iff_of_false hcancel ?_, hnone⟩
      rintro ⟨-, hthere, hstays⟩
      rcases hgoes with hgoes | hgoes
      · rw [hgoes] at hstays
        cases hstays
      · exact hgoes (htray.trans hthere)
    · have hstays : app'.shell.quitRequested = false ∧ app.tray = true := by
        rw [htray] at hgoes
        simpa using hgoes
      simp only [hrequested, ↓reduceIte, ShellState.onCloseRequested, if_neg hgoes]
      refine ⟨htray, ?_, hquit, hmirrors, ?_, ?_, fun hfalse => ?_⟩
      · simp [windowAfter, ViewportCommand.window]
      · simpa using hclose
      · simp [hstays.1, hstays.2, hrequested]
      · rw [hstays.2] at hfalse
        cases hfalse
  · simp only [hrequested, Bool.false_eq_true, ↓reduceIte]
    exact ⟨htray, hvisible, hquit, hmirrors, hclose,
      iff_of_false hcancel fun hall => hrequested hall.1, hnone⟩

end Shell

/-! ## Whole runs -/

/-- A frame does to the window what its `process_shell` does. -/
lemma shellStep_update {lib : Libraries} {world world' : World} {input : FrameInput}
    {commands : List ViewportCommand} (h : world.update lib input = some (commands, world')) :
    ShellStep input.shell world.clipboard world'.clipboard commands := by
  rw [World.update] at h
  have hshell := shellStep_processShell lib.sha256 input.shell
    (world.others lib input.others).clipboard
  generalize processShell lib.sha256 input.shell (world.others lib input.others).clipboard = result
    at h hshell
  obtain ⟨sent, app⟩ := result
  obtain ⟨⟨processed, receive⟩, -, heq⟩ := Option.map_eq_some_iff.mp h
  obtain ⟨rfl, rfl⟩ := Prod.mk.inj heq
  rw [clipboard_others lib] at hshell
  exact hshell.keeps (@keepsWindow_afterResponses lib
    { world.others lib input.others with clipboard := app, receive } input)

/-- What the three bits of the shell say after a run of frames, and what the frames have sent. -/
structure ShellAgrees (start : Clipboard.DesktopApp) (frames : List FrameInput)
    (commands : List (List ViewportCommand)) (app : Clipboard.DesktopApp) : Prop where
  windowVisible : app.shell.windowVisible = windowAfter start.shell.windowVisible commands.flatten
  captureActive : app.shell.captureActive = decide (app.workspace.captureState = .Active)
  closes : ∀ (k : ℕ) (frame : FrameInput) (sent : List ViewportCommand),
    frames[k]? = some frame → commands[k]? = some sent →
      (.Close ∈ sent ↔ .Quit ∈ frame.shell.actions start.tray)
  cancels : ∀ (k : ℕ) (frame : FrameInput) (sent : List ViewportCommand),
    frames[k]? = some frame → commands[k]? = some sent →
    (.CancelClose ∈ sent ↔ frame.shell.closeRequested = true ∧ start.tray = true ∧
      start.shell.quitRequested = false ∧
      ∀ earlier ∈ frames.take (k + 1), .Quit ∉ earlier.shell.actions start.tray)
  untouched : start.tray = false → commands.flatten = []

lemma ShellAgrees.cons {app app' app'' : Clipboard.DesktopApp} {input : FrameInput}
    {inputs : List FrameInput} {sent : List ViewportCommand} {later : List (List ViewportCommand)}
    (hlater : ShellAgrees app' inputs later app'')
    (hstep : ShellStep input.shell app app' sent) :
    ShellAgrees app (input :: inputs) (sent :: later) app'' where
  windowVisible := by
    rw [hlater.windowVisible, hstep.windowVisible, List.flatten_cons, windowAfter_append]
  captureActive := hlater.captureActive
  closes := by
    intro k frame commands hframe hcommands
    cases k with
    | zero =>
        obtain rfl : input = frame := by simpa using hframe
        obtain rfl : sent = commands := by simpa using hcommands
        exact hstep.closes
    | succ k =>
        rw [← hstep.tray]
        exact hlater.closes k frame commands (by simpa using hframe) (by simpa using hcommands)
  cancels := by
    intro k frame commands hframe hcommands
    cases k with
    | zero =>
        obtain rfl : input = frame := by simpa using hframe
        obtain rfl : sent = commands := by simpa using hcommands
        rw [hstep.cancels, hstep.stays]
        simp
    | succ k =>
        rw [hlater.cancels k frame commands (by simpa using hframe) (by simpa using hcommands),
          hstep.stays, hstep.tray, List.take_succ_cons, List.forall_mem_cons]
        tauto
  untouched := by
    intro hnone
    rw [List.flatten_cons, hstep.untouched hnone, hlater.untouched (hstep.tray.trans hnone)]
    rfl

lemma shellAgrees_frames {lib : Libraries} (inputs : List FrameInput) :
    ∀ {world world' : World} {commands : List (List ViewportCommand)},
      Mirrors world.clipboard → world.frames lib inputs = some (commands, world') →
        ShellAgrees world.clipboard inputs commands world'.clipboard := by
  induction inputs with
  | nil =>
      rintro world _ _ hmirrors ⟨⟩
      exact ⟨rfl, hmirrors, by simp, by simp, fun _ => rfl⟩
  | cons input inputs ih =>
      intro world world' commands hmirrors h
      rw [World.frames] at h
      cases hupdate : world.update lib input with
      | none => simp [hupdate] at h
      | some result =>
          obtain ⟨sent, world₁⟩ := result
          simp only [hupdate, Option.map_eq_some_iff] at h
          obtain ⟨⟨later, world₂⟩, hrest, heq⟩ := h
          obtain ⟨rfl, rfl⟩ := Prod.mk.inj heq
          have hstep := shellStep_update hupdate
          have hagrees := ih (hstep.mirrors hmirrors) hrest
          exact hagrees.cons hstep

/-- **The shell agrees with the window, the tray and the workspace**, over every run of frames from
the start of the app. -/
theorem shell_agrees (lib : Libraries) (h : lib.app.picker.Controlled)
    (tray clipboard : Bool) (polled refreshed : Instant) (content : Option String)
    (frames : List FrameInput) :
    ∃ commands world,
      (World.start tray clipboard polled refreshed content).frames lib frames
        = some (commands, world) ∧
      ShellAgrees (.new tray clipboard polled) frames commands world.clipboard := by
  have hinv : (World.start tray clipboard polled refreshed content).receive.Inv lib.app :=
    Receive.System.inv_start lib.app h.idle refreshed
  have hmirrors : Mirrors (World.start tray clipboard polled refreshed content).clipboard := rfl
  obtain ⟨commands, world, hrun⟩ := exists_frames h frames hinv
  exact ⟨commands, world, hrun, shellAgrees_frames frames hmirrors hrun⟩

/-- Closing hides the window and keeps capturing; after "Quit" it goes through. -/
def quittingFrames : List FrameInput :=
  [{ quietFrame 1 with shell := ⟨[RESUME_ID], [], true, fun _ => exampleOutside 1⟩ },
    { quietFrame 2 with
      shell := ⟨[], [.Click .Left .Up], false, fun _ => exampleOutside 2⟩ },
    { quietFrame 3 with shell := ⟨[QUIT_ID], [], false, fun _ => exampleOutside 3⟩ },
    { quietFrame 4 with shell := ⟨[], [], true, fun _ => exampleOutside 4⟩ }]

def quittingCommands : List (List ViewportCommand) :=
  [[.CancelClose, .Visible false], [.Visible true, .Focus], [.Close], []]

theorem shell_agrees_quitting :
    ∃ world,
      (World.start true true 0 0 none).frames exampleLibraries quittingFrames
        = some (quittingCommands, world) ∧
      ShellAgrees (.new true true 0) quittingFrames quittingCommands world.clipboard := by
  obtain ⟨commands, world, hframes, hagrees⟩ := shell_agrees exampleLibraries
    Receive.controlled_tablePicker true true 0 0 none quittingFrames
  have hcommands : ((World.start true true 0 0 none).frames exampleLibraries quittingFrames).map
      Prod.fst = some quittingCommands := by decide +kernel
  rw [hframes, Option.map_some, Option.some.injEq] at hcommands
  subst hcommands
  exact ⟨world, hframes, hagrees⟩

end FtnlDesktop.Interface
