import FtnlDesktop.Clipboard.Polling
import FtnlDesktop.Core.MacroStep
import FtnlDesktop.Interface.Frame
import FtnlDesktop.Receive.Messages

/-!
# Frames do nothing but events

The clipboard side and the receive side were modelled as machines whose inputs are single events,
in any order and of any kind.  The app is a loop of frames, each of which asks a fixed series of
widgets, remembers what it asked before (`active`, `busy`, the items and files that are shown), and
lets the user act on one page only.

* **`frames_are_events`** — every run of frames comes to an end, and there is one run of the two
  machines, side by side, that passes through what the app is at the end of each frame, but for the
  message of the receive page.  What was proved of all runs of events so holds of the app.

Each piece of a frame is followed by the machines (`Evolves`); the pieces compose.  What a frame
does whatever is clicked, the machines are made to do as well: the actions of the tray, a close
request, the poll and the look at the timer are the duties of the frame.
-/

namespace FtnlDesktop.Interface

open Machine
open Clipboard (Outside RowClicks ShellAction)
open Receive (Env FileDescriptor System SystemInput WorkerStep)

/-- The two sides as one machine. -/
def events (lib : Libraries) :
    Clipboard.Desktop × System → Clipboard.Input ⊕ SystemInput → Clipboard.Desktop × System :=
  sideBySide (Clipboard.step lib.sha256 lib.toLowercase) (System.step lib.app)

/-- The two sides are those of the world, but for the message.  Of the items that the clipboard
machine remembers nothing is said, or that they are these. -/
structure Matches (items : Option (List ClipboardItem)) (world : World)
    (sides : Clipboard.Desktop × System) : Prop where
  app : sides.1.app = world.clipboard
  systemClipboard : sides.1.systemClipboard = world.systemClipboard
  receive : sides.2.silent = world.receive.silent
  items : ∀ shown ∈ items, sides.1.items = shown

/-- What decides nothing. -/
def Outside.none : Outside := ⟨0, 0, 0, 0, 0, 0, false, false⟩

/-- An event that does not wait for a click. -/
def isDuty : Clipboard.Input ⊕ SystemInput → Bool
  | .inl ⟨.ShellAction _, _⟩ => true
  | .inl ⟨.CloseRequested, _⟩ => true
  | .inl ⟨.Poll, _⟩ => true
  | .inr (.Call _ (.TimerRefresh _)) => true
  | _ => false

/-- The event, if it is a duty. -/
abbrev duty (event : Clipboard.Input ⊕ SystemInput) : List (Clipboard.Input ⊕ SystemInput) :=
  [event].filter isDuty

/-- The actions of the tray, from the `n`-th on. -/
def actionEvents (outside : ℕ → Outside) (actions : List ShellAction) :
    List (Clipboard.Input ⊕ SystemInput) :=
  actions.mapIdx fun n action => .inl ⟨.ShellAction action, outside n⟩

def ShellEvents.duties (tray : Bool) (shell : ShellEvents) :
    List (Clipboard.Input ⊕ SystemInput) :=
  actionEvents shell.outside (shell.actions tray)
    ++ if shell.closeRequested then [.inl ⟨.CloseRequested, Outside.none⟩] else []

/-- The duties of a frame, in their order. -/
def FrameInput.duties (tray : Bool) (input : FrameInput) : List (Clipboard.Input ⊕ SystemInput) :=
  input.shell.duties tray ++ [.inl ⟨.Poll, input.poll.value⟩,
    .inr (.Call input.timer.value.2 (.TimerRefresh input.timer.value.1))]

/-- What leads from one world to the other is a series of events with these duties. -/
abbrev Performs (lib : Libraries) (items : Option (List ClipboardItem))
    (duties : List (Clipboard.Input ⊕ SystemInput)) (world world' : World) : Prop :=
  Follows (events lib) isDuty (Matches items) duties world world'

/-- What leads from one world to the other is a series of events without duties. -/
abbrev Evolves (lib : Libraries) (items : Option (List ClipboardItem)) (world world' : World) :
    Prop :=
  Performs lib items [] world world'

section Pieces

variable {lib : Libraries} {items : Option (List ClipboardItem)} {world : World}

/-! ## Single events -/

lemma performs_clipboard (input : Clipboard.Input) {app : Clipboard.DesktopApp}
    {systemClipboard : Option String}
    (h : ∀ items, Clipboard.step lib.sha256 lib.toLowercase
      ⟨world.clipboard, world.systemClipboard, items⟩ input = ⟨app, systemClipboard, items⟩) :
    Performs lib items (duty (.inl input)) world
      { world with clipboard := app, systemClipboard } := by
  refine .of_step (Sum.inl input) ?_
  rintro ⟨⟨_, _, shown⟩, system⟩ ⟨rfl, rfl, hreceive, hitems⟩
  show Matches _ _
    (Clipboard.step _ _ ⟨world.clipboard, world.systemClipboard, shown⟩ input, system)
  rw [h shown]
  exact ⟨rfl, rfl, hreceive, hitems⟩

/-- The events of the clipboard side that leave the system clipboard alone. -/
lemma performs_mapClipboard (input : Clipboard.Input)
    {f : Clipboard.DesktopApp → Clipboard.DesktopApp}
    (h : ∀ items, Clipboard.step lib.sha256 lib.toLowercase
      ⟨world.clipboard, world.systemClipboard, items⟩ input
        = ⟨f world.clipboard, world.systemClipboard, items⟩) :
    Performs lib items (duty (.inl input)) world (world.mapClipboard f) :=
  performs_clipboard input h

lemma performs_system (input : SystemInput) {receive : System}
    (h : (world.receive.step lib.app input).silent = receive.silent) :
    Performs lib items (duty (.inr input)) world { world with receive } :=
  .of_step (Sum.inr input) fun _ hmatches =>
    { hmatches with receive := (System.silent_step_congr hmatches.receive input).trans h }

/-- The calls of the receive side. -/
lemma performs_call (env : Env) (call : Receive.UserCall)
    {f : Receive.DesktopApp → Receive.DesktopApp}
    (h : world.receive.app.call lib.app env call = f world.receive.app) :
    Performs lib items (duty (.inr (.Call env call))) world (world.mapReceive f) := by
  refine performs_system (.Call env call) ?_
  rw [System.step, h]

/-- What the machines do not see. -/
lemma evolves_of_same {world' : World} (hclipboard : world'.clipboard = world.clipboard)
    (hsystem : world'.systemClipboard = world.systemClipboard)
    (hreceive : world'.receive.silent = world.receive.silent) : Evolves lib items world world' :=
  fun _ hmatches => ⟨[], rfl, hmatches.app.trans hclipboard.symm,
    hmatches.systemClipboard.trans hsystem.symm, hmatches.receive.trans hreceive.symm,
    hmatches.items⟩

lemma duty_of_quiet {event : Clipboard.Input ⊕ SystemInput} (hquiet : isDuty event = false) :
    duty event = [] := by
  simp [hquiet]

lemma evolves_page (page : WorkspacePage) : Evolves lib items world { world with page } :=
  evolves_of_same rfl rfl rfl

/-! ## Beside the interface thread -/

lemma evolves_other (step : OtherStep) : Evolves lib items world (world.other lib step) := by
  cases step with
  | Worker step =>
      cases step with
      | Recv => exact performs_system .Recv rfl
      | Answer service => exact performs_system (.Answer service) rfl
  | External text => exact performs_clipboard ⟨.External text, Outside.none⟩ fun _ => rfl

lemma evolves_others (steps : List OtherStep) : Evolves lib items world (world.others lib steps) :=
  .foldl (fun _ step => evolves_other step) steps world

variable (lib) in
/-- The others do not touch the clipboard side of the app. -/
lemma clipboard_others (steps : List OtherStep) :
    (world.others lib steps).clipboard = world.clipboard := by
  induction steps generalizing world with
  | nil => rfl
  | cons step steps ih =>
      refine ih.trans ?_
      cases step <;> rfl

lemma Follows.on {α : Type} {click : Option (Click α)} {body : World → α → World}
    (h : ∀ others value, Evolves lib items (world.others lib others)
      (body (world.others lib others) value)) :
    Evolves lib items world (world.on lib click body) := by
  cases click with
  | none => exact .refl world
  | some click => exact (evolves_others click.others).trans (h click.others click.value)

/-! ## The shell and the answers -/

lemma performs_processActions (outside : ℕ → Outside) (actions : List ShellAction) :
    Performs lib items (actionEvents outside actions) world { world with
      clipboard := (processActions lib.sha256 outside actions world.clipboard).2 } := by
  induction actions generalizing world outside with
  | nil => exact .refl world
  | cons action actions ih =>
      have hstep : Performs lib items [.inl ⟨.ShellAction action, outside 0⟩] world
          (world.mapClipboard fun app => app.processShellAction lib.sha256 (outside 0) action) :=
        performs_mapClipboard ⟨.ShellAction action, outside 0⟩ fun _ => rfl
      rw [actionEvents, List.mapIdx_cons]
      exact hstep.append (ih fun n => outside (n + 1))

lemma performs_processShell (shell : ShellEvents) :
    Performs lib items (shell.duties world.clipboard.tray) world
      { world with clipboard := (processShell lib.sha256 shell world.clipboard).2 } := by
  refine (performs_processActions shell.outside (shell.actions world.clipboard.tray)).append ?_
  rw [processShell_snd]
  split_ifs
  · exact performs_mapClipboard ⟨.CloseRequested, Outside.none⟩ fun _ => rfl
  · exact .refl _

lemma evolves_exec (inputs : List SystemInput)
    (hquiet : ∀ input ∈ inputs, isDuty (.inr input) = false) : Evolves lib items world
      { world with receive := exec (System.step lib.app) world.receive inputs } := by
  induction inputs generalizing world with
  | nil => exact .refl world
  | cons input inputs ih =>
      have hstep : Performs lib items (duty (.inr input)) world
          { world with receive := world.receive.step lib.app input } := performs_system input rfl
      rw [duty_of_quiet (hquiet input List.mem_cons_self)] at hstep
      exact hstep.trans (ih fun other hmem => hquiet other (List.mem_cons_of_mem _ hmem))

/-- What the worker does is no duty. -/
lemma isDuty_work (steps : List WorkerStep) :
    ∀ input ∈ steps.map WorkerStep.input, isDuty (.inr input) = false := by
  intro input hmem
  obtain ⟨step, -, rfl⟩ := List.mem_map.mp hmem
  cases step <;> rfl

/-- The loop of `process_responses` is a run of the receive side. -/
lemma exec_processResponses {crates : Receive.AppCrates} {schedule : ℕ → List WorkerStep}
    {env : ℕ → Env} {fuel round : ℕ} {system system' : System} {processed : List Receive.Response}
    (h : system.processResponses crates schedule env fuel round = some (processed, system')) :
    ∃ inputs, system' = exec (System.step crates) system inputs ∧
      ∀ input ∈ inputs, isDuty (.inr input) = false := by
  induction fuel generalizing round system processed with
  | zero => cases h
  | succ fuel ih =>
      rw [System.processResponses] at h
      cases hresponses : (system.work crates (schedule round)).app.worker.responses with
      | nil =>
          simp only [Receive.Worker.tryRecv, hresponses, Option.some.injEq, Prod.mk.injEq] at h
          exact ⟨_, h.2.symm, isDuty_work (schedule round)⟩
      | cons response responses =>
          simp only [Receive.Worker.tryRecv, hresponses, Option.map_eq_some_iff] at h
          obtain ⟨⟨later, system''⟩, hrest, heq⟩ := h
          obtain rfl : system'' = system' := congrArg Prod.snd heq
          obtain ⟨inputs, hinputs, hquiet⟩ := ih hrest
          refine ⟨(schedule round).map WorkerStep.input
            ++ .ProcessResponse (env round) :: inputs, ?_, ?_⟩
          · rw [exec_append, exec_cons]
            exact hinputs
          · intro input hmem
            rcases List.mem_append.mp hmem with hwork | hrest
            · exact isDuty_work (schedule round) input hwork
            · rcases List.mem_cons.mp hrest with rfl | hrest
              · rfl
              · exact hquiet input hrest

/-! ## The clipboard page -/

/-- The row of an item leaves the items that are shown alone. -/
lemma handleRow_items (outside : Outside) (app : Clipboard.DesktopApp)
    (systemClipboard : Option String) (shown : List ClipboardItem) (item : ClipboardItem)
    (clicks : RowClicks) :
    Clipboard.handleRow lib.sha256 outside ⟨app, systemClipboard, shown⟩ item clicks
      = { Clipboard.handleRow lib.sha256 outside ⟨app, systemClipboard, []⟩ item clicks with
            items := shown } := by
  have hcopy : (if clicks.copy then Clipboard.copyClipboardItem outside
        ⟨app, systemClipboard, shown⟩ item else ⟨app, systemClipboard, shown⟩)
      = { (if clicks.copy then Clipboard.copyClipboardItem outside
          ⟨app, systemClipboard, []⟩ item else ⟨app, systemClipboard, []⟩) with
            items := shown } := by
    simp only [Clipboard.copyClipboardItem]
    split_ifs <;> rfl
  rw [Clipboard.handleRow, Clipboard.handleRow, hcopy]
  cases clicks.action item <;> rfl

lemma evolves_renderRow {shown : List ClipboardItem} {index : ℕ} {item : ClipboardItem}
    (hitem : shown[index]? = some item) (clicks : RowClicks) (outside : Outside) :
    Evolves lib (some shown) world (world.renderRow lib item clicks outside) := by
  refine .of_step (Sum.inl (⟨.Row index clicks, outside⟩ : Clipboard.Input)) ?_
  rintro ⟨⟨_, _, shown'⟩, system⟩ ⟨rfl, rfl, hreceive, hitems⟩
  obtain rfl : shown' = shown := hitems shown rfl
  have hstep : Clipboard.step lib.sha256 lib.toLowercase
      ⟨world.clipboard, world.systemClipboard, shown'⟩ ⟨.Row index clicks, outside⟩
        = { Clipboard.handleRow lib.sha256 outside
              ⟨world.clipboard, world.systemClipboard, []⟩ item clicks with items := shown' } := by
    simp only [Clipboard.step, hitem]
    exact handleRow_items outside _ _ shown' item clicks
  show Matches _ _ (Clipboard.step _ _ ⟨world.clipboard, world.systemClipboard, shown'⟩ _, system)
  rw [hstep]
  exact ⟨rfl, rfl, hreceive, hitems⟩

/-- The rows from one on, when the clipboard machine shows these items too. -/
lemma evolves_rows (shown rest : List ClipboardItem) (index : ℕ) (hrest : shown.drop index = rest)
    (rows : ℕ → Click (RowClicks × Outside)) :
    Evolves lib (some shown) world (world.renderRows lib rows rest) := by
  induction rest generalizing world index rows with
  | nil => exact .refl world
  | cons item rest ih =>
      have hitem : shown[index]? = some item := by
        rw [← List.head?_drop, hrest]
        rfl
      have hnext : shown.drop (index + 1) = rest := by
        rw [← List.tail_drop, hrest]
        rfl
      exact ((evolves_others (rows 0).others).trans (evolves_renderRow hitem _ _)).trans
        (ih (index + 1) hnext fun n => rows (n + 1))

/-- The items are cloned before the first row is handled. -/
lemma evolves_renderRows (rows : ℕ → Click (RowClicks × Outside)) :
    Evolves lib none world
      (world.renderRows lib rows (visibleItems lib.toLowercase world.clipboard.workspace)) := by
  intro sides hmatches
  generalize hshown : visibleItems lib.toLowercase world.clipboard.workspace = shown
  have hshow : Matches (some shown) world
      (events lib sides (.inl ⟨.ShowItems, Outside.none⟩)) := by
    obtain ⟨⟨_, _, _⟩, system⟩ := sides
    obtain ⟨rfl, rfl, hreceive, -⟩ := hmatches
    refine ⟨rfl, rfl, hreceive, ?_⟩
    rintro _ ⟨⟩
    exact hshown
  obtain ⟨inputs, hquiet, hrows⟩ := evolves_rows shown shown 0 rfl rows _ hshow
  exact ⟨.inl ⟨.ShowItems, Outside.none⟩ :: inputs, hquiet, { hrows with items := by simp }⟩

lemma evolves_renderClipboard (page : ClipboardPage) :
    Evolves lib none world (world.renderClipboard lib page) := by
  rw [World.renderClipboard]
  refine Follows.trans ?_ (evolves_renderRows page.rows)
  refine Follows.trans ?_ (Follows.on fun others outside => ?clear)
  case clear => exact performs_mapClipboard ⟨.ClearUnpinned, outside⟩ fun _ => rfl
  refine Follows.trans ?_ (Follows.on fun others search => ?search)
  case search => exact performs_mapClipboard ⟨.Search search.1, search.2⟩ fun _ => rfl
  have htoggle : Evolves lib none world (world.on lib page.toggleCapture fun self outside =>
      self.mapClipboard fun app => app.setCaptureActive lib.sha256 outside
        (¬ world.clipboard.workspace.captureState = .Active)) := by
    refine Follows.on fun others outside => ?_
    refine performs_mapClipboard ⟨.ToggleCapture, outside⟩ fun items => ?_
    rw [clipboard_others lib]
    rfl
  split_ifs with hactive
  · refine Follows.trans htoggle (Follows.on fun others outside => ?_)
    exact performs_mapClipboard ⟨.CaptureNow, outside⟩ fun _ => rfl
  · exact htoggle

/-! ## The receive page -/

/-- Neither field is asked for more than what was typed, and both are asked in one state. -/
lemma evolves_editService (env : Env) (page : ReceivePage) :
    Evolves lib items world (world.mapReceive (editService page)) := by
  by_cases henabled : world.receive.app.session.isNone ∧ ¬ world.receive.app.lifecycle.isInFlight
  · have hurl : Evolves lib items world (world.mapReceive fun app => { app with
        baseUrl := page.baseUrl.getD app.baseUrl }) :=
      performs_call env (.EditBaseUrl _) (if_pos henabled)
    have hid : Evolves lib items (world.mapReceive fun app => { app with
        baseUrl := page.baseUrl.getD app.baseUrl }) (world.mapReceive (editService page)) := by
      rw [show world.mapReceive (editService page) = (world.mapReceive fun app => { app with
        baseUrl := page.baseUrl.getD app.baseUrl }).mapReceive fun app => { app with
          applicationId := page.applicationId.getD app.applicationId } by
            simp only [World.mapReceive, editService, if_pos henabled]]
      exact performs_call env (.EditApplicationId _) (if_pos henabled)
    exact hurl.trans hid
  · have hsame : world.mapReceive (editService page) = world := by
      rw [World.mapReceive, editService, if_neg henabled]
    rw [hsame]
    exact .refl world

lemma files_renderRadios (crates : Receive.AppCrates) (radios : ℕ → Bool)
    (files : List FileDescriptor) (app : Receive.DesktopApp) :
    (renderRadios crates radios files app).files = app.files := by
  induction files generalizing radios app with
  | nil => rfl
  | cons file files ih =>
      rw [renderRadios, ih]
      split_ifs <;> rfl

/-- The radio buttons from one file on; no button changes the files. -/
lemma evolves_renderRadios (env : Env) (radios : ℕ → Bool) (files : List FileDescriptor)
    (hfiles : ∀ file ∈ files, file ∈ world.receive.app.files) :
    Evolves lib items world
      (world.mapReceive fun app => renderRadios lib.app radios files app) := by
  induction files generalizing world radios with
  | nil => exact .refl world
  | cons file files ih =>
      have hrest : ∀ file ∈ files, file ∈ world.receive.app.files :=
        fun other hmem => hfiles other (List.mem_cons_of_mem _ hmem)
      by_cases hclicked : Receive.isAvailable lib.app file.status ∧ radios 0
      · have hselect : Evolves lib items world (world.mapReceive fun app =>
            { app with selectedFile := some file.fileId }) :=
          performs_call env (.SelectFile file.fileId)
            (if_pos ⟨file, hfiles file List.mem_cons_self, rfl, hclicked.1⟩)
        refine Follows.trans hselect ?_
        simp only [renderRadios, if_pos hclicked]
        exact ih (fun n => radios (n + 1)) hrest
      · simp only [renderRadios, if_neg hclicked]
        exact ih (fun n => radios (n + 1)) hrest

lemma evolves_ifCan {command : Receive.Command} {env : Env} (call : Receive.UserCall)
    {f : Receive.DesktopApp → Receive.DesktopApp} (hquiet : isDuty (.inr (.Call env call)) = false)
    (h : ∀ app : Receive.DesktopApp, app.call lib.app env call = f app) :
    Evolves lib items world (world.mapReceive (ifCan lib.app command f)) := by
  by_cases hcan : world.receive.app.lifecycle.can lib.app.picker command = true
  · have hcall : Performs lib items (duty (.inr (.Call env call))) world
        (world.mapReceive (ifCan lib.app command f)) := by
      refine performs_call env call ?_
      rw [ifCan, if_pos hcan, h]
    rwa [duty_of_quiet hquiet] at hcall
  · have hsame : world.mapReceive (ifCan lib.app command f) = world := by
      rw [World.mapReceive, ifCan, if_neg hcan]
    rw [hsame]
    exact .refl world

lemma evolves_pickerAction (env : Env) (action : PickerAction) : Evolves lib items world
    (world.mapReceive fun app => pickerAction lib.app env app action) := by
  cases action with
  | ChooseRemote => exact performs_call env .Create rfl
  | Retry => exact performs_call env .Retry rfl
  | Cancel => exact performs_call env .Cancel rfl
  | ChooseLocal => exact evolves_of_same rfl rfl rfl

lemma evolves_form (env : Env) (page : ReceivePage)
    (hfiles : world.receive.app.files.isEmpty = false) :
    Evolves lib items world (world.mapReceive fun app => { app with
      destination := page.destination.getD app.destination
      force := page.force.getD app.force }) := by
  have hdestination : Evolves lib items world (world.mapReceive fun app => { app with
      destination := page.destination.getD app.destination }) :=
    performs_call env (.EditDestination _) (if_neg (by simp [hfiles]))
  refine hdestination.trans ?_
  exact performs_call (f := fun app => { app with force := page.force.getD app.force }) env
    (.SetForce _) (if_neg (by simpa [World.mapReceive] using hfiles))

lemma evolves_renderReceive (page : ReceivePage) :
    Evolves lib items world (world.renderReceive lib page) := by
  have env : Env := ⟨0, false⟩
  have hcreate : ∀ world, Evolves lib items world (world.on lib page.create fun self env =>
      self.mapReceive (ifCan lib.app .Start fun app => app.create lib.app env)) :=
    fun _ => Follows.on fun _ env => evolves_ifCan .Create rfl fun _ => rfl
  have hrefresh : ∀ world, Evolves lib items world (world.on lib page.refresh fun self env =>
      self.mapReceive (ifCan lib.app .Refresh fun app => app.refresh lib.app env)) :=
    fun _ => Follows.on fun _ env => evolves_ifCan .Refresh rfl fun _ => rfl
  have hdownload : ∀ world, Evolves lib items world (world.on lib page.download fun self env =>
      self.mapReceive (ifCan lib.app .Download fun app => app.download lib.app env)) :=
    fun _ => Follows.on fun _ env => evolves_ifCan .Download rfl fun _ => rfl
  have hpicker : ∀ world, Evolves lib items world (world.on lib page.picker
      fun self action => self.mapReceive fun app => pickerAction lib.app action.2 app action.1) :=
    fun _ => Follows.on fun _ action => evolves_pickerAction action.2 action.1
  rw [World.renderReceive]
  refine (evolves_editService env page).trans ((hcreate _).trans ((hrefresh _).trans
    ((hpicker _).trans ?_)))
  split_ifs with hempty
  · exact .refl _
  · refine (evolves_renderRadios env page.radios _ fun _ hmem => hmem).trans
      (Follows.trans (evolves_form env page ?_) (hdownload _))
    rw [World.mapReceive, files_renderRadios]
    simpa using hempty

/-! ## The privacy page -/

lemma evolves_renderExclusions (remove : ℕ → Option (Click Outside)) (exclusions : List String) :
    Evolves lib items world (world.renderExclusions lib remove exclusions) := by
  induction exclusions generalizing world remove with
  | nil => exact .refl world
  | cons fingerprint exclusions ih =>
      refine Follows.trans (Follows.on fun others outside => ?_) (ih fun n => remove (n + 1))
      exact performs_mapClipboard ⟨.RemoveExclusion fingerprint, outside⟩ fun _ => rfl

lemma evolves_renderPrivacy (page : PrivacyPage) :
    Evolves lib items world (world.renderPrivacy lib page) := by
  rw [World.renderPrivacy]
  refine Follows.trans ?_ (evolves_renderExclusions page.remove _)
  refine Follows.trans ?_ (Follows.on fun others outside => ?add)
  case add => exact performs_mapClipboard ⟨.AddExclusion, outside⟩ fun _ => rfl
  refine Follows.trans ?_
    (performs_mapClipboard ⟨.EditExclusion _, Outside.none⟩ fun _ => rfl)
  refine Follows.on fun others retention => ?_
  exact performs_mapClipboard ⟨.ApplyRetention retention.1, retention.2⟩ fun _ => rfl

/-! ## The frame -/

lemma evolves_renderPage (input : FrameInput) :
    Evolves lib none world (world.renderPage lib input) := by
  rw [World.renderPage]
  cases world.page with
  | Clipboard => exact evolves_renderClipboard input.clipboardPage
  | Receive => exact evolves_renderReceive input.receivePage
  | Privacy => exact evolves_renderPrivacy input.privacyPage

lemma performs_afterResponses (input : FrameInput) :
    Performs lib none [.inl ⟨.Poll, input.poll.value⟩,
        .inr (.Call input.timer.value.2 (.TimerRefresh input.timer.value.1))]
      world (world.afterResponses lib input) := by
  have hpoll : ∀ world : World, Performs lib none [.inl ⟨.Poll, input.poll.value⟩] world
      (world.mapClipboard fun app =>
        app.pollClipboard lib.sha256 input.poll.value world.systemClipboard) :=
    fun _ => performs_mapClipboard ⟨.Poll, input.poll.value⟩ fun _ => rfl
  have htimer : ∀ world : World, Performs lib none
      [.inr (.Call input.timer.value.2 (.TimerRefresh input.timer.value.1))] world
      (world.mapReceive fun app =>
        app.timerRefresh lib.app input.timer.value.2 input.timer.value.1) :=
    fun _ => performs_call input.timer.value.2 (.TimerRefresh input.timer.value.1) rfl
  rw [World.afterResponses]
  refine (evolves_others input.poll.others).append ((hpoll _).append ?_)
  refine (evolves_others input.timer.others).append ((htimer _).append ?_)
  exact (evolves_page _).trans (evolves_renderPage input)

/-- **A frame is a series of events**, if it comes to an end. -/
theorem performs_update {input : FrameInput} {commands : List ViewportCommand} {world' : World}
    (h : world.update lib input = some (commands, world')) :
    Performs lib none (input.duties world.clipboard.tray) world world' := by
  rw [World.update] at h
  obtain ⟨⟨processed, receive⟩, hresponses, heq⟩ := Option.map_eq_some_iff.mp h
  obtain ⟨inputs, rfl, hquiet⟩ := exec_processResponses hresponses
  obtain rfl := congrArg Prod.snd heq
  have htray : input.duties world.clipboard.tray
      = input.duties (world.others lib input.others).clipboard.tray := by
    rw [clipboard_others lib]
  rw [htray]
  refine (evolves_others input.others).append ((performs_processShell input.shell).append ?_)
  exact (evolves_exec inputs hquiet).append (performs_afterResponses input)

end Pieces

/-! ## Every frame comes to an end -/

section End

variable {lib : Libraries} (h : lib.app.picker.Controlled)

/-- What the two machines can reach. -/
lemma World.start_matches (tray clipboard : Bool) (polled refreshed : Instant)
    (content : Option String) :
    Matches none (.start tray clipboard polled refreshed content)
      (.start tray clipboard polled content, .start refreshed) :=
  ⟨rfl, rfl, rfl, by simp⟩

include h

/-- The receive side stays in step. -/
lemma inv_of_performs {world world' : World} (hinv : world.receive.Inv lib.app)
    {duties : List (Clipboard.Input ⊕ SystemInput)}
    (hperforms : Performs lib none duties world world') : world'.receive.Inv lib.app := by
  obtain ⟨inputs, -, hmatches⟩ := hperforms
    (⟨world.clipboard, world.systemClipboard, []⟩, world.receive) ⟨rfl, rfl, rfl, by simp⟩
  rw [events, exec_sideBySide] at hmatches
  have hreached : System.Inv lib.app (exec (System.step lib.app) world.receive
      (inputs.filterMap Sum.getRight?)) :=
    exec_invariant (P := System.Inv lib.app) (fun _ input hinv => hinv.step h input) hinv _
  show world'.receive.silent.Inv lib.app
  rw [← hmatches.receive]
  exact hreached

/-- A frame that starts in step comes to an end. -/
lemma exists_update {world : World} (hinv : world.receive.Inv lib.app) (input : FrameInput) :
    ∃ result, world.update lib input = some result := by
  have hinv' : (world.others lib input.others).receive.Inv lib.app :=
    inv_of_performs h hinv (evolves_others input.others)
  obtain ⟨processed, receive, hresponses, -⟩ :=
    hinv'.processResponses_eq_some h input.schedule input.responseEnv
  rw [World.update, hresponses]
  exact ⟨_, rfl⟩

lemma exists_frames (inputs : List FrameInput) :
    ∀ {world : World}, world.receive.Inv lib.app →
      ∃ commands world', world.frames lib inputs = some (commands, world') := by
  induction inputs with
  | nil => exact fun _ => ⟨_, _, rfl⟩
  | cons input inputs ih =>
      intro world hinv
      obtain ⟨⟨commands, world'⟩, hupdate⟩ := exists_update h hinv input
      obtain ⟨later, world'', hrest⟩ := ih (inv_of_performs h hinv (performs_update hupdate))
      refine ⟨commands :: later, world'', ?_⟩
      simp only [World.frames, hupdate, hrest, Option.map_some]

omit h in
/-- No event changes whether there is a tray. -/
lemma tray_exec (sides : Clipboard.Desktop × System)
    (inputs : List (Clipboard.Input ⊕ SystemInput)) :
    (exec (events lib) sides inputs).1.app.tray = sides.1.app.tray := by
  refine exec_invariant (P := fun other : Clipboard.Desktop × System =>
    other.1.app.tray = sides.1.app.tray) ?_ rfl inputs
  rintro ⟨desktop, system⟩ (input | input) hsame
  · exact (Clipboard.tray_step desktop input).trans hsame
  · exact hsame

/-- From a world in step, and two machines that match it, the run of the machines goes on frame by
frame. -/
lemma exists_chunks (frames : List FrameInput) : ∀ {world : World}
    {sides : Clipboard.Desktop × System}, world.receive.Inv lib.app → Matches none world sides →
      ∃ chunks : List (List (Clipboard.Input ⊕ SystemInput)),
        chunks.map (List.filter isDuty) = frames.map (FrameInput.duties world.clipboard.tray) ∧
        ∀ k, ∃ commands world', world.frames lib (frames.take k) = some (commands, world') ∧
          Matches none world' (exec (events lib) sides (chunks.take k).flatten) := by
  induction frames with
  | nil =>
      intro world sides _ hmatches
      refine ⟨[], rfl, fun k => ⟨[], world, ?_, ?_⟩⟩
      · rw [List.take_nil, World.frames]
      · rw [List.take_nil]
        exact hmatches
  | cons input frames ih =>
      intro world sides hinv hmatches
      obtain ⟨⟨sent, world'⟩, hupdate⟩ := exists_update h hinv input
      obtain ⟨chunk, hduties, hmatches'⟩ := performs_update hupdate sides hmatches
      obtain ⟨chunks, hlater, hrest⟩ :=
        ih (inv_of_performs h hinv (performs_update hupdate)) hmatches'
      have htray : world'.clipboard.tray = world.clipboard.tray := by
        rw [← hmatches'.app, ← hmatches.app, tray_exec]
      refine ⟨chunk :: chunks, ?_, fun k => ?_⟩
      · rw [List.map_cons, List.map_cons, hduties, hlater, htray]
      · cases k with
        | zero => exact ⟨[], world, rfl, hmatches⟩
        | succ k =>
            obtain ⟨commands, world'', hframes, hreached⟩ := hrest k
            refine ⟨sent :: commands, world'', ?_, ?_⟩
            · simp only [List.take_succ_cons, World.frames, hupdate, hframes, Option.map_some]
            · rw [List.take_succ_cons, List.flatten_cons, exec_append]
              exact hreached

end End

/-- **Frames do nothing but events.**  Take any run of frames from the start of the app, whatever
the widgets report and whatever happens beside the interface thread.  There are as many series of
events as frames, each with the duties of its frame in their order, such that after every number of
frames the app, which has got so far, is where these series have brought the clipboard machine and
the receive machine, but for the message. -/
theorem frames_are_events (lib : Libraries) (h : lib.app.picker.Controlled)
    (tray clipboard : Bool) (polled refreshed : Instant) (content : Option String)
    (frames : List FrameInput) :
    ∃ chunks : List (List (Clipboard.Input ⊕ SystemInput)),
      chunks.map (List.filter isDuty) = frames.map (FrameInput.duties tray) ∧
      ∀ k, ∃ commands world,
        (World.start tray clipboard polled refreshed content).frames lib (frames.take k)
          = some (commands, world) ∧
        Matches none world (exec (events lib)
          (.start tray clipboard polled content, .start refreshed) (chunks.take k).flatten) :=
  exists_chunks h frames (System.inv_start lib.app h.idle refreshed)
    (World.start_matches tray clipboard polled refreshed content)

/-! ### A tunnel is created -/

def exampleLibraries : Libraries := ⟨Receive.exampleCrates, exampleSha256, id⟩

def exampleOutside (k : ℕ) : Outside :=
  { commandId := BitVec.ofNat 128 k, itemId := BitVec.ofNat 128 k, capturedAt := 0, now := 0
    checked := k * NANOS_PER_SEC, instant := k * NANOS_PER_SEC, readable := true, writable := true }

/-- A frame at second `k` in which the user does nothing. -/
def quietFrame (k : ℕ) : FrameInput where
  others := []
  shell := ⟨[], [], false, fun _ => exampleOutside k⟩
  schedule _ := []
  responseEnv _ := ⟨k * NANOS_PER_SEC, true⟩
  poll := ⟨[], exampleOutside k⟩
  timer := ⟨[], k * NANOS_PER_SEC, k * NANOS_PER_SEC, true⟩
  navigation := none
  clipboardPage := ⟨none, none, none, none, fun _ => ⟨[], ⟨false, false, false⟩, exampleOutside k⟩⟩
  receivePage := ⟨none, none, none, none, none, fun _ => false, none, none, none⟩
  privacyPage := ⟨none, none, none, fun _ => none⟩

/-- "New receive tunnel" is clicked, and then the worker answers during a look into its channel. -/
def exampleFrames : List FrameInput :=
  [{ quietFrame 1 with
      navigation := some .Receive
      receivePage := { (quietFrame 1).receivePage with create := some ⟨[], NANOS_PER_SEC, true⟩ } },
    { quietFrame 2 with
      schedule := fun round =>
        if round = 0 then [.Recv, .Answer Receive.unreachableService] else [] },
    quietFrame 3]

/-- The tunnel is being created after the first frame, and the attempt has failed after the
second. -/
theorem frames_are_events_tunnel :
    ∃ chunks : List (List (Clipboard.Input ⊕ SystemInput)),
      chunks.map (List.filter isDuty) = exampleFrames.map (FrameInput.duties true) ∧
      (exec (events exampleLibraries) (.start true true 0 none, .start 0)
        (chunks.take 1).flatten).2.app.lifecycle.state = .Creating ∧
      (exec (events exampleLibraries) (.start true true 0 none, .start 0)
        (chunks.take 2).flatten).2.app.lifecycle.state = .FailedWithoutSession := by
  obtain ⟨chunks, hduties, hreached⟩ := frames_are_events exampleLibraries
    Receive.controlled_tablePicker true true 0 0 none exampleFrames
  have hstate : ∀ k state, ((World.start true true 0 0 none).frames exampleLibraries
      (exampleFrames.take k)).map (fun result => result.2.receive.app.lifecycle.state)
        = some state →
      (exec (events exampleLibraries) (.start true true 0 none, .start 0)
        (chunks.take k).flatten).2.app.lifecycle.state = state := by
    intro k state hframe
    obtain ⟨commands, world, hframes, hmatches⟩ := hreached k
    rw [hframes, Option.map_some, Option.some.injEq] at hframe
    exact (congrArg (fun system : System => system.app.lifecycle.state) hmatches.receive).trans
      hframe
  exact ⟨chunks, hduties, hstate 1 _ (by decide +kernel), hstate 2 _ (by decide +kernel)⟩

end FtnlDesktop.Interface
