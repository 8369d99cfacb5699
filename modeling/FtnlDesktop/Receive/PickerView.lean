import FtnlDesktop.Receive.Refinement

/-!
# What the picker is shown

`render_receive` hands the picker of `ftnl_ui_components` a stage, the pairing URI and the progress
of the files.  They come from three fields that are set at different places: the state of the
lifecycle, the session and the list of files.  `Simulates` ties the session to the state.  Here the
list of files is tied to it: a state that an answer has led to expects the files of that answer
(`expectedFiles`), and every method that leaves such a state for another one with an expectation
clears the list or keeps it.

* **`view_agrees`** — in every run, with any answers, the parts of the view agree.
-/

namespace FtnlDesktop.Receive

open DesktopLifecycle

/-! ## The view -/

/-- `ftnl_ui_components::PickerStage`. -/
inductive PickerStage where
  | Idle
  | Creating
  | Pairing
  | Transferring
  | Complete
  | Failed
deriving DecidableEq, Repr

structure FileProgress where
  id : String
  name : String
  bytesTransferred : ℕ
  sizeBytes : ℕ
  isComplete : Bool
deriving DecidableEq

structure PickerView where
  stage : PickerStage
  pairingUri : Option String
  expiresLabel : Option String
  files : List FileProgress
  failureMessage : Option String
deriving DecidableEq

namespace DesktopApp

variable (crates : AppCrates) (uuidToString : Uuid → String)

def pickerStage (self : DesktopApp) : PickerStage :=
  match self.lifecycle.state with
  | .Idle => .Idle
  | .Creating | .Cancelling => .Creating
  | .Pairing | .Refreshing => .Pairing
  | .Transferring | .Downloading => .Transferring
  | .Complete => .Complete
  | .FailedWithoutSession | .FailedWithSession => .Failed

def progress (self : DesktopApp) : List FileProgress :=
  self.files.map fun file =>
    { id := uuidToString file.fileId
      name := file.name
      bytesTransferred := file.bytesTransferred
      sizeBytes := file.sizeBytes
      isComplete := (crates.decodeStatus file.status).any fun status =>
        status = .Available ∨ status = .Downloaded }

/-- The `view` of `render_receive`. -/
def pickerView (self : DesktopApp) : PickerView where
  stage := self.pickerStage
  pairingUri := self.session.map fun session => session.pairingUri
  expiresLabel := self.session.map fun session => session.expiresAt
  files := self.progress crates uuidToString
  failureMessage := self.message

end DesktopApp

/-! ## What a state expects of the files -/

/-- The completion that the files in this state would have, if it is known. -/
def expectedFiles : PickerMachineState → Option Completion
  | .Idle | .Creating | .Pairing | .Cancelling | .FailedWithoutSession => some .SnapshotEmpty
  | .Transferring | .Downloading => some .SnapshotFiles
  | .Complete => some .AllFilesReceived
  | .Refreshing | .FailedWithSession => none

/-- Where the app has no files after these events, none are expected otherwise. -/
lemma expectedFiles_cleared {state next : PickerMachineState} {event : PickerMachineEvent}
    (hevent : event ∈ [.Start, .Cancel, .Cancelled])
    (h : (state, event, next) ∈ pickerTransitions) : expectedFiles next = some .SnapshotEmpty := by
  have htable : ∀ t ∈ pickerTransitions, t.2.1 ∈ [.Start, .Cancel, .Cancelled] →
      expectedFiles t.2.2 = some .SnapshotEmpty := by decide
  exact htable _ h hevent

/-- Where it keeps them, they are as expected before, or nothing is expected of them. -/
lemma expectedFiles_kept {state next : PickerMachineState} {event : PickerMachineEvent}
    (hevent : event ∈ [.Refresh, .Download, .Created, .Downloaded, .Fail])
    (h : (state, event, next) ∈ pickerTransitions) :
    expectedFiles next = none ∨ expectedFiles next = expectedFiles state := by
  have htable : ∀ t ∈ pickerTransitions,
      t.2.1 ∈ [.Refresh, .Download, .Created, .Downloaded, .Fail] →
        expectedFiles t.2.2 = none ∨ expectedFiles t.2.2 = expectedFiles t.1 := by decide
  exact htable _ h hevent

/-- A snapshot leads to the state that expects it. -/
lemma expectedFiles_snapshot {state next : PickerMachineState} {completion : Completion}
    (hcompletion : completion ∈ [.SnapshotEmpty, .SnapshotFiles, .AllFilesReceived])
    (h : (state, completion.event, next) ∈ pickerTransitions) :
    expectedFiles next = some completion := by
  have htable : ∀ completion ∈ [Completion.SnapshotEmpty, .SnapshotFiles, .AllFilesReceived],
      ∀ t ∈ pickerTransitions, t.2.1 = completion.event →
        expectedFiles t.2.2 = some completion := by decide
  exact htable _ hcompletion _ h rfl

lemma snapshotCompletion_mem (crates : AppCrates) (files : List FileDescriptor) :
    snapshotCompletion crates files
      ∈ [Completion.SnapshotEmpty, .SnapshotFiles, .AllFilesReceived] := by
  rw [snapshotCompletion]
  split_ifs
  all_goals decide

/-! ## The invariant -/

/-- **The files are as the state expects them.** -/
def FilesFit (crates : AppCrates) (app : DesktopApp) : Prop :=
  ∀ completion, expectedFiles app.lifecycle.state = some completion →
    snapshotCompletion crates app.files = completion

section FilesFit

variable {crates : AppCrates} {app app' : DesktopApp}

lemma FilesFit.congr (h : FilesFit crates app)
    (hstate : app'.lifecycle.state = app.lifecycle.state) (hfiles : app'.files = app.files) :
    FilesFit crates app' := by
  rw [FilesFit, hstate, hfiles]
  exact h

lemma filesFit_cleared (hexpected : expectedFiles app.lifecycle.state = some .SnapshotEmpty)
    (hfiles : app.files = []) : FilesFit crates app := by
  intro completion hcompletion
  rw [hexpected] at hcompletion
  cases hcompletion
  rw [hfiles]
  rfl

lemma FilesFit.kept (h : FilesFit crates app)
    (hexpected : expectedFiles app'.lifecycle.state = none
      ∨ expectedFiles app'.lifecycle.state = expectedFiles app.lifecycle.state)
    (hfiles : app'.files = app.files) : FilesFit crates app' := by
  intro completion hcompletion
  rcases hexpected with hnone | hsame
  · rw [hnone] at hcompletion
    cases hcompletion
  · rw [hsame] at hcompletion
    rw [hfiles]
    exact h completion hcompletion

lemma dropUnneededSession_lifecycle :
    (app.dropUnneededSession crates).lifecycle = app.lifecycle := by
  rw [DesktopApp.dropUnneededSession]
  split_ifs
  · rfl
  · rfl

variable (h : crates.picker.AsSpecified) (env : Env)

include h

lemma FilesFit.failDispatch (hfit : FilesFit crates app) (effect : Effect) :
    FilesFit crates (app.failDispatch crates effect) := by
  rw [DesktopApp.failDispatch]
  rcases app.complete_cases crates effect.operation .Failed with heq | ⟨next, -, ht, -, heq⟩
  · rw [heq]
    exact hfit
  · rw [heq]
    have hkept := expectedFiles_kept (by decide) (h.transition _ _ _ ht)
    obtain ⟨-, -, hfiles, -⟩ := keeps_dropUnneededSession crates
      { app with lifecycle := { app.lifecycle with state := next, activeOperation := none } }
    exact hfit.kept (by rwa [dropUnneededSession_lifecycle]) hfiles

lemma FilesFit.send (hfit : FilesFit crates app) (effect : Effect) (kind : RequestKind) :
    FilesFit crates (app.send crates env effect kind) := by
  rcases send_cases crates env app effect kind with ⟨-, heq⟩ | heq
  · rw [heq]
    exact hfit.congr rfl rfl
  · rw [heq]
    exact hfit.failDispatch h effect

lemma FilesFit.create (hfit : FilesFit crates app) : FilesFit crates (app.create crates env) := by
  rw [DesktopApp.create]
  rcases dispatch_specified h app .Start (by decide) with heq | ⟨kind, hmem, heq⟩
  · rw [heq]
    exact hfit.congr rfl rfl
  · rw [heq]
    exact FilesFit.send h env (filesFit_cleared (expectedFiles_cleared (by decide) hmem) rfl) _ _

lemma FilesFit.refresh (hfit : FilesFit crates app) :
    FilesFit crates (app.refresh crates env) := by
  rw [DesktopApp.refresh]
  cases app.sessionAuthority with
  | none => exact hfit.congr rfl rfl
  | some authority =>
      rcases dispatch_specified h app .Refresh (by decide) with heq | ⟨kind, hmem, heq⟩
      · rw [heq]
        exact hfit
      · rw [heq]
        refine FilesFit.send h env ?_ _ _
        exact hfit.kept (expectedFiles_kept (by decide) hmem) rfl

lemma FilesFit.retry (hfit : FilesFit crates app) : FilesFit crates (app.retry crates env) := by
  rw [DesktopApp.retry]
  rcases dispatch_specified h app .Retry (by decide) with heq | ⟨kind, hmem, heq⟩
  · rw [heq]
    exact hfit.congr rfl rfl
  · rw [heq]
    rcases retry_of_mem hmem with ⟨-, hkind⟩ | ⟨-, hkind⟩
    · obtain rfl : kind = .Create := by cases kind <;> simp_all [EffectKind.state]
      exact FilesFit.send h env (filesFit_cleared rfl rfl) _ _
    · obtain rfl : kind = .Refresh := by cases kind <;> simp_all [EffectKind.state]
      cases app.sessionAuthority with
      | none =>
          refine FilesFit.failDispatch h ?_ _
          exact hfit.kept (Or.inl rfl) rfl
      | some authority =>
          refine FilesFit.send h env ?_ _ _
          exact hfit.kept (Or.inl rfl) rfl

lemma FilesFit.cancel (hfit : FilesFit crates app) : FilesFit crates (app.cancel crates env) := by
  rw [DesktopApp.cancel]
  cases app.sessionAuthority with
  | none => exact hfit.congr rfl rfl
  | some authority =>
      rcases dispatch_specified h app .Cancel (by decide) with heq | ⟨kind, hmem, heq⟩
      · rw [heq]
        exact hfit.congr rfl rfl
      · rw [heq]
        exact FilesFit.send h env (filesFit_cleared (expectedFiles_cleared (by decide) hmem) rfl)
          _ _

lemma FilesFit.download (hfit : FilesFit crates app) :
    FilesFit crates (app.download crates env) := by
  rw [DesktopApp.download]
  cases app.sessionAuthority with
  | none => exact hfit.congr rfl rfl
  | some authority =>
      cases app.availableSelection crates with
      | none => exact hfit.congr rfl rfl
      | some file =>
          rcases dispatch_specified h app .Download (by decide) with heq | ⟨kind, hmem, heq⟩
          · rw [heq]
            exact hfit.congr rfl rfl
          · rw [heq]
            refine FilesFit.send h env ?_ _ _
            exact hfit.kept (expectedFiles_kept (by decide) hmem) rfl

lemma FilesFit.call (hfit : FilesFit crates app) (call : UserCall) :
    FilesFit crates (app.call crates env call) := by
  cases call with
  | Create => exact hfit.create h env
  | Refresh => exact hfit.refresh h env
  | Retry => exact hfit.retry h env
  | Cancel => exact hfit.cancel h env
  | Download => exact hfit.download h env
  | TimerRefresh checked =>
      simp only [DesktopApp.call, DesktopApp.timerRefresh]
      split_ifs
      · exact hfit.refresh h env
      · exact hfit
  | EditBaseUrl _ | EditApplicationId _ | SelectFile _ | EditDestination _ | SetForce _ =>
      simp only [DesktopApp.call]
      split_ifs
      all_goals exact hfit.congr rfl rfl

/-- An answer, of any kind and with any operation id. -/
lemma FilesFit.processResponse (hfit : FilesFit crates app) (response : Response) :
    FilesFit crates (app.processResponse crates env response) := by
  obtain ⟨operation, kind⟩ := response
  rw [DesktopApp.processResponse]
  rcases app.complete_cases crates operation (kind.completion crates) with
    heq | ⟨next, -, ht, -, heq⟩
  · rw [heq]
    exact hfit
  · rw [heq]
    have hmem := h.transition _ _ _ ht
    cases kind with
    | Created session =>
        exact hfit.kept (expectedFiles_kept (by decide)
          (show (_, PickerMachineEvent.Created, next) ∈ _ from hmem)) rfl
    | Snapshot files =>
        -- the new files are what the new state expects
        have hexpected : expectedFiles next = some (snapshotCompletion crates files) :=
          expectedFiles_snapshot (snapshotCompletion_mem crates files) hmem
        simp only [DesktopApp.accept]
        split_ifs
        all_goals
          intro completion hcompletion
          exact Option.some.inj (hexpected.symm.trans hcompletion)
    | Downloaded path =>
        refine FilesFit.refresh h env ?_
        exact hfit.kept (expectedFiles_kept (by decide)
          (show (_, PickerMachineEvent.Downloaded, next) ∈ _ from hmem)) rfl
    | Cancelled =>
        exact filesFit_cleared (expectedFiles_cleared (by decide)
          (show (_, PickerMachineEvent.Cancelled, next) ∈ _ from hmem)) rfl
    | Failed message =>
        have hkept := expectedFiles_kept (by decide)
          (show (_, PickerMachineEvent.Fail, next) ∈ _ from hmem)
        simp only [DesktopApp.accept, DesktopApp.dropUnneededSession]
        split_ifs
        all_goals exact hfit.kept hkept rfl

end FilesFit

/-! ## Agreement -/

/-- **The parts of the view agree.**  A tunnel is shown while it is paired or transferring, and not
when there is none.  Files are shown while they are transferred and afterwards, and not before. -/
structure PickerView.Agrees (view : PickerView) : Prop where
  tunnel : view.stage = .Pairing ∨ view.stage = .Transferring →
    view.pairingUri.isSome = true ∧ view.expiresLabel.isSome = true
  noTunnel : view.stage = .Idle ∨ view.stage = .Creating ∨ view.stage = .Complete →
    view.pairingUri = none ∧ view.expiresLabel = none
  noFiles : view.stage = .Idle ∨ view.stage = .Creating
    ∨ (view.stage = .Failed ∧ view.pairingUri = none) → view.files = []
  transferring : view.stage = .Transferring → view.files ≠ []
  complete : view.stage = .Complete →
    view.files ≠ [] ∧ ∀ file ∈ view.files, file.isComplete = true

section Agrees

variable {crates : AppCrates}

lemma eq_nil_of_snapshotEmpty {files : List FileDescriptor}
    (h : snapshotCompletion crates files = .SnapshotEmpty) : files = [] := by
  rw [snapshotCompletion] at h
  split_ifs at h with hempty
  exact List.isEmpty_iff.mp hempty

lemma ne_nil_of_not_snapshotEmpty {files : List FileDescriptor}
    (h : snapshotCompletion crates files ≠ .SnapshotEmpty) : files ≠ [] := by
  rintro rfl
  exact h rfl

lemma downloaded_of_allFilesReceived {files : List FileDescriptor}
    (h : snapshotCompletion crates files = .AllFilesReceived) :
    ∀ file ∈ files, crates.decodeStatus file.status = some .Downloaded := by
  rw [snapshotCompletion] at h
  split_ifs at h with hempty hall
  intro file hfile
  simpa using List.all_eq_true.mp hall file hfile

/-- What a stage says about the state, checked state by state. -/
lemma needsSession_of_pickerStage {app : DesktopApp}
    (h : app.pickerStage = .Pairing ∨ app.pickerStage = .Transferring) :
    NeedsSession app.lifecycle.state = true := by
  revert h
  rw [DesktopApp.pickerStage]
  cases app.lifecycle.state
  all_goals decide

lemma not_needsSession_of_pickerStage {app : DesktopApp}
    (h : app.pickerStage = .Idle ∨ app.pickerStage = .Creating ∨ app.pickerStage = .Complete) :
    NeedsSession app.lifecycle.state = false := by
  revert h
  rw [DesktopApp.pickerStage]
  cases app.lifecycle.state
  all_goals decide

lemma expectedFiles_of_noSession {app : DesktopApp}
    (h : app.pickerStage = .Idle ∨ app.pickerStage = .Creating
      ∨ (app.pickerStage = .Failed ∧ NeedsSession app.lifecycle.state = false)) :
    expectedFiles app.lifecycle.state = some .SnapshotEmpty := by
  revert h
  rw [DesktopApp.pickerStage]
  cases app.lifecycle.state
  all_goals decide

lemma expectedFiles_of_transferring {app : DesktopApp} (h : app.pickerStage = .Transferring) :
    expectedFiles app.lifecycle.state = some .SnapshotFiles := by
  revert h
  rw [DesktopApp.pickerStage]
  cases app.lifecycle.state
  all_goals decide

lemma expectedFiles_of_complete {app : DesktopApp} (h : app.pickerStage = .Complete) :
    expectedFiles app.lifecycle.state = some .AllFilesReceived := by
  revert h
  rw [DesktopApp.pickerStage]
  cases app.lifecycle.state
  all_goals decide

lemma agrees_of_filesFit {app : DesktopApp} (uuidToString : Uuid → String)
    (hsession : app.session.isSome = NeedsSession app.lifecycle.state)
    (hfit : FilesFit crates app) : (app.pickerView crates uuidToString).Agrees where
  tunnel h := by
    have hneeds := needsSession_of_pickerStage h
    rw [← hsession] at hneeds
    simp [DesktopApp.pickerView, hneeds]
  noTunnel h := by
    have hneeds := not_needsSession_of_pickerStage h
    rw [← hsession] at hneeds
    obtain hnone : app.session = none := by simpa using hneeds
    simp [DesktopApp.pickerView, hnone]
  noFiles h := by
    have hexpected : expectedFiles app.lifecycle.state = some .SnapshotEmpty := by
      refine expectedFiles_of_noSession (h.imp_right (Or.imp_right (And.imp_right fun huri => ?_)))
      rw [← hsession]
      simpa [DesktopApp.pickerView] using huri
    simp [DesktopApp.pickerView, DesktopApp.progress, eq_nil_of_snapshotEmpty (hfit _ hexpected)]
  transferring h := by
    have hfiles := hfit _ (expectedFiles_of_transferring h)
    have hne : app.files ≠ [] := ne_nil_of_not_snapshotEmpty (by rw [hfiles]; decide)
    simpa [DesktopApp.pickerView, DesktopApp.progress] using hne
  complete h := by
    have hfiles := hfit _ (expectedFiles_of_complete h)
    have hne : app.files ≠ [] := ne_nil_of_not_snapshotEmpty (by rw [hfiles]; decide)
    refine ⟨by simpa [DesktopApp.pickerView, DesktopApp.progress] using hne, ?_⟩
    intro file hfile
    obtain ⟨descriptor, hmem, rfl⟩ := List.mem_map.mp hfile
    simp [downloaded_of_allFilesReceived hfiles descriptor hmem]

end Agrees

/-- **The view agrees** in every run of the app: whatever the user does, whichever requests are not
taken, and whatever answers arrive, with any content and any operation id. -/
theorem view_agrees {crates : AppCrates} (h : crates.picker.AsSpecified)
    (uuidToString : Uuid → String) (now : Instant) (inputs : List AppInput) :
    ((Machine.exec (DesktopApp.step crates) (.default now) inputs).pickerView crates
      uuidToString).Agrees := by
  have hinv : (∃ v, Simulates (Machine.exec (DesktopApp.step crates) (.default now) inputs) v) ∧
      FilesFit crates (Machine.exec (DesktopApp.step crates) (.default now) inputs) := by
    refine Machine.exec_invariant (P := fun app => (∃ v, Simulates app v) ∧ FilesFit crates app)
      ?_ ⟨⟨_, simulates_default now⟩, filesFit_cleared rfl rfl⟩ inputs
    rintro app input ⟨⟨v, hsim⟩, hfit⟩
    cases input with
    | Call env call =>
        obtain ⟨v', -, hsim'⟩ := hsim.call h env call
        exact ⟨⟨v', hsim'⟩, hfit.call h env call⟩
    | Respond env response =>
        obtain ⟨v', -, hsim'⟩ := hsim.processResponse h env response
        exact ⟨⟨v', hsim'⟩, hfit.processResponse h env response⟩
  obtain ⟨⟨v, hsim⟩, hfit⟩ := hinv
  exact agrees_of_filesFit uuidToString hsim.session_eq hfit

/-- A tunnel with one file that waits to be saved. -/
theorem view_agrees_example :
    let view := (Machine.exec (DesktopApp.step exampleCrates) (.default 0)
      (exampleInputs.take 5)).pickerView exampleCrates fun _ => "file"
    view.stage = .Transferring ∧ view.Agrees :=
  ⟨by decide +kernel,
    view_agrees asSpecified_tablePicker (fun _ => "file") 0 (exampleInputs.take 5)⟩

end FtnlDesktop.Receive
