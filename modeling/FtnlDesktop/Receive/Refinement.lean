import FtnlDesktop.Receive.DesktopLifecycle
import FtnlDesktop.Receive.Methods

/-!
# The desktop app refines its TLA+ model

Every run of the app — commands, timer refreshes, edits of the form, requests that are sent or
not, answers with any content and any operation id — is a behaviour of `DesktopLifecycle`, seen at
the boundaries of the methods.  A method is a finite sequence of steps: `create` whose request is
not taken begins an effect and completes it; the answer to a download completes one and begins
the refresh.

The picker table is assumed to accept no transition beyond `pickerTransitions`, and to agree with
the specification about which states are in flight and which need a session
(`PickerMachine.AsSpecified`).  It may well reject more.

* **`app_refines_tla`** — the refinement, and with it that a session is held exactly in the states
  that need one.

`Simulates` relates an app to a state of the specification.  It is carried through a method in
pieces: `Simulates.begin` for a dispatched effect, `Simulates.complete` for an accepted answer,
`Simulates.congr` for everything else.
-/

namespace FtnlDesktop.Receive

open DesktopLifecycle

/-! ## The picker table -/

/-- The transitions of the picker, as the specification has them. -/
def pickerTransitions :
    List (PickerMachineState × PickerMachineEvent × PickerMachineState) :=
  [(.Idle, .Start, .Creating),
    (.Complete, .Start, .Creating),
    (.FailedWithoutSession, .Start, .Creating),
    (.Pairing, .Refresh, .Refreshing),
    (.Transferring, .Refresh, .Refreshing),
    (.Transferring, .Download, .Downloading),
    (.Pairing, .Cancel, .Cancelling),
    (.Transferring, .Cancel, .Cancelling),
    (.FailedWithSession, .Cancel, .Cancelling),
    (.FailedWithoutSession, .Retry, .Creating),
    (.FailedWithSession, .Retry, .Refreshing),
    (.Complete, .Reset, .Idle),
    (.FailedWithoutSession, .Reset, .Idle),
    (.FailedWithSession, .Reset, .Idle),
    (.Creating, .Created, .Pairing),
    (.Refreshing, .SnapshotEmpty, .Pairing),
    (.Refreshing, .SnapshotFiles, .Transferring),
    (.Refreshing, .AllFilesReceived, .Complete),
    (.Downloading, .Downloaded, .Transferring),
    (.Cancelling, .Cancelled, .Idle),
    (.Creating, .Fail, .FailedWithoutSession),
    (.Refreshing, .Fail, .FailedWithSession),
    (.Downloading, .Fail, .FailedWithSession),
    (.Cancelling, .Fail, .FailedWithoutSession)]

structure PickerMachine.AsSpecified (picker : PickerMachine) : Prop where
  inFlight : ∀ state, (picker.metadata state).inFlight = IsInFlight state
  requiresSession : ∀ state, (picker.metadata state).requiresSession = NeedsSession state
  transition : ∀ state event next, picker.transition state event = some next →
    (state, event, next) ∈ pickerTransitions

lemma PickerMachine.AsSpecified.controlsEffects {picker : PickerMachine}
    (h : picker.AsSpecified) : picker.ControlsEffects := by
  intro kind
  rw [h.inFlight]
  cases kind <;> rfl

/-- The events that start an effect. -/
def effectEvents : List PickerMachineEvent := [.Start, .Refresh, .Download, .Cancel, .Retry]

lemma mem_effectEvents {command : Command} (h : command ≠ .Reset) :
    command.event ∈ effectEvents := by
  cases command with
  | Reset => exact absurd rfl h
  | _ => decide

/-- A command leads to a state in flight, where the specification can begin an effect. -/
lemma beginTarget_of_mem {state next : PickerMachineState} {event : PickerMachineEvent}
    (hevent : event ∈ effectEvents) (h : (state, event, next) ∈ pickerTransitions) :
    BeginTarget state next ∨ (state = .Transferring ∧ next = .Refreshing) := by
  have htable : ∀ t ∈ pickerTransitions, t.2.1 ∈ effectEvents →
      BeginTarget t.1 t.2.2 ∨ (t.1 = .Transferring ∧ t.2.2 = .Refreshing) := by decide
  exact htable _ h hevent

/-- An answer leads where the specification can complete. -/
lemma completionTarget_of_mem {state next : PickerMachineState} {completion : Completion}
    (h : (state, completion.event, next) ∈ pickerTransitions) : CompletionTarget state next := by
  have htable : ∀ t ∈ pickerTransitions, t.2.1 ∈ effectEvents ∨ t.2.1 = .Reset ∨
      CompletionTarget t.1 t.2.2 := by decide
  have hevent : completion.event ∉ effectEvents ∧ completion.event ≠ .Reset := by
    cases completion <;> decide
  exact ((htable _ h).resolve_left hevent.1).resolve_left hevent.2

/-- After these events a session is needed. -/
lemma needsSession_after {state next : PickerMachineState} {event : PickerMachineEvent}
    (hevent : event ∈ [.Refresh, .Download, .Created])
    (h : (state, event, next) ∈ pickerTransitions) : NeedsSession next = true := by
  have htable : ∀ t ∈ pickerTransitions, t.2.1 ∈ [.Refresh, .Download, .Created] →
      NeedsSession t.2.2 = true := by decide
  exact htable _ h hevent

/-- After these it is not. -/
lemma not_needsSession_after {state next : PickerMachineState} {event : PickerMachineEvent}
    (hevent : event ∈ [.Start, .Cancel, .AllFilesReceived, .Cancelled])
    (h : (state, event, next) ∈ pickerTransitions) : NeedsSession next = false := by
  have htable : ∀ t ∈ pickerTransitions,
      t.2.1 ∈ [.Start, .Cancel, .AllFilesReceived, .Cancelled] →
        NeedsSession t.2.2 = false := by decide
  exact htable _ h hevent

/-- These neither bring a session nor take one away. -/
lemma needsSession_unchanged {state next : PickerMachineState} {event : PickerMachineEvent}
    (hevent : event ∈ [.SnapshotEmpty, .SnapshotFiles, .Downloaded, .Fail])
    (h : (state, event, next) ∈ pickerTransitions) :
    NeedsSession next = NeedsSession state := by
  have htable : ∀ t ∈ pickerTransitions,
      t.2.1 ∈ [.SnapshotEmpty, .SnapshotFiles, .Downloaded, .Fail] →
        NeedsSession t.2.2 = NeedsSession t.1 := by decide
  exact htable _ h hevent

/-- `Retry` does what its state allows. -/
lemma retry_of_mem {state next : PickerMachineState}
    (h : (state, .Retry, next) ∈ pickerTransitions) :
    (state = .FailedWithoutSession ∧ next = .Creating)
      ∨ (state = .FailedWithSession ∧ next = .Refreshing) := by
  have htable : ∀ t ∈ pickerTransitions, t.2.1 = .Retry →
      (t.1 = .FailedWithoutSession ∧ t.2.2 = .Creating)
        ∨ (t.1 = .FailedWithSession ∧ t.2.2 = .Refreshing) := by decide
  exact htable _ h rfl

/-! ## The simulation -/

/-- The two counters step alike on operation ids. -/
lemma nextId_eq {n : ℕ} (h : IsOperationId n) : nextId n = NextId n := by
  obtain ⟨-, hle⟩ := h
  rw [nextId, checkedAddU64, NextId]
  rw [MaxOperation] at hle ⊢
  by_cases hmax : n = 2 ^ 64 - 1
  · rw [if_pos hmax, if_neg (by omega)]
    rfl
  · rw [if_neg hmax, if_pos (by omega)]
    rfl

/-- The state of the specification that shows the app, together with the invariants. -/
structure Simulates (app : DesktopApp) (v : Vars) : Prop where
  state : v.state = app.lifecycle.state
  activeOperation : v.activeOperation = app.lifecycle.activeOperation.getD NoOperation
  nextOperation : v.nextOperation = app.lifecycle.nextOperation
  hasSession : v.hasSession = app.session.isSome
  operationId : ∀ operation ∈ app.lifecycle.activeOperation, IsOperationId operation
  invariants : Invariants v

section Simulates

variable {app app' : DesktopApp} {v : Vars}

/-- A session is held exactly when the state needs one. -/
lemma Simulates.session_eq (h : Simulates app v) :
    app.session.isSome = NeedsSession app.lifecycle.state := by
  rw [← h.hasSession, ← h.state]
  exact h.invariants.session

/-- Only the lifecycle and the possession of a session are looked at. -/
lemma Simulates.congr (h : Simulates app v) (hlifecycle : app'.lifecycle = app.lifecycle)
    (hsession : app'.session.isSome = app.session.isSome) : Simulates app' v where
  state := hlifecycle ▸ h.state
  activeOperation := hlifecycle ▸ h.activeOperation
  nextOperation := hlifecycle ▸ h.nextOperation
  hasSession := hsession ▸ h.hasSession
  operationId := hlifecycle ▸ h.operationId
  invariants := h.invariants

/-- A dispatched effect, once the session is as its state needs it. -/
lemma Simulates.begin (h : Simulates app v) {kind : EffectKind}
    (htarget : BeginTarget app.lifecycle.state kind.state
      ∨ (app.lifecycle.state = .Transferring ∧ kind.state = .Refreshing))
    (hlifecycle : app'.lifecycle = ⟨kind.state, some app.lifecycle.nextOperation,
      nextId app.lifecycle.nextOperation⟩)
    (hsession : app'.session.isSome = NeedsSession kind.state) :
    ∃ v', Next v v' ∧ Simulates app' v' := by
  have hid : IsOperationId app.lifecycle.nextOperation :=
    h.nextOperation ▸ h.invariants.type.nextOperation
  have hnext : Next v ⟨kind.state, v.nextOperation, NextId v.nextOperation,
      NeedsSession kind.state, v.lastResponse, false⟩ := by
    rcases htarget with hbegin | ⟨hstate, hkind⟩
    · exact Or.inl ⟨h.state ▸ hbegin, rfl, rfl, rfl, rfl, rfl⟩
    · refine Or.inr (Or.inl ⟨h.state.trans hstate, hkind, rfl, rfl, ?_, rfl, rfl⟩)
      rw [hkind]
      rfl
  refine ⟨_, hnext, ⟨?_, ?_, ?_, hsession.symm, ?_, invariants_next h.invariants hnext⟩⟩
  · rw [hlifecycle]
  · rw [hlifecycle, h.nextOperation]
    rfl
  · rw [hlifecycle, h.nextOperation, nextId_eq hid]
  · intro operation hoperation
    rw [hlifecycle] at hoperation
    obtain rfl := Option.some.inj hoperation
    exact hid

/-- An accepted answer, once the session is as the next state needs it. -/
lemma Simulates.complete (h : Simulates app v) {operation : OperationId}
    {next : PickerMachineState} (hactive : app.lifecycle.activeOperation = some operation)
    (htarget : CompletionTarget app.lifecycle.state next)
    (hlifecycle : app'.lifecycle = { app.lifecycle with state := next, activeOperation := none })
    (hsession : app'.session.isSome = NeedsSession next) :
    ∃ v', Next v v' ∧ Simulates app' v' := by
  have hop : IsOperationId v.activeOperation := by
    rw [h.activeOperation, hactive]
    exact h.operationId operation hactive
  have hnext : Next v ⟨next, NoOperation, v.nextOperation, NeedsSession next, v.activeOperation,
      false⟩ :=
    Or.inr (Or.inr (Or.inr (Or.inl ⟨hop, h.state ▸ htarget, rfl, rfl, rfl, rfl, rfl⟩)))
  refine ⟨_, hnext, ⟨?_, ?_, ?_, hsession.symm, ?_, invariants_next h.invariants hnext⟩⟩
  · rw [hlifecycle]
  · rw [hlifecycle]
    rfl
  · rw [hlifecycle, h.nextOperation]
  · intro operation hoperation
    rw [hlifecycle] at hoperation
    exact absurd hoperation (by simp)

end Simulates

/-! ## One method -/

/-- The specification follows the app in finitely many steps. -/
def Follows (app : DesktopApp) (v : Vars) : Prop :=
  ∃ v', Relation.ReflTransGen Next v v' ∧ Simulates app v'

section Methods

variable {crates : AppCrates} (h : crates.picker.AsSpecified) (env : Env) {app : DesktopApp}
  {v : Vars}

lemma Simulates.follows (hsim : Simulates app v) : Follows app v := ⟨v, .refl, hsim⟩

lemma Follows.head {v' : Vars} (hnext : Next v v') (hfollows : Follows app v') :
    Follows app v := by
  obtain ⟨v'', hpath, hsim⟩ := hfollows
  exact ⟨v'', .head hnext hpath, hsim⟩

lemma Simulates.rejectAction (hsim : Simulates app v) : Follows app.rejectAction v :=
  Simulates.follows (hsim.congr rfl rfl)

/-- `Simulates.complete`, for a method that ends there. -/
lemma Simulates.follows_complete (hsim : Simulates app v) {operation : OperationId}
    {next : PickerMachineState} (hactive : app.lifecycle.activeOperation = some operation)
    (htarget : CompletionTarget app.lifecycle.state next) {app' : DesktopApp}
    (hlifecycle : app'.lifecycle = { app.lifecycle with state := next, activeOperation := none })
    (hsession : app'.session.isSome = NeedsSession next) : Follows app' v := by
  obtain ⟨v', hnext, hsim'⟩ := hsim.complete hactive htarget hlifecycle hsession
  exact hsim'.follows.head hnext

include h

/-- A command is rejected without a trace, or it starts an effect. -/
lemma dispatch_specified (app : DesktopApp) (command : Command) (hreset : command ≠ .Reset) :
    app.dispatch crates command = (none, app) ∨
      ∃ kind : EffectKind, (app.lifecycle.state, command.event, kind.state) ∈ pickerTransitions ∧
        app.dispatch crates command = (some ⟨app.lifecycle.nextOperation, kind⟩, { app with
          lifecycle := ⟨kind.state, some app.lifecycle.nextOperation,
            nextId app.lifecycle.nextOperation⟩ }) := by
  rcases app.dispatch_cases h.controlsEffects command with
    heq | ⟨next, ht, hnext, hidle, -⟩ | ⟨kind, ht, heq⟩
  · exact Or.inl heq
  · -- only `Reset` leads to a state without an effect
    have hmem := h.transition _ _ _ ht
    have hinFlight : IsInFlight next = true := by
      rcases beginTarget_of_mem (mem_effectEvents hreset) hmem with hbegin | ⟨-, rfl⟩
      · exact isInFlight_of_beginTarget hbegin
      · rfl
    rw [← h.inFlight, hidle] at hinFlight
    exact absurd hinFlight (by simp)
  · exact Or.inr ⟨kind, h.transition _ _ _ ht, heq⟩

/-- The answer `Failed`, from the worker or from the app itself. -/
lemma Simulates.fail (hsim : Simulates app v) {operation : OperationId}
    {next : PickerMachineState} (hactive : app.lifecycle.activeOperation = some operation)
    (ht : crates.picker.transition app.lifecycle.state .Fail = some next)
    (message : Option String) :
    Follows { DesktopApp.dropUnneededSession crates { app with
      lifecycle := { app.lifecycle with state := next, activeOperation := none } } with
      message } v := by
  have hmem := h.transition _ _ _ ht
  have hneeds := needsSession_unchanged (by decide) hmem
  have htarget : CompletionTarget app.lifecycle.state next :=
    completionTarget_of_mem (show (_, Completion.Failed.event, _) ∈ _ from hmem)
  have hsession := hsim.session_eq
  rw [DesktopApp.dropUnneededSession, h.requiresSession]
  by_cases hneed : NeedsSession next = true
  · rw [if_pos hneed]
    exact hsim.follows_complete hactive htarget rfl (hsession.trans hneeds.symm)
  · rw [if_neg hneed]
    exact hsim.follows_complete hactive htarget rfl (by simp [hneed])

lemma Simulates.failDispatch (hsim : Simulates app v) (effect : Effect) :
    Follows (app.failDispatch crates effect) v := by
  rw [DesktopApp.failDispatch]
  rcases app.complete_cases crates effect.operation .Failed with
    heq | ⟨next, hactive, ht, -, heq⟩
  · rw [heq]
    exact hsim.follows
  · rw [heq]
    exact hsim.fail h hactive ht _

lemma Simulates.send (hsim : Simulates app v) (effect : Effect) (kind : RequestKind) :
    Follows (app.send crates env effect kind) v := by
  rcases send_cases crates env app effect kind with ⟨-, heq⟩ | heq
  · rw [heq]
    exact Simulates.follows (hsim.congr rfl rfl)
  · rw [heq]
    exact hsim.failDispatch h effect

/-- A dispatched effect whose request is then sent. -/
lemma Simulates.begin_send (hsim : Simulates app v) (command : Command)
    (hreset : command ≠ .Reset) {kind : EffectKind}
    (hmem : (app.lifecycle.state, command.event, kind.state) ∈ pickerTransitions)
    {app' : DesktopApp} (hlifecycle : app'.lifecycle = ⟨kind.state,
      some app.lifecycle.nextOperation, nextId app.lifecycle.nextOperation⟩)
    (hsession : app'.session.isSome = NeedsSession kind.state) (effect : Effect)
    (request : RequestKind) : Follows (app'.send crates env effect request) v := by
  obtain ⟨v', hnext, hsim'⟩ := hsim.begin
    (beginTarget_of_mem (mem_effectEvents hreset) hmem) hlifecycle hsession
  exact (hsim'.send h env effect request).head hnext

/-! The commands. -/

lemma Simulates.create (hsim : Simulates app v) : Follows (app.create crates env) v := by
  rw [DesktopApp.create]
  rcases dispatch_specified h app .Start (by decide) with heq | ⟨kind, hmem, heq⟩
  · rw [heq]
    exact hsim.rejectAction
  · rw [heq]
    have hneeds := not_needsSession_after (by decide) hmem
    exact hsim.begin_send h env .Start (by decide) hmem rfl (by rw [hneeds]; rfl) _ _

lemma Simulates.refresh (hsim : Simulates app v) : Follows (app.refresh crates env) v := by
  rw [DesktopApp.refresh]
  cases hsession : app.session with
  | none =>
      rw [DesktopApp.sessionAuthority, hsession]
      exact hsim.rejectAction
  | some session =>
      rw [DesktopApp.sessionAuthority, hsession]
      simp only [Option.map_some]
      rcases dispatch_specified h app .Refresh (by decide) with
        heq | ⟨kind, hmem, heq⟩
      · rw [heq]
        exact hsim.follows
      · rw [heq]
        have hneeds := needsSession_after (by decide) hmem
        exact hsim.begin_send h env .Refresh (by decide) hmem rfl (by simp [hsession, hneeds]) _ _

lemma Simulates.retry (hsim : Simulates app v) : Follows (app.retry crates env) v := by
  rw [DesktopApp.retry]
  rcases dispatch_specified h app .Retry (by decide) with heq | ⟨kind, hmem, heq⟩
  · rw [heq]
    exact hsim.rejectAction
  · rw [heq]
    have hsession := hsim.session_eq
    rcases retry_of_mem hmem with ⟨-, hkind⟩ | ⟨hstate, hkind⟩
    · obtain rfl : kind = .Create := by cases kind <;> simp_all [EffectKind.state]
      exact hsim.begin_send h env .Retry (by decide) hmem rfl rfl _ _
    · obtain rfl : kind = .Refresh := by cases kind <;> simp_all [EffectKind.state]
      rw [hstate] at hsession
      obtain ⟨session, hsome⟩ := Option.isSome_iff_exists.mp hsession
      rw [DesktopApp.sessionAuthority, hsome]
      exact hsim.begin_send h env .Retry (by decide) hmem rfl (by simp; rfl) _ _

lemma Simulates.cancel (hsim : Simulates app v) : Follows (app.cancel crates env) v := by
  rw [DesktopApp.cancel]
  cases hauthority : app.sessionAuthority with
  | none => exact hsim.rejectAction
  | some authority =>
      rcases dispatch_specified h app .Cancel (by decide) with
        heq | ⟨kind, hmem, heq⟩
      · rw [heq]
        exact hsim.rejectAction
      · rw [heq]
        have hneeds := not_needsSession_after (by decide) hmem
        exact hsim.begin_send h env .Cancel (by decide) hmem rfl (by rw [hneeds]; rfl) _ _

lemma Simulates.download (hsim : Simulates app v) : Follows (app.download crates env) v := by
  rw [DesktopApp.download]
  cases hsession : app.session with
  | none =>
      rw [DesktopApp.sessionAuthority, hsession]
      exact hsim.rejectAction
  | some session =>
      rw [DesktopApp.sessionAuthority, hsession]
      simp only [Option.map_some]
      cases app.availableSelection crates with
      | none => exact Simulates.follows (hsim.congr rfl (by rw [hsession]))
      | some file =>
          rcases dispatch_specified h app .Download (by decide) with
            heq | ⟨kind, hmem, heq⟩
          · rw [heq]
            exact hsim.rejectAction
          · rw [heq]
            have hneeds := needsSession_after (by decide) hmem
            exact hsim.begin_send h env .Download (by decide) hmem rfl
              (by simp [hsession, hneeds]) _ _

/-- Every call of the user and of the timer. -/
lemma Simulates.call (hsim : Simulates app v) (call : UserCall) :
    Follows (app.call crates env call) v := by
  cases call with
  | Create => exact hsim.create h env
  | Refresh => exact hsim.refresh h env
  | Retry => exact hsim.retry h env
  | Cancel => exact hsim.cancel h env
  | Download => exact hsim.download h env
  | TimerRefresh checked =>
      simp only [DesktopApp.call, DesktopApp.timerRefresh]
      split_ifs
      · exact hsim.refresh h env
      · exact hsim.follows
  | EditBaseUrl _ | EditApplicationId _ | SelectFile _ | EditDestination _ | SetForce _ =>
      simp only [DesktopApp.call]
      split_ifs
      all_goals exact Simulates.follows (hsim.congr rfl rfl)

/-- Every answer, with any content and any operation id. -/
lemma Simulates.processResponse (hsim : Simulates app v) (response : Response) :
    Follows (app.processResponse crates env response) v := by
  obtain ⟨operation, kind⟩ := response
  rw [DesktopApp.processResponse]
  rcases app.complete_cases crates operation (kind.completion crates) with
    heq | ⟨next, hactive, ht, -, heq⟩
  · rw [heq]
    exact hsim.follows
  · rw [heq]
    have hmem := h.transition _ _ _ ht
    have htarget := completionTarget_of_mem hmem
    have hsession := hsim.session_eq
    cases kind with
    | Created session =>
        replace hmem : (_, PickerMachineEvent.Created, next) ∈ pickerTransitions := hmem
        have hneeds := needsSession_after (by decide) hmem
        exact hsim.follows_complete hactive htarget rfl (by rw [hneeds]; rfl)
    | Snapshot files =>
        replace hmem : (_, (snapshotCompletion crates files).event, next) ∈ pickerTransitions :=
          hmem
        simp only [DesktopApp.accept]
        by_cases hall : snapshotCompletion crates files = .AllFilesReceived
        · rw [hall] at hmem
          have hneeds := not_needsSession_after (by decide) hmem
          rw [if_pos hall]
          exact hsim.follows_complete hactive htarget rfl (by rw [hneeds]; rfl)
        · have hevent : (snapshotCompletion crates files).event ∈
              [PickerMachineEvent.SnapshotEmpty, .SnapshotFiles, .Downloaded, .Fail] := by
            simp only [snapshotCompletion] at hall ⊢
            split_ifs at hall ⊢
            · decide
            · exact absurd rfl hall
            · decide
          have hneeds := needsSession_unchanged hevent hmem
          rw [if_neg hall]
          exact hsim.follows_complete hactive htarget rfl (hsession.trans hneeds.symm)
    | Downloaded path =>
        replace hmem : (_, PickerMachineEvent.Downloaded, next) ∈ pickerTransitions := hmem
        have hneeds := needsSession_unchanged (by decide) hmem
        -- the answer completes the download, and the refresh begins the next effect
        have hdone : ∃ v', Next v v' ∧ Simulates { app with
            lifecycle := { app.lifecycle with state := next, activeOperation := none }
            message := some "File saved successfully." } v' :=
          hsim.complete hactive htarget rfl (hsession.trans hneeds.symm)
        obtain ⟨v', hnext, hsim'⟩ := hdone
        exact (hsim'.refresh h env).head hnext
    | Cancelled =>
        replace hmem : (_, PickerMachineEvent.Cancelled, next) ∈ pickerTransitions := hmem
        have hneeds := not_needsSession_after (by decide) hmem
        exact hsim.follows_complete hactive htarget rfl (by rw [hneeds]; rfl)
    | Failed message => exact hsim.fail h hactive ht (some message)

end Methods

/-! ## Runs -/

/-- What happens to the app: a call of the user or of the timer, or an answer — any answer. -/
inductive AppInput where
  | Call (env : Env) (call : UserCall)
  | Respond (env : Env) (response : Response)
deriving DecidableEq

def DesktopApp.step (crates : AppCrates) (self : DesktopApp) : AppInput → DesktopApp
  | .Call env call => self.call crates env call
  | .Respond env response => self.processResponse crates env response

/-- The projection of the app that the specification speaks of. -/
structure Shows (v : Vars) (app : DesktopApp) : Prop where
  state : app.lifecycle.state = v.state
  activeOperation : app.lifecycle.activeOperation
    = if v.activeOperation = NoOperation then none else some v.activeOperation
  nextOperation : app.lifecycle.nextOperation = v.nextOperation
  hasSession : app.session.isSome = v.hasSession

lemma Simulates.shows {app : DesktopApp} {v : Vars} (h : Simulates app v) : Shows v app where
  state := h.state.symm
  activeOperation := by
    rw [h.activeOperation]
    cases hactive : app.lifecycle.activeOperation with
    | none => simp
    | some operation => simp [ne_noOperation (h.operationId operation hactive)]
  nextOperation := h.nextOperation.symm
  hasSession := h.hasSession.symm

lemma simulates_default (now : Instant) :
    Simulates (.default now) ⟨.Idle, NoOperation, 1, false, NoOperation, false⟩ where
  state := rfl
  activeOperation := rfl
  nextOperation := rfl
  hasSession := rfl
  operationId := by simp [DesktopApp.default, Lifecycle.default]
  invariants := invariants_init rfl

/-- The assertion at the end of `process_response` holds, compiled in or not. -/
lemma Simulates.validateSession {crates : AppCrates} (h : crates.picker.AsSpecified)
    {app : DesktopApp} {v : Vars} (hsim : Simulates app v) :
    app.lifecycle.validateSession crates.picker app.session.isSome = .ok () := by
  rw [Lifecycle.validateSession, Method.rejectIf_eq_ok, h.requiresSession, hsim.session_eq]
  simp

/-- **The app refines `DesktopLifecycle`**, and holds a session exactly when its state needs
one — so the assertion of a debug build never fires. -/
theorem app_refines_tla {crates : AppCrates} (h : crates.picker.AsSpecified) (now : Instant)
    (inputs : List AppInput) :
    ∃ behaviour : ℕ → Vars, Machine.IsBehaviour Init Next behaviour ∧
      ∃ point : ℕ → ℕ, Monotone point ∧ ∀ n,
        let app := Machine.stateAt (DesktopApp.step crates) (.default now) inputs n
        Shows (behaviour (point n)) app
          ∧ (app.session.isSome = true ↔ app.lifecycle.state ∈ SessionStates)
          ∧ app.lifecycle.validateSession crates.picker app.session.isSome = .ok () := by
  have hstep : ∀ app input v, Simulates app v →
      ∃ v', Relation.ReflTransGen Next v v' ∧ Simulates (app.step crates input) v' := by
    intro app input v hsim
    cases input with
    | Call env call => exact hsim.call h env call
    | Respond env response => exact hsim.processResponse h env response
  obtain ⟨behaviour, hbehaviour, point, hmono, hpoint⟩ :=
    Machine.exists_behaviour hstep (I := Init) rfl (simulates_default now) inputs
  refine ⟨behaviour, hbehaviour, point, hmono, fun n => ⟨(hpoint n).shows, ?_, ?_⟩⟩
  · rw [(hpoint n).session_eq, NeedsSession, List.contains_iff_mem]
  · exact (hpoint n).validateSession h

/-! One run with a failing send inside the treatment of an answer. -/

section Example

/-- The picker that accepts all of `pickerTransitions`. -/
def tablePicker : PickerMachine where
  transition state event :=
    (pickerTransitions.find? fun t => t.1 = state ∧ t.2.1 = event).map fun t => t.2.2
  metadata state := ⟨IsInFlight state, NeedsSession state⟩

lemma asSpecified_tablePicker : tablePicker.AsSpecified where
  inFlight _ := rfl
  requiresSession _ := rfl
  transition := by
    intro state event next h
    obtain ⟨t, hfind, rfl⟩ := Option.map_eq_some_iff.mp h
    have hkey := List.find?_some hfind
    simp only [decide_eq_true_eq] at hkey
    obtain ⟨rfl, rfl⟩ := hkey
    exact List.mem_of_find?_eq_some hfind

def exampleCrates : AppCrates where
  picker := tablePicker
  decodeStatus value :=
    if value = "available" then some .Available
    else if value = "downloaded" then some .Downloaded
    else none

def exampleFile : FileDescriptor where
  fileId := 1
  name := "report.pdf"
  mediaType := "application/pdf"
  sizeBytes := 3
  bytesTransferred := 3
  status := "available"
  createdAt := "2026-01-01T00:00:00Z"

def exampleSession : ReceiveSession where
  tunnelId := 1
  expiresAt := "2026-01-01T00:10:00Z"
  pairingUri := "https://upload.file-tunnel.dev/t/1"
  desktopCapability := "capability"

/-- A tunnel, its files, a stale answer, and a download whose refresh cannot be sent. -/
def exampleInputs : List AppInput :=
  [.Call ⟨0, true⟩ .Create,
    .Respond ⟨1, true⟩ ⟨1, .Created exampleSession⟩,
    .Call ⟨2, true⟩ .Refresh,
    .Respond ⟨3, true⟩ ⟨1, .Failed "The network request failed."⟩,
    .Respond ⟨4, true⟩ ⟨2, .Snapshot [exampleFile]⟩,
    .Call ⟨5, true⟩ (.SelectFile 1),
    .Call ⟨6, true⟩ .Download,
    .Respond ⟨7, false⟩ ⟨3, .Downloaded "report.pdf"⟩]

theorem app_refines_tla_example :
    (Machine.stateAt (DesktopApp.step exampleCrates) (.default 0) exampleInputs 8).lifecycle
        = ⟨.FailedWithSession, none, 5⟩
      ∧ ∃ behaviour : ℕ → Vars, Machine.IsBehaviour Init Next behaviour ∧
        ∃ point : ℕ → ℕ, Monotone point ∧ ∀ n,
          let app := Machine.stateAt (DesktopApp.step exampleCrates) (.default 0) exampleInputs n
          Shows (behaviour (point n)) app
            ∧ (app.session.isSome = true ↔ app.lifecycle.state ∈ SessionStates)
            ∧ app.lifecycle.validateSession exampleCrates.picker app.session.isSome = .ok () :=
  ⟨by decide +kernel, app_refines_tla asSpecified_tablePicker 0 exampleInputs⟩

end Example

end FtnlDesktop.Receive
