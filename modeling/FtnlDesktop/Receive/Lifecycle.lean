import FtnlDesktop.Base

/-!
# The receive lifecycle

`src/lifecycle.rs`: the state of the receive side, the one operation that may be in flight, and
the counter that numbers operations.  `dispatch` starts an operation for a command of the user,
`complete` ends it with the worker's answer.

The table of states belongs to the crate `ftnl_ui_components`; its two functions are the fields of
`PickerMachine`, and nothing is assumed of them here.  **`dispatch_outcomes`** and
**`complete_cases`** say what the two methods return for any table.  `dispatch_cases` is the first
of them for the tables in which the four states that `effect_kind` names are in flight
(`PickerMachine.ControlsEffects`): for these the closing `validate_in_flight` never fails.
-/

namespace FtnlDesktop.Receive

open Method

/-! ## The picker machine -/

inductive PickerMachineState where
  | Idle
  | Creating
  | Pairing
  | Refreshing
  | Transferring
  | Downloading
  | Cancelling
  | Complete
  | FailedWithoutSession
  | FailedWithSession
deriving DecidableEq, Repr

inductive PickerMachineEvent where
  | Start
  | Refresh
  | Download
  | Cancel
  | Retry
  | Reset
  | Created
  | SnapshotEmpty
  | SnapshotFiles
  | AllFilesReceived
  | Downloaded
  | Cancelled
  | Fail
deriving DecidableEq, Repr

structure StateMetadata where
  inFlight : Bool
  requiresSession : Bool
deriving DecidableEq, Repr

/-- `PickerMachineState::transition` and `PickerMachineState::metadata`. -/
structure PickerMachine where
  transition : PickerMachineState → PickerMachineEvent → Option PickerMachineState
  metadata : PickerMachineState → StateMetadata

/-! ## Commands, completions and effects -/

/-- An `OperationId`, by the `u64` in it. -/
abbrev OperationId := ℕ

inductive Command where
  | Start
  | Refresh
  | Download
  | Cancel
  | Retry
  | Reset
deriving DecidableEq, Repr

def Command.event : Command → PickerMachineEvent
  | .Start => .Start
  | .Refresh => .Refresh
  | .Download => .Download
  | .Cancel => .Cancel
  | .Retry => .Retry
  | .Reset => .Reset

inductive Completion where
  | Created
  | SnapshotEmpty
  | SnapshotFiles
  | AllFilesReceived
  | Downloaded
  | Cancelled
  | Failed
deriving DecidableEq, Repr

def Completion.event : Completion → PickerMachineEvent
  | .Created => .Created
  | .SnapshotEmpty => .SnapshotEmpty
  | .SnapshotFiles => .SnapshotFiles
  | .AllFilesReceived => .AllFilesReceived
  | .Downloaded => .Downloaded
  | .Cancelled => .Cancelled
  | .Failed => .Fail

inductive EffectKind where
  | Create
  | Refresh
  | Download
  | Cancel
deriving DecidableEq, Repr

structure Effect where
  operation : OperationId
  kind : EffectKind
deriving DecidableEq, Repr

inductive LifecycleError where
  | InvalidTransition
  | StaleOperation
  | UncontrolledEffect
  | InFlightInvariant
  | SessionInvariant
deriving DecidableEq, Repr

/-! ## The lifecycle -/

structure Lifecycle where
  state : PickerMachineState
  activeOperation : Option OperationId
  nextOperation : ℕ
deriving DecidableEq, Repr

/-- `Lifecycle::default()`. -/
def Lifecycle.default : Lifecycle := ⟨.Idle, none, 1⟩

/-- `n.checked_add(1).unwrap_or(1)`. -/
def nextId (n : ℕ) : ℕ := (checkedAddU64 n 1).getD 1

/-- The next operation has another id, also where the counter wraps around. -/
lemma nextId_ne (n : ℕ) : nextId n ≠ n := by
  rw [nextId, checkedAddU64]
  split_ifs with hlt
  · simp
  · simp only [Option.getD_none]
    omega

namespace Lifecycle

/-- A method of the lifecycle. -/
abbrev LifecycleM := EStateM LifecycleError Lifecycle

variable (picker : PickerMachine)

def can (self : Lifecycle) (command : Command) : Bool :=
  (picker.transition self.state command.event).isSome

def isInFlight (self : Lifecycle) : Bool := self.activeOperation.isSome

def effectKind (state : PickerMachineState) : Except LifecycleError (Option EffectKind) :=
  match state with
  | .Creating => .ok (some .Create)
  | .Refreshing => .ok (some .Refresh)
  | .Downloading => .ok (some .Download)
  | .Cancelling => .ok (some .Cancel)
  | state => if (picker.metadata state).inFlight then .error .UncontrolledEffect else .ok none

def allocateOperation : LifecycleM OperationId := do
  let operation := (← get).nextOperation
  modify fun self => { self with nextOperation := nextId self.nextOperation }
  return operation

def validateInFlight : LifecycleM Unit := do
  let self ← get
  rejectIf ((picker.metadata self.state).inFlight ≠ self.activeOperation.isSome)
    LifecycleError.InFlightInvariant

/-- `Lifecycle::validate_session`. -/
def validateSession (self : Lifecycle) (hasSession : Bool) : Except LifecycleError Unit :=
  rejectIf ((picker.metadata self.state).requiresSession ≠ hasSession)
    LifecycleError.SessionInvariant

def dispatch (command : Command) : LifecycleM (Option Effect) := do
  let next ← okOr (picker.transition (← get).state command.event) LifecycleError.InvalidTransition
  let effect ← match ← attempt (effectKind picker next) with
    | some kind => do
        let operation ← allocateOperation
        pure (some { operation, kind : Effect })
    | none => pure none
  modify fun self =>
    { self with state := next, activeOperation := effect.map fun item => item.operation }
  validateInFlight picker
  return effect

def complete (operation : OperationId) (completion : Completion) : LifecycleM Unit := do
  rejectIf ((← get).activeOperation ≠ some operation) LifecycleError.StaleOperation
  let next ← okOr (picker.transition (← get).state completion.event)
    LifecycleError.InvalidTransition
  rejectIf ((picker.metadata next).inFlight = true) LifecycleError.UncontrolledEffect
  modify fun self => { self with state := next, activeOperation := none }
  validateInFlight picker

end Lifecycle

/-! ## What the methods return -/

/-- The state in which an effect of this kind is in flight. -/
def EffectKind.state : EffectKind → PickerMachineState
  | .Create => .Creating
  | .Refresh => .Refreshing
  | .Download => .Downloading
  | .Cancel => .Cancelling

/-- The four states that `effect_kind` gives an operation to are in flight. -/
def PickerMachine.ControlsEffects (picker : PickerMachine) : Prop :=
  ∀ kind : EffectKind, (picker.metadata kind.state).inFlight = true

namespace Lifecycle

variable {picker : PickerMachine}

lemma effectKind_eq_some {state : PickerMachineState} {kind : EffectKind} :
    effectKind picker state = .ok (some kind) ↔ state = kind.state := by
  cases state <;> cases kind <;> simp [effectKind, EffectKind.state] <;> split <;> simp

lemma effectKind_eq_none {state : PickerMachineState} :
    effectKind picker state = .ok none ↔
      (∀ kind : EffectKind, state ≠ kind.state) ∧ (picker.metadata state).inFlight = false := by
  have hforall : (∀ kind : EffectKind, state ≠ kind.state) ↔
      state ≠ .Creating ∧ state ≠ .Refreshing ∧ state ≠ .Downloading ∧ state ≠ .Cancelling :=
    ⟨fun h => ⟨h .Create, h .Refresh, h .Download, h .Cancel⟩,
      fun h kind => by cases kind <;> simp [EffectKind.state, h]⟩
  rw [hforall]
  cases state <;> simp [effectKind]

@[simp] lemma run_validateInFlight (self : Lifecycle) :
    (validateInFlight picker).run self =
      if (picker.metadata self.state).inFlight = self.activeOperation.isSome then .ok () self
      else .error .InFlightInvariant self := by
  simp [validateInFlight]

lemma eq_uncontrolledEffect_of_effectKind {state : PickerMachineState} {error : LifecycleError}
    (h : effectKind picker state = .error error) : error = .UncontrolledEffect := by
  cases state
  all_goals simp only [effectKind, reduceCtorEq] at h
  -- what is left are the states without an effect
  all_goals
    split_ifs at h
    exact (Except.error.inj h).symm

variable (picker) in
/-- **What a command does**, for any table.  It is rejected before anything is written, or it moves
to a state without an effect, or it allocates an operation and starts an effect; only then can the
final check fail. -/
theorem dispatch_outcomes (self : Lifecycle) (command : Command) :
    (∃ error, error ≠ .InFlightInvariant ∧
      (dispatch picker command).run self = .error error self) ∨
    (∃ next, picker.transition self.state command.event = some next ∧
      (∀ kind : EffectKind, next ≠ kind.state) ∧ (picker.metadata next).inFlight = false ∧
      (dispatch picker command).run self
        = .ok none { self with state := next, activeOperation := none }) ∨
    ∃ kind : EffectKind, picker.transition self.state command.event = some kind.state ∧
      (dispatch picker command).run self =
        if (picker.metadata kind.state).inFlight = true then
          .ok (some ⟨self.nextOperation, kind⟩)
            ⟨kind.state, some self.nextOperation, nextId self.nextOperation⟩
        else
          .error .InFlightInvariant
            ⟨kind.state, some self.nextOperation, nextId self.nextOperation⟩ := by
  cases ht : picker.transition self.state command.event with
  | none => exact Or.inl ⟨.InvalidTransition, by simp, by simp [dispatch, ht]⟩
  | some next =>
      cases hkind : effectKind picker next with
      | error error =>
          obtain rfl := eq_uncontrolledEffect_of_effectKind hkind
          exact Or.inl ⟨.UncontrolledEffect, by simp, by simp [dispatch, ht, hkind]⟩
      | ok effect =>
          cases effect with
          | none =>
              obtain ⟨hnext, hidle⟩ := effectKind_eq_none.mp hkind
              exact Or.inr (Or.inl ⟨next, rfl, hnext, hidle, by simp [dispatch, ht, hkind, hidle]⟩)
          | some kind =>
              obtain rfl := effectKind_eq_some.mp hkind
              refine Or.inr (Or.inr ⟨kind, rfl, ?_⟩)
              by_cases hflight : (picker.metadata kind.state).inFlight = true
              · simp [dispatch, ht, hkind, allocateOperation, hflight]
              · simp [dispatch, ht, hkind, allocateOperation, hflight]

/-- **What a command does** when the states of effects are in flight. -/
theorem dispatch_cases (h : picker.ControlsEffects) (self : Lifecycle) (command : Command) :
    (∃ error, error ≠ .InFlightInvariant ∧
      (dispatch picker command).run self = .error error self) ∨
      (∃ next, picker.transition self.state command.event = some next ∧
        (∀ kind : EffectKind, next ≠ kind.state) ∧ (picker.metadata next).inFlight = false ∧
        (dispatch picker command).run self
          = .ok none { self with state := next, activeOperation := none }) ∨
      ∃ kind : EffectKind, picker.transition self.state command.event = some kind.state ∧
        (dispatch picker command).run self
          = .ok (some ⟨self.nextOperation, kind⟩)
              ⟨kind.state, some self.nextOperation, nextId self.nextOperation⟩ := by
  rcases dispatch_outcomes picker self command with hreject | hidle | ⟨kind, ht, hrun⟩
  · exact Or.inl hreject
  · exact Or.inr (Or.inl hidle)
  · exact Or.inr (Or.inr ⟨kind, ht, hrun.trans (if_pos (h kind))⟩)

/-- An answer to the active operation that ends it is accepted. -/
theorem run_complete_accepted {self : Lifecycle} {operation : OperationId}
    {completion : Completion} {next : PickerMachineState}
    (hactive : self.activeOperation = some operation)
    (ht : picker.transition self.state completion.event = some next)
    (hidle : (picker.metadata next).inFlight = false) :
    (complete picker operation completion).run self
      = .ok () { self with state := next, activeOperation := none } := by
  simp [complete, hactive, ht, hidle]

lemma run_complete_stale {self : Lifecycle} {operation : OperationId} {completion : Completion}
    (h : self.activeOperation ≠ some operation) :
    (complete picker operation completion).run self = .error .StaleOperation self := by
  simp [complete, h]

variable (picker) in
/-- **What an answer does.**  It is rejected and changes nothing, or it ends the active
operation. -/
theorem complete_cases (self : Lifecycle) (operation : OperationId) (completion : Completion) :
    (∃ error, error ≠ .InFlightInvariant ∧
      (complete picker operation completion).run self = .error error self) ∨
      ∃ next, self.activeOperation = some operation ∧
        picker.transition self.state completion.event = some next ∧
        (picker.metadata next).inFlight = false ∧
        (complete picker operation completion).run self
          = .ok () { self with state := next, activeOperation := none } := by
  by_cases hactive : self.activeOperation = some operation
  · cases ht : picker.transition self.state completion.event with
    | none => exact Or.inl ⟨.InvalidTransition, by simp, by simp [complete, hactive, ht]⟩
    | some next =>
        cases hidle : (picker.metadata next).inFlight with
        | true =>
            exact Or.inl ⟨.UncontrolledEffect, by simp, by simp [complete, hactive, ht, hidle]⟩
        | false => exact Or.inr ⟨next, hactive, rfl, hidle, run_complete_accepted hactive ht hidle⟩
  · exact Or.inl ⟨.StaleOperation, by simp, run_complete_stale hactive⟩

end Lifecycle

end FtnlDesktop.Receive
