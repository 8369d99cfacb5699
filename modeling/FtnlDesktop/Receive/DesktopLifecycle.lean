import FtnlDesktop.Core.Run
import FtnlDesktop.Receive.Lifecycle

/-!
# The specification `DesktopLifecycle`

`formal/DesktopLifecycle.tla`, with `OperationIds` read as `1..2^64-1`.  The states are those of
`PickerMachineState`, under the names of the source.

* **`invariants_of_behaviour`** — the four invariants that the file states for the model checker
  hold in every state of every behaviour, for this range of operation ids.
-/

namespace FtnlDesktop.Receive.DesktopLifecycle

/-- The greatest operation id. -/
def MaxOperation : ℕ := 2 ^ 64 - 1

def IsOperationId (candidate : ℕ) : Prop := 1 ≤ candidate ∧ candidate ≤ MaxOperation

def NoOperation : ℕ := 0

def InFlightStates : List PickerMachineState :=
  [.Creating, .Refreshing, .Downloading, .Cancelling]

def SessionStates : List PickerMachineState :=
  [.Pairing, .Refreshing, .Transferring, .Downloading, .FailedWithSession]

def NeedsSession (candidate : PickerMachineState) : Bool := SessionStates.contains candidate

def IsInFlight (candidate : PickerMachineState) : Bool := InFlightStates.contains candidate

def NextId (candidate : ℕ) : ℕ := if candidate = MaxOperation then 1 else candidate + 1

structure Vars where
  state : PickerMachineState
  activeOperation : ℕ
  nextOperation : ℕ
  hasSession : Bool
  lastResponse : ℕ
  rejected : Bool
deriving DecidableEq

def Init (v : Vars) : Prop := v = ⟨.Idle, NoOperation, 1, false, NoOperation, false⟩

def BeginTarget (state state' : PickerMachineState) : Prop :=
  (state = .Idle ∧ state' = .Creating)
    ∨ (state = .Complete ∧ state' = .Creating)
    ∨ (state = .FailedWithoutSession ∧ state' = .Creating)
    ∨ (state ∈ [.Pairing, .Transferring, .FailedWithSession]
        ∧ state' = if state = .FailedWithSession then .Refreshing
            else if state = .Pairing then .Refreshing else .Downloading)
    ∨ (state ∈ [.Pairing, .Transferring, .FailedWithSession] ∧ state' = .Cancelling)
deriving Decidable

def BeginEffect (v v' : Vars) : Prop :=
  BeginTarget v.state v'.state
    ∧ v'.activeOperation = v.nextOperation
    ∧ v'.nextOperation = NextId v.nextOperation
    ∧ v'.hasSession = NeedsSession v'.state
    ∧ v'.lastResponse = v.lastResponse
    ∧ v'.rejected = false

def RefreshFromTransfer (v v' : Vars) : Prop :=
  v.state = .Transferring
    ∧ v'.state = .Refreshing
    ∧ v'.activeOperation = v.nextOperation
    ∧ v'.nextOperation = NextId v.nextOperation
    ∧ v'.hasSession = true
    ∧ v'.lastResponse = v.lastResponse
    ∧ v'.rejected = false

def Reset (v v' : Vars) : Prop :=
  v.state ∈ [.Complete, .FailedWithoutSession, .FailedWithSession]
    ∧ v'.state = .Idle
    ∧ v'.activeOperation = NoOperation
    ∧ v'.hasSession = false
    ∧ v'.nextOperation = v.nextOperation
    ∧ v'.lastResponse = v.lastResponse
    ∧ v'.rejected = false

def CompletionTarget (state state' : PickerMachineState) : Prop :=
  (state = .Creating ∧ state' ∈ [.Pairing, .FailedWithoutSession])
    ∨ (state = .Refreshing ∧ state' ∈ [.Pairing, .Transferring, .Complete, .FailedWithSession])
    ∨ (state = .Downloading ∧ state' ∈ [.Transferring, .FailedWithSession])
    ∨ (state = .Cancelling ∧ state' ∈ [.Idle, .FailedWithoutSession])
deriving Decidable

def CompleteEffect (v v' : Vars) : Prop :=
  IsOperationId v.activeOperation
    ∧ CompletionTarget v.state v'.state
    ∧ v'.activeOperation = NoOperation
    ∧ v'.hasSession = NeedsSession v'.state
    ∧ v'.lastResponse = v.activeOperation
    ∧ v'.nextOperation = v.nextOperation
    ∧ v'.rejected = false

def StaleResponse (v v' : Vars) : Prop :=
  ∃ response, IsOperationId response ∧ response ≠ v.activeOperation
    ∧ v' = { v with lastResponse := response, rejected := true }

def Next (v v' : Vars) : Prop :=
  BeginEffect v v' ∨ RefreshFromTransfer v v' ∨ Reset v v' ∨ CompleteEffect v v'
    ∨ StaleResponse v v'

/-! ## The invariants of the file -/

structure TypeInvariant (v : Vars) : Prop where
  activeOperation : IsOperationId v.activeOperation ∨ v.activeOperation = NoOperation
  nextOperation : IsOperationId v.nextOperation
  lastResponse : IsOperationId v.lastResponse ∨ v.lastResponse = NoOperation

def SessionAuthorityInvariant (v : Vars) : Prop := v.hasSession = NeedsSession v.state

def SingleInFlightInvariant (v : Vars) : Prop :=
  v.activeOperation ≠ NoOperation ↔ IsInFlight v.state = true

def StaleResponseInvariant (v : Vars) : Prop :=
  v.rejected = true → v.lastResponse ≠ v.activeOperation

def TerminalInvariant (v : Vars) : Prop :=
  v.state = .Complete → v.hasSession = false ∧ v.activeOperation = NoOperation

/-- What is preserved; `TerminalInvariant` follows from it. -/
structure Invariants (v : Vars) : Prop where
  type : TypeInvariant v
  session : SessionAuthorityInvariant v
  inFlight : SingleInFlightInvariant v
  stale : StaleResponseInvariant v

lemma isOperationId_nextId {n : ℕ} (h : IsOperationId n) : IsOperationId (NextId n) := by
  obtain ⟨-, hle⟩ := h
  rw [NextId]
  by_cases hmax : n = MaxOperation
  · rw [if_pos hmax]
    exact ⟨le_rfl, by decide⟩
  · rw [if_neg hmax]
    exact ⟨Nat.le_add_left 1 n, Nat.lt_of_le_of_ne hle hmax⟩

lemma ne_noOperation {n : ℕ} (h : IsOperationId n) : n ≠ NoOperation := by
  rw [NoOperation]
  exact Nat.one_le_iff_ne_zero.mp h.1

/-- An effect begins in a state that is in flight. -/
lemma isInFlight_of_beginTarget {state state' : PickerMachineState}
    (h : BeginTarget state state') : IsInFlight state' = true := by
  rcases h with ⟨-, rfl⟩ | ⟨-, rfl⟩ | ⟨-, rfl⟩ | ⟨-, rfl⟩ | ⟨-, rfl⟩
  · rfl
  · rfl
  · rfl
  · split_ifs <;> rfl
  · rfl

/-- It ends in one that is not. -/
lemma isInFlight_of_completionTarget {state state' : PickerMachineState}
    (h : CompletionTarget state state') : IsInFlight state' = false := by
  cases state' with
  | Creating | Refreshing | Downloading | Cancelling => simp [CompletionTarget] at h
  | _ => rfl

lemma invariants_init {v : Vars} (h : Init v) : Invariants v := by
  obtain rfl := h
  refine ⟨⟨Or.inr rfl, ⟨le_rfl, by decide⟩, Or.inr rfl⟩, rfl, ?_, ?_⟩
  · simp [SingleInFlightInvariant, IsInFlight, InFlightStates]
  · simp [StaleResponseInvariant]

/-- **Every action preserves the invariants.** -/
theorem invariants_next {v v' : Vars} (h : Invariants v) (hnext : Next v v') :
    Invariants v' := by
  rcases hnext with hbegin | hrefresh | hreset | hcomplete | hstale
  · obtain ⟨htarget, hactive, hid, hsession, hlast, hrejected⟩ := hbegin
    refine ⟨⟨Or.inl (hactive ▸ h.type.nextOperation), hid ▸ isOperationId_nextId
      h.type.nextOperation, hlast ▸ h.type.lastResponse⟩, hsession, ?_, ?_⟩
    · rw [SingleInFlightInvariant, hactive]
      exact iff_of_true (ne_noOperation h.type.nextOperation) (isInFlight_of_beginTarget htarget)
    · simp [StaleResponseInvariant, hrejected]
  · obtain ⟨-, hstate, hactive, hid, hsession, hlast, hrejected⟩ := hrefresh
    refine ⟨⟨Or.inl (hactive ▸ h.type.nextOperation), hid ▸ isOperationId_nextId
      h.type.nextOperation, hlast ▸ h.type.lastResponse⟩, ?_, ?_, ?_⟩
    · rw [SessionAuthorityInvariant, hsession, hstate]
      rfl
    · rw [SingleInFlightInvariant, hactive, hstate]
      exact iff_of_true (ne_noOperation h.type.nextOperation) rfl
    · simp [StaleResponseInvariant, hrejected]
  · obtain ⟨-, hstate, hactive, hsession, hid, hlast, hrejected⟩ := hreset
    refine ⟨⟨Or.inr hactive, hid ▸ h.type.nextOperation, hlast ▸ h.type.lastResponse⟩, ?_, ?_, ?_⟩
    · rw [SessionAuthorityInvariant, hsession, hstate]
      rfl
    · rw [SingleInFlightInvariant, hactive, hstate]
      simp [IsInFlight, InFlightStates]
    · simp [StaleResponseInvariant, hrejected]
  · obtain ⟨hop, htarget, hactive, hsession, hlast, hid, hrejected⟩ := hcomplete
    refine ⟨⟨Or.inr hactive, hid ▸ h.type.nextOperation, Or.inl (hlast ▸ hop)⟩, hsession, ?_, ?_⟩
    · rw [SingleInFlightInvariant, hactive, isInFlight_of_completionTarget htarget]
      simp
    · simp [StaleResponseInvariant, hrejected]
  · obtain ⟨response, hop, hne, rfl⟩ := hstale
    exact ⟨⟨h.type.activeOperation, h.type.nextOperation, Or.inl hop⟩, h.session, h.inFlight,
      fun _ => hne⟩

lemma terminal_of_invariants {v : Vars} (h : Invariants v) : TerminalInvariant v := by
  intro hstate
  have hsession := h.session
  have hinFlight := h.inFlight
  rw [SessionAuthorityInvariant, hstate] at hsession
  rw [SingleInFlightInvariant, hstate] at hinFlight
  refine ⟨hsession, not_not.mp fun hactive => ?_⟩
  exact absurd (hinFlight.mp hactive) (by decide)

/-- **The invariants hold throughout every behaviour.** -/
theorem invariants_of_behaviour {b : ℕ → Vars} (hb : Machine.IsBehaviour Init Next b) (n : ℕ) :
    Invariants (b n) ∧ TerminalInvariant (b n) := by
  have h : Invariants (b n) :=
    hb.invariant (fun _ => invariants_init) (fun _ _ => invariants_next) n
  exact ⟨h, terminal_of_invariants h⟩

end FtnlDesktop.Receive.DesktopLifecycle
