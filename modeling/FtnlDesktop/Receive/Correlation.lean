import FtnlDesktop.Core.Cyclic
import FtnlDesktop.Core.Run
import FtnlDesktop.Receive.Lifecycle

/-!
# The lifecycle under any table

Runs of `dispatch` and `complete` from `Lifecycle::default()`, with whatever commands, answers and
operation ids, and for any table of the picker.

* **`lifecycle_integrity`** — if the table has the four states of effects in flight and `Idle` not,
  the current state is in flight exactly while an operation is active; no other state in flight is
  ever entered; `InFlightInvariant` is never returned; and an error changes nothing.
* **`stale_responses_never_current`** — the ids of operations repeat only after a whole round of
  `u64`, so an operation that is no longer active stays so, and every answer that carries its id is
  stale.  Here nothing at all is asked of the table.

`dispatch` makes its last check after it has written, so the first result has to show that the
check cannot fail.  The second does not need that: `dispatch` allocates before the check, and the
record of allocations in `TracedLifecycle` counts an operation also when the check fails.
-/

namespace FtnlDesktop.Receive

open Machine

/-! ## Calls -/

inductive LifecycleCall where
  | Dispatch (command : Command)
  | Complete (operation : OperationId) (completion : Completion)
deriving DecidableEq

/-- What the call returns; there is no effect to be returned by `complete`. -/
def LifecycleCall.run (picker : PickerMachine) (self : Lifecycle) :
    LifecycleCall → EStateM.Result LifecycleError Lifecycle (Option Effect)
  | .Dispatch command => (Lifecycle.dispatch picker command).run self
  | .Complete operation completion =>
      match (Lifecycle.complete picker operation completion).run self with
      | .ok _ after => .ok none after
      | .error error after => .error error after

/-- The lifecycle after the call, whatever it returned. -/
def Lifecycle.step (picker : PickerMachine) (self : Lifecycle) (call : LifecycleCall) :
    Lifecycle :=
  match call.run picker self with
  | .ok _ after => after
  | .error _ after => after

/-- **What one call does.**  It is rejected and changes nothing; or it leaves no operation active,
and if it is an answer then it was one to the active operation; or it allocates an operation. -/
lemma LifecycleCall.run_cases (picker : PickerMachine) (self : Lifecycle) (call : LifecycleCall) :
    (∃ error, error ≠ .InFlightInvariant ∧ call.run picker self = .error error self) ∨
    (∃ next, (picker.metadata next).inFlight = false ∧
      call.run picker self = .ok none { self with state := next, activeOperation := none } ∧
      ∀ operation completion, call = .Complete operation completion →
        self.activeOperation = some operation) ∨
    ∃ command, ∃ kind : EffectKind, call = .Dispatch command ∧
      call.run picker self =
        if (picker.metadata kind.state).inFlight = true then
          .ok (some ⟨self.nextOperation, kind⟩)
            ⟨kind.state, some self.nextOperation, nextId self.nextOperation⟩
        else
          .error .InFlightInvariant
            ⟨kind.state, some self.nextOperation, nextId self.nextOperation⟩ := by
  cases call with
  | Dispatch command =>
      rcases Lifecycle.dispatch_outcomes picker self command with
        hreject | ⟨next, -, -, hidle, hrun⟩ | ⟨kind, -, hrun⟩
      · exact Or.inl hreject
      · exact Or.inr (Or.inl ⟨next, hidle, hrun, by simp⟩)
      · exact Or.inr (Or.inr ⟨command, kind, rfl, hrun⟩)
  | Complete operation completion =>
      rcases Lifecycle.complete_cases picker self operation completion with
        ⟨error, hne, hrun⟩ | ⟨next, hactive, -, hidle, hrun⟩
      · refine Or.inl ⟨error, hne, ?_⟩
        simp [LifecycleCall.run, hrun]
      · refine Or.inr (Or.inl ⟨next, hidle, ?_, ?_⟩)
        · simp [LifecycleCall.run, hrun]
        · rintro operation' completion' ⟨⟩
          exact hactive

/-! ## Integrity -/

/-- The state is in flight exactly while an operation is active, and then it is that of an
effect. -/
structure Lifecycle.Sound (picker : PickerMachine) (lifecycle : Lifecycle) : Prop where
  inFlight : (picker.metadata lifecycle.state).inFlight = lifecycle.activeOperation.isSome
  effect : lifecycle.activeOperation.isSome = true →
    ∃ kind : EffectKind, lifecycle.state = kind.state

/-- **One call** on a table that controls the effects. -/
theorem Lifecycle.Sound.step {picker : PickerMachine} (heffects : picker.ControlsEffects)
    {self : Lifecycle} (h : self.Sound picker) (call : LifecycleCall) :
    (self.step picker call).Sound picker := by
  rw [Lifecycle.step]
  rcases call.run_cases picker self with
    ⟨error, -, hrun⟩ | ⟨next, hidle, hrun, -⟩ | ⟨command, kind, -, hrun⟩
  · rw [hrun]
    exact h
  · rw [hrun]
    exact ⟨hidle, by simp⟩
  · rw [hrun, if_pos (heffects kind)]
    exact ⟨heffects kind, fun _ => ⟨kind, rfl⟩⟩

/-- On such a table the final check of `dispatch` never fails. -/
lemma LifecycleCall.run_error {picker : PickerMachine} (heffects : picker.ControlsEffects)
    {self after : Lifecycle} {call : LifecycleCall} {error : LifecycleError}
    (h : call.run picker self = .error error after) :
    error ≠ .InFlightInvariant ∧ after = self := by
  rcases call.run_cases picker self with
    ⟨error', hne, hrun⟩ | ⟨next, -, hrun, -⟩ | ⟨command, kind, -, hrun⟩
  · rw [hrun] at h
    cases h
    exact ⟨hne, rfl⟩
  · rw [hrun] at h
    cases h
  · rw [hrun, if_pos (heffects kind)] at h
    cases h

/-- **Lifecycle integrity for any table** that has the four states of effects in flight and `Idle`
not: after any calls, the state is in flight if and only if an operation is active, and then it is
one of the four; the next call does not return `InFlightInvariant`; and if it returns an error it
has changed nothing. -/
theorem lifecycle_integrity (picker : PickerMachine)
    (hidle : (picker.metadata .Idle).inFlight = false) (heffects : picker.ControlsEffects)
    (calls : List LifecycleCall) :
    let self := exec (Lifecycle.step picker) .default calls
    ((picker.metadata self.state).inFlight = true ↔ self.activeOperation.isSome = true) ∧
    ((picker.metadata self.state).inFlight = true →
      self.state ∈ [.Creating, .Refreshing, .Downloading, .Cancelling]) ∧
    (∀ (call : LifecycleCall) after, call.run picker self ≠ .error .InFlightInvariant after) ∧
    (∀ (call : LifecycleCall) error after, call.run picker self = .error error after →
      after = self) := by
  intro self
  have hsound : self.Sound picker :=
    exec_invariant (fun _ call h => h.step heffects call) ⟨hidle, by simp [Lifecycle.default]⟩ calls
  refine ⟨by rw [hsound.inFlight], ?_, ?_, ?_⟩
  · intro hflight
    obtain ⟨kind, hstate⟩ := hsound.effect (hsound.inFlight ▸ hflight)
    rw [hstate]
    cases kind <;> simp [EffectKind.state]
  · intro call after hrun
    exact (LifecycleCall.run_error heffects hrun).1 rfl
  · intro call error after hrun
    exact (LifecycleCall.run_error heffects hrun).2

section Example

/-- A table in which `Pairing` is in flight as well, and an answer leads there. -/
def busyPicker : PickerMachine where
  transition
    | .Idle, .Start => some .Creating
    | .Creating, .Created => some .Pairing
    | .Creating, .Fail => some .FailedWithoutSession
    | .FailedWithoutSession, .Retry => some .Creating
    | .FailedWithoutSession, .Reset => some .Idle
    | _, _ => none
  metadata state :=
    { inFlight := state ∈ [.Creating, .Pairing, .Refreshing, .Downloading, .Cancelling]
      requiresSession := false }

lemma controlsEffects_busyPicker : busyPicker.ControlsEffects := by
  intro kind
  cases kind <;> rfl

/-- The answer that leads to `Pairing` is refused, and the operation stays active. -/
theorem lifecycle_integrity_busy :
    let self := exec (Lifecycle.step busyPicker) .default
      [.Dispatch .Start, .Complete 1 .Created]
    self = ⟨.Creating, some 1, 2⟩ ∧
      ((busyPicker.metadata self.state).inFlight = true ↔
        self.activeOperation.isSome = true) :=
  ⟨by decide, (lifecycle_integrity busyPicker rfl controlsEffects_busyPicker
    [.Dispatch .Start, .Complete 1 .Created]).1⟩

end Example

/-! ## Operations -/

/-- The number of ids: all of `u64` but zero. -/
def MAX_OPERATIONS : ℕ := 2 ^ 64 - 1

lemma nextId_nth (k : ℕ) :
    nextId (Cyclic.nth MAX_OPERATIONS k) = Cyclic.nth MAX_OPERATIONS (k + 1) := by
  rw [← Cyclic.next_nth (by decide), nextId, checkedAddU64, Cyclic.next, MAX_OPERATIONS]
  split_ifs
  · rfl
  · omega
  · omega
  · rfl

/-- A lifecycle with the operations that were allocated and those that were completed, each in
their order. -/
structure TracedLifecycle where
  lifecycle : Lifecycle
  allocated : List OperationId
  completed : List OperationId
deriving DecidableEq

/-- The operation that a call has allocated: only `allocate_operation` moves the counter on. -/
def allocatedBetween (before after : Lifecycle) : Option OperationId :=
  if after.nextOperation = before.nextOperation then none else some before.nextOperation

/-- The operation that the call completes. -/
def LifecycleCall.completes (picker : PickerMachine) (self : Lifecycle) (call : LifecycleCall) :
    Option OperationId :=
  match call, call.run picker self with
  | .Complete operation _, .ok _ _ => some operation
  | _, _ => none

namespace TracedLifecycle

def step (picker : PickerMachine) (traced : TracedLifecycle) (call : LifecycleCall) :
    TracedLifecycle where
  lifecycle := traced.lifecycle.step picker call
  allocated := traced.allocated
    ++ (allocatedBetween traced.lifecycle (traced.lifecycle.step picker call)).toList
  completed := traced.completed ++ (call.completes picker traced.lifecycle).toList

/-- `Lifecycle::default()` after the calls. -/
def after (picker : PickerMachine) (calls : List LifecycleCall) : TracedLifecycle :=
  exec (step picker) ⟨.default, [], []⟩ calls

end TracedLifecycle

/-- Every answer that carries the operation is stale, and changes nothing. -/
def Lifecycle.Stale (picker : PickerMachine) (self : Lifecycle) (operation : OperationId) : Prop :=
  ∀ completion,
    (Lifecycle.complete picker operation completion).run self = .error .StaleOperation self

lemma Lifecycle.stale_of_ne {picker : PickerMachine} {self : Lifecycle} {operation : OperationId}
    (h : self.activeOperation ≠ some operation) : self.Stale picker operation :=
  fun _ => Lifecycle.run_complete_stale h

namespace TracedLifecycle

variable {picker : PickerMachine} {traced : TracedLifecycle}

/-- The operation is over: it was allocated, and it is not active. -/
def Over (traced : TracedLifecycle) (operation : OperationId) : Prop :=
  operation ∈ traced.allocated ∧ traced.lifecycle.activeOperation ≠ some operation

/-- What the records say about the lifecycle at every moment. -/
structure Inv (traced : TracedLifecycle) : Prop where
  allocated : ∀ k operation, traced.allocated[k]? = some operation →
    operation = Cyclic.nth MAX_OPERATIONS k
  next : traced.lifecycle.nextOperation = Cyclic.nth MAX_OPERATIONS traced.allocated.length
  active : ∀ operation, traced.lifecycle.activeOperation = some operation →
    traced.allocated.getLast? = some operation

/-- **What one call does to the records.**  Nothing; or no operation is active afterwards, and the
one that was may be recorded as completed; or a new operation is recorded and active. -/
lemma step_cases (picker : PickerMachine) (traced : TracedLifecycle) (call : LifecycleCall) :
    traced.step picker call = traced ∨
    (∃ next, traced.step picker call =
      { traced with lifecycle := { traced.lifecycle with state := next, activeOperation := none } })
      ∨
    (∃ next operation, traced.lifecycle.activeOperation = some operation ∧
      traced.step picker call =
        { lifecycle := { traced.lifecycle with state := next, activeOperation := none }
          allocated := traced.allocated
          completed := traced.completed ++ [operation] }) ∨
    ∃ kind : EffectKind, traced.step picker call =
      { lifecycle := ⟨kind.state, some traced.lifecycle.nextOperation,
          nextId traced.lifecycle.nextOperation⟩
        allocated := traced.allocated ++ [traced.lifecycle.nextOperation]
        completed := traced.completed } := by
  rcases call.run_cases picker traced.lifecycle with
    ⟨error, -, hrun⟩ | ⟨next, -, hrun, hactive⟩ | ⟨command, kind, rfl, hrun⟩
  · left
    have hstep : traced.lifecycle.step picker call = traced.lifecycle := by
      rw [Lifecycle.step, hrun]
    simp [TracedLifecycle.step, hstep, LifecycleCall.completes, hrun, allocatedBetween]
  · right
    have hstep : traced.lifecycle.step picker call
        = { traced.lifecycle with state := next, activeOperation := none } := by
      rw [Lifecycle.step, hrun]
    cases call with
    | Dispatch command =>
        refine Or.inl ⟨next, ?_⟩
        simp [TracedLifecycle.step, hstep, LifecycleCall.completes, allocatedBetween]
    | Complete operation completion =>
        refine Or.inr (Or.inl ⟨next, operation, hactive operation completion rfl, ?_⟩)
        simp [TracedLifecycle.step, hstep, LifecycleCall.completes, hrun, allocatedBetween]
  · refine Or.inr (Or.inr (Or.inr ⟨kind, ?_⟩))
    have hstep : traced.lifecycle.step picker (.Dispatch command)
        = ⟨kind.state, some traced.lifecycle.nextOperation,
            nextId traced.lifecycle.nextOperation⟩ := by
      rw [Lifecycle.step, hrun]
      split_ifs
      · rfl
      · rfl
    simp [TracedLifecycle.step, hstep, LifecycleCall.completes, allocatedBetween, nextId_ne]

/-- The operation of a returned effect is recorded and active. -/
lemma allocated_of_effect {call : LifecycleCall} {effect : Effect} {lifecycle : Lifecycle}
    (hrun : call.run picker traced.lifecycle = .ok (some effect) lifecycle) :
    (traced.step picker call).allocated = traced.allocated ++ [effect.operation] ∧
      (traced.step picker call).lifecycle.activeOperation = some effect.operation := by
  rcases call.run_cases picker traced.lifecycle with
    ⟨error, -, herror⟩ | ⟨next, -, hok, -⟩ | ⟨command, kind, -, hstart⟩
  · rw [herror] at hrun
    cases hrun
  · rw [hok] at hrun
    cases hrun
  · rw [hstart] at hrun
    split_ifs at hrun with hflight
    cases hrun
    have hafter : traced.lifecycle.step picker call
        = ⟨kind.state, some traced.lifecycle.nextOperation,
            nextId traced.lifecycle.nextOperation⟩ := by
      rw [Lifecycle.step, hstart, if_pos hflight]
    simp [TracedLifecycle.step, hafter, allocatedBetween, nextId_ne]

/-- **One call** keeps the records right. -/
theorem Inv.step (h : traced.Inv) (call : LifecycleCall) : (traced.step picker call).Inv := by
  rcases step_cases picker traced call with
    heq | ⟨next, heq⟩ | ⟨next, operation, -, heq⟩ | ⟨kind, heq⟩
  · rw [heq]
    exact h
  · rw [heq]
    exact ⟨h.allocated, h.next, by simp⟩
  · rw [heq]
    exact ⟨h.allocated, h.next, by simp⟩
  · rw [heq]
    refine ⟨?_, ?_, ?_⟩
    · intro k operation hk
      rcases lt_or_ge k traced.allocated.length with hlt | hge
      · rw [List.getElem?_append_left hlt] at hk
        exact h.allocated k operation hk
      · rw [List.getElem?_append_right hge, List.getElem?_singleton] at hk
        split_ifs at hk with hlast
        have hk' : k = traced.allocated.length := by omega
        rw [← Option.some.inj hk, h.next, hk']
    · simp only [List.length_append, List.length_singleton]
      rw [h.next, nextId_nth]
    · intro operation hactive
      rw [List.getLast?_concat]
      exact hactive

theorem inv_after (picker : PickerMachine) (calls : List LifecycleCall) :
    (after picker calls).Inv :=
  exec_invariant (fun _ call h => h.step call)
    ⟨by simp, by simp [Lifecycle.default], by simp [Lifecycle.default]⟩ calls

/-- Allocations are never forgotten. -/
lemma allocated_isPrefix_step (picker : PickerMachine) (traced : TracedLifecycle)
    (call : LifecycleCall) :
    traced.allocated <+: (traced.step picker call).allocated := by
  rcases step_cases picker traced call with
    heq | ⟨next, heq⟩ | ⟨next, operation, -, heq⟩ | ⟨kind, heq⟩
  · rw [heq]
  · rw [heq]
  · rw [heq]
  · rw [heq]
    exact List.prefix_append _ _

/-- As long as the ids have not been used up, the next one is new. -/
lemma Inv.next_not_mem (h : traced.Inv) (hroom : traced.allocated.length < MAX_OPERATIONS) :
    traced.lifecycle.nextOperation ∉ traced.allocated := by
  intro hmem
  obtain ⟨k, hk⟩ := List.mem_iff_getElem?.mp hmem
  have hlt : k < traced.allocated.length := (List.getElem?_eq_some_iff.mp hk).1
  have heq := h.allocated k _ hk
  rw [h.next] at heq
  exact Cyclic.nth_ne_nth hlt (by omega) heq.symm

/-- **An operation that is over stays over**, within the first round of ids. -/
theorem Over.step (h : traced.Inv) {operation : OperationId} (hover : traced.Over operation)
    (call : LifecycleCall)
    (hroom : (traced.step picker call).allocated.length ≤ MAX_OPERATIONS) :
    (traced.step picker call).Over operation := by
  rcases step_cases picker traced call with
    heq | ⟨next, heq⟩ | ⟨next, completed, -, heq⟩ | ⟨kind, heq⟩
  · rw [heq]
    exact hover
  · rw [heq]
    exact ⟨hover.1, by simp⟩
  · rw [heq]
    exact ⟨hover.1, by simp⟩
  · rw [heq] at hroom ⊢
    simp only [List.length_append, List.length_singleton] at hroom
    refine ⟨List.mem_append_left _ hover.1, ?_⟩
    rintro hactive
    exact h.next_not_mem (by omega) (Option.some.inj hactive ▸ hover.1)

/-- A command without an effect drops the operation that is active. -/
lemma over_of_dispatch {command : Command} {operation : OperationId} {lifecycle : Lifecycle}
    (hmem : operation ∈ traced.allocated)
    (hrun : (Lifecycle.dispatch picker command).run traced.lifecycle = .ok none lifecycle) :
    (traced.step picker (.Dispatch command)).Over operation := by
  refine ⟨(allocated_isPrefix_step picker traced (.Dispatch command)).subset hmem, ?_⟩
  rcases Lifecycle.dispatch_outcomes picker traced.lifecycle command with
    ⟨error, -, herror⟩ | ⟨next, -, -, -, hok⟩ | ⟨kind, -, hstart⟩
  · rw [herror] at hrun
    cases hrun
  · simp [TracedLifecycle.step, Lifecycle.step, LifecycleCall.run, hok]
  · rw [hstart] at hrun
    split_ifs at hrun
    cases hrun

/-- Completed operations are over, and each was completed once. -/
structure Once (traced : TracedLifecycle) : Prop where
  nodup : traced.completed.Nodup
  ended : ∀ operation ∈ traced.completed, traced.Over operation

theorem Once.step (h : traced.Inv) (honce : traced.Once) (call : LifecycleCall)
    (hroom : (traced.step picker call).allocated.length ≤ MAX_OPERATIONS) :
    (traced.step picker call).Once := by
  have hover : ∀ operation ∈ traced.completed, (traced.step picker call).Over operation :=
    fun operation hmem => (honce.ended operation hmem).step h call hroom
  rcases step_cases picker traced call with
    heq | ⟨next, heq⟩ | ⟨next, operation, hactive, heq⟩ | ⟨kind, heq⟩
  · rw [heq]
    exact honce
  · rw [heq] at hover ⊢
    exact ⟨honce.nodup, hover⟩
  · rw [heq] at hover ⊢
    have hnew : operation ∉ traced.completed := fun hmem => (honce.ended operation hmem).2 hactive
    refine ⟨?_, ?_⟩
    · rw [List.nodup_append]
      simp only [List.mem_singleton]
      refine ⟨honce.nodup, List.nodup_singleton _, ?_⟩
      rintro a ha _ rfl rfl
      exact hnew ha
    · intro operation' hmem
      rcases List.mem_append.mp hmem with hmem | hmem
      · exact hover operation' hmem
      · obtain rfl := List.mem_singleton.mp hmem
        exact ⟨List.mem_of_getLast? (h.active _ hactive), by simp⟩
  · rw [heq] at hover ⊢
    exact ⟨honce.nodup, hover⟩

/-- What a call cannot undo while ids last holds at the end of a run if it did at some point. -/
lemma exec_of_room {P : TracedLifecycle → Prop}
    (hstep : ∀ (traced : TracedLifecycle) (call : LifecycleCall), traced.Inv → P traced →
      (traced.step picker call).allocated.length ≤ MAX_OPERATIONS → P (traced.step picker call))
    (h : traced.Inv) (hP : P traced) {calls : List LifecycleCall}
    (hroom : (exec (TracedLifecycle.step picker) traced calls).allocated.length ≤ MAX_OPERATIONS) :
    P (exec (TracedLifecycle.step picker) traced calls) := by
  refine (exec_invariant (P := fun t => t.Inv ∧ (t.allocated.length ≤ MAX_OPERATIONS → P t)) ?_
    ⟨h, fun _ => hP⟩ calls).2 hroom
  rintro t call ⟨hinv, ht⟩
  refine ⟨hinv.step call, fun hafter => ?_⟩
  have hle := (allocated_isPrefix_step picker t call).length_le
  exact hstep t call hinv (ht (hle.trans hafter)) hafter

/-- An operation that is over after some calls is stale after all calls that follow. -/
lemma stale_of_over {before later : List LifecycleCall} {operation : OperationId}
    (hover : (after picker before).Over operation)
    (hroom : (after picker (before ++ later)).allocated.length ≤ MAX_OPERATIONS) :
    (after picker (before ++ later)).lifecycle.Stale picker operation := by
  rw [after, exec_append] at hroom ⊢
  refine Lifecycle.stale_of_ne (exec_of_room (P := fun t => t.Over operation) ?_
    (inv_after picker before) hover hroom).2
  exact fun t call hinv ht => ht.step hinv call

end TracedLifecycle

open TracedLifecycle in
/-- **Stale answers are never mistaken for current ones**, whatever the table and whatever the
calls.  The operations of returned effects are among the allocated ones.  Their ids are not zero,
and any `2^64 - 1` allocations in a row are distinct, also across the wrap.  In a run with no more
allocations than that, an operation is completed at most once, and only while it is active and the
last one allocated; and an answer that carries the id of an operation that was completed, or
replaced by a later one, or dropped by a command without an effect, is stale and changes nothing. -/
theorem stale_responses_never_current (picker : PickerMachine) (calls : List LifecycleCall) :
    let traced := after picker calls
    (∀ (call : LifecycleCall) effect lifecycle,
      call.run picker traced.lifecycle = .ok (some effect) lifecycle →
        (traced.step picker call).allocated = traced.allocated ++ [effect.operation] ∧
        (traced.step picker call).lifecycle.activeOperation = some effect.operation) ∧
    (∀ operation ∈ traced.allocated, operation ≠ 0) ∧
    (∀ (i j : ℕ) (first second : OperationId), i < j → j < i + MAX_OPERATIONS →
      traced.allocated[i]? = some first → traced.allocated[j]? = some second → first ≠ second) ∧
    (traced.allocated.length ≤ MAX_OPERATIONS →
      traced.completed.Nodup ∧
      (∀ operation completion effect lifecycle,
        (LifecycleCall.Complete operation completion).run picker traced.lifecycle
            = .ok effect lifecycle →
          traced.lifecycle.activeOperation = some operation ∧
          traced.allocated.getLast? = some operation ∧ operation ∉ traced.completed) ∧
      (∀ operation ∈ traced.completed, traced.lifecycle.Stale picker operation) ∧
      (∀ operation ∈ traced.allocated, traced.allocated.getLast? ≠ some operation →
        traced.lifecycle.Stale picker operation) ∧
      (∀ (before later : List LifecycleCall) (command : Command) (operation : OperationId)
        (lifecycle : Lifecycle), calls = before ++ .Dispatch command :: later →
        operation ∈ (after picker before).allocated →
        (Lifecycle.dispatch picker command).run (after picker before).lifecycle
          = .ok none lifecycle →
        traced.lifecycle.Stale picker operation) ∧
      (∀ (before later : List LifecycleCall) (operation : OperationId), calls = before ++ later →
        operation ∈ (after picker before).allocated →
        (after picker before).lifecycle.activeOperation ≠ some operation →
        traced.lifecycle.Stale picker operation)) := by
  intro traced
  have hinv : traced.Inv := inv_after picker calls
  refine ⟨fun call effect lifecycle hrun => allocated_of_effect hrun, ?_, ?_,
    fun hroom => ?_⟩
  · intro operation hmem
    obtain ⟨k, hk⟩ := List.mem_iff_getElem?.mp hmem
    rw [hinv.allocated k operation hk]
    exact Cyclic.nth_ne_zero _ _
  · intro i j first second hij hwithin hfirst hsecond
    rw [hinv.allocated i first hfirst, hinv.allocated j second hsecond]
    exact Cyclic.nth_ne_nth hij hwithin
  have honce : traced.Once :=
    exec_of_room (fun t call ht hP => Once.step ht hP call)
      (inv_after picker []) ⟨List.nodup_nil, by simp [after]⟩ hroom
  refine ⟨honce.nodup, ?_, ?_, ?_, ?_, ?_⟩
  · intro operation completion effect lifecycle hrun
    have hactive : traced.lifecycle.activeOperation = some operation := by
      by_contra hne
      rw [LifecycleCall.run, Lifecycle.run_complete_stale hne] at hrun
      cases hrun
    exact ⟨hactive, hinv.active _ hactive, fun hmem => (honce.ended _ hmem).2 hactive⟩
  · intro operation hmem
    exact Lifecycle.stale_of_ne (honce.ended operation hmem).2
  · intro operation _ hnot
    exact Lifecycle.stale_of_ne fun hactive => hnot (hinv.active _ hactive)
  · intro before later command operation lifecycle hcalls hmem hrun
    have hstep : after picker (before ++ [.Dispatch command])
        = (after picker before).step picker (.Dispatch command) := exec_concat _ _ _
    have hsplit : calls = (before ++ [.Dispatch command]) ++ later := by simp [hcalls]
    subst hsplit
    exact stale_of_over (hstep ▸ over_of_dispatch hmem hrun) hroom
  · rintro before later operation rfl hmem hne
    exact stale_of_over ⟨hmem, hne⟩ hroom

/-- The first operation fails; its id stays stale while the second is active. -/
theorem stale_responses_never_current_retry :
    (TracedLifecycle.after busyPicker [.Dispatch .Start, .Complete 1 .Failed,
      .Dispatch .Retry]).lifecycle.Stale busyPicker 1 :=
  ((stale_responses_never_current busyPicker [.Dispatch .Start, .Complete 1 .Failed,
    .Dispatch .Retry]).2.2.2 (by decide)).2.2.1 1 (by decide)

end FtnlDesktop.Receive
