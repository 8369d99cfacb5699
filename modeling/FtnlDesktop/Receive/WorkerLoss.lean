import FtnlDesktop.Receive.Conservation

/-!
# When the worker thread dies

`run` in `src/desktop/worker.rs` builds its runtime with `expect`, and a panic in `handle` unwinds
it: the thread may die at any moment.  Its ends of the two channels die with it.  What it was
handling and what was waiting for it is lost, the answers already sent can still be read, and every
later `send` fails.

Nothing watches the thread; the app learns of the loss when it sends.

* **`loss_of_the_worker`** — in every reachable state either each active operation still has its
  one message, or the app is stranded: an operation is active, every command is refused, and that
  never changes again.  The death strands the app exactly when an operation is active whose answer
  is not in the channel yet; an app that was not stranded by the death is not stranded later.
-/

namespace FtnlDesktop.Receive

open Machine

/-! ## A worker that may die -/

structure MortalSystem where
  system : System
  /-- The worker thread still holds its ends of the channels. -/
  alive : Bool
deriving DecidableEq

def MortalSystem.start (now : Instant) : MortalSystem := ⟨.start now, true⟩

inductive MortalInput where
  | Step (input : SystemInput)
  /-- The worker thread panics. -/
  | Die

/-- The channel takes a request exactly while its receiver is alive. -/
def SystemInput.toChannel (alive : Bool) : SystemInput → SystemInput
  | .Call env call => .Call { env with taken := alive } call
  | .ProcessResponse env => .ProcessResponse { env with taken := alive }
  | .Recv => .Recv
  | .Answer service => .Answer service

/-- What is left when the worker is gone. -/
def System.abandoned (self : System) : System where
  app := { self.app with worker := { self.app.worker with requests := [] } }
  handling := none

/-- A dead worker has nothing left to take and nothing to answer (`MortalSystem.Inv.silent`), so
its own steps change nothing. -/
def MortalSystem.step (crates : AppCrates) (self : MortalSystem) : MortalInput → MortalSystem
  | .Step input => { self with system := self.system.step crates (input.toChannel self.alive) }
  | .Die => ⟨self.system.abandoned, false⟩

/-- An operation is active, and nothing is under way that could end it. -/
structure MortalSystem.Stranded (mortal : MortalSystem) : Prop where
  dead : mortal.alive = false
  active : mortal.system.app.lifecycle.activeOperation ≠ none
  nothing : mortal.system.messages = []

/-! ## What a refused request leaves behind -/

section Refused

variable {crates : AppCrates} (h : crates.picker.ControlsEffects) {env : Env}

lemma send_refused (henv : env.taken = false) (app : DesktopApp) (effect : Effect)
    (kind : RequestKind) : (app.send crates env effect kind).worker = app.worker := by
  simp only [DesktopApp.send, Worker.send, henv, Bool.false_eq_true, if_false, ite_self]
  exact (failDispatch_keeps crates app effect).2

lemma Ends.worker_of_refused (henv : env.taken = false) {app app' : DesktopApp}
    (hends : Ends crates env app app') : app'.worker = app.worker := by
  cases hends with
  | quiet _ hworker _ _ _ _ => exact hworker
  | edit => rfl
  | sends hstarts _ => exact (send_refused henv _ _ _).trans hstarts.worker
  | fails hstarts => exact (failDispatch_keeps crates _ _).2.trans hstarts.worker

include h

lemma accept_worker_of_refused (henv : env.taken = false) (app : DesktopApp)
    (kind : ResponseKind) : (app.accept crates env kind).worker = app.worker := by
  cases kind with
  | Created session => rfl
  | Snapshot files =>
      simp only [DesktopApp.accept]
      split_ifs
      · rfl
      · rfl
  | Downloaded path =>
      exact (refresh_ends h env { app with message := some "File saved successfully." }
        ).worker_of_refused henv
  | Cancelled => rfl
  | Failed message => exact dropUnneededSession_worker crates app

lemma processResponse_worker_of_refused (henv : env.taken = false) (app : DesktopApp)
    (response : Response) :
    (app.processResponse crates env response).worker = app.worker := by
  rw [DesktopApp.processResponse]
  rcases app.complete_cases crates response.operation (response.kind.completion crates) with
    heq | ⟨next, -, -, -, heq⟩
  · rw [heq]
  · rw [heq]
    exact accept_worker_of_refused h henv _ response.kind

end Refused

/-! ## The invariant -/

/-- Nothing is left for a dead worker. -/
def System.Silent (self : System) : Prop := self.handling = none ∧ self.app.worker.requests = []

/-- The state waits for an answer that will not come. -/
structure System.Waits (system : System) : Prop where
  state : ∃ kind : EffectKind, system.app.lifecycle.state = kind.state
  active : system.app.lifecycle.activeOperation ≠ none
  nothing : system.messages = []

/-- The invariant of the system with a mortal worker. -/
structure MortalSystem.Inv (crates : AppCrates) (mortal : MortalSystem) : Prop where
  silent : mortal.alive = false → mortal.system.Silent
  served : mortal.system.Inv crates ∨ (mortal.alive = false ∧ mortal.system.Waits)

section Invariant

variable {crates : AppCrates} (h : crates.picker.Controlled) {system : System}

lemma System.Silent.step (h : crates.picker.Controlled) (hsilent : system.Silent)
    (input : SystemInput) : (system.step crates (input.toChannel false)).Silent := by
  obtain ⟨hhandling, hrequests⟩ := hsilent
  cases input with
  | Call env call =>
      have hworker := (call_ends h.controlsEffects { env with taken := false } system.app call
        ).worker_of_refused rfl
      refine ⟨hhandling, ?_⟩
      simp only [SystemInput.toChannel, System.step, hworker, hrequests]
  | ProcessResponse env =>
      simp only [SystemInput.toChannel, System.step]
      cases hresponses : system.app.worker.responses with
      | nil =>
          simp only [Worker.tryRecv, hresponses]
          exact ⟨hhandling, hrequests⟩
      | cons response responses =>
          simp only [Worker.tryRecv, hresponses]
          refine ⟨hhandling, ?_⟩
          simp only
          rw [processResponse_worker_of_refused h.controlsEffects rfl]
          exact hrequests
  | Recv =>
      simp only [SystemInput.toChannel, System.step, hhandling, hrequests]
      exact ⟨hhandling, hrequests⟩
  | Answer service =>
      simp only [SystemInput.toChannel, System.step, hhandling]
      exact ⟨hhandling, hrequests⟩

lemma System.Waits.channels (hwaits : system.Waits) :
    system.app.worker.responses = [] ∧ system.handling = none
      ∧ system.app.worker.requests = [] := by
  simpa [System.messages, and_assoc] using hwaits.nothing

include h in
/-- **Waiting goes on**: the commands are refused, and there is no answer to process. -/
lemma System.Waits.step (hwaits : system.Waits) (input : SystemInput) :
    (system.step crates input).app.lifecycle = system.app.lifecycle ∧
      (system.step crates input).Waits := by
  obtain ⟨hresponses, hhandling, hrequests⟩ := hwaits.channels
  cases input with
  | Call env call =>
      obtain ⟨kind, hstate⟩ := hwaits.state
      have hbusy : (crates.picker.metadata system.app.lifecycle.state).inFlight = true :=
        (h.inFlight _).mpr ⟨kind, hstate⟩
      cases (call_ends h.controlsEffects env system.app call).outcome h with
      | unchanged hlifecycle hworker =>
          refine ⟨hlifecycle, ⟨kind, ?_⟩, ?_, ?_⟩
          · exact (congrArg Lifecycle.state hlifecycle).trans hstate
          · exact fun hnone => hwaits.active ((congrArg _ hlifecycle).symm.trans hnone)
          · simp [System.messages, System.step, hworker, hresponses, hhandling, hrequests]
      | settled hfree => exact absurd (hfree.symm.trans hbusy) (by simp)
      | launched hfree => exact absurd (hfree.symm.trans hbusy) (by simp)
  | ProcessResponse env =>
      simp only [System.step, Worker.tryRecv, hresponses]
      exact ⟨trivial, hwaits⟩
  | Recv =>
      simp only [System.step, hhandling, hrequests]
      exact ⟨trivial, hwaits⟩
  | Answer service =>
      simp only [System.step, hhandling]
      exact ⟨trivial, hwaits⟩

/-- A system that conserves its messages waits for one that is there. -/
lemma System.Inv.not_waits (hinv : system.Inv crates) : ¬ system.Waits := by
  intro hwaits
  cases hinv with
  | idle hnone _ _ => exact hwaits.active hnone
  | busy kind message _ _ hone => exact List.cons_ne_nil _ _ (hone.symm.trans hwaits.nothing)

lemma System.abandoned_of_silent (hsilent : system.Silent) : system.abandoned = system := by
  obtain ⟨app, handling⟩ := system
  obtain ⟨⟨requests, responses⟩, lifecycle⟩ := app
  obtain ⟨rfl, rfl⟩ := hsilent
  rfl

lemma System.silent_abandoned (system : System) : system.abandoned.Silent := ⟨rfl, rfl⟩

/-- **What a death does**: the answer in the channel survives, and a request does not. -/
lemma System.Inv.abandoned (hinv : system.Inv crates) :
    (system.abandoned.Inv crates ∧ (system.app.lifecycle.activeOperation = none ∨
        system.app.worker.responses ≠ [])) ∨
      (system.abandoned.Waits ∧ system.app.lifecycle.activeOperation ≠ none ∧
        system.app.worker.responses = []) := by
  cases hinv with
  | idle hactive hidle hnone =>
      have hchannels : system.app.worker.responses = [] ∧ system.handling = none
          ∧ system.app.worker.requests = [] := by
        simpa [System.messages, and_assoc] using hnone
      rw [System.abandoned_of_silent hchannels.2]
      exact Or.inl ⟨.idle hactive hidle hnone, Or.inl hactive⟩
  | busy kind message hserves hlifecycle hone =>
      cases hresponses : system.app.worker.responses with
      | nil =>
          refine Or.inr ⟨⟨⟨kind, ?_⟩, ?_, ?_⟩, ?_, rfl⟩
          · simp only [System.abandoned, hlifecycle]
          · simp [System.abandoned, hlifecycle]
          · simp [System.messages, System.abandoned, hresponses]
          · simp [hlifecycle]
      | cons response responses =>
          simp only [System.messages, hresponses, List.map_cons, List.cons_append,
            List.cons.injEq, List.append_eq_nil_iff, List.map_eq_nil_iff,
            Option.toList_eq_nil_iff] at hone
          obtain ⟨rfl, ⟨rfl, hhandling⟩, hrequests⟩ := hone
          rw [System.abandoned_of_silent ⟨hhandling, hrequests⟩]
          refine Or.inl ⟨.busy kind (.Response response) hserves hlifecycle ?_, Or.inr (by simp)⟩
          simp [System.messages, hresponses, hhandling, hrequests]

lemma MortalSystem.inv_start (h : crates.picker.Controlled) (now : Instant) :
    (MortalSystem.start now).Inv crates :=
  ⟨nofun, Or.inl (System.inv_start crates h.idle now)⟩

include h

/-- **Every step keeps the invariant**, and so does the death of the worker. -/
lemma MortalSystem.Inv.step {mortal : MortalSystem} (hinv : mortal.Inv crates)
    (input : MortalInput) : (mortal.step crates input).Inv crates := by
  cases input with
  | Step input =>
      refine ⟨?_, ?_⟩
      · intro hdead
        have hsilent := (hinv.silent hdead).step h input
        simp only [MortalSystem.step]
        rw [show mortal.alive = false from hdead]
        exact hsilent
      · rcases hinv.served with hserved | ⟨hdead, hwaits⟩
        · exact Or.inl (hserved.step h _)
        · exact Or.inr ⟨hdead, (hwaits.step h _).2⟩
  | Die =>
      refine ⟨fun _ => System.silent_abandoned mortal.system, ?_⟩
      rcases hinv.served with hserved | ⟨hdead, hwaits⟩
      · rcases hserved.abandoned with ⟨hkept, -⟩ | ⟨hlost, -⟩
        · exact Or.inl hkept
        · exact Or.inr ⟨rfl, hlost⟩
      · refine Or.inr ⟨rfl, ?_⟩
        simp only [MortalSystem.step, System.abandoned_of_silent (hinv.silent hdead)]
        exact hwaits

end Invariant

/-! ## Every reachable state -/

/-- The worker is gone, and the app waits for it in this state. -/
structure MortalSystem.Lost (crates : AppCrates) (lifecycle : Lifecycle)
    (mortal : MortalSystem) : Prop where
  dead : mortal.alive = false
  inv : mortal.Inv crates
  lifecycle_eq : mortal.system.app.lifecycle = lifecycle
  waits : mortal.system.Waits

/-- The worker is gone, and nothing waits for it. -/
structure MortalSystem.Spared (crates : AppCrates) (mortal : MortalSystem) : Prop where
  dead : mortal.alive = false
  inv : mortal.Inv crates
  served : mortal.system.Inv crates

/-- What is claimed of the loss of the worker in one state. -/
structure MortalSystem.LossLaw (crates : AppCrates) (mortal : MortalSystem) : Prop where
  conservedOrStranded : mortal.system.Conserved crates ∨ mortal.Stranded
  strands : (mortal.step crates .Die).Stranded ↔
    mortal.system.app.lifecycle.activeOperation ≠ none
      ∧ mortal.system.app.worker.responses = []
  refuses : mortal.Stranded → ∀ command,
    mortal.system.app.lifecycle.can crates.picker command = false
  permanent : mortal.Stranded → ∀ inputs,
    (exec (step crates) mortal inputs).system.app.lifecycle = mortal.system.app.lifecycle ∧
      (exec (step crates) mortal inputs).Stranded
  spared : mortal.alive = false → ¬ mortal.Stranded → ∀ inputs,
    ¬ (exec (step crates) mortal inputs).Stranded

section Law

variable {crates : AppCrates} (h : crates.picker.Controlled) {mortal : MortalSystem}

lemma MortalSystem.Inv.waits_of_stranded (hinv : mortal.Inv crates) (hstranded : mortal.Stranded) :
    mortal.system.Waits := by
  rcases hinv.served with hserved | ⟨-, hwaits⟩
  · cases hserved with
    | idle hnone _ _ => exact absurd hnone hstranded.active
    | busy kind message _ _ hone =>
        exact absurd (hone.symm.trans hstranded.nothing) (List.cons_ne_nil _ _)
  · exact hwaits

lemma System.Waits.stranded (hwaits : mortal.system.Waits) (hdead : mortal.alive = false) :
    mortal.Stranded :=
  ⟨hdead, hwaits.active, hwaits.nothing⟩

/-- The death of the worker strands the app exactly when an answer is still to come. -/
lemma MortalSystem.Inv.stranded_die (hinv : mortal.Inv crates) :
    (mortal.step crates .Die).Stranded ↔
      mortal.system.app.lifecycle.activeOperation ≠ none ∧
        mortal.system.app.worker.responses = [] := by
  rcases hinv.served with hserved | ⟨hdead, hwaits⟩
  · rcases hserved.abandoned with ⟨hkept, hfine⟩ | ⟨hlost, hactive, hresponses⟩
    · constructor
      · intro hstranded
        have hstep : (mortal.step crates .Die).Inv crates :=
          ⟨fun _ => System.silent_abandoned mortal.system, Or.inl hkept⟩
        exact absurd (hstep.waits_of_stranded hstranded) hkept.not_waits
      · rintro ⟨hactive, hresponses⟩
        rcases hfine with hnone | hanswer
        · exact absurd hnone hactive
        · exact absurd hresponses hanswer
    · exact ⟨fun _ => ⟨hactive, hresponses⟩, fun _ => System.Waits.stranded hlost rfl⟩
  · refine ⟨fun _ => ⟨hwaits.active, hwaits.channels.1⟩, fun _ => ?_⟩
    refine System.Waits.stranded ?_ rfl
    simp only [MortalSystem.step, System.abandoned_of_silent (hinv.silent hdead)]
    exact hwaits

include h

/-- Who waits in vain goes on waiting. -/
lemma MortalSystem.Lost.step {lifecycle : Lifecycle} (hlost : mortal.Lost crates lifecycle)
    (input : MortalInput) : (mortal.step crates input).Lost crates lifecycle := by
  obtain ⟨hdead, hinv, hlifecycle, hwaits⟩ := hlost
  cases input with
  | Step input =>
      obtain ⟨hsame, hstill⟩ := hwaits.step h (input.toChannel mortal.alive)
      exact ⟨hdead, hinv.step h (.Step input), hsame.trans hlifecycle, hstill⟩
  | Die =>
      refine ⟨rfl, hinv.step h .Die, hlifecycle, ?_⟩
      rw [MortalSystem.step, System.abandoned_of_silent (hinv.silent hdead)]
      exact hwaits

lemma MortalSystem.Inv.stranded_exec (hinv : mortal.Inv crates) (hstranded : mortal.Stranded)
    (inputs : List MortalInput) :
    (exec (MortalSystem.step crates) mortal inputs).system.app.lifecycle
        = mortal.system.app.lifecycle ∧
      (exec (MortalSystem.step crates) mortal inputs).Stranded := by
  have hlost : mortal.Lost crates mortal.system.app.lifecycle :=
    ⟨hstranded.dead, hinv, rfl, hinv.waits_of_stranded hstranded⟩
  have hend : (exec (MortalSystem.step crates) mortal inputs).Lost crates
      mortal.system.app.lifecycle :=
    exec_invariant (fun _ input hlost => hlost.step h input) hlost inputs
  exact ⟨hend.lifecycle_eq, hend.waits.stranded hend.dead⟩

/-- With a dead worker an operation ends on the spot, so nobody comes to wait. -/
lemma MortalSystem.Spared.step (hspared : mortal.Spared crates) (input : MortalInput) :
    (mortal.step crates input).Spared crates := by
  obtain ⟨hdead, hinv, hserved⟩ := hspared
  cases input with
  | Step input => exact ⟨hdead, hinv.step h (.Step input), hserved.step h _⟩
  | Die =>
      refine ⟨rfl, hinv.step h .Die, ?_⟩
      rw [MortalSystem.step, System.abandoned_of_silent (hinv.silent hdead)]
      exact hserved

lemma MortalSystem.Inv.spared_exec (hinv : mortal.Inv crates) (hdead : mortal.alive = false)
    (hspared : ¬ mortal.Stranded) (inputs : List MortalInput) :
    ¬ (exec (MortalSystem.step crates) mortal inputs).Stranded := by
  have hserved : mortal.system.Inv crates :=
    hinv.served.resolve_right fun hlost => hspared (hlost.2.stranded hdead)
  have hend : (exec (MortalSystem.step crates) mortal inputs).Spared crates :=
    exec_invariant (fun _ input hspared => hspared.step h input) ⟨hdead, hinv, hserved⟩ inputs
  exact fun hstranded => hend.served.not_waits (hend.inv.waits_of_stranded hstranded)

/-- **The loss of the worker** in every reachable state. -/
theorem loss_of_the_worker (now : Instant) (inputs : List MortalInput) :
    (exec (MortalSystem.step crates) (.start now) inputs).LossLaw crates := by
  have hinv : (exec (MortalSystem.step crates) (.start now) inputs).Inv crates :=
    exec_invariant (fun _ input hinv => hinv.step h input) (MortalSystem.inv_start h now) inputs
  generalize exec (MortalSystem.step crates) (.start now) inputs = mortal at hinv
  refine ⟨?_, hinv.stranded_die, ?_, hinv.stranded_exec h, hinv.spared_exec h⟩
  · rcases hinv.served with hserved | ⟨hdead, hwaits⟩
    · exact Or.inl (hserved.conserved h)
    · exact Or.inr (hwaits.stranded hdead)
  · intro hstranded command
    obtain ⟨kind, hstate⟩ := (hinv.waits_of_stranded hstranded).state
    have hbusy : (crates.picker.metadata mortal.system.app.lifecycle.state).inFlight = true :=
      (h.inFlight _).mpr ⟨kind, hstate⟩
    rw [Lifecycle.can, Option.isSome_eq_false_iff, Option.isNone_iff_eq_none]
    by_contra hcommand
    obtain ⟨next, ht⟩ := Option.ne_none_iff_exists'.mp hcommand
    exact absurd ((h.command command _ next ht).symm.trans hbusy) (by simp)

end Law

section Example

/-- The worker takes a request and panics. -/
def exampleMortalInputs : List MortalInput := [.Step (.Call ⟨0, true⟩ .Create), .Step .Recv, .Die]

/-- The app waits for an answer that nobody will send. -/
theorem loss_of_the_worker_example :
    (exec (MortalSystem.step exampleCrates) (.start 0) exampleMortalInputs
        ).system.app.lifecycle.activeOperation = some 1
      ∧ (exec (MortalSystem.step exampleCrates) (.start 0) exampleMortalInputs
          ).LossLaw exampleCrates :=
  ⟨by decide +kernel, loss_of_the_worker controlled_tablePicker 0 exampleMortalInputs⟩

end Example

end FtnlDesktop.Receive
