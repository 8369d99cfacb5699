import FtnlDesktop.Receive.Refinement

/-!
# One message for every operation

The app, the two channels and the worker thread as one system.  The interface thread and the
worker take turns in any order; `SystemInput` says who does what next and how the outside world
turns out.  The worker does not die, but the app may be told at any time that a request was not
taken.

Of the picker only what the lifecycle relies on is assumed (`PickerMachine.Controlled`): which
states are in flight, that commands are refused there, and that the answers awaited there are
accepted and lead out.

* **`one_message_per_operation`** — in every reachable state an active operation has exactly one
  message in the system, without one there is none, and the answer at the head of its channel is
  accepted and releases its operation.

Each ending of a method (`Ends`) either changes nothing, or settles in a state that waits for
nothing, or launches one request (`Outcome`).  That is all the invariant has to know about the
methods of the app.
-/

namespace FtnlDesktop.Receive

/-! ## The system -/

structure System where
  app : DesktopApp
  /-- The request that the worker thread is handling. -/
  handling : Option Request
deriving DecidableEq

def System.start (now : Instant) : System := ⟨.default now, none⟩

inductive SystemInput where
  /-- The user or the timer calls a method of the app. -/
  | Call (env : Env) (call : UserCall)
  /-- One round of the loop in `process_responses`. -/
  | ProcessResponse (env : Env)
  /-- The worker takes the next request. -/
  | Recv
  /-- The worker answers the request it is handling. -/
  | Answer (service : Service)

def System.step (crates : AppCrates) (self : System) : SystemInput → System
  | .Call env call => { self with app := self.app.call crates env call }
  | .ProcessResponse env =>
      match self.app.worker.tryRecv with
      | some (response, worker) =>
          { self with app := { self.app with worker }.processResponse crates env response }
      | none => self
  | .Recv =>
      match self.handling, self.app.worker.requests with
      | none, request :: requests =>
          { app := { self.app with worker := { self.app.worker with requests } }
            handling := some request }
      | _, _ => self
  | .Answer service =>
      match self.handling with
      | some request =>
          let response : Response := ⟨request.operation, handle service request.kind⟩
          { app := { self.app with worker := { self.app.worker with
              responses := self.app.worker.responses ++ [response] } }
            handling := none }
      | none => self

inductive Message where
  | Request (request : Request)
  | Response (response : Response)
deriving DecidableEq

def Message.operation : Message → OperationId
  | .Request request => request.operation
  | .Response response => response.operation

/-- Everything that is under way, the oldest first. -/
def System.messages (self : System) : List Message :=
  self.app.worker.responses.map .Response ++ self.handling.toList.map .Request
    ++ self.app.worker.requests.map .Request

/-! ## The picker -/

/-- The completions that the state of an effect waits for. -/
def EffectKind.Awaits : EffectKind → Completion → Prop
  | .Create, completion => completion ∈ [.Created, .Failed]
  | .Refresh, completion =>
      completion ∈ [.SnapshotEmpty, .SnapshotFiles, .AllFilesReceived, .Failed]
  | .Download, completion => completion ∈ [.Downloaded, .Failed]
  | .Cancel, completion => completion ∈ [.Cancelled, .Failed]

structure PickerMachine.Controlled (picker : PickerMachine) : Prop where
  inFlight : ∀ state,
    (picker.metadata state).inFlight = true ↔ ∃ kind : EffectKind, state = kind.state
  command : ∀ (command : Command) state next,
    picker.transition state command.event = some next → (picker.metadata state).inFlight = false
  answer : ∀ (kind : EffectKind) completion, kind.Awaits completion →
    ∃ next, picker.transition kind.state completion.event = some next
      ∧ (picker.metadata next).inFlight = false

lemma PickerMachine.Controlled.controlsEffects {picker : PickerMachine} (h : picker.Controlled) :
    picker.ControlsEffects :=
  fun kind => (h.inFlight kind.state).mpr ⟨kind, rfl⟩

lemma awaits_failed (kind : EffectKind) : kind.Awaits .Failed := by
  cases kind <;> simp [EffectKind.Awaits]

/-- The answers that serve an effect are the ones its state waits for. -/
lemma awaits_of_serves (crates : AppCrates) {response : ResponseKind} {kind : EffectKind}
    (h : response.Serves kind) : kind.Awaits (response.completion crates) := by
  cases response with
  | Created session =>
      obtain rfl : kind = .Create := h
      simp [EffectKind.Awaits, ResponseKind.completion]
  | Snapshot files =>
      obtain rfl : kind = .Refresh := h
      simp only [EffectKind.Awaits, ResponseKind.completion, snapshotCompletion]
      split_ifs <;> simp
  | Downloaded path =>
      obtain rfl : kind = .Download := h
      simp [EffectKind.Awaits, ResponseKind.completion]
  | Cancelled =>
      obtain rfl : kind = .Cancel := h
      simp [EffectKind.Awaits, ResponseKind.completion]
  | Failed message => exact awaits_failed kind

/-! ## What a command does to the channels -/

section Outcome

/-- The three ways in which a command may end. -/
inductive Outcome (crates : AppCrates) (app app' : DesktopApp) : Prop where
  | unchanged (hlifecycle : app'.lifecycle = app.lifecycle) (hworker : app'.worker = app.worker)
  | settled (hfree : (crates.picker.metadata app.lifecycle.state).inFlight = false)
      (hactive : app'.lifecycle.activeOperation = none)
      (hidle : (crates.picker.metadata app'.lifecycle.state).inFlight = false)
      (hworker : app'.worker = app.worker)
  | launched (hfree : (crates.picker.metadata app.lifecycle.state).inFlight = false)
      (request : Request) (hoperation : request.operation = app.lifecycle.nextOperation)
      (hlifecycle : app'.lifecycle = ⟨request.kind.effect.state, some request.operation,
        nextId request.operation⟩)
      (hworker : app'.worker
        = { app.worker with requests := app.worker.requests ++ [request] })

variable {crates : AppCrates} (h : crates.picker.Controlled)

/-- Only the lifecycle and the channels are looked at. -/
lemma Outcome.congr_left {app₀ app app' : DesktopApp} (houtcome : Outcome crates app app')
    (hlifecycle : app₀.lifecycle = app.lifecycle) (hworker : app₀.worker = app.worker) :
    Outcome crates app₀ app' := by
  cases houtcome with
  | unchanged hl hw => exact .unchanged (hl.trans hlifecycle.symm) (hw.trans hworker.symm)
  | settled hfree hactive hidle hw =>
      exact .settled (hlifecycle ▸ hfree) hactive hidle (hw.trans hworker.symm)
  | launched hfree request hop hl hw =>
      exact .launched (hlifecycle ▸ hfree) request (hlifecycle ▸ hop) hl (by rw [hw, hworker])

lemma effectMatchesRequest_iff {kind : EffectKind} {request : RequestKind} :
    effectMatchesRequest kind request = true ↔ request.effect = kind := by
  cases kind <;> cases request <;> simp [effectMatchesRequest, RequestKind.effect]

include h

/-- An effect that cannot be sent is completed on the spot. -/
lemma failDispatch_settles (app : DesktopApp) (effect : Effect)
    (hstate : app.lifecycle.state = effect.kind.state)
    (hactive : app.lifecycle.activeOperation = some effect.operation) :
    (app.failDispatch crates effect).lifecycle.activeOperation = none
      ∧ (crates.picker.metadata (app.failDispatch crates effect).lifecycle.state).inFlight = false
      ∧ (app.failDispatch crates effect).worker = app.worker := by
  obtain ⟨next, ht, hidle⟩ := h.answer effect.kind .Failed (awaits_failed _)
  rw [← hstate] at ht
  have hrun := Lifecycle.run_complete_accepted hactive ht hidle
  simp only [DesktopApp.failDispatch, DesktopApp.complete, hrun, DesktopApp.dropUnneededSession]
  split_ifs
  · exact ⟨rfl, hidle, rfl⟩
  · exact ⟨rfl, hidle, rfl⟩

/-- A started effect that is given up is settled. -/
lemma Starts.outcome_failDispatch {app app' : DesktopApp} {kind : EffectKind}
    (hstarts : Starts crates.picker app app' kind) :
    Outcome crates app
      (app'.failDispatch crates ⟨app.lifecycle.nextOperation, kind⟩) := by
  obtain ⟨⟨command, ht⟩, hlifecycle, hworker, -⟩ := hstarts
  obtain ⟨hactive, hidle, hworker'⟩ := failDispatch_settles h app'
    ⟨app.lifecycle.nextOperation, kind⟩ (by rw [hlifecycle]) (by rw [hlifecycle])
  exact .settled (h.command _ _ _ ht) hactive hidle (hworker'.trans hworker)

/-- **Every ending** is one of the three. -/
lemma Ends.outcome {env : Env} {app app' : DesktopApp} (hends : Ends crates env app app') :
    Outcome crates app app' := by
  cases hends with
  | quiet hrests hworker _ _ _ _ =>
      rcases hrests with hsame | ⟨command, next, ht, hidle, hlifecycle⟩
      · exact .unchanged hsame hworker
      · refine .settled (h.command _ _ _ ht) ?_ ?_ hworker
        · rw [hlifecycle]
        · rw [hlifecycle]
          exact hidle
  | edit => exact .unchanged rfl rfl
  | @sends app₁ kind request hstarts _ =>
      rcases send_cases crates env app₁ ⟨app.lifecycle.nextOperation, kind⟩ request with
        ⟨hmatch, heq⟩ | heq
      · obtain ⟨⟨command, ht⟩, hlifecycle, hworker, -⟩ := hstarts
        obtain rfl := effectMatchesRequest_iff.mp hmatch
        rw [heq]
        exact .launched (h.command _ _ _ ht) ⟨app.lifecycle.nextOperation, request⟩ rfl
          hlifecycle (by rw [← hworker])
      · rw [heq]
        exact hstarts.outcome_failDispatch h
  | fails hstarts => exact hstarts.outcome_failDispatch h

end Outcome

/-! ## The invariant -/

/-- The message carries the operation and belongs to the state of the effect. -/
def Message.Serves : Message → EffectKind → Prop
  | .Request request, kind => request.kind.effect = kind
  | .Response response, kind => response.kind.Serves kind

/-- An operation is active exactly while one message for it is under way. -/
inductive InStep (picker : PickerMachine) (lifecycle : Lifecycle) (messages : List Message) :
    Prop where
  | idle (hactive : lifecycle.activeOperation = none)
      (hidle : (picker.metadata lifecycle.state).inFlight = false) (hnone : messages = [])
  | busy (kind : EffectKind) (message : Message) (hserves : message.Serves kind)
      (hlifecycle : lifecycle = ⟨kind.state, some message.operation, nextId message.operation⟩)
      (hone : messages = [message])

/-- The invariant of the system. -/
def System.Inv (crates : AppCrates) (self : System) : Prop :=
  InStep crates.picker self.app.lifecycle self.messages

section Invariant

variable {crates : AppCrates} (h : crates.picker.Controlled)

/-- What is free has nothing under way. -/
lemma InStep.of_free {picker : PickerMachine} (h : picker.Controlled) {lifecycle : Lifecycle}
    {messages : List Message} (hinv : InStep picker lifecycle messages)
    (hfree : (picker.metadata lifecycle.state).inFlight = false) : messages = [] := by
  cases hinv with
  | idle _ _ hnone => exact hnone
  | busy kind message _ hlifecycle _ =>
      rw [hlifecycle, (h.inFlight kind.state).mpr ⟨kind, rfl⟩] at hfree
      exact absurd hfree (by simp)

include h

/-- **A command of the app keeps the invariant**, whichever way it ends. -/
lemma Outcome.inv {app app' : DesktopApp} {handling : Option Request}
    (hinv : System.Inv crates ⟨app, handling⟩) (houtcome : Outcome crates app app') :
    System.Inv crates ⟨app', handling⟩ := by
  cases houtcome with
  | unchanged hlifecycle hworker =>
      simp only [System.Inv, System.messages, hlifecycle, hworker] at hinv ⊢
      exact hinv
  | settled hfree hactive hidle hworker =>
      have hnone := hinv.of_free h hfree
      simp only [System.messages] at hnone
      exact .idle hactive hidle (by simpa only [System.messages, hworker] using hnone)
  | launched hfree request _ hlifecycle hworker =>
      have hnone := hinv.of_free h hfree
      simp only [System.messages] at hnone
      refine .busy request.kind.effect (.Request request) rfl hlifecycle ?_
      simp only [System.messages, hworker, List.map_append, ← List.append_assoc, hnone]
      rfl

/-- **The answer at the head of its channel is accepted**, and it was the only message. -/
theorem System.Inv.answer_accepted {system : System} (hinv : system.Inv crates)
    {response : Response} {responses : List Response}
    (hhead : system.app.worker.responses = response :: responses) :
    ∃ next, (crates.picker.metadata next).inFlight = false ∧
      system.app.lifecycle.activeOperation = some response.operation ∧
      system.app.lifecycle.nextOperation = nextId response.operation ∧
      (Lifecycle.complete crates.picker response.operation
        (response.kind.completion crates)).run system.app.lifecycle
          = .ok () { system.app.lifecycle with state := next, activeOperation := none } ∧
      responses = [] ∧ system.handling = none ∧ system.app.worker.requests = [] := by
  have hmessages : system.messages = .Response response :: (responses.map .Response
      ++ system.handling.toList.map .Request ++ system.app.worker.requests.map .Request) := by
    simp [System.messages, hhead]
  cases hinv with
  | idle _ _ hnone => simp [hnone] at hmessages
  | busy kind message hserves hlifecycle hone =>
      rw [hone, List.cons.injEq] at hmessages
      obtain ⟨rfl, hrest⟩ := hmessages
      obtain ⟨next, ht, hidle⟩ := h.answer kind _ (awaits_of_serves crates hserves)
      have hempty : responses = [] ∧ system.handling = none ∧ system.app.worker.requests = [] := by
        simpa [and_assoc] using hrest.symm
      refine ⟨next, hidle, by rw [hlifecycle]; rfl, by rw [hlifecycle]; rfl, ?_, hempty⟩
      exact Lifecycle.run_complete_accepted (by rw [hlifecycle]; rfl) (by rw [hlifecycle]; exact ht)
        hidle

/-- What an accepted answer has the app do: nothing to the channels, or the refresh after a
download. -/
lemma accept_outcome (env : Env) (app : DesktopApp) (kind : ResponseKind) :
    Outcome crates app (app.accept crates env kind) := by
  cases kind with
  | Created session => exact .unchanged rfl rfl
  | Snapshot files =>
      simp only [DesktopApp.accept]
      split_ifs
      · exact .unchanged rfl rfl
      · exact .unchanged rfl rfl
  | Downloaded path =>
      exact ((refresh_ends h.controlsEffects env _).outcome h).congr_left rfl rfl
  | Cancelled => exact .unchanged rfl rfl
  | Failed message =>
      simp only [DesktopApp.accept, DesktopApp.dropUnneededSession]
      split_ifs
      · exact .unchanged rfl rfl
      · exact .unchanged rfl rfl

/-- The answer is gone and nothing is active; what is left to do is like one call of the app. -/
lemma System.Inv.after_complete {system : System} (hinv : system.Inv crates)
    {response : Response} {responses : List Response}
    (hhead : system.app.worker.responses = response :: responses) (env : Env) :
    ∃ app, (∃ lifecycle, app = { system.app with
        lifecycle, worker := { system.app.worker with responses := [] } }) ∧
      System.Inv crates ⟨app, system.handling⟩ ∧ app.lifecycle.activeOperation = none ∧
      app.lifecycle.nextOperation = nextId response.operation ∧
      (system.app.complete crates response.operation (response.kind.completion crates)).1 = true ∧
      system.step crates (.ProcessResponse env)
        = ⟨app.accept crates env response.kind, system.handling⟩ := by
  obtain ⟨next, hidle, -, hnext, hrun, rfl, hhandling, hrequests⟩ := hinv.answer_accepted h hhead
  refine ⟨_, ⟨{ system.app.lifecycle with state := next, activeOperation := none }, rfl⟩,
    .idle rfl hidle (by simp [System.messages, hhandling, hrequests]), rfl, hnext, ?_, ?_⟩
  · simp only [DesktopApp.complete, hrun]
  · simp only [System.step, Worker.tryRecv, hhead, DesktopApp.processResponse,
      DesktopApp.complete, hrun]

lemma System.Inv.processResponse {system : System} (hinv : system.Inv crates) (env : Env) :
    (system.step crates (.ProcessResponse env)).Inv crates := by
  cases hresponses : system.app.worker.responses with
  | nil => simpa only [System.step, Worker.tryRecv, hresponses] using hinv
  | cons response responses =>
      obtain ⟨app, -, hafter, -, -, -, hstep⟩ := hinv.after_complete h hresponses env
      rw [hstep]
      exact Outcome.inv h hafter (accept_outcome h env app response.kind)

/-- The operation whose answer was processed is no longer active. -/
lemma System.Inv.operation_released {system : System} (hinv : system.Inv crates)
    {response : Response} {responses : List Response}
    (hhead : system.app.worker.responses = response :: responses) (env : Env) :
    (system.step crates (.ProcessResponse env)).app.lifecycle.activeOperation
      ≠ some response.operation := by
  obtain ⟨app, -, -, hactive, hnext, -, hstep⟩ := hinv.after_complete h hhead env
  rw [hstep]
  cases accept_outcome h env app response.kind with
  | unchanged hlifecycle _ => simp [hlifecycle, hactive]
  | settled _ hsettled _ _ => simp [hsettled]
  | launched _ request hoperation hlifecycle _ =>
      -- the refresh after a download has an id of its own
      rw [hlifecycle, hoperation, hnext]
      simpa using nextId_ne response.operation

omit h in
/-- Taking a request leaves the same messages in the same order. -/
lemma System.Inv.recv {system : System} (hinv : system.Inv crates) :
    (system.step crates .Recv).Inv crates := by
  simp only [System.step]
  cases hhandling : system.handling with
  | some request => simpa [hhandling] using hinv
  | none =>
      cases hrequests : system.app.worker.requests with
      | nil => simpa [hhandling, hrequests] using hinv
      | cons request requests =>
          simpa [System.Inv, System.messages, hhandling, hrequests] using hinv

omit h in
/-- Answering a request replaces it by its answer. -/
lemma System.Inv.answer {system : System} (hinv : system.Inv crates) (service : Service) :
    (system.step crates (.Answer service)).Inv crates := by
  simp only [System.step]
  cases hhandling : system.handling with
  | none => exact hinv
  | some request =>
      have hmessages : system.messages = system.app.worker.responses.map .Response
          ++ [.Request request] ++ system.app.worker.requests.map .Request := by
        simp [System.messages, hhandling]
      cases hinv with
      | idle _ _ hnone => simp [hnone] at hmessages
      | busy kind message hserves hlifecycle hone =>
          rw [hone] at hmessages
          have hlength := congrArg List.length hmessages
          simp only [List.length_singleton, List.length_append, List.length_map] at hlength
          have hresponses := List.eq_nil_of_length_eq_zero
            (show system.app.worker.responses.length = 0 by omega)
          have hrequests := List.eq_nil_of_length_eq_zero
            (show system.app.worker.requests.length = 0 by omega)
          obtain rfl : message = .Request request := by
            simpa [hresponses, hrequests] using hmessages
          obtain rfl : request.kind.effect = kind := hserves
          refine .busy request.kind.effect
            (.Response ⟨request.operation, handle service request.kind⟩)
            (serves_handle service request.kind) hlifecycle ?_
          simp [System.messages, hresponses, hrequests]

/-- **Every step keeps the invariant.** -/
theorem System.Inv.step {system : System} (hinv : system.Inv crates) (input : SystemInput) :
    (system.step crates input).Inv crates := by
  cases input with
  | Call env call =>
      have houtcome := (call_ends h.controlsEffects env system.app call).outcome h
      exact Outcome.inv h hinv houtcome
  | ProcessResponse env => exact hinv.processResponse h env
  | Recv => exact hinv.recv
  | Answer service => exact hinv.answer service

end Invariant

/-! ## Every reachable state -/

/-- The app starts with nothing in flight. -/
lemma PickerMachine.Controlled.idle {picker : PickerMachine} (h : picker.Controlled) :
    (picker.metadata .Idle).inFlight = false := by
  rw [← Bool.not_eq_true, h.inFlight]
  rintro ⟨kind, hkind⟩
  cases kind <;> simp [EffectKind.state] at hkind

lemma System.inv_start (crates : AppCrates)
    (hidle : (crates.picker.metadata .Idle).inFlight = false) (now : Instant) :
    (System.start now).Inv crates :=
  .idle rfl hidle rfl

/-- What is claimed of the system in one state. -/
structure System.Conserved (crates : AppCrates) (self : System) : Prop where
  oneMessage : ∀ operation, self.app.lifecycle.activeOperation = some operation →
    ∃ message, self.messages = [message] ∧ message.operation = operation
  noMessage : self.app.lifecycle.activeOperation = none → self.messages = []
  answerAccepted : ∀ response responses, self.app.worker.responses = response :: responses →
    ∃ lifecycle, (Lifecycle.complete crates.picker response.operation
      (response.kind.completion crates)).run self.app.lifecycle = .ok () lifecycle
  operationReleased : ∀ env response responses,
    self.app.worker.responses = response :: responses →
      (self.step crates (.ProcessResponse env)).app.lifecycle.activeOperation
        ≠ some response.operation

/-- The invariant says all of it. -/
lemma System.Inv.conserved {crates : AppCrates} (h : crates.picker.Controlled) {system : System}
    (hinv : system.Inv crates) : system.Conserved crates where
  oneMessage := by
    intro operation hactive
    cases hinv with
    | idle hnone => simp [hnone] at hactive
    | busy kind message _ hlifecycle hone =>
        rw [hlifecycle] at hactive
        exact ⟨message, hone, Option.some.inj hactive⟩
  noMessage := by
    intro hactive
    cases hinv with
    | idle _ _ hnone => exact hnone
    | busy kind message _ hlifecycle _ => simp [hlifecycle] at hactive
  answerAccepted := by
    intro response responses hresponses
    obtain ⟨next, -, -, -, hrun, -⟩ := hinv.answer_accepted h hresponses
    exact ⟨_, hrun⟩
  operationReleased := by
    intro env response responses hresponses
    exact hinv.operation_released h hresponses env

/-- **No operation is lost, answered twice or unanswerable**, in any interleaving. -/
theorem one_message_per_operation {crates : AppCrates} (h : crates.picker.Controlled)
    (now : Instant) (inputs : List SystemInput) :
    (Machine.exec (System.step crates) (.start now) inputs).Conserved crates := by
  have hinv : (Machine.exec (System.step crates) (.start now) inputs).Inv crates :=
    Machine.exec_invariant (fun _ input hinv => hinv.step h input)
      (System.inv_start crates h.idle now) inputs
  exact hinv.conserved h

section Example

/-- The picker of the specification is of this kind. -/
lemma controlled_tablePicker : tablePicker.Controlled where
  inFlight := by
    intro state
    constructor
    · intro hstate
      cases state with
      | Creating => exact ⟨.Create, rfl⟩
      | Refreshing => exact ⟨.Refresh, rfl⟩
      | Downloading => exact ⟨.Download, rfl⟩
      | Cancelling => exact ⟨.Cancel, rfl⟩
      | _ => simp [tablePicker, DesktopLifecycle.IsInFlight, DesktopLifecycle.InFlightStates]
          at hstate
    · rintro ⟨kind, rfl⟩
      cases kind <;> rfl
  command := by
    intro command state next ht
    have htable : ∀ t ∈ pickerTransitions, t.2.1 ∈ effectEvents ∨ t.2.1 = .Reset →
        DesktopLifecycle.IsInFlight t.1 = false := by decide
    have hevent : command.event ∈ effectEvents ∨ command.event = .Reset := by
      cases command <;> decide
    exact htable _ (asSpecified_tablePicker.transition _ _ _ ht) hevent
  answer := by
    intro kind completion hawaits
    cases kind <;> simp only [EffectKind.Awaits, List.mem_cons, List.not_mem_nil, or_false]
      at hawaits
    · rcases hawaits with rfl | rfl
      · exact ⟨.Pairing, rfl, rfl⟩
      · exact ⟨.FailedWithoutSession, rfl, rfl⟩
    · rcases hawaits with rfl | rfl | rfl | rfl
      · exact ⟨.Pairing, rfl, rfl⟩
      · exact ⟨.Transferring, rfl, rfl⟩
      · exact ⟨.Complete, rfl, rfl⟩
      · exact ⟨.FailedWithSession, rfl, rfl⟩
    · rcases hawaits with rfl | rfl
      · exact ⟨.Transferring, rfl, rfl⟩
      · exact ⟨.FailedWithSession, rfl, rfl⟩
    · rcases hawaits with rfl | rfl
      · exact ⟨.Idle, rfl, rfl⟩
      · exact ⟨.FailedWithoutSession, rfl, rfl⟩

/-- The service is out of reach. -/
def unreachableService : Service where
  crates := {
    parseUrl := fun _ => none
    formUrlencodedParse := fun _ => []
    uuidToString := fun _ => ""
    isLoopbackAddress := fun _ => false }
  withTimeout _ _ := .ok {
    createTunnel := fun _ => .error .Transport
    snapshot := fun _ _ => .error .Transport
    download := fun _ _ _ => .error .Transport
    cancel := fun _ _ => .error .Transport }
  saveDownload _ _ _ _ := .error .Io

/-- A request that is not taken, one that is, and its answer. -/
def exampleSystemInputs : List SystemInput :=
  [.Call ⟨0, false⟩ .Create, .Call ⟨1, true⟩ .Retry, .Recv, .Answer unreachableService]

theorem one_message_per_operation_example :
    (Machine.exec (System.step exampleCrates) (.start 0) exampleSystemInputs).messages
        = [.Response ⟨2, .Failed
            "The network request failed. Check the connection and try again."⟩]
      ∧ (Machine.exec (System.step exampleCrates) (.start 0)
          exampleSystemInputs).Conserved exampleCrates :=
  ⟨by decide +kernel, one_message_per_operation controlled_tablePicker 0 exampleSystemInputs⟩

end Example

end FtnlDesktop.Receive
