import FtnlDesktop.Core.Fairness
import FtnlDesktop.Receive.Conservation

/-!
# Every operation comes to its end

`Receive.Conservation` says that nothing is lost.  Here it is shown that something happens.

* **`every_operation_released`** — in every infinite run in which the worker thread and the
  interface thread are scheduled fairly, an operation that is active is answered in the end, and
  its answer releases it, whatever the user and the service do in the meantime.
* **`process_responses_terminates`** — the `while let` loop of `process_responses` races with the
  worker, which may put the next answer into the channel before the loop looks again.  It ends
  after two answers at most, and takes a second one only when the first was a finished download.

An operation has one message in the system, and the message moves through three stages: in the
request channel, with the worker, in the response channel.  Each stage lasts until the action that
ends it, and keeps that action enabled; nothing else touches the message.
-/

namespace FtnlDesktop.Receive

open Machine

/-! ## The stages of a message -/

section Stages

variable {crates : AppCrates} {system : System}

/-- The active operation waits for this message. -/
structure System.WaitsFor (system : System) (message : Message) : Prop where
  active : system.app.lifecycle.activeOperation = some message.operation
  only : system.messages = [message]

lemma System.messages_eq_request {request : Request}
    (h : system.messages = [.Request request]) :
    system.app.worker.responses = [] ∧
      ((system.handling = none ∧ system.app.worker.requests = [request]) ∨
        (system.handling = some request ∧ system.app.worker.requests = [])) := by
  simp only [System.messages] at h
  cases hresponses : system.app.worker.responses with
  | cons response responses => simp [hresponses] at h
  | nil =>
      cases hhandling : system.handling with
      | none =>
          simp only [hresponses, hhandling, List.map_nil, Option.toList_none, List.nil_append] at h
          obtain ⟨request', hrequests, hrequest⟩ := List.map_eq_singleton_iff.mp h
          obtain rfl := Message.Request.inj hrequest
          exact ⟨rfl, Or.inl ⟨rfl, hrequests⟩⟩
      | some request' =>
          simp only [hresponses, hhandling, List.map_nil, Option.toList_some, List.map_cons,
            List.nil_append, List.cons_append, List.cons.injEq, List.map_eq_nil_iff,
            Message.Request.injEq] at h
          obtain ⟨rfl, hrequests⟩ := h
          exact ⟨rfl, Or.inr ⟨rfl, hrequests⟩⟩

lemma System.messages_eq_response {response : Response}
    (h : system.messages = [.Response response]) :
    system.app.worker.responses = [response] ∧ system.handling = none
      ∧ system.app.worker.requests = [] := by
  simp only [System.messages] at h
  cases hresponses : system.app.worker.responses with
  | cons response' responses =>
      simp only [hresponses, List.map_cons, List.cons_append, List.cons.injEq,
        Message.Response.injEq, List.append_eq_nil_iff, List.map_eq_nil_iff,
        Option.toList_eq_nil_iff] at h
      obtain ⟨rfl, ⟨rfl, hhandling⟩, hrequests⟩ := h
      exact ⟨rfl, hhandling, hrequests⟩
  | nil =>
      cases hhandling : system.handling with
      | none =>
          simp only [hresponses, hhandling, List.map_nil, Option.toList_none, List.nil_append] at h
          obtain ⟨request, -, hrequest⟩ := List.map_eq_singleton_iff.mp h
          cases hrequest
      | some request => simp [hresponses, hhandling] at h

/-- While an operation is active the user and the timer can do nothing to the lifecycle and to the
channels. -/
lemma System.Inv.call_of_active (h : crates.picker.Controlled) (hinv : system.Inv crates)
    {operation : OperationId} (hactive : system.app.lifecycle.activeOperation = some operation)
    (env : Env) (call : UserCall) :
    (system.step crates (.Call env call)).app.lifecycle = system.app.lifecycle ∧
      (system.step crates (.Call env call)).app.worker = system.app.worker := by
  have hbusy : (crates.picker.metadata system.app.lifecycle.state).inFlight = true := by
    cases hinv with
    | idle hnone => simp [hnone] at hactive
    | busy kind message _ hlifecycle _ =>
        rw [hlifecycle]
        exact (h.inFlight kind.state).mpr ⟨kind, rfl⟩
  cases (call_ends h.controlsEffects env system.app call).outcome h with
  | unchanged hlifecycle hworker => exact ⟨hlifecycle, hworker⟩
  | settled hfree => exact absurd (hfree.symm.trans hbusy) (by simp)
  | launched hfree => exact absurd (hfree.symm.trans hbusy) (by simp)

lemma System.WaitsFor.call (h : crates.picker.Controlled) (hinv : system.Inv crates)
    {message : Message} (hwaits : system.WaitsFor message) (env : Env) (call : UserCall) :
    (system.step crates (.Call env call)).WaitsFor message := by
  obtain ⟨hlifecycle, hworker⟩ := hinv.call_of_active h hwaits.active env call
  refine ⟨by rw [hlifecycle]; exact hwaits.active, ?_⟩
  rw [← hwaits.only, System.messages, System.messages, hworker]
  rfl

end Stages

/-! ## What one step does to a stage -/

section Step

variable {crates : AppCrates} (h : crates.picker.Controlled) {system : System} {request : Request}

/-- The request is in the channel. -/
structure System.Queued (request : Request) (system : System) : Prop
    extends system.WaitsFor (.Request request) where
  free : system.handling = none

/-- The worker is busy with the request. -/
structure System.Handled (request : Request) (system : System) : Prop
    extends system.WaitsFor (.Request request) where
  taken : system.handling = some request

/-- The answer to the operation is in the channel. -/
def System.Answered (operation : OperationId) (system : System) : Prop :=
  ∃ response, system.WaitsFor (.Response response) ∧ response.operation = operation

lemma System.Queued.channels (hqueued : system.Queued request) :
    system.app.worker.responses = [] ∧ system.app.worker.requests = [request] := by
  obtain ⟨hresponses, hstage⟩ := System.messages_eq_request hqueued.only
  rcases hstage with ⟨-, hrequests⟩ | ⟨hsome, -⟩
  · exact ⟨hresponses, hrequests⟩
  · exact absurd (hqueued.free.symm.trans hsome) (by simp)

include h in
/-- Until the worker takes it, the request stays in the channel. -/
lemma System.Queued.stays (hinv : system.Inv crates) (hqueued : system.Queued request)
    (input : SystemInput) (hinput : input ≠ .Recv) :
    (system.step crates input).Queued request := by
  obtain ⟨hwaits, hfree⟩ := hqueued
  cases input with
  | Call env call => exact ⟨hwaits.call h hinv env call, hfree⟩
  | ProcessResponse env =>
      obtain ⟨hresponses, -⟩ := System.messages_eq_request hwaits.only
      simp only [System.step, Worker.tryRecv, hresponses]
      exact ⟨hwaits, hfree⟩
  | Recv => exact absurd rfl hinput
  | Answer service =>
      simp only [System.step, hfree]
      exact ⟨hwaits, hfree⟩

lemma System.Queued.recv (hqueued : system.Queued request) :
    (system.step crates .Recv).Handled request := by
  obtain ⟨hresponses, hrequests⟩ := hqueued.channels
  obtain ⟨⟨hactive, -⟩, hfree⟩ := hqueued
  simp only [System.step, hfree, hrequests]
  exact ⟨⟨hactive, by simp [System.messages, hresponses]⟩, rfl⟩

lemma System.Handled.channels (hhandled : system.Handled request) :
    system.app.worker.responses = [] ∧ system.app.worker.requests = [] := by
  obtain ⟨hresponses, hstage⟩ := System.messages_eq_request hhandled.only
  rcases hstage with ⟨hnone, -⟩ | ⟨-, hrequests⟩
  · exact absurd (hhandled.taken.symm.trans hnone) (by simp)
  · exact ⟨hresponses, hrequests⟩

include h in
/-- Until the worker answers it, the request stays with the worker. -/
lemma System.Handled.stays (hinv : system.Inv crates) (hhandled : system.Handled request)
    (input : SystemInput) (hinput : ¬ ∃ service, input = .Answer service) :
    (system.step crates input).Handled request := by
  obtain ⟨hresponses, -⟩ := hhandled.channels
  obtain ⟨hwaits, htaken⟩ := hhandled
  cases input with
  | Call env call => exact ⟨hwaits.call h hinv env call, htaken⟩
  | ProcessResponse env =>
      simp only [System.step, Worker.tryRecv, hresponses]
      exact ⟨hwaits, htaken⟩
  | Recv =>
      simp only [System.step, htaken]
      exact ⟨hwaits, htaken⟩
  | Answer service => exact absurd ⟨service, rfl⟩ hinput

lemma System.Handled.answer (hhandled : system.Handled request) (service : Service) :
    (system.step crates (.Answer service)).Answered request.operation := by
  obtain ⟨hresponses, hrequests⟩ := hhandled.channels
  obtain ⟨⟨hactive, -⟩, htaken⟩ := hhandled
  simp only [System.step, htaken]
  refine ⟨⟨request.operation, handle service request.kind⟩, ⟨hactive, ?_⟩, rfl⟩
  simp [System.messages, hresponses, hrequests]

include h in
/-- Until the app processes it, the answer stays in the channel. -/
lemma System.Answered.stays {operation : OperationId} (hinv : system.Inv crates)
    (hanswered : system.Answered operation) (input : SystemInput)
    (hinput : ¬ ∃ env, input = .ProcessResponse env) :
    (system.step crates input).Answered operation := by
  obtain ⟨response, hwaits, hoperation⟩ := hanswered
  refine ⟨response, ?_, hoperation⟩
  obtain ⟨-, hfree, hrequests⟩ := System.messages_eq_response hwaits.only
  cases input with
  | Call env call => exact hwaits.call h hinv env call
  | ProcessResponse env => exact absurd ⟨env, rfl⟩ hinput
  | Recv =>
      simp only [System.step, hfree, hrequests]
      exact hwaits
  | Answer service =>
      simp only [System.step, hfree]
      exact hwaits

/-- An active operation is at one of the three stages. -/
lemma System.Inv.stages (h : crates.picker.Controlled) (hinv : system.Inv crates)
    {operation : OperationId} (hactive : system.app.lifecycle.activeOperation = some operation) :
    (∃ request, request.operation = operation ∧ system.Queued request) ∨
      (∃ request, request.operation = operation ∧ system.Handled request) ∨
      system.Answered operation := by
  obtain ⟨message, honly, rfl⟩ :=
    System.Conserved.oneMessage (hinv.conserved h) operation hactive
  cases message with
  | Request request =>
      rcases (System.messages_eq_request honly).2 with ⟨hfree, -⟩ | ⟨htaken, -⟩
      · exact Or.inl ⟨request, rfl, ⟨⟨hactive, honly⟩, hfree⟩⟩
      · exact Or.inr (Or.inl ⟨request, rfl, ⟨⟨hactive, honly⟩, htaken⟩⟩)
  | Response response => exact Or.inr (Or.inr ⟨response, ⟨hactive, honly⟩, rfl⟩)

end Step

/-! ## Fair runs -/

/-- The system at one moment of the infinite run on these inputs. -/
abbrev System.moment (crates : AppCrates) (now : Instant) (inputs : ℕ → SystemInput) :
    ℕ → System :=
  behaviour (System.step crates) (.start now) inputs

/-- The worker is idle and a request is waiting. -/
def System.CanRecv (self : System) : Prop := self.handling = none ∧ self.app.worker.requests ≠ []

/-- The worker has a request to answer. -/
def System.CanAnswer (self : System) : Prop := self.handling ≠ none

/-- An answer is waiting for the app. -/
def System.CanProcess (self : System) : Prop := self.app.worker.responses ≠ []

/-- Neither thread is kept from a step that it could take all the time. -/
structure FairlyScheduled (crates : AppCrates) (now : Instant) (inputs : ℕ → SystemInput) :
    Prop where
  recv : WeaklyFair (fun n => (System.moment crates now inputs n).CanRecv)
    fun n => inputs n = .Recv
  answer : WeaklyFair (fun n => (System.moment crates now inputs n).CanAnswer)
    fun n => ∃ service, inputs n = .Answer service
  processResponse : WeaklyFair (fun n => (System.moment crates now inputs n).CanProcess)
    fun n => ∃ env, inputs n = .ProcessResponse env

/-- At this moment the app takes the answer to the operation out of the channel, and the operation
is over. -/
structure Released (crates : AppCrates) (now : Instant) (inputs : ℕ → SystemInput)
    (operation : OperationId) (n : ℕ) : Prop where
  active : (System.moment crates now inputs n).app.lifecycle.activeOperation = some operation
  answer : ∃ response, (System.moment crates now inputs n).app.worker.responses = [response] ∧
    response.operation = operation
  processes : ∃ env, inputs n = .ProcessResponse env
  ended : (System.moment crates now inputs (n + 1)).app.lifecycle.activeOperation ≠ some operation

section Fair

variable {crates : AppCrates} (h : crates.picker.Controlled) {now : Instant}
  {inputs : ℕ → SystemInput}

include h

lemma System.inv_moment (now : Instant) (inputs : ℕ → SystemInput) (n : ℕ) :
    (System.moment crates now inputs n).Inv crates :=
  behaviour_invariant (fun _ input hinv => hinv.step h input)
    (System.inv_start crates h.idle now) inputs n

lemma queued_leadsTo_handled (hfair : FairlyScheduled crates now inputs) (request : Request) :
    LeadsTo (fun n => (System.moment crates now inputs n).Queued request)
      fun n => (System.moment crates now inputs (n + 1)).Handled request := by
  refine leadsTo_of_step System.CanRecv (· = .Recv) (System.inv_moment h now inputs) ?_ ?_ ?_
    hfair.recv
  · intro system input hinv hqueued hnot
    exact hqueued.stays h hinv input hnot
  · intro system hqueued
    refine ⟨hqueued.free, ?_⟩
    rw [hqueued.channels.2]
    simp
  · rintro system input - hqueued rfl
    exact hqueued.recv

lemma handled_leadsTo_answered (hfair : FairlyScheduled crates now inputs) (request : Request) :
    LeadsTo (fun n => (System.moment crates now inputs n).Handled request)
      fun n => (System.moment crates now inputs (n + 1)).Answered request.operation := by
  refine leadsTo_of_step System.CanAnswer (fun input => ∃ service, input = .Answer service)
    (System.inv_moment h now inputs) ?_ ?_ ?_ hfair.answer
  · intro system input hinv hhandled hnot
    exact hhandled.stays h hinv input hnot
  · intro system hhandled
    rw [System.CanAnswer, hhandled.taken]
    simp
  · rintro system input - hhandled ⟨service, rfl⟩
    exact hhandled.answer service

lemma answered_leadsTo_released (hfair : FairlyScheduled crates now inputs)
    (operation : OperationId) :
    LeadsTo (fun n => (System.moment crates now inputs n).Answered operation)
      (Released crates now inputs operation) := by
  refine (leadsTo_input System.CanProcess (fun input => ∃ env, input = .ProcessResponse env)
    (System.inv_moment h now inputs) ?_ ?_ hfair.processResponse).mono ?_
  · intro system input hinv hanswered hnot
    exact hanswered.stays h hinv input hnot
  · rintro system ⟨response, hwaits, -⟩
    rw [System.CanProcess, (System.messages_eq_response hwaits.only).1]
    simp
  · rintro n ⟨⟨response, hwaits, rfl⟩, env, hinput⟩
    obtain ⟨hresponses, -, -⟩ := System.messages_eq_response hwaits.only
    refine ⟨hwaits.active, ⟨response, hresponses, rfl⟩, ⟨env, hinput⟩, ?_⟩
    have hover := (System.inv_moment h now inputs n).operation_released h hresponses env
    rw [← hinput] at hover
    exact hover

/-- **Every operation is released in the end**, when the threads are scheduled fairly. -/
theorem every_operation_released (hfair : FairlyScheduled crates now inputs)
    (operation : OperationId) :
    LeadsTo
      (fun n => (System.moment crates now inputs n).app.lifecycle.activeOperation
        = some operation)
      (Released crates now inputs operation) := by
  have hanswered := answered_leadsTo_released h hfair operation
  have hhandled : ∀ request : Request, request.operation = operation →
      LeadsTo (fun n => (System.moment crates now inputs n).Handled request)
        (Released crates now inputs operation) := by
    rintro request rfl
    exact (handled_leadsTo_answered h hfair request).next hanswered
  intro n hactive
  rcases (System.inv_moment h now inputs n).stages h hactive with
    ⟨request, hoperation, hstage⟩ | ⟨request, hoperation, hstage⟩ | hstage
  · exact (queued_leadsTo_handled h hfair request).next (hhandled request hoperation) n hstage
  · exact hhandled request hoperation n hstage
  · exact hanswered n hstage

end Fair

section Example

/-- The user asks for a tunnel whenever that is possible, and the two threads take turns. -/
def roundRobin (n : ℕ) : SystemInput :=
  if n % 4 = 0 then .Call ⟨n, true⟩ (if n = 0 then .Create else .Retry)
  else if n % 4 = 1 then .Recv
  else if n % 4 = 2 then .Answer unreachableService
  else .ProcessResponse ⟨n, true⟩

lemma fairlyScheduled_roundRobin (crates : AppCrates) (now : Instant) :
    FairlyScheduled crates now roundRobin where
  recv := weaklyFair_of_recurs fun n => ⟨4 * n + 1, by omega, by
    rw [roundRobin, if_neg (by omega), if_pos (by omega)]⟩
  answer := weaklyFair_of_recurs fun n => ⟨4 * n + 2, by omega, unreachableService, by
    rw [roundRobin, if_neg (by omega), if_neg (by omega), if_pos (by omega)]⟩
  processResponse := weaklyFair_of_recurs fun n => ⟨4 * n + 3, by omega, ⟨4 * n + 3, true⟩, by
    rw [roundRobin, if_neg (by omega), if_neg (by omega), if_neg (by omega)]⟩

theorem every_operation_released_round_robin :
    ∃ m, 1 ≤ m ∧ Released exampleCrates 0 roundRobin 1 m :=
  every_operation_released controlled_tablePicker (fairlyScheduled_roundRobin exampleCrates 0) 1 1
    (by decide +kernel)

end Example

/-! ## The loop of `process_responses` -/

/-- What the worker thread may do by itself. -/
inductive WorkerStep where
  | Recv
  | Answer (service : Service)

def WorkerStep.input : WorkerStep → SystemInput
  | .Recv => .Recv
  | .Answer service => .Answer service

/-- What the worker thread does while the interface thread is at one place. -/
def System.work (crates : AppCrates) (self : System) (steps : List WorkerStep) : System :=
  exec (System.step crates) self (steps.map WorkerStep.input)

/-- `DesktopApp::process_responses`.  Before its `i`-th call of `try_recv` the worker takes the
steps `schedule i`; `fuel` bounds the number of calls.  The answers that were processed are
returned as well, in their order. -/
def System.processResponses (crates : AppCrates) (schedule : ℕ → List WorkerStep)
    (env : ℕ → Env) : (fuel round : ℕ) → System → Option (List Response × System)
  | 0, _, _ => none
  | fuel + 1, round, self =>
      let self := self.work crates (schedule round)
      match self.app.worker.tryRecv with
      | none => some ([], self)
      | some (response, _) =>
          (processResponses crates schedule env fuel (round + 1)
            (self.step crates (.ProcessResponse (env round)))).map
              fun (processed, self) => (response :: processed, self)

section Drain

variable {crates : AppCrates} {system : System}

/-- Nothing is under way, or a message for this operation and effect is. -/
def System.OnlyServes (system : System) (effect : Effect) : Prop :=
  ∀ message ∈ system.messages, message.operation = effect.operation ∧ message.Serves effect.kind

/-- The worker makes an answer of a request, and adds nothing. -/
lemma System.OnlyServes.workerStep {effect : Effect} (hserves : system.OnlyServes effect)
    (workerStep : WorkerStep) : (system.step crates workerStep.input).OnlyServes effect := by
  cases workerStep with
  | Recv =>
      simp only [WorkerStep.input, System.step]
      cases hhandling : system.handling with
      | some request => simpa [hhandling] using hserves
      | none =>
          cases hrequests : system.app.worker.requests with
          | nil => simpa [hhandling, hrequests] using hserves
          | cons request requests =>
              simpa [System.OnlyServes, System.messages, hhandling, hrequests] using hserves
  | Answer service =>
      simp only [WorkerStep.input, System.step]
      cases hhandling : system.handling with
      | none => simpa [hhandling] using hserves
      | some request =>
          obtain ⟨hoperation, hrequest⟩ : request.operation = effect.operation ∧
              request.kind.effect = effect.kind :=
            hserves (.Request request) (by simp [System.messages, hhandling])
          have hanswer : (handle service request.kind).Serves effect.kind :=
            hrequest ▸ serves_handle service request.kind
          intro message hmessage
          simp only [System.messages, List.map_append, List.map_cons, List.map_nil,
            Option.toList_none, List.append_nil, List.mem_append, List.mem_singleton] at hmessage
          rcases hmessage with (hold | rfl) | hold
          · exact hserves message (by simp only [System.messages, List.mem_append, hold, true_or])
          · exact ⟨hoperation, hanswer⟩
          · exact hserves message (by simp only [System.messages, List.mem_append, hold, or_true])

lemma System.OnlyServes.work {effect : Effect} (hserves : system.OnlyServes effect)
    (steps : List WorkerStep) : (system.work crates steps).OnlyServes effect := by
  rw [System.work]
  induction steps generalizing system with
  | nil => exact hserves
  | cons workerStep steps ih => exact ih (hserves.workerStep workerStep)

variable (crates) in
/-- With nothing under way there is nothing to work on. -/
lemma System.messages_work (hnone : system.messages = []) (steps : List WorkerStep) :
    (system.work crates steps).messages = [] := by
  have hchannels : system.app.worker.responses = [] ∧ system.handling = none
      ∧ system.app.worker.requests = [] := by
    simpa [System.messages, and_assoc] using hnone
  obtain ⟨-, hhandling, hrequests⟩ := hchannels
  have hstep : ∀ workerStep : WorkerStep, system.step crates workerStep.input = system := by
    intro workerStep
    cases workerStep with
    | Recv => simp only [WorkerStep.input, System.step, hhandling, hrequests]
    | Answer service => simp only [WorkerStep.input, System.step, hhandling]
  rw [System.work]
  induction steps with
  | nil => exact hnone
  | cons workerStep steps ih =>
      rw [List.map_cons, exec_cons, hstep]
      exact ih

lemma System.Inv.work (h : crates.picker.Controlled) (hinv : system.Inv crates)
    (steps : List WorkerStep) : (system.work crates steps).Inv crates :=
  exec_invariant (fun _ input hinv => hinv.step h input) hinv _

/-- The only request that `refresh` makes is a refresh, with the next operation. -/
lemma refresh_worker (h : crates.picker.ControlsEffects) (env : Env) (app : DesktopApp) :
    (app.refresh crates env).worker = app.worker ∨
      ∃ baseUrl tunnelId capability, (app.refresh crates env).worker
        = { app.worker with requests := app.worker.requests
              ++ [⟨app.lifecycle.nextOperation, .Refresh baseUrl tunnelId capability⟩] } := by
  rw [DesktopApp.refresh]
  cases app.sessionAuthority with
  | none => exact Or.inl rfl
  | some authority =>
      rcases dispatch_starts h app .Refresh with ⟨lifecycle, -, heq⟩ | ⟨kind, -, heq⟩
      · rw [heq]
        exact Or.inl rfl
      · rw [heq]
        simp only
        rcases send_cases crates env _ ⟨app.lifecycle.nextOperation, kind⟩
          (.Refresh app.baseUrl authority.1 authority.2) with ⟨-, hsend⟩ | hsend
        · rw [hsend]
          exact Or.inr ⟨_, _, _, rfl⟩
        · rw [hsend]
          exact Or.inl (failDispatch_keeps crates _ _).2

/-- After an answer is processed nothing is under way, unless a download is refreshed, with the
operation after its own. -/
lemma System.Inv.after_response (h : crates.picker.Controlled) (hinv : system.Inv crates)
    {response : Response} {responses : List Response}
    (hhead : system.app.worker.responses = response :: responses) (env : Env) :
    (system.step crates (.ProcessResponse env)).messages = [] ∨
      ((∃ path, response.kind = .Downloaded path) ∧
        (system.step crates (.ProcessResponse env)).OnlyServes
          ⟨nextId response.operation, .Refresh⟩) := by
  obtain ⟨-, -, -, -, -, rfl, hhandling, hrequests⟩ := hinv.answer_accepted h hhead
  obtain ⟨app, ⟨lifecycle, happ⟩, -, -, hnext, -, hstep⟩ := hinv.after_complete h hhead env
  have hworker : app.worker = ⟨[], []⟩ := by rw [happ, ← hrequests]
  rw [hstep]
  cases hkind : response.kind with
  | Created session =>
      refine Or.inl ?_
      simp [System.messages, DesktopApp.accept, hworker, hhandling]
  | Snapshot files =>
      refine Or.inl ?_
      simp only [System.messages, DesktopApp.accept]
      split_ifs
      all_goals simp [hworker, hhandling]
  | Downloaded path =>
      refine Or.inr ⟨⟨path, rfl⟩, ?_⟩
      have hsent : (app.accept crates env (.Downloaded path)).worker = ⟨[], []⟩ ∨
          ∃ baseUrl tunnelId capability, (app.accept crates env (.Downloaded path)).worker
            = ⟨[⟨nextId response.operation, .Refresh baseUrl tunnelId capability⟩], []⟩ := by
        rcases refresh_worker h.controlsEffects env
          { app with message := some "File saved successfully." } with
          hsame | ⟨baseUrl, tunnelId, capability, hrefresh⟩
        · exact Or.inl (hsame.trans hworker)
        · refine Or.inr ⟨baseUrl, tunnelId, capability, hrefresh.trans ?_⟩
          simp only [hworker, hnext, List.nil_append]
      intro message hmessage
      rcases hsent with hnone | ⟨baseUrl, tunnelId, capability, hone⟩
      · simp [System.messages, hnone, hhandling] at hmessage
      · obtain rfl : message = .Request ⟨nextId response.operation,
            .Refresh baseUrl tunnelId capability⟩ := by
          simpa [System.messages, hone, hhandling] using hmessage
        exact ⟨rfl, rfl⟩
  | Cancelled =>
      refine Or.inl ?_
      simp [System.messages, DesktopApp.accept, DesktopApp.clearFiles, hworker, hhandling]
  | Failed message =>
      refine Or.inl ?_
      simp only [System.messages, DesktopApp.accept, dropUnneededSession_worker]
      simp [hworker, hhandling]

/-- A call of `try_recv` that finds nothing ends the loop. -/
lemma processResponses_of_none {schedule : ℕ → List WorkerStep} {env : ℕ → Env} {fuel round : ℕ}
    (hnone : (system.work crates (schedule round)).app.worker.responses = []) :
    system.processResponses crates schedule env (fuel + 1) round
      = some ([], system.work crates (schedule round)) := by
  rw [System.processResponses]
  simp only [Worker.tryRecv, hnone]

/-- A call of `try_recv` that finds an answer goes on after it. -/
lemma processResponses_of_response {schedule : ℕ → List WorkerStep} {env : ℕ → Env}
    {fuel round : ℕ} {response : Response} {responses : List Response}
    (hhead : (system.work crates (schedule round)).app.worker.responses = response :: responses)
    {processed : List Response} {system' : System}
    (hrest : ((system.work crates (schedule round)).step crates
      (.ProcessResponse (env round))).processResponses crates schedule env fuel (round + 1)
        = some (processed, system')) :
    system.processResponses crates schedule env (fuel + 1) round
      = some (response :: processed, system') := by
  rw [System.processResponses]
  simp only [Worker.tryRecv, hhead, hrest, Option.map_some]

/-- The loop ends at once when nothing is under way. -/
lemma processResponses_of_messages (schedule : ℕ → List WorkerStep) (env : ℕ → Env)
    (fuel round : ℕ) (hnone : system.messages = []) :
    ∃ system', system'.app.worker.responses = [] ∧
      system.processResponses crates schedule env (fuel + 1) round = some ([], system') := by
  have hwork := System.messages_work crates hnone (schedule round)
  have hresponses : (system.work crates (schedule round)).app.worker.responses = [] := by
    simp only [System.messages, List.append_eq_nil_iff, List.map_eq_nil_iff] at hwork
    exact hwork.1.1
  exact ⟨_, hresponses, processResponses_of_none hresponses⟩

/-- From a state in step the loop ends after at most two answers. -/
lemma System.Inv.processResponses_eq_some (h : crates.picker.Controlled)
    (hstart : system.Inv crates) (schedule : ℕ → List WorkerStep) (env : ℕ → Env) :
    ∃ processed system',
      system.processResponses crates schedule env 3 0 = some (processed, system') ∧
      system'.app.worker.responses = [] ∧ processed.length ≤ 2 ∧
      ∀ first second, processed = [first, second] →
        (∃ path, first.kind = .Downloaded path) ∧
          second.operation = nextId first.operation ∧ second.kind.Serves .Refresh := by
  have hinv := hstart.work h (schedule 0)
  cases hresponses : (system.work crates (schedule 0)).app.worker.responses with
  | nil => exact ⟨[], _, processResponses_of_none hresponses, hresponses, by simp, by simp⟩
  | cons response responses =>
      have hinv' := hinv.step h (.ProcessResponse (env 0))
      rcases hinv.after_response h hresponses (env 0) with hnone | ⟨hdownload, hserves⟩
      · obtain ⟨system', hempty, hrest⟩ :=
          processResponses_of_messages schedule env 1 1 hnone
        exact ⟨[response], system', processResponses_of_response hresponses hrest, hempty,
          by simp, by simp⟩
      · -- a download is refreshed, and the worker may already have answered that too
        have hinv'' := hinv'.work h (schedule 1)
        cases hresponses' : (((system.work crates (schedule 0)).step crates
            (.ProcessResponse (env 0))).work crates (schedule 1)).app.worker.responses with
        | nil =>
            exact ⟨[response], _, processResponses_of_response hresponses
              (processResponses_of_none hresponses'), hresponses', by simp, by simp⟩
        | cons response' responses' =>
            have hmessage : .Response response' ∈ (((system.work crates (schedule 0)).step crates
                (.ProcessResponse (env 0))).work crates (schedule 1)).messages := by
              simp [System.messages, hresponses']
            obtain ⟨hoperation, hrefresh⟩ : response'.operation = nextId response.operation ∧
                response'.kind.Serves .Refresh := hserves.work (schedule 1) _ hmessage
            have hother : ¬ ∃ path, response'.kind = .Downloaded path := by
              rintro ⟨path, hpath⟩
              rw [hpath] at hrefresh
              cases hrefresh
            have hnone := (hinv''.after_response h hresponses' (env 1)).resolve_right
              fun hdownload => hother hdownload.1
            obtain ⟨system', hempty, hrest⟩ :=
              processResponses_of_messages schedule env 0 2 hnone
            refine ⟨[response, response'], system', ?_, hempty, by simp, ?_⟩
            · exact processResponses_of_response hresponses
                (processResponses_of_response hresponses' hrest)
            · rintro first second heq
              simp only [List.cons.injEq, and_true] at heq
              obtain ⟨rfl, rfl⟩ := heq
              exact ⟨hdownload, hoperation, hrefresh⟩

/-- **The loop of `process_responses` terminates**, whatever the worker does while it runs: after
at most two answers, of which a second one is to the operation of the refresh that the first, a
finished download, has made the app start. -/
theorem process_responses_terminates (h : crates.picker.Controlled) (now : Instant)
    (inputs : List SystemInput) (schedule : ℕ → List WorkerStep) (env : ℕ → Env) :
    ∃ processed system', (exec (System.step crates) (.start now) inputs).processResponses crates
        schedule env 3 0 = some (processed, system') ∧
      system'.app.worker.responses = [] ∧ processed.length ≤ 2 ∧
      ∀ first second, processed = [first, second] →
        (∃ path, first.kind = .Downloaded path) ∧
          second.operation = nextId first.operation ∧ second.kind.Serves .Refresh :=
  (exec_invariant (fun _ input hinv => hinv.step h input) (System.inv_start crates h.idle now)
    inputs).processResponses_eq_some h schedule env

end Drain

section Example

/-- The worker takes and answers the request before the app looks into the channel. -/
def promptWorker (round : ℕ) : List WorkerStep :=
  if round = 0 then [.Recv, .Answer unreachableService] else []

theorem process_responses_terminates_example :
    ∃ processed system', (Machine.exec (System.step exampleCrates) (.start 0)
        [.Call ⟨0, true⟩ .Create]).processResponses exampleCrates promptWorker
          (fun round => ⟨round, true⟩) 3 0 = some (processed, system') ∧
      system'.app.worker.responses = [] ∧ processed.length ≤ 2 ∧
      ∀ first second, processed = [first, second] →
        (∃ path, first.kind = .Downloaded path) ∧
          second.operation = nextId first.operation ∧ second.kind.Serves .Refresh :=
  process_responses_terminates controlled_tablePicker 0 [.Call ⟨0, true⟩ .Create] promptWorker
    fun round => ⟨round, true⟩

end Example

end FtnlDesktop.Receive
