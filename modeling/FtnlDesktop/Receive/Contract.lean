import FtnlDesktop.Receive.Authority
import FtnlDesktop.Receive.Saving

/-!
# Only checked data is used

What the service sends is checked where it arrives, in the worker thread: a tunnel by
`validate_tunnel`, a list of files by `validate_snapshot`.  The interface thread checks nothing.  It
keeps what the answers carry, and builds its next requests from that.

So the checks of `handle` on a request, and those that `save_download` repeats, can only fail if
something has gone wrong in between.  Nothing does.

* **`checked_handle`** — every answer carries checked data, whatever the service sends.
* **`only_checked_data_is_used`** — in every reachable state the session, the files and all requests
  under way hold checked data, and the repeated checks pass.
-/

namespace FtnlDesktop.Receive

open Machine Method

/-! ## What the checks promise -/

/-- The session is one that `validate_tunnel` lets through.  The status is not kept; it was
`waiting` when the tunnel arrived. -/
def ReceiveSession.Checked (transfer : TransferCrates) (session : ReceiveSession) : Prop :=
  validateTunnel transfer {
    tunnelId := session.tunnelId
    pairingUri := session.pairingUri
    desktopCapability := session.desktopCapability
    expiresAt := session.expiresAt
    status := "waiting" } = .ok ()

/-- The checks on what a request was built from. -/
def RequestKind.Checked : RequestKind → Prop
  | .Create _ _ => True
  | .Refresh _ tunnelId capability | .Cancel _ tunnelId capability =>
      tunnelId ≠ 0 ∧ isBoundedToken capability
  | .Download _ tunnelId capability file destination _ =>
      tunnelId ≠ 0 ∧ isBoundedToken capability ∧ validateFileDescriptor file = .ok () ∧
        (chosenDestination file destination).isOk = true

def ResponseKind.Checked (transfer : TransferCrates) : ResponseKind → Prop
  | .Created session => session.Checked transfer
  | .Snapshot files => validateSnapshot files = .ok ()
  | _ => True

variable {transfer : TransferCrates}

/-- The two checks that matter for the requests on a tunnel. -/
lemma ReceiveSession.Checked.authority {session : ReceiveSession} (h : session.Checked transfer) :
    session.tunnelId ≠ 0 ∧ isBoundedToken session.capability := by
  simp only [ReceiveSession.Checked, validateTunnel, bind_eq_ok, okOr_eq_ok, rejectIf_eq_ok,
    not_or, not_not] at h
  obtain ⟨uri, -, htunnel, -, -, -, -, -, -, -, -, -, -, hcapability, -⟩ := h
  exact ⟨htunnel, hcapability⟩

/-- A tunnel that is let through is waiting. -/
lemma validateTunnel_waiting {tunnel : Tunnel} (h : validateTunnel transfer tunnel = .ok ()) :
    tunnel.status = "waiting" := by
  simp only [validateTunnel, bind_eq_ok, okOr_eq_ok, rejectIf_eq_ok, not_or, not_not] at h
  obtain ⟨uri, -, -, hstatus, -⟩ := h
  exact hstatus

lemma checked_of_fromTunnel {tunnel : Tunnel} {session : ReceiveSession}
    (h : ReceiveSession.fromTunnel transfer tunnel = .ok session) : session.Checked transfer := by
  obtain ⟨_, hvalid, hsession⟩ := bind_eq_ok.mp h
  cases hsession
  have hstatus := validateTunnel_waiting hvalid
  obtain ⟨tunnelId, pairingUri, desktopCapability, expiresAt, status⟩ := tunnel
  obtain rfl : status = "waiting" := hstatus
  exact hvalid

lemma checked_failed (error : ClientError) : (failed error).Checked transfer := by
  obtain ⟨message, heq⟩ := failed_eq error
  rw [heq]
  trivial

/-- **Every answer carries checked data**, whatever the service sends. -/
theorem checked_handle (service : Service) (request : RequestKind) :
    (handle service request).Checked service.crates := by
  cases request with
  | Create baseUrl applicationId =>
      simp only [handle]
      split
      · trivial
      · split
        · split
          · exact checked_of_fromTunnel (by assumption)
          · trivial
        · exact checked_failed _
  | Refresh baseUrl tunnelId capability =>
      simp only [handle]
      split
      · trivial
      · split
        · split
          · trivial
          · assumption
        · exact checked_failed _
  | Download baseUrl tunnelId capability file destination force =>
      simp only [handle]
      split
      · trivial
      · split
        · trivial
        · split
          · exact checked_failed _
          · split <;> trivial
  | Cancel baseUrl tunnelId capability =>
      simp only [handle]
      split
      · trivial
      · split
        · trivial
        · exact checked_failed _

/-! ## The repeated checks -/

section Repeated

variable (tempfile : Tempfile) (faults : IoFaults)

/-- The errors that are left when the checks on the descriptor pass. -/
def lateErrors : Set SaveError := {.SizeMismatch, .MissingOutputDirectory, .Io}

lemma failsLate_orIo {α : Type} (operation : Disk → Option (α × Disk)) :
    FailsWithin lateErrors (orIo operation) := by
  refine (total_get.failsWithin _).bind fun disk => ?_
  refine (failsWithin_okOr (by simp [lateErrors]) _).bind fun result => ?_
  exact ((total_set result.2).bind fun _ => total_pure result.1).failsWithin _

lemma failsLate_rejectIf (c : Prop) [Decidable c] :
    FailsWithin lateErrors (rejectIf c SaveError.Io : SaveM Unit) :=
  failsWithin_rejectIf (by simp [lateErrors]) c

lemma failsLate_writeAndPersist (temporary destination : String) (bytes : Bytes) (force : Bool) :
    FailsWithin lateErrors
      (writeAndPersist tempfile faults temporary destination bytes force) := by
  have hmode : FailsWithin lateErrors (setPermissions faults temporary 0o600) :=
    (failsLate_rejectIf _).bind fun _ => (total_modify _).failsWithin _
  have hwrite : FailsWithin lateErrors (writeAll faults temporary bytes) :=
    ((total_modify _).failsWithin _).bind fun _ => failsLate_rejectIf _
  refine hmode.bind fun _ => hwrite.bind fun _ => (failsLate_rejectIf _).bind fun _ => ?_
  exact failsLate_orIo _

lemma failsLate_placeFile (parent destination : String) (bytes : Bytes) (force : Bool) :
    FailsWithin lateErrors (placeFile tempfile faults parent destination bytes force) := by
  refine (failsLate_orIo _).bind fun temporary disk e disk' hrun => ?_
  have hbody := failsLate_writeAndPersist tempfile faults temporary destination bytes force disk
  rw [EStateM.run, dropOnError] at hrun
  rw [EStateM.run] at hbody
  cases hbranch : writeAndPersist tempfile faults temporary destination bytes force disk with
  | ok u disk₁ =>
      rw [hbranch] at hrun
      cases hrun
  | error e₁ disk₁ =>
      rw [hbranch] at hrun
      cases hrun
      exact hbody e disk₁ hbranch

/-- With a checked descriptor, saving can only fail for the size of the answer or the file system.
-/
lemma failsLate_saveDownload {file : FileDescriptor} {destination : Option String}
    (hfile : validateFileDescriptor file = .ok ())
    (hdestination : (chosenDestination file destination).isOk = true) (bytes : Bytes)
    (force : Bool) :
    FailsWithin lateErrors (saveDownload tempfile faults file bytes destination force) := by
  have hsize (c : Prop) [Decidable c] :
      FailsWithin lateErrors (rejectIf c SaveError.SizeMismatch : SaveM Unit) :=
    failsWithin_rejectIf (by simp [lateErrors]) c
  refine (failsWithin_attempt (by rw [hfile]; rfl)).bind fun _ => (hsize _).bind fun _ =>
    (hsize _).bind fun _ => (failsWithin_attempt hdestination).bind fun path => ?_
  refine (total_get.failsWithin _).bind fun disk => ?_
  refine (failsWithin_rejectIf (by simp [lateErrors]) _).bind fun _ => ?_
  refine (failsLate_placeFile tempfile faults _ _ _ _).bind fun _ => ?_
  refine FailsWithin.bind ?_ fun _ => (total_pure path).failsWithin _
  exact (failsLate_rejectIf _).bind fun _ => failsLate_rejectIf _

end Repeated

/-! ## The invariant -/

/-- What the interface thread holds is checked. -/
structure DesktopApp.Checked (transfer : TransferCrates) (app : DesktopApp) : Prop where
  session : ∀ session, app.session = some session → session.Checked transfer
  files : validateSnapshot app.files = .ok ()
  requests : ∀ request ∈ app.worker.requests, request.kind.Checked
  responses : ∀ response ∈ app.worker.responses, response.kind.Checked transfer

structure System.Checked (transfer : TransferCrates) (system : System) : Prop where
  app : system.app.Checked transfer
  handling : ∀ request, system.handling = some request → request.kind.Checked

section Checked

variable {transfer : TransferCrates} {crates : AppCrates} {app app' : DesktopApp}

/-- The files and the session are kept or given up, and the channels are the same. -/
lemma DesktopApp.Checked.of_keepsOrClears (h : app.Checked transfer)
    (hfields : KeepsOrClears app app') (hworker : app'.worker = app.worker) :
    app'.Checked transfer := by
  have hchannels : (∀ request ∈ app'.worker.requests, request.kind.Checked) ∧
      ∀ response ∈ app'.worker.responses, response.kind.Checked transfer := by
    rw [hworker]
    exact ⟨h.requests, h.responses⟩
  rcases hfields with ⟨-, hsession, hfiles, -⟩ | ⟨-, hsession, hfiles, -⟩
  · refine ⟨fun session hsome => ?_, hfiles ▸ h.files, hchannels.1, hchannels.2⟩
    rcases hsession with hsame | hnone
    · exact h.session session (hsame ▸ hsome)
    · rw [hnone] at hsome
      cases hsome
  · refine ⟨fun session hsome => ?_, by rw [hfiles]; rfl, hchannels.1, hchannels.2⟩
    rw [hsession] at hsome
    cases hsome

lemma DesktopApp.Checked.authority (h : app.Checked transfer) {tunnelId : Uuid}
    {capability : String} (hauthority : app.sessionAuthority = some (tunnelId, capability)) :
    tunnelId ≠ 0 ∧ isBoundedToken capability := by
  obtain ⟨session, hsession, hpair⟩ := Option.map_eq_some_iff.mp hauthority
  cases hpair
  exact (h.session session hsession).authority

lemma isOk_chosenDestination {file : FileDescriptor} (h : validateFileDescriptor file = .ok ())
    (destination : Option String) : (chosenDestination file destination).isOk = true := by
  cases destination with
  | some path => rfl
  | none =>
      rw [validateFileDescriptor, rejectIf_eq_ok, not_not] at h
      exact h.2.1.2.2.2

/-- A request that carries what the app holds. -/
lemma DesktopApp.Checked.carries (h : app.Checked transfer) {kind : RequestKind}
    (hcarries : Carries crates app app' kind) : kind.Checked := by
  cases kind with
  | Create baseUrl applicationId => trivial
  | Refresh baseUrl tunnelId capability => exact h.authority hcarries.2.1
  | Cancel baseUrl tunnelId capability => exact h.authority hcarries.2
  | Download baseUrl tunnelId capability file destination force =>
      obtain ⟨-, hauthority, hselected⟩ := hcarries
      obtain ⟨htunnel, hcapability⟩ := h.authority hauthority
      have hmem : file ∈ app.files := by
        obtain ⟨hfound, -⟩ := Option.filter_eq_some_iff.mp hselected
        obtain ⟨id, -, hfind⟩ := Option.bind_eq_some_iff.mp hfound
        exact List.mem_of_find?_eq_some hfind
      have hfile := (validateSnapshot_eq_ok.mp h.files).2.1 file hmem
      exact ⟨htunnel, hcapability, hfile, isOk_chosenDestination hfile destination⟩

lemma DesktopApp.Checked.failDispatch (h : app.Checked transfer) (effect : Effect) :
    (app.failDispatch crates effect).Checked transfer := by
  obtain ⟨hkeeps, hworker⟩ := failDispatch_keeps crates app effect
  exact h.of_keepsOrClears (Or.inl hkeeps) hworker

lemma DesktopApp.Checked.send (h : app.Checked transfer) (env : Env) (effect : Effect)
    {kind : RequestKind} (hkind : kind.Checked) :
    (app.send crates env effect kind).Checked transfer := by
  rcases send_cases crates env app effect kind with ⟨-, heq⟩ | heq
  · rw [heq]
    refine ⟨h.session, h.files, fun request hrequest => ?_, h.responses⟩
    rcases List.mem_append.mp hrequest with hold | hnew
    · exact h.requests request hold
    · rw [List.mem_singleton.mp hnew]
      exact hkind
  · rw [heq]
    exact h.failDispatch effect

/-- Every method, by the way it ends. -/
lemma DesktopApp.Checked.ends (h : app.Checked transfer) {env : Env}
    (hends : Ends crates env app app') : app'.Checked transfer := by
  cases hends with
  | quiet hrests hworker hurl hsession hfiles hselected =>
      refine ⟨fun session hsome => h.session session (hsession ▸ hsome), hfiles ▸ h.files, ?_, ?_⟩
      · exact hworker ▸ h.requests
      · exact hworker ▸ h.responses
  | edit hnone hactive baseUrl => exact ⟨h.session, h.files, h.requests, h.responses⟩
  | sends hstarts hcarries =>
      exact (h.of_keepsOrClears hstarts.fields hstarts.worker).send env _
        (h.carries (hcarries app.worker))
  | fails hstarts => exact (h.of_keepsOrClears hstarts.fields hstarts.worker).failDispatch _

variable (hpicker : crates.picker.ControlsEffects) (env : Env)

include hpicker

lemma DesktopApp.Checked.accept (h : app.Checked transfer) {kind : ResponseKind}
    (hkind : kind.Checked transfer) : (app.accept crates env kind).Checked transfer := by
  cases kind with
  | Created session =>
      refine ⟨?_, h.files, h.requests, h.responses⟩
      rintro _ ⟨⟩
      exact hkind
  | Snapshot files =>
      simp only [DesktopApp.accept]
      split_ifs
      · exact ⟨by simp, hkind, h.requests, h.responses⟩
      · exact ⟨h.session, hkind, h.requests, h.responses⟩
  | Downloaded path =>
      have hmessage : { app with message := some "File saved successfully." }.Checked transfer :=
        ⟨h.session, h.files, h.requests, h.responses⟩
      exact hmessage.ends (refresh_ends hpicker env _)
  | Cancelled =>
      refine ⟨?_, rfl, h.requests, h.responses⟩
      simp [DesktopApp.accept, DesktopApp.clearFiles]
  | Failed message =>
      have hdropped := h.of_keepsOrClears (Or.inl (keeps_dropUnneededSession crates app))
        (dropUnneededSession_worker crates app)
      exact ⟨hdropped.session, hdropped.files, hdropped.requests, hdropped.responses⟩

lemma DesktopApp.Checked.processResponse (h : app.Checked transfer) {response : Response}
    (hkind : response.kind.Checked transfer) :
    (app.processResponse crates env response).Checked transfer := by
  rw [DesktopApp.processResponse]
  rcases app.complete_cases crates response.operation (response.kind.completion crates) with
    heq | ⟨next, -, -, -, heq⟩
  · rw [heq]
    exact h
  · rw [heq]
    refine DesktopApp.Checked.accept hpicker env ?_ hkind
    exact ⟨h.session, h.files, h.requests, h.responses⟩

/-- The step lemma. -/
lemma System.Checked.step {system : System} (h : system.Checked transfer) {input : SystemInput}
    (hinput : ∀ service, input = .Answer service → service.crates = transfer) :
    (system.step crates input).Checked transfer := by
  obtain ⟨happ, hhandling⟩ := h
  cases input with
  | Call env call => exact ⟨happ.ends (call_ends hpicker env system.app call), hhandling⟩
  | ProcessResponse env =>
      simp only [System.step, Worker.tryRecv]
      cases hresponses : system.app.worker.responses with
      | nil => exact ⟨happ, hhandling⟩
      | cons response responses =>
          have hall := happ.responses
          rw [hresponses] at hall
          refine ⟨DesktopApp.Checked.processResponse hpicker env ?_
            (hall response List.mem_cons_self), hhandling⟩
          exact ⟨happ.session, happ.files, happ.requests,
            fun other hmem => hall other (List.mem_cons_of_mem _ hmem)⟩
  | Recv =>
      simp only [System.step]
      cases hbusy : system.handling with
      | some request =>
          rw [hbusy] at hhandling
          exact ⟨happ, fun other hother => hhandling other (hbusy ▸ hother)⟩
      | none =>
          cases hrequests : system.app.worker.requests with
          | nil => exact ⟨happ, fun other hother => hhandling other hother⟩
          | cons request requests =>
              have hall := happ.requests
              rw [hrequests] at hall
              refine ⟨⟨happ.session, happ.files,
                fun other hmem => hall other (List.mem_cons_of_mem _ hmem), happ.responses⟩, ?_⟩
              rintro other ⟨⟩
              exact hall request List.mem_cons_self
  | Answer service =>
      simp only [System.step]
      cases hbusy : system.handling with
      | none => exact ⟨happ, fun other hother => hhandling other (hbusy ▸ hother)⟩
      | some request =>
          refine ⟨⟨happ.session, happ.files, happ.requests, fun response hresponse => ?_⟩, by simp⟩
          rcases List.mem_append.mp hresponse with hold | hnew
          · exact happ.responses response hold
          · rw [List.mem_singleton.mp hnew]
            exact hinput service rfl ▸ checked_handle service request.kind

end Checked

lemma checked_start (transfer : TransferCrates) (now : Instant) :
    (System.start now).Checked transfer :=
  ⟨⟨by simp [System.start, DesktopApp.default], rfl,
    by simp [System.start, DesktopApp.default, Worker.spawn],
    by simp [System.start, DesktopApp.default, Worker.spawn]⟩, by simp [System.start]⟩

/-- The requests that wait for the worker thread or are in its hands. -/
def System.UnderWay (system : System) (request : Request) : Prop :=
  request ∈ system.app.worker.requests ∨ system.handling = some request

/-- **Only checked data is used.**  In every reachable state the session would pass
`validate_tunnel` again and the files `validate_snapshot`, every request under way was built from
checked data, and a download under way can then not be refused for its descriptor when it is
saved. -/
theorem only_checked_data_is_used {crates : AppCrates} (h : crates.picker.Controlled)
    (transfer : TransferCrates) (now : Instant) (inputs : List SystemInput)
    (hservices : ∀ service, .Answer service ∈ inputs → service.crates = transfer) :
    let system := Machine.exec (System.step crates) (.start now) inputs
    (∀ session, system.app.session = some session → session.Checked transfer)
      ∧ validateSnapshot system.app.files = .ok ()
      ∧ ∀ request, system.UnderWay request → request.kind.Checked
        ∧ ∀ baseUrl tunnelId capability file destination force,
          request.kind = .Download baseUrl tunnelId capability file destination force →
            ∀ tempfile faults bytes, FailsWithin {.SizeMismatch, .MissingOutputDirectory, .Io}
              (saveDownload tempfile faults file bytes destination force) := by
  intro system
  have hinputs : Along (System.step crates)
      (fun _ input => ∀ service, input = .Answer service → service.crates = transfer)
      (.start now) inputs := by
    refine along_of_mem (fun input hmem _ service heq => hservices service ?_) _
    rw [← heq]
    exact hmem
  have hchecked : system.Checked transfer :=
    exec_invariant_along (fun _ _ hs hinput => hs.step h.controlsEffects hinput)
      (checked_start transfer now) hinputs
  have hunderWay : ∀ request, system.UnderWay request → request.kind.Checked := by
    rintro request (hwaiting | hhandling)
    · exact hchecked.app.requests request hwaiting
    · exact hchecked.handling request hhandling
  refine ⟨hchecked.app.session, hchecked.app.files, fun request hrequest => ?_⟩
  have hkind := hunderWay request hrequest
  refine ⟨hkind, ?_⟩
  intro baseUrl tunnelId capability file destination force heq tempfile faults bytes
  rw [heq] at hkind
  exact failsLate_saveDownload tempfile faults hkind.2.2.1 hkind.2.2.2 bytes force

section Example

/-- A tunnel is created, its files are listed, and one of them is about to be downloaded. -/
def exampleDownloadInputs : List SystemInput :=
  [.Call ⟨0, true⟩ .Create, .Recv, .Answer exampleService, .ProcessResponse ⟨1, true⟩,
    .Call ⟨2, true⟩ .Refresh, .Recv, .Answer exampleService, .ProcessResponse ⟨3, true⟩,
    .Call ⟨4, true⟩ (.SelectFile 1), .Call ⟨5, true⟩ .Download, .Recv]

/-- The download that the worker has in its hands at the end. -/
def exampleDownload : Request :=
  ⟨3, .Download "https://api.file-tunnel.dev" 1 exampleToken photo none false⟩

theorem only_checked_data_is_used_example :
    (Machine.exec (System.step exampleCrates) (.start 0) exampleDownloadInputs).UnderWay
        exampleDownload
      ∧ FailsWithin {.SizeMismatch, .MissingOutputDirectory, .Io}
        (saveDownload exampleTempfile syncFault photo photoBytes none false) := by
  have hhandling : (Machine.exec (System.step exampleCrates) (.start 0)
      exampleDownloadInputs).handling = some exampleDownload := by decide +kernel
  have hunderWay : (Machine.exec (System.step exampleCrates) (.start 0)
      exampleDownloadInputs).UnderWay exampleDownload := Or.inr hhandling
  have hcontrolled : exampleCrates.picker.Controlled := controlled_tablePicker
  obtain ⟨-, -, hchecked⟩ := only_checked_data_is_used hcontrolled exampleService.crates 0
    exampleDownloadInputs (by simp [exampleDownloadInputs])
  exact ⟨hunderWay, (hchecked exampleDownload hunderWay).2 _ _ _ _ _ _ rfl exampleTempfile
    syncFault photoBytes⟩

end Example

end FtnlDesktop.Receive
