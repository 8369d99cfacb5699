import FtnlDesktop.Receive.Conservation
import FtnlDesktop.Receive.Saving

/-!
# Authority never crosses sessions

The app keeps the address of the service, the session, the files and the selected file in fields
of their own, and a dozen methods write them.  What keeps them together is the history of the
requests that were sent and the answers that were accepted, so that history is carried along as a
ghost (`Traced`): the newest occurrence first, each accepted answer with the request it answers.
From it `produced` reads the session that is held and the create request that brought it, and
`lastSnapshot` the files that are shown and the refresh that brought them.

* **`Linked`** — the fields agree with the history: the address is the one the create request went
  to, the files are those of the last snapshot, the selected file is among them.
* **`authority_never_crosses`** — every refresh, download and cancel goes to the service that
  created the session whose tunnel id and capability it carries; every download asks for an
  available file of the last snapshot of that session; and the selected file is exactly one of the
  files at hand.

Each ending of a method leaves these fields alone, or edits the address, or starts one effect with
at most one request (`CallStep`).  While a request is under way only the first can happen.
-/

namespace FtnlDesktop.Receive

/-! ## The history -/

inductive Occurrence where
  /-- The app puts a request into the channel. -/
  | Sent (request : Request)
  /-- The app accepts an answer; `request` is the one it answers. -/
  | Accepted (request : Request) (response : Response)
deriving DecidableEq

/-- The session that the last accepted answer to a create request brought, and that request. -/
def produced : List Occurrence → Option (Request × ReceiveSession)
  | .Accepted request ⟨_, .Created session⟩ :: _ => some (request, session)
  | _ :: past => produced past
  | [] => none

/-- The files that the last accepted snapshot of the current session brought, and its request. -/
def lastSnapshot : List Occurrence → Option (Request × List FileDescriptor)
  | .Accepted request ⟨_, .Snapshot files⟩ :: _ => some (request, files)
  | .Accepted _ ⟨_, .Created _⟩ :: _ => none
  | _ :: past => lastSnapshot past
  | [] => none

/-- The system with its history. -/
structure Traced where
  system : System
  /-- The requests that the answers in the channel answer, the oldest first. -/
  answering : List Request
  /-- What was sent and accepted, the newest first. -/
  past : List Occurrence

def Traced.start (now : Instant) : Traced := ⟨.start now, [], []⟩

/-- The answer that the app is about to accept, if it is. -/
def Traced.accepted (crates : AppCrates) (self : Traced) : List Occurrence :=
  match self.system.app.worker.responses, self.answering with
  | response :: _, request :: _ =>
      if (self.system.app.complete crates response.operation
          (response.kind.completion crates)).1 then
        [.Accepted request response]
      else []
  | _, _ => []

/-- The requests that a step has put into the channel. -/
def Traced.sent (self : Traced) (next : System) : List Occurrence :=
  (next.app.worker.requests.drop self.system.app.worker.requests.length).map .Sent

def Traced.step (crates : AppCrates) (self : Traced) (input : SystemInput) : Traced :=
  let next := self.system.step crates input
  match input with
  | .Call _ _ => { self with system := next, past := self.sent next ++ self.past }
  | .ProcessResponse _ =>
      { system := next
        answering := self.answering.tail
        past := self.sent next ++ (self.accepted crates ++ self.past) }
  | .Recv => { self with system := next }
  | .Answer _ =>
      { self with system := next, answering := self.answering ++ self.system.handling.toList }

/-- The history changes nothing about the system. -/
lemma Traced.system_exec (crates : AppCrates) (self : Traced) (inputs : List SystemInput) :
    (Machine.exec (Traced.step crates) self inputs).system
      = Machine.exec (System.step crates) self.system inputs := by
  induction inputs generalizing self with
  | nil => rfl
  | cons input inputs ih =>
      rw [Machine.exec_cons, Machine.exec_cons, ih]
      cases input <;> rfl

/-! ## What is claimed of a request -/

/-- The tunnel id and the capability are those of one session, and the address is the one to which
the request that created it was sent. -/
def HasAuthority (past : List Occurrence) (baseUrl : String) (tunnelId : Uuid)
    (capability : String) : Prop :=
  ∃ request applicationId session, produced past = some (request, session) ∧
    request.kind = .Create baseUrl applicationId ∧ .Sent request ∈ past ∧
    session.tunnelId = tunnelId ∧ session.capability = capability

/-- The request is one the history entitles the app to send. -/
def Entitled (crates : AppCrates) (past : List Occurrence) : RequestKind → Prop
  | .Create _ _ => True
  | .Refresh baseUrl tunnelId capability => HasAuthority past baseUrl tunnelId capability
  | .Cancel baseUrl tunnelId capability => HasAuthority past baseUrl tunnelId capability
  | .Download baseUrl tunnelId capability file _ _ =>
      HasAuthority past baseUrl tunnelId capability ∧
        ∃ request files, lastSnapshot past = some (request, files) ∧
          request.kind = .Refresh baseUrl tunnelId capability ∧ file ∈ files ∧
          isAvailable crates file.status = true

/-! ## What one method does -/

section CallStep

/-- **The ways in which a method may end**, with the request it has sent. -/
inductive CallStep (crates : AppCrates) (app app' : DesktopApp) : Option Request → Prop
  /-- Nothing but the form has changed; a file may have been selected. -/
  | form (hurl : app'.baseUrl = app.baseUrl) (hsession : app'.session = app.session)
      (hfiles : app'.files = app.files)
      (hselected : app'.selectedFile = app.selectedFile
        ∨ ∃ file ∈ app.files, app'.selectedFile = some file.fileId)
      (hworker : app'.worker = app.worker) : CallStep crates app app' none
  /-- The address was edited, without a session and with nothing under way. -/
  | edit (hnone : app.session = none) (hactive : app.lifecycle.activeOperation = none)
      (hsession : app'.session = none) (hfiles : app'.files = app.files)
      (hselected : app'.selectedFile = app.selectedFile) (hworker : app'.worker = app.worker) :
      CallStep crates app app' none
  /-- An effect was started, and sent or not. -/
  | began {sent : Option Request}
      (hfree : (crates.picker.metadata app.lifecycle.state).inFlight = false)
      (hkeeps : KeepsOrClears app app')
      (hworker : app'.worker
        = { app.worker with requests := app.worker.requests ++ sent.toList })
      (hsent : ∀ request ∈ sent, Carries crates app app' request.kind) :
      CallStep crates app app' sent

variable {crates : AppCrates}

/-- A started effect that is given up has sent nothing. -/
lemma Starts.callStep_failDispatch (h : crates.picker.Controlled) {app app' : DesktopApp}
    {kind : EffectKind} (hstarts : Starts crates.picker app app' kind) :
    CallStep crates app
      (app'.failDispatch crates ⟨app.lifecycle.nextOperation, kind⟩) none := by
  obtain ⟨⟨command, ht⟩, -, hworker, hfields⟩ := hstarts
  obtain ⟨hkeeps, hworker'⟩ :=
    failDispatch_keeps crates app' ⟨app.lifecycle.nextOperation, kind⟩
  refine .began (h.command _ _ _ ht) (hfields.trans hkeeps) ?_ ?_
  · rw [hworker', hworker, Option.toList_none, List.append_nil]
  · simp

/-- **Every ending** sends at most one request. -/
lemma Ends.callStep (h : crates.picker.Controlled) {env : Env} {app app' : DesktopApp}
    (hends : Ends crates env app app') : ∃ sent, CallStep crates app app' sent := by
  cases hends with
  | quiet hrests hworker hurl hsession hfiles hselected =>
      exact ⟨none, .form hurl hsession hfiles hselected hworker⟩
  | edit hnone hactive baseUrl => exact ⟨none, .edit hnone hactive hnone rfl rfl rfl⟩
  | @sends app₁ kind request hstarts hcarries =>
      rcases send_cases crates env app₁ ⟨app.lifecycle.nextOperation, kind⟩ request with
        ⟨-, heq⟩ | heq
      · obtain ⟨⟨command, ht⟩, -, hworker, hfields⟩ := hstarts
        refine ⟨some ⟨app.lifecycle.nextOperation, request⟩, ?_⟩
        rw [heq]
        refine .began (h.command _ _ _ ht) (hfields.trans ⟨rfl, Or.inl rfl, rfl, rfl⟩) ?_ ?_
        · rw [hworker]
          rfl
        · rintro request' ⟨⟩
          exact hcarries _
      · rw [heq]
        exact ⟨none, hstarts.callStep_failDispatch h⟩
  | fails hstarts => exact ⟨none, hstarts.callStep_failDispatch h⟩

end CallStep

/-! ## The fields and the history -/

/-- The fields of the app agree with the history. -/
structure Linked (past : List Occurrence) (app : DesktopApp) : Prop where
  ids : (app.files.map fun file => file.fileId).Nodup
  selected : ∀ id, app.selectedFile = some id → ∃ file ∈ app.files, file.fileId = id
  session : ∀ tunnelId capability, app.sessionAuthority = some (tunnelId, capability) →
    HasAuthority past app.baseUrl tunnelId capability
  files : ∀ tunnelId capability, app.sessionAuthority = some (tunnelId, capability) →
    app.files = [] ∨ ∃ request, lastSnapshot past = some (request, app.files) ∧
      request.kind = .Refresh app.baseUrl tunnelId capability

/-- A request under way was sent, and the app still holds what its answer belongs to. -/
structure Awaited (past : List Occurrence) (app : DesktopApp) (request : Request) : Prop where
  sent : .Sent request ∈ past
  create : ∀ baseUrl applicationId, request.kind = .Create baseUrl applicationId →
    baseUrl = app.baseUrl ∧ app.session = none ∧ app.files = []
  refresh : ∀ baseUrl tunnelId capability, request.kind = .Refresh baseUrl tunnelId capability →
    baseUrl = app.baseUrl ∧ app.sessionAuthority = some (tunnelId, capability)

/-- The request was sent when the history entitled the app to send it. -/
def AllEntitled (crates : AppCrates) : List Occurrence → Prop
  | .Sent request :: past => Entitled crates past request.kind ∧ AllEntitled crates past
  | .Accepted _ _ :: past => AllEntitled crates past
  | [] => True

section Links

variable {crates : AppCrates} {past : List Occurrence} {app app' : DesktopApp}
  {sent : Option Request}

lemma sessionAuthority_of_session (h : app'.session = app.session) :
    app'.sessionAuthority = app.sessionAuthority := by
  rw [DesktopApp.sessionAuthority, DesktopApp.sessionAuthority, h]

lemma sessionAuthority_of_none (h : app.session = none) : app.sessionAuthority = none := by
  rw [DesktopApp.sessionAuthority, h, Option.map_none]

/-- An occurrence that brings neither a session nor files leaves the links as they are. -/
lemma Linked.cons (h : Linked past app) {occurrence : Occurrence}
    (hproduced : produced (occurrence :: past) = produced past)
    (hsnapshot : lastSnapshot (occurrence :: past) = lastSnapshot past) :
    Linked (occurrence :: past) app where
  ids := h.ids
  selected := h.selected
  session := by
    intro tunnelId capability hauthority
    obtain ⟨request, applicationId, session, hsession, hkind, hsent, hids⟩ :=
      h.session tunnelId capability hauthority
    exact ⟨request, applicationId, session, hproduced.trans hsession, hkind,
      List.mem_cons_of_mem _ hsent, hids⟩
  files := by
    intro tunnelId capability hauthority
    rw [hsnapshot]
    exact h.files tunnelId capability hauthority

/-- Without a session only the files have to agree among themselves. -/
lemma linked_of_none (hnone : app.session = none)
    (hids : (app.files.map fun file => file.fileId).Nodup)
    (hselected : ∀ id, app.selectedFile = some id → ∃ file ∈ app.files, file.fileId = id) :
    Linked past app where
  ids := hids
  selected := hselected
  session := by
    intro tunnelId capability hauthority
    exact nomatch (sessionAuthority_of_none hnone).symm.trans hauthority
  files := by
    intro tunnelId capability hauthority
    exact nomatch (sessionAuthority_of_none hnone).symm.trans hauthority

/-- Fields that are kept stay linked. -/
lemma Linked.keeps (h : Linked past app) (hkeeps : Keeps app app') : Linked past app' := by
  obtain ⟨hurl, hsession, hfiles, hselected⟩ := hkeeps
  rcases hsession with hsame | hnone
  · have hauthority := sessionAuthority_of_session hsame
    refine ⟨?_, ?_, ?_, ?_⟩
    · rw [hfiles]
      exact h.ids
    · rw [hfiles, hselected]
      exact h.selected
    · rw [hauthority, hurl]
      exact h.session
    · rw [hauthority, hfiles, hurl]
      exact h.files
  · refine linked_of_none hnone ?_ ?_
    · rw [hfiles]
      exact h.ids
    · rw [hfiles, hselected]
      exact h.selected

/-- **A method keeps the links.** -/
lemma Linked.callStep (h : Linked past app) (hstep : CallStep crates app app' sent) :
    Linked past app' := by
  cases hstep with
  | form hurl hsession hfiles hselected hworker =>
      have hauthority := sessionAuthority_of_session hsession
      refine ⟨?_, ?_, ?_, ?_⟩
      · rw [hfiles]
        exact h.ids
      · rw [hfiles]
        rcases hselected with hsame | ⟨file, hmem, hfile⟩
        · rw [hsame]
          exact h.selected
        · intro id hid
          exact ⟨file, hmem, Option.some.inj (hfile.symm.trans hid)⟩
      · rw [hauthority, hurl]
        exact h.session
      · rw [hauthority, hfiles, hurl]
        exact h.files
  | edit hnone hactive hsession hfiles hselected hworker =>
      refine linked_of_none hsession ?_ ?_
      · rw [hfiles]
        exact h.ids
      · rw [hfiles, hselected]
        exact h.selected
  | began hfree hkeeps hworker hsent =>
      rcases hkeeps with hkeeps | ⟨-, hnone, hfiles, hselected⟩
      · exact h.keeps hkeeps
      · refine linked_of_none hnone ?_ ?_
        · rw [hfiles]
          exact List.nodup_nil
        · intro id hid
          exact nomatch hselected.symm.trans hid

/-- **What a method sends it is entitled to send.** -/
lemma Linked.entitled (h : Linked past app) (hstep : CallStep crates app app' sent) :
    ∀ request ∈ sent, Entitled crates past request.kind := by
  cases hstep with
  | form => exact nofun
  | edit => exact nofun
  | began hfree hkeeps hworker hsent =>
      intro request hrequest
      have hcarries := hsent request hrequest
      cases hkind : request.kind with
      | Create baseUrl applicationId => trivial
      | Refresh baseUrl tunnelId capability =>
          rw [hkind] at hcarries
          obtain ⟨rfl, hauthority, -⟩ := hcarries
          exact h.session _ _ hauthority
      | Cancel baseUrl tunnelId capability =>
          rw [hkind] at hcarries
          obtain ⟨rfl, hauthority⟩ := hcarries
          exact h.session _ _ hauthority
      | Download baseUrl tunnelId capability file destination force =>
          rw [hkind] at hcarries
          obtain ⟨rfl, hauthority, hfile⟩ := hcarries
          obtain ⟨hselected, havailable⟩ := Option.filter_eq_some_iff.mp hfile
          obtain ⟨id, -, hfind⟩ := Option.bind_eq_some_iff.mp hselected
          have hmem : file ∈ app.files := List.mem_of_find?_eq_some hfind
          refine ⟨h.session _ _ hauthority, ?_⟩
          rcases h.files _ _ hauthority with hnil | ⟨request', hsnapshot, hrefresh⟩
          · rw [hnil] at hmem
            exact absurd hmem List.not_mem_nil
          · exact ⟨request', app.files, hsnapshot, hrefresh, hmem, havailable⟩

/-- What a method sends is then awaited. -/
lemma CallStep.awaited (hstep : CallStep crates app app' sent) :
    ∀ request ∈ sent, .Sent request ∈ past → Awaited past app' request := by
  cases hstep with
  | form => exact nofun
  | edit => exact nofun
  | began hfree hkeeps hworker hsent =>
      intro request hrequest hpast
      have hcarries := hsent request hrequest
      have hurl : app'.baseUrl = app.baseUrl := by
        rcases hkeeps with hkeeps | ⟨hurl, -⟩
        · exact hkeeps.baseUrl
        · exact hurl
      refine ⟨hpast, ?_, ?_⟩
      · intro baseUrl applicationId hkind
        rw [hkind] at hcarries
        obtain ⟨rfl, hnone, hfiles⟩ := hcarries
        exact ⟨hurl.symm, hnone, hfiles⟩
      · intro baseUrl tunnelId capability hkind
        rw [hkind] at hcarries
        obtain ⟨rfl, hauthority, hsession⟩ := hcarries
        exact ⟨hurl.symm, (sessionAuthority_of_session hsession).trans hauthority⟩

lemma CallStep.worker_eq (hstep : CallStep crates app app' sent) :
    app'.worker = { app.worker with requests := app.worker.requests ++ sent.toList } := by
  cases hstep with
  | form _ _ _ _ hworker => rw [hworker, Option.toList_none, List.append_nil]
  | edit _ _ _ _ _ hworker => rw [hworker, Option.toList_none, List.append_nil]
  | began _ _ hworker _ => exact hworker

end Links

/-! ## What the worker answers -/

/-- The response is one that the worker gives to the request, on some service. -/
def Answers (response : Response) (request : Request) : Prop :=
  response.operation = request.operation ∧
    ∃ service, response.kind = handle service request.kind

section Answers

variable {crates : AppCrates} {past : List Occurrence} {app : DesktopApp} {request : Request}
  {operation : OperationId}

lemma failed_eq (error : ClientError) : ∃ message, failed error = .Failed message := by
  cases error with
  | Api status =>
      simp only [failed]
      split_ifs
      · exact ⟨_, rfl⟩
      · exact ⟨_, rfl⟩
      · exact ⟨_, rfl⟩
  | _ => exact ⟨_, rfl⟩

/-- A session comes from a create request. -/
lemma Answers.created {session : ReceiveSession}
    (h : Answers ⟨operation, .Created session⟩ request) :
    ∃ baseUrl applicationId, request.kind = .Create baseUrl applicationId := by
  obtain ⟨-, service, hkind⟩ := h
  have hserves := serves_handle service request.kind
  rw [← hkind] at hserves
  cases hrequest : request.kind with
  | Create baseUrl applicationId => exact ⟨baseUrl, applicationId, rfl⟩
  | _ =>
      rw [hrequest] at hserves
      cases hserves

/-- Files come from a refresh, and only if the snapshot is valid. -/
lemma Answers.snapshot {files : List FileDescriptor}
    (h : Answers ⟨operation, .Snapshot files⟩ request) :
    (∃ baseUrl tunnelId capability, request.kind = .Refresh baseUrl tunnelId capability)
      ∧ validateSnapshot files = .ok () := by
  obtain ⟨-, service, hkind⟩ := h
  have hserves := serves_handle service request.kind
  rw [← hkind] at hserves
  cases hrequest : request.kind with
  | Refresh baseUrl tunnelId capability =>
      refine ⟨⟨baseUrl, tunnelId, capability, rfl⟩, ?_⟩
      rw [hrequest] at hkind
      simp only [handle] at hkind
      split at hkind
      · cases hkind
      · split at hkind
        · split at hkind
          · cases hkind
          · cases hkind
            assumption
        · next error _ =>
            obtain ⟨message, hfailed⟩ := failed_eq error
            rw [hfailed] at hkind
            cases hkind
  | _ =>
      rw [hrequest] at hserves
      cases hserves

variable (env : Env)

/-- The new session is linked to the create request that brought it. -/
lemma Linked.created (h : Linked past app) (hawaited : Awaited past app request)
    {session : ReceiveSession} (hanswers : Answers ⟨operation, .Created session⟩ request) :
    Linked (.Accepted request ⟨operation, .Created session⟩ :: past)
      (app.accept crates env (.Created session)) where
  ids := h.ids
  selected := h.selected
  session := by
    rintro tunnelId capability ⟨⟩
    obtain ⟨baseUrl, applicationId, hkind⟩ := hanswers.created
    obtain ⟨rfl, -, -⟩ := hawaited.create _ _ hkind
    exact ⟨request, applicationId, session, rfl, hkind, List.mem_cons_of_mem _ hawaited.sent,
      rfl, rfl⟩
  files := by
    intro tunnelId capability _
    obtain ⟨baseUrl, applicationId, hkind⟩ := hanswers.created
    exact Or.inl (hawaited.create _ _ hkind).2.2

/-- The new files are linked to the refresh that brought them. -/
lemma Linked.snapshot (h : Linked past app) (hawaited : Awaited past app request)
    {files : List FileDescriptor} (hanswers : Answers ⟨operation, .Snapshot files⟩ request) :
    Linked (.Accepted request ⟨operation, .Snapshot files⟩ :: past)
      (app.accept crates env (.Snapshot files)) := by
  obtain ⟨⟨baseUrl, tunnelId, capability, hkind⟩, hvalid⟩ := hanswers.snapshot
  obtain ⟨rfl, hauthority⟩ := hawaited.refresh _ _ _ hkind
  have hids : (files.map fun file => file.fileId).Nodup := (validateSnapshot_eq_ok.mp hvalid).2.2
  have hselected : ∀ id, (app.selectedFile.filter fun id =>
      files.any fun file => file.fileId = id) = some id → ∃ file ∈ files, file.fileId = id := by
    intro id hid
    simpa using (Option.filter_eq_some_iff.mp hid).2
  simp only [DesktopApp.accept]
  split_ifs
  · exact linked_of_none rfl hids hselected
  · refine ⟨hids, hselected, ?_, ?_⟩
    · intro tunnelId' capability' hauthority'
      obtain ⟨created, applicationId, session, hproduced, hcreate, hsent, hsame⟩ :=
        h.session tunnelId' capability' hauthority'
      exact ⟨created, applicationId, session, hproduced, hcreate, List.mem_cons_of_mem _ hsent,
        hsame⟩
    · intro tunnelId' capability' hauthority'
      obtain ⟨rfl, rfl⟩ : tunnelId = tunnelId' ∧ capability = capability' := by
        simpa using hauthority.symm.trans hauthority'
      exact Or.inr ⟨request, rfl, hkind⟩

variable (crates) in
/-- **An accepted answer keeps the links.**  After a download the app goes on with a refresh. -/
lemma Linked.accept (h : Linked past app) (hawaited : Awaited past app request)
    {response : Response} (hanswers : Answers response request)
    (hkind : ∀ path, response.kind ≠ .Downloaded path) :
    Linked (.Accepted request response :: past) (app.accept crates env response.kind)
      ∧ (app.accept crates env response.kind).worker = app.worker := by
  obtain ⟨operation, kind⟩ := response
  cases kind with
  | Created session => exact ⟨h.created env hawaited hanswers, rfl⟩
  | Snapshot files =>
      refine ⟨h.snapshot env hawaited hanswers, ?_⟩
      simp only [DesktopApp.accept]
      split_ifs
      · rfl
      · rfl
  | Downloaded path => exact absurd rfl (hkind path)
  | Cancelled =>
      refine ⟨linked_of_none rfl List.nodup_nil ?_, rfl⟩
      intro id hid
      cases hid
  | Failed message =>
      obtain ⟨hurl, hsession, hfiles, hselected⟩ := keeps_dropUnneededSession crates app
      exact ⟨(h.cons rfl rfl).keeps ⟨hurl, hsession, hfiles, hselected⟩,
        dropUnneededSession_worker crates app⟩

end Answers

/-! ## The invariant -/

/-- The requests that have not been answered to the app yet, the oldest first. -/
def Traced.underWay (self : Traced) : List Request :=
  self.answering ++ self.system.handling.toList ++ self.system.app.worker.requests

structure Traced.Inv (crates : AppCrates) (traced : Traced) : Prop where
  conserved : traced.system.Inv crates
  linked : Linked traced.past traced.system.app
  awaited : ∀ request ∈ traced.underWay, Awaited traced.past traced.system.app request
  answers : List.Forall₂ Answers traced.system.app.worker.responses traced.answering
  accepted : ∀ request response, .Accepted request response ∈ traced.past →
    .Sent request ∈ traced.past ∧ Answers response request
  entitled : AllEntitled crates traced.past

section Invariant

variable {crates : AppCrates} {past : List Occurrence} {app app' : DesktopApp}
  {handling : Option Request} {answering : List Request}

/-- With nothing under way no request is awaited. -/
lemma underWay_of_messages (hnone : System.messages ⟨app, handling⟩ = [])
    (hanswers : List.Forall₂ Answers app.worker.responses answering) :
    Traced.underWay ⟨⟨app, handling⟩, answering, past⟩ = [] := by
  simp only [System.messages, List.append_eq_nil_iff, List.map_eq_nil_iff] at hnone
  obtain ⟨⟨hresponses, hhandling⟩, hrequests⟩ := hnone
  rw [hresponses, List.forall₂_nil_left_iff] at hanswers
  simp [Traced.underWay, hanswers, hhandling, hrequests]

/-- The form does not touch what a request waits for. -/
lemma Awaited.form {request : Request} (h : Awaited past app request)
    (hurl : app'.baseUrl = app.baseUrl) (hsession : app'.session = app.session)
    (hfiles : app'.files = app.files) : Awaited past app' request where
  sent := h.sent
  create := by
    rw [hurl, hsession, hfiles]
    exact h.create
  refresh := by
    rw [hurl, sessionAuthority_of_session hsession]
    exact h.refresh

/-- A method that starts something, or edits the address, finds nothing under way. -/
lemma Traced.Inv.underWay_eq_nil (h : crates.picker.Controlled)
    (hinv : Traced.Inv crates ⟨⟨app, handling⟩, answering, past⟩)
    (hfree : (crates.picker.metadata app.lifecycle.state).inFlight = false
      ∨ app.lifecycle.activeOperation = none) :
    Traced.underWay ⟨⟨app, handling⟩, answering, past⟩ = [] := by
  rcases hfree with hfree | hactive
  · exact underWay_of_messages (hinv.conserved.of_free h hfree) hinv.answers
  · obtain ⟨-, hnone, -, -⟩ := hinv.conserved.conserved h
    exact underWay_of_messages (hnone hactive) hinv.answers

/-- **A method keeps the invariant.** -/
lemma Traced.Inv.callStep (h : crates.picker.Controlled)
    (hinv : Traced.Inv crates ⟨⟨app, handling⟩, answering, past⟩) {sent : Option Request}
    (hstep : CallStep crates app app' sent) (hconserved : System.Inv crates ⟨app', handling⟩) :
    Traced.Inv crates ⟨⟨app', handling⟩, answering, sent.toList.map .Sent ++ past⟩ := by
  have hworker := hstep.worker_eq
  cases sent with
  | none =>
      rw [Option.toList_none, List.append_nil] at hworker
      refine ⟨hconserved, hinv.linked.callStep hstep, ?_, hworker ▸ hinv.answers, hinv.accepted,
        hinv.entitled⟩
      intro request hrequest
      replace hrequest : request ∈ Traced.underWay ⟨⟨app, handling⟩, answering, past⟩ := by
        simpa only [Traced.underWay, hworker] using hrequest
      cases hstep with
      | form hurl hsession hfiles _ _ =>
          exact (hinv.awaited request hrequest).form hurl hsession hfiles
      | edit _ hactive _ _ _ _ =>
          rw [hinv.underWay_eq_nil h (Or.inr hactive)] at hrequest
          exact absurd hrequest List.not_mem_nil
      | began hfree _ _ _ =>
          rw [hinv.underWay_eq_nil h (Or.inl hfree)] at hrequest
          exact absurd hrequest List.not_mem_nil
  | some request =>
      have hentitled := hinv.linked.entitled hstep request rfl
      have hawaited : Awaited (.Sent request :: past) app' request :=
        hstep.awaited request rfl List.mem_cons_self
      have hlinked : Linked (.Sent request :: past) app' :=
        (hinv.linked.callStep hstep).cons rfl rfl
      refine ⟨hconserved, hlinked, ?_, ?_, ?_, hentitled, hinv.entitled⟩
      · cases hstep with
        | began hfree _ _ _ =>
            -- what was sent is the only request under way
            have hnone := hinv.underWay_eq_nil h (Or.inl hfree)
            intro request' hrequest'
            obtain rfl : request' = request := by
              simp only [Traced.underWay, hworker, List.append_assoc] at hnone hrequest'
              simpa [← List.append_assoc, hnone] using hrequest'
            exact hawaited
      · rw [hworker]
        exact hinv.answers
      · intro request' response' hmem
        obtain ⟨hsent, hanswers⟩ := hinv.accepted request' response' (by simpa using hmem)
        exact ⟨List.mem_cons_of_mem _ hsent, hanswers⟩

lemma Traced.sent_eq {t : Traced} {next : System} {sent : List Request}
    (h : next.app.worker.requests = t.system.app.worker.requests ++ sent) :
    t.sent next = sent.map .Sent := by
  rw [Traced.sent, h, List.drop_left]

/-- Right after an answer was accepted nothing is under way. -/
lemma Traced.Inv.accepted_cons {request : Request} {response : Response}
    (hinv : Traced.Inv crates ⟨⟨app, handling⟩, [request], past⟩)
    (hanswer : Answers response request) (hconserved : System.Inv crates ⟨app', none⟩)
    (hworker : app'.worker = ⟨[], []⟩)
    (hlinked : Linked (.Accepted request response :: past) app') :
    Traced.Inv crates ⟨⟨app', none⟩, [], .Accepted request response :: past⟩ := by
  refine ⟨hconserved, hlinked, ?_, ?_, ?_, hinv.entitled⟩
  · simp [Traced.underWay, hworker]
  · rw [hworker]
    exact .nil
  · intro request' response' hmem
    rcases List.mem_cons.mp hmem with heq | hmem
    · cases heq
      have hsent := (hinv.awaited request (by simp [Traced.underWay])).sent
      exact ⟨List.mem_cons_of_mem _ hsent, hanswer⟩
    · obtain ⟨hsent, hanswers⟩ := hinv.accepted request' response' hmem
      exact ⟨List.mem_cons_of_mem _ hsent, hanswers⟩

/-- The answer at the head of its channel belongs to the only request under way. -/
lemma Traced.Inv.head (h : crates.picker.Controlled)
    (hinv : Traced.Inv crates ⟨⟨app, handling⟩, answering, past⟩) {response : Response}
    {responses : List Response} (hresponses : app.worker.responses = response :: responses) :
    ∃ request, answering = [request] ∧ Answers response request ∧ Awaited past app request ∧
      handling = none ∧ app.worker.requests = [] := by
  obtain ⟨-, -, -, -, -, rfl, hhandling, hrequests⟩ := hinv.conserved.answer_accepted h hresponses
  have hanswers := hinv.answers
  rw [hresponses] at hanswers
  obtain ⟨request, answering', hanswer, hnil, rfl⟩ := List.forall₂_cons_left_iff.mp hanswers
  obtain rfl := List.forall₂_nil_left_iff.mp hnil
  exact ⟨request, rfl, hanswer, hinv.awaited request (by simp [Traced.underWay]), hhandling,
    hrequests⟩

/-- **An accepted answer keeps the invariant.**  After a download the app goes on with a refresh;
otherwise nothing is sent. -/
lemma Traced.Inv.accept (h : crates.picker.Controlled) (env : Env) {request : Request}
    {response : Response} (hinv : Traced.Inv crates ⟨⟨app, handling⟩, [request], past⟩)
    (hanswer : Answers response request) (hawaited : Awaited past app' request)
    (hlinked : Linked past app') (hworker : app'.worker = ⟨[], []⟩)
    (hafter : System.Inv crates ⟨app', none⟩)
    (hconserved : System.Inv crates ⟨app'.accept crates env response.kind, none⟩) :
    Traced.Inv crates ⟨⟨app'.accept crates env response.kind, none⟩, [],
      (app'.accept crates env response.kind).worker.requests.map .Sent
        ++ .Accepted request response :: past⟩ := by
  by_cases hkind : ∃ path, response.kind = .Downloaded path
  · obtain ⟨path, hkind⟩ := hkind
    obtain ⟨operation, kind⟩ := response
    subst hkind
    -- the accepted answer changes nothing yet, then the app refreshes
    obtain ⟨sent, hcall⟩ := (refresh_ends h.controlsEffects env
      { app' with message := some "File saved successfully." }).callStep h
    have hrequests : (DesktopApp.accept crates env app' (.Downloaded path)).worker.requests
        = sent.toList := by
      rw [DesktopApp.accept, hcall.worker_eq]
      simp [hworker]
    rw [hrequests]
    refine Traced.Inv.callStep h ?_ hcall hconserved
    exact hinv.accepted_cons hanswer hafter hworker
      ((hlinked.cons rfl rfl).keeps ⟨rfl, Or.inl rfl, rfl, rfl⟩)
  · obtain ⟨hlinked', hworker'⟩ :=
      hlinked.accept crates env hawaited hanswer (by simpa using hkind)
    rw [hworker'.trans hworker]
    exact hinv.accepted_cons hanswer hconserved (hworker'.trans hworker) hlinked'

variable {t : Traced} (hinv : t.Inv crates)

include hinv

/-- Taking a request leaves the same requests under way. -/
lemma Traced.Inv.recv : (t.step crates .Recv).Inv crates := by
  obtain ⟨⟨app, handling⟩, answering, past⟩ := t
  have hconserved := hinv.conserved.recv
  simp only [Traced.step, System.step] at hconserved ⊢
  cases handling with
  | some request => exact hinv
  | none =>
      cases hrequests : app.worker.requests with
      | nil => simpa only [hrequests] using hinv
      | cons request requests =>
          simp only [hrequests] at hconserved ⊢
          refine ⟨hconserved, hinv.linked.keeps ⟨rfl, Or.inl rfl, rfl, rfl⟩, ?_, hinv.answers,
            hinv.accepted, hinv.entitled⟩
          intro request' hrequest'
          refine (hinv.awaited request' ?_).form rfl rfl rfl
          simpa [Traced.underWay, hrequests] using hrequest'

/-- An answer stands for its request. -/
lemma Traced.Inv.answer (service : Service) : (t.step crates (.Answer service)).Inv crates := by
  obtain ⟨⟨app, handling⟩, answering, past⟩ := t
  have hconserved := hinv.conserved.answer service
  simp only [Traced.step, System.step] at hconserved ⊢
  cases handling with
  | none => simpa using hinv
  | some request =>
      refine ⟨hconserved, hinv.linked.keeps ⟨rfl, Or.inl rfl, rfl, rfl⟩, ?_, ?_, hinv.accepted,
        hinv.entitled⟩
      · intro request' hrequest'
        refine (hinv.awaited request' ?_).form rfl rfl rfl
        simpa [Traced.underWay] using hrequest'
      · exact List.rel_append hinv.answers (.cons ⟨rfl, service, rfl⟩ .nil)

variable (h : crates.picker.Controlled) (env : Env)

include h

lemma Traced.Inv.call (call : UserCall) : (t.step crates (.Call env call)).Inv crates := by
  obtain ⟨sent, hstep⟩ := (call_ends h.controlsEffects env t.system.app call).callStep h
  have hsent : t.sent (t.system.step crates (.Call env call)) = sent.toList.map .Sent :=
    Traced.sent_eq (by rw [System.step, hstep.worker_eq])
  simp only [Traced.step, hsent]
  exact hinv.callStep h hstep (hinv.conserved.step h (.Call env call))

lemma Traced.Inv.processResponse : (t.step crates (.ProcessResponse env)).Inv crates := by
  obtain ⟨⟨app, handling⟩, answering, past⟩ := t
  cases hresponses : app.worker.responses with
  | nil =>
      have hanswers := hinv.answers
      rw [hresponses, List.forall₂_nil_left_iff] at hanswers
      subst hanswers
      simpa [Traced.step, System.step, Worker.tryRecv, Traced.sent, Traced.accepted, hresponses]
        using hinv
  | cons response responses =>
      have hconserved := hinv.conserved.step h (.ProcessResponse env)
      obtain ⟨request, rfl, hanswer, hawaited, rfl, hrequests⟩ := hinv.head h hresponses
      obtain ⟨app', ⟨lifecycle, happ⟩, hafter, -, -, hcomplete, hstep⟩ :=
        hinv.conserved.after_complete h hresponses env
      have haccepted : Traced.accepted crates ⟨⟨app, none⟩, [request], past⟩
          = [.Accepted request response] := by
        simp only [Traced.accepted, hresponses]
        rw [if_pos hcomplete]
      have hawaited' : Awaited past app' request := by
        rw [happ]
        exact hawaited.form rfl rfl rfl
      have hlinked : Linked past app' := by
        rw [happ]
        exact hinv.linked.keeps ⟨rfl, Or.inl rfl, rfl, rfl⟩
      have hworker : app'.worker = ⟨[], []⟩ := by
        rw [happ, ← hrequests]
      have hsent : Traced.sent ⟨⟨app, none⟩, [request], past⟩
          ⟨app'.accept crates env response.kind, none⟩
            = (app'.accept crates env response.kind).worker.requests.map .Sent :=
        Traced.sent_eq (by simp only [hrequests, List.nil_append])
      rw [hstep] at hconserved
      simp only [Traced.step, hstep, haccepted, hsent]
      exact hinv.accept h env hanswer hawaited' hlinked hworker hafter hconserved

/-- **Every step keeps the invariant.** -/
theorem Traced.Inv.step (input : SystemInput) : (t.step crates input).Inv crates := by
  cases input with
  | Call env call => exact hinv.call h env call
  | ProcessResponse env => exact hinv.processResponse h env
  | Recv => exact hinv.recv
  | Answer service => exact hinv.answer service

end Invariant

/-! ## Every run -/

/-- What is claimed of the system and its history. -/
structure Traced.Authorised (crates : AppCrates) (traced : Traced) : Prop where
  /-- The history names every request in the system. -/
  sent : ∀ request, .Request request ∈ traced.system.messages → .Sent request ∈ traced.past
  /-- An accepted answer is the worker's answer to the request that the history names. -/
  accepted : ∀ request response, .Accepted request response ∈ traced.past →
    .Sent request ∈ traced.past ∧ Answers response request
  entitled : ∀ later request earlier, traced.past = later ++ .Sent request :: earlier →
    Entitled crates earlier request.kind
  selected : ∀ id, traced.system.app.selectedFile = some id →
    (traced.system.app.files.map fun file => file.fileId).count id = 1

lemma AllEntitled.sent {crates : AppCrates} {later earlier : List Occurrence} {request : Request}
    (h : AllEntitled crates (later ++ .Sent request :: earlier)) :
    Entitled crates earlier request.kind := by
  induction later with
  | nil => exact h.1
  | cons occurrence later ih =>
      cases occurrence with
      | Sent request' => exact ih h.2
      | Accepted request' response => exact ih h

/-- The invariant says all of it. -/
lemma Traced.Inv.authorised {crates : AppCrates} {t : Traced} (hinv : t.Inv crates) :
    t.Authorised crates where
  sent := by
    intro request hmem
    refine (hinv.awaited request ?_).sent
    simp only [System.messages, List.mem_append, List.mem_map, reduceCtorEq, and_false,
      exists_false, Message.Request.injEq, exists_eq_right, false_or] at hmem
    simp only [Traced.underWay, List.mem_append]
    rcases hmem with hhandling | hrequests
    · exact Or.inl (Or.inr hhandling)
    · exact Or.inr hrequests
  accepted := hinv.accepted
  entitled := by
    intro later request earlier hpast
    have hentitled := hinv.entitled
    rw [hpast] at hentitled
    exact hentitled.sent
  selected := by
    intro id hid
    obtain ⟨file, hmem, hfile⟩ := hinv.linked.selected id hid
    exact List.count_eq_one_of_mem hinv.linked.ids (List.mem_map.mpr ⟨file, hmem, hfile⟩)

lemma Traced.inv_start {crates : AppCrates} (h : crates.picker.Controlled) (now : Instant) :
    (Traced.start now).Inv crates where
  conserved := System.inv_start crates h.idle now
  linked := linked_of_none rfl List.nodup_nil nofun
  awaited := nofun
  answers := .nil
  accepted := nofun
  entitled := trivial

/-- **No request crosses from one session to another**, in any interleaving. -/
theorem authority_never_crosses {crates : AppCrates} (h : crates.picker.Controlled)
    (now : Instant) (inputs : List SystemInput) :
    (Machine.exec (Traced.step crates) (.start now) inputs).system
        = Machine.exec (System.step crates) (.start now) inputs
      ∧ (Machine.exec (Traced.step crates) (.start now) inputs).Authorised crates := by
  have hinv : (Machine.exec (Traced.step crates) (.start now) inputs).Inv crates :=
    Machine.exec_invariant (fun _ input hinv => hinv.step h input) (Traced.inv_start h now) inputs
  exact ⟨Traced.system_exec crates (.start now) inputs, hinv.authorised⟩

section Example

/-- Three dozen token characters. -/
def exampleToken : String := "0123456789abcdefghijklmnopqrstuvwxyz"

/-- A service with one tunnel and one file in it. -/
def exampleService : Service where
  crates := {
    parseUrl := fun _ => some ⟨"https", "", none, some "upload.file-tunnel.dev",
      some ["t", "00000000-0000-0000-0000-000000000001"], none,
      some "c=0123456789abcdefghijklmnopqrstuvwxyz"⟩
    formUrlencodedParse := fun _ => [("c", exampleToken)]
    uuidToString := fun _ => "00000000-0000-0000-0000-000000000001"
    isLoopbackAddress := fun _ => false }
  withTimeout _ _ := .ok {
    createTunnel := fun _ => .ok {
      tunnelId := 1
      pairingUri := "https://upload.file-tunnel.dev/t/00000000-0000-0000-0000-000000000001"
        ++ "#c=0123456789abcdefghijklmnopqrstuvwxyz"
      desktopCapability := exampleToken
      expiresAt := "2026-01-01T00:10:00Z"
      status := "waiting" }
    snapshot := fun _ _ => .ok [photo]
    download := fun _ _ _ => .ok photoBytes
    cancel := fun _ _ => .ok () }
  saveDownload _ _ _ _ := .error .Io

/-- A tunnel at another address, an attempt to edit that address, and the download of its file. -/
def exampleTracedInputs : List SystemInput :=
  [.Call ⟨0, true⟩ (.EditBaseUrl "https://files.example"),
    .Call ⟨1, true⟩ .Create, .Recv, .Answer exampleService, .ProcessResponse ⟨2, true⟩,
    .Call ⟨3, true⟩ (.EditBaseUrl "https://api.file-tunnel.dev"),
    .Call ⟨4, true⟩ .Refresh, .Recv, .Answer exampleService, .ProcessResponse ⟨5, true⟩,
    .Call ⟨6, true⟩ (.SelectFile 1), .Call ⟨7, true⟩ .Download]

theorem authority_never_crosses_example :
    (Machine.exec (Traced.step exampleCrates) (.start 0) exampleTracedInputs).past.head?
        = some (.Sent ⟨3, .Download "https://files.example" 1 exampleToken photo none false⟩)
      ∧ (Machine.exec (Traced.step exampleCrates) (.start 0) exampleTracedInputs).system
        = Machine.exec (System.step exampleCrates) (.start 0) exampleTracedInputs
      ∧ (Machine.exec (Traced.step exampleCrates) (.start 0) exampleTracedInputs).Authorised
          exampleCrates :=
  ⟨by decide +kernel, authority_never_crosses controlled_tablePicker 0 exampleTracedInputs⟩

end Example

end FtnlDesktop.Receive
