import FtnlDesktop.Receive.Lifecycle
import FtnlDesktop.Receive.Transfer

/-!
# The network worker

`src/desktop/worker.rs`: the interface thread puts requests into one channel, a worker thread
answers them one after the other, and the answers come back through another channel.  Both
channels are FIFO; they are the two lists of `Worker`.

* `handle` — one request, one answer.  The client crate and the file system decide how it turns
  out; they are the fields of `Service`, so a statement about every `service` covers every
  outcome.
* **`serves_handle`** — the answer to a request is one that the state of its effect waits for.

Log events are left out: nothing reads them.
-/

namespace FtnlDesktop.Receive

/-! ## Messages -/

inductive RequestKind where
  | Create (baseUrl applicationId : String)
  | Refresh (baseUrl : String) (tunnelId : Uuid) (capability : String)
  | Download (baseUrl : String) (tunnelId : Uuid) (capability : String) (file : FileDescriptor)
      (destination : Option String) (force : Bool)
  | Cancel (baseUrl : String) (tunnelId : Uuid) (capability : String)
deriving DecidableEq

structure Request where
  operation : OperationId
  kind : RequestKind
deriving DecidableEq

inductive ResponseKind where
  | Created (session : ReceiveSession)
  | Snapshot (files : List FileDescriptor)
  | Downloaded (path : String)
  | Cancelled
  | Failed (message : String)
deriving DecidableEq

structure Response where
  operation : OperationId
  kind : ResponseKind
deriving DecidableEq

/-! ## The channels -/

/-- What the two channels hold, the oldest message first. -/
structure Worker where
  requests : List Request
  responses : List Response
deriving DecidableEq

/-- `Worker::spawn()`. -/
def Worker.spawn : Worker := ⟨[], []⟩

/-- `Worker::send`; whether the channel takes the request is not for the caller to know. -/
def Worker.send (self : Worker) (taken : Bool) (request : Request) : Bool × Worker :=
  if taken then (true, { self with requests := self.requests ++ [request] }) else (false, self)

/-- `Worker::try_recv`. -/
def Worker.tryRecv (self : Worker) : Option (Response × Worker) :=
  match self.responses with
  | [] => none
  | response :: responses => some (response, { self with responses })

/-! ## The service -/

structure CreateTunnelRequest where
  applicationId : String
  accept : List String
  maxFiles : ℕ
  maxFileBytes : ℕ
  expiresInSeconds : ℕ
deriving DecidableEq

/-- `ftnl_client::Error`. -/
inductive ClientError where
  | Api (status : ℕ)
  | InvalidBaseUrl
  | UnsupportedScheme
  | InsecureTransport
  | InvalidTimeout
  | Transport
deriving DecidableEq, Repr

/-- A client of the service, by the outcomes of its calls. -/
structure FileTunnelClient where
  createTunnel : CreateTunnelRequest → Except ClientError Tunnel
  snapshot : Uuid → String → Except ClientError (List FileDescriptor)
  download : Uuid → Uuid → String → Except ClientError Bytes
  cancel : Uuid → String → Except ClientError Unit

/-- Everything that decides how a request turns out.  `saveDownload` is `save_download` on the
file system as it is at that moment. -/
structure Service where
  crates : TransferCrates
  withTimeout : String → Duration → Except ClientError FileTunnelClient
  saveDownload : FileDescriptor → Bytes → Option String → Bool → Except SaveError String

def client (service : Service) (baseUrl : String) : Except ClientError FileTunnelClient :=
  service.withTimeout baseUrl (fromSecs 30)

def failed (error : ClientError) : ResponseKind :=
  match error with
  | .Api status =>
      if status = 404 ∨ status = 410 then
        .Failed "The tunnel expired or is no longer available."
      else if status = 401 ∨ status = 403 then
        .Failed "This session is no longer authorized."
      else
        .Failed "The network request failed. Check the connection and try again."
  | .InvalidBaseUrl | .UnsupportedScheme | .InsecureTransport | .InvalidTimeout =>
      .Failed "The service address is not allowed."
  | .Transport => .Failed "The network request failed. Check the connection and try again."

def handle (service : Service) : RequestKind → ResponseKind
  | .Create baseUrl applicationId =>
      match client service baseUrl with
      | .error _ => .Failed "The service address is not allowed."
      | .ok client =>
          let request : CreateTunnelRequest := {
            applicationId
            accept := ["*/*"]
            maxFiles := MAX_FILES_PER_TUNNEL
            maxFileBytes := MAX_FILE_BYTES
            expiresInSeconds := 600 }
          match client.createTunnel request with
          | .ok tunnel =>
              match ReceiveSession.fromTunnel service.crates tunnel with
              | .ok session => .Created session
              | .error _ =>
                  .Failed "The service returned a tunnel outside the receive contract."
          | .error error => failed error
  | .Refresh baseUrl tunnelId capability =>
      match client service baseUrl with
      | .error _ => .Failed "The service address is not allowed."
      | .ok client =>
          match client.snapshot tunnelId capability with
          | .ok files =>
              match validateSnapshot files with
              | .error _ =>
                  .Failed "The service returned file metadata outside the receive contract."
              | .ok _ => .Snapshot files
          | .error error => failed error
  | .Download baseUrl tunnelId capability file destination force =>
      match validateFileDescriptor file with
      | .error _ => .Failed "The selected file metadata is outside the receive contract."
      | .ok _ =>
          match client service baseUrl with
          | .error _ => .Failed "The service address is not allowed."
          | .ok client =>
              match client.download tunnelId file.fileId capability with
              | .error error => failed error
              | .ok bytes =>
                  match service.saveDownload file bytes destination force with
                  | .ok path => .Downloaded path
                  | .error _ =>
                      .Failed "The downloaded file could not be safely written at that location."
  | .Cancel baseUrl tunnelId capability =>
      match client service baseUrl with
      | .error _ => .Failed "The service address is not allowed."
      | .ok client =>
          match client.cancel tunnelId capability with
          | .ok _ => .Cancelled
          | .error error => failed error

/-! ## Which answer belongs to which request -/

/-- The effect that a request carries out. -/
def RequestKind.effect : RequestKind → EffectKind
  | .Create .. => .Create
  | .Refresh .. => .Refresh
  | .Download .. => .Download
  | .Cancel .. => .Cancel

/-- The answers that an effect waits for. -/
def ResponseKind.Serves : ResponseKind → EffectKind → Prop
  | .Created _, kind => kind = .Create
  | .Snapshot _, kind => kind = .Refresh
  | .Downloaded _, kind => kind = .Download
  | .Cancelled, kind => kind = .Cancel
  | .Failed _, _ => True

lemma serves_failed (error : ClientError) (kind : EffectKind) : (failed error).Serves kind := by
  cases error with
  | Api status => simp only [failed]; split_ifs <;> trivial
  | InvalidBaseUrl => trivial
  | UnsupportedScheme => trivial
  | InsecureTransport => trivial
  | InvalidTimeout => trivial
  | Transport => trivial

/-- **Every answer serves its request**, however the request turns out. -/
theorem serves_handle (service : Service) (request : RequestKind) :
    (handle service request).Serves request.effect := by
  cases request with
  | Create baseUrl applicationId =>
      simp only [handle]
      split
      · trivial
      · split
        · split <;> trivial
        · exact serves_failed _ _
  | Refresh baseUrl tunnelId capability =>
      simp only [handle]
      split
      · trivial
      · split
        · split <;> trivial
        · exact serves_failed _ _
  | Download baseUrl tunnelId capability file destination force =>
      simp only [handle]
      split
      · trivial
      · split
        · trivial
        · split
          · exact serves_failed _ _
          · split <;> trivial
  | Cancel baseUrl tunnelId capability =>
      simp only [handle]
      split
      · trivial
      · split
        · trivial
        · exact serves_failed _ _

end FtnlDesktop.Receive
