import FtnlDesktop.Snapshot.RoundTrip
import FtnlDesktop.Workspace.Revision

/-!
# At-most-once execution

A workspace remembers the ids of its last 1024 accepted commands and forgets them all when it is
saved and restored.  Two mechanisms together keep a command from being executed twice:

* **the window** — between restores it is the end of the log of accepted ids, without repetition,
  so a retry under the same id is recognised until 1024 further commands have been accepted;
* **the revision** — it grows with every accepted command and survives a restore, so a retry that
  also repeats the expected revision fails the revision check for ever.

A run is a list of events: a command, or replacing the workspace by what its own sealed snapshot
restores to.  `Audit` carries the log of accepted ids since the last restore as a ghost.
-/

namespace FtnlDesktop

open Machine

variable {c : Crates}

inductive Event where
  | command (r : Request)
  | restore (key : Bytes) (nonce : SnapshotNonce) (now : SystemTime)

/-- A workspace and the ids it has accepted since it was started or last restored. -/
structure Audit where
  workspace : ClipboardWorkspace
  accepted : List Uuid

/-- What saving the workspace and restoring the result gives. -/
def saveAndRestore (c : Crates) (w : ClipboardWorkspace) (key : Bytes) (nonce : SnapshotNonce)
    (now : SystemTime) : Except SnapshotError ClipboardWorkspace := do
  let encoded ← encryptSnapshotWithNonce c w key nonce
  decryptSnapshot c encoded key now

def auditStep (c : Crates) (s : Audit) : Event → Audit
  | .command r =>
      { workspace := serve c.sha256 s.workspace r
        accepted :=
          if accepts c.sha256 s.workspace r then s.accepted ++ [r.commandId] else s.accepted }
  | .restore key nonce now =>
      match saveAndRestore c s.workspace key nonce now with
      | .ok workspace => { workspace, accepted := [] }
      | .error _ => s

/-! ## What a restore keeps -/

/-- A restored workspace is well formed, keeps the revision and has an empty window, also when
the ids of its items are not distinct. -/
lemma restore_spec (hc : c.Lawful) {w w' : ClipboardWorkspace} (hw : WellFormed c.sha256 w)
    {key : Bytes} {nonce : SnapshotNonce} {now : SystemTime}
    (h : saveAndRestore c w key nonce now = .ok w') :
    WellFormed c.sha256 w' ∧ w'.revision = w.revision ∧ w'.processedCommands = [] := by
  obtain ⟨encoded, hencrypt, hdecrypt⟩ := Method.bind_eq_ok.mp h
  obtain ⟨plaintext, hplain, hopens⟩ := opensTo_of_encryptSnapshot hc hencrypt
  obtain ⟨plaintext', hopens', hdecode⟩ := decryptSnapshot_eq_ok_iff.mp hdecrypt
  obtain rfl := hopens.unique hopens'
  obtain ⟨-, items, hitems, hvec⟩ := encodeSnapshot_eq_ok_iff.mp hplain
  obtain ⟨wire, captureState, items', hwire, -, hparts⟩ := decodeSnapshot_eq_ok_iff.mp hdecode
  obtain ⟨plaintext', hvec', hslice⟩ := hc.wire _ (fits_snapshotWire hw hitems)
  obtain rfl : plaintext' = plaintext := Option.some.inj (hvec'.symm.trans hvec)
  obtain rfl : snapshotWire w items = wire := Option.some.inj (hslice.symm.trans hwire)
  obtain ⟨-, hw'⟩ := fromSnapshotParts_eq_ok_iff.mp hparts
  rw [enforceRetention_eq] at hw'
  refine ⟨wellFormed_of_fromSnapshotParts hparts, ?_, ?_⟩
  · rw [hw']
    rfl
  · rw [hw']

/-! ## The invariant -/

structure AuditInvariant (c : Crates) (s : Audit) : Prop where
  wellFormed : WellFormed c.sha256 s.workspace
  window : s.workspace.processedCommands = s.accepted.rtake MAX_PROCESSED_COMMANDS
  nodup : s.workspace.processedCommands.Nodup

lemma AuditInvariant.step (hc : c.Lawful) {s : Audit} (h : AuditInvariant c s) (e : Event) :
    AuditInvariant c (auditStep c s e) := by
  cases e with
  | command r =>
      rcases serve_cases c.sha256 s.workspace r with
        ⟨hreject, heq⟩ | ⟨haccept, hid, -, hlt, m, heffect, heq⟩
      · simp only [auditStep, hreject, heq, Bool.false_eq_true, if_false]
        exact h
      · have hprocessed : (serve c.sha256 s.workspace r).processedCommands
            = Window.push MAX_PROCESSED_COMMANDS s.workspace.processedCommands r.commandId := by
          rw [heq, recordCommand, heffect.processedCommands_eq]
        refine ⟨h.wellFormed.serve r, ?_, ?_⟩
        · show (serve c.sha256 s.workspace r).processedCommands = _
          simp only [auditStep, haccept, if_true]
          rw [hprocessed, h.window, Window.push_rtake (by decide)]
        · show (serve c.sha256 s.workspace r).processedCommands.Nodup
          rw [hprocessed]
          exact Window.nodup_push h.nodup hid
  | restore key nonce now =>
      simp only [auditStep]
      cases hrestore : saveAndRestore c s.workspace key nonce now with
      | error e => exact h
      | ok w' =>
          obtain ⟨hwf, -, hempty⟩ := restore_spec hc h.wellFormed hrestore
          exact ⟨hwf, hempty.trans (List.rtake_nil _).symm, hempty ▸ List.nodup_nil⟩

/-- No event lowers the revision. -/
lemma revision_le_step (hc : c.Lawful) {s : Audit} (h : AuditInvariant c s) (e : Event) :
    s.workspace.revision ≤ (auditStep c s e).workspace.revision := by
  cases e with
  | command r => exact rank_le_exec (rankedBy_revision c.sha256) s.workspace [r]
  | restore key nonce now =>
      simp only [auditStep]
      cases hrestore : saveAndRestore c s.workspace key nonce now with
      | error e => exact le_rfl
      | ok w' => exact (restore_spec hc h.wellFormed hrestore).2.1.ge

lemma auditInvariant_init {w : ClipboardWorkspace} (h : Origin c.sha256 w) :
    AuditInvariant c ⟨w, []⟩ := by
  have hempty : w.processedCommands = [] := by
    cases h with
    | default => rfl
    | restored hparts =>
        obtain ⟨-, rfl⟩ := fromSnapshotParts_eq_ok_iff.mp hparts
        rw [enforceRetention_eq]
  exact ⟨h.wellFormed, hempty.trans (List.rtake_nil _).symm, hempty ▸ List.nodup_nil⟩

/-! ## Every run -/

/-- An id in the window is answered with `DuplicateCommand`, and nothing changes. -/
lemma run_call_of_mem {w : ClipboardWorkspace} {r : Request}
    (h : r.commandId ∈ w.processedCommands) :
    (r.call c.sha256).run w = .error WorkspaceError.DuplicateCommand w := by
  rw [Request.call, run_apply, if_pos h]

/-- **At-most-once execution.**  In every run of commands and restores, from an empty or a restored
workspace: the window is the end of the log of ids accepted since the last restore, without
repetition; an id of that log with fewer than 1024 ids after it is answered with
`DuplicateCommand` and changes nothing; and after a command has been accepted, a request with the
same id and the same expected revision is never accepted again. -/
theorem at_most_once (c : Crates) (hc : c.Lawful) (w : ClipboardWorkspace)
    (hw : Origin c.sha256 w) (events : List Event) :
    (∀ n, (stateAt (auditStep c) ⟨w, []⟩ events n).workspace.processedCommands
        = (stateAt (auditStep c) ⟨w, []⟩ events n).accepted.rtake MAX_PROCESSED_COMMANDS ∧
      (stateAt (auditStep c) ⟨w, []⟩ events n).workspace.processedCommands.Nodup) ∧
    (∀ n before id after,
      (stateAt (auditStep c) ⟨w, []⟩ events n).accepted = before ++ id :: after →
      after.length < MAX_PROCESSED_COMMANDS → ∀ r : Request, r.commandId = id →
      (r.call c.sha256).run (stateAt (auditStep c) ⟨w, []⟩ events n).workspace
        = .error WorkspaceError.DuplicateCommand
            (stateAt (auditStep c) ⟨w, []⟩ events n).workspace) ∧
    (∀ m n (r r' : Request), m < n → events[m]? = some (.command r) →
      accepts c.sha256 (stateAt (auditStep c) ⟨w, []⟩ events m).workspace r = true →
      r'.commandId = r.commandId → r'.expectedRevision = r.expectedRevision →
      accepts c.sha256 (stateAt (auditStep c) ⟨w, []⟩ events n).workspace r' = false) := by
  have hinit : AuditInvariant c ⟨w, []⟩ := auditInvariant_init hw
  have hstep : ∀ s e, AuditInvariant c s → AuditInvariant c (auditStep c s e) :=
    fun s e h => h.step hc e
  have hinv : ∀ n, AuditInvariant c (stateAt (auditStep c) ⟨w, []⟩ events n) :=
    fun n => exec_invariant hstep hinit (events.take n)
  refine ⟨fun n => ⟨(hinv n).window, (hinv n).nodup⟩, ?_, ?_⟩
  · intro n before id after hlog hrecent r hid
    refine run_call_of_mem ?_
    rw [(hinv n).window, hlog, hid]
    exact Window.mem_rtake_of_lt hrecent
  · intro m n r r' hmn hm haccept _ hrevision
    have hnext : stateAt (auditStep c) ⟨w, []⟩ events (m + 1)
        = auditStep c (stateAt (auditStep c) ⟨w, []⟩ events m) (.command r) :=
      stateAt_succ_of_getElem? _ hm
    have hbump := revision_serve_of_accepts c.sha256 haccept
    have hgrow := le_stateAt hstep (f := fun s => s.workspace.revision)
      (fun s e h => revision_le_step hc h e) hinit events (Nat.succ_le_of_lt hmn)
    rw [Nat.succ_eq_add_one, hnext] at hgrow
    by_contra hagain
    rw [Bool.not_eq_false] at hagain
    have hread := expectedRevision_of_accepts c.sha256 haccept
    have hread' := expectedRevision_of_accepts c.sha256 hagain
    have hsame : (stateAt (auditStep c) ⟨w, []⟩ events n).workspace.revision
        = (stateAt (auditStep c) ⟨w, []⟩ events m).workspace.revision :=
      hread'.symm.trans (hrevision.trans hread)
    simp only [auditStep, hbump, hsame] at hgrow
    omega

/-- The first command of `dayOneRun`, retried after its workspace was saved and restored. -/
theorem at_most_once_dayOne :
    accepts exampleSha256 (stateAt (auditStep dayOneRecording.crates) ⟨.default, []⟩
      (dayOneRun.map .command
        ++ [.restore dayOneRecording.key.toList dayOneRecording.nonce dayOne]) 3).workspace
      ⟨1, 0, .ResumeCapture, dayOne⟩ = false := by
  have haccept : accepts exampleSha256 .default ⟨1, 0, .ResumeCapture, dayOne⟩ = true := by decide
  exact (at_most_once dayOneRecording.crates (Recording.lawful_crates consistent_dayOneRecording)
    .default Origin.default _).2.2 0 3 ⟨1, 0, .ResumeCapture, dayOne⟩
      ⟨1, 0, .ResumeCapture, dayOne⟩ (by decide) rfl haccept rfl rfl

end FtnlDesktop
