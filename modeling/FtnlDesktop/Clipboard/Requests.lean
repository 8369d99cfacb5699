import FtnlDesktop.Clipboard.Resurrection
import FtnlDesktop.Workspace.Provenance

/-!
# What the app asks of its workspace

`apply` may refuse a command for twelve reasons, most of which are about clients that race, replay
or lie.  The app is the only client of its workspace: it reads the revision right before it calls,
draws a new id for every command, computes the digest and the size itself and only ingests while
capture is active.  So the reasons that are left are the user's.

* **`step_handled`** — every input makes at most one request, and this is what becomes of the
  workspace and of the message.
* **`refusals_are_explained`** — over every run whose command ids are new, whatever refusal is shown
  is one that the input explains, in the state it meets.
* **`stored_text_was_read`** — every stored text was on the system clipboard when the app read it,
  and it reads while capture is active only.
-/

namespace FtnlDesktop.Clipboard

open Machine Method

variable {sha256 : Bytes → Digest} {toLowercase : String → String} {outside : Outside}
  {desktop : Desktop} {input : Input}

/-! ## Why an action is refused -/

section Refuses

/-- The refusals of `match action`, with what they are for. -/
inductive Refuses (sha256 : Bytes → Digest) (w : ClipboardWorkspace) :
    WorkspaceAction → WorkspaceError → Prop
  | search {query : String} (hlong : MAX_SEARCH_CHARACTERS < query.length) :
      Refuses sha256 w (.SetSearch query) .InvalidSearch
  | pin {itemId : Uuid} (hgone : ∀ item ∈ w.items, item.itemId ≠ itemId) :
      Refuses sha256 w (.PinItem itemId) .ItemNotFound
  | unpin {itemId : Uuid} (hgone : ∀ item ∈ w.items, item.itemId ≠ itemId) :
      Refuses sha256 w (.UnpinItem itemId) .ItemNotFound
  | delete {itemId : Uuid} (hgone : ∀ item ∈ w.items, item.itemId ≠ itemId) :
      Refuses sha256 w (.DeleteItem itemId) .ItemNotFound
  | retention {policy : RetentionPolicy} {e : WorkspaceError}
      (hpolicy : policy.validate = .error e) :
      Refuses sha256 w (.SetRetention policy) e
  | exclusions {fingerprints : List String}
      (hbad : MAX_SOURCE_EXCLUSIONS < fingerprints.length
        ∨ ∃ value ∈ fingerprints, isSourceFingerprint value = false) :
      Refuses sha256 w (.SetSourceExclusions fingerprints) .InvalidSourceFingerprint
  | ingest {itemId : Uuid} {text contentSha256 : String} {byteSize : ℕ} {capturedAt : SystemTime}
      {sourceFingerprint : Option String} {e : WorkspaceError}
      (hcheck : checkIngest sha256 w text contentSha256 byteSize sourceFingerprint = .error e) :
      Refuses sha256 w
        (.IngestText itemId text contentSha256 byteSize capturedAt sourceFingerprint) e

variable {w w' : ClipboardWorkspace} {now : SystemTime} {action : WorkspaceAction}
  {e : WorkspaceError}

lemma run_itemMut_eq_error {itemId : Uuid} {f : ClipboardItem → ClipboardItem}
    (h : (itemMut itemId f).run w = .error e w') :
    e = .ItemNotFound ∧ ∀ item ∈ w.items, item.itemId ≠ itemId := by
  rw [run_itemMut] at h
  cases hfind : w.items.findIdx? fun item => item.itemId = itemId with
  | some index => simp [hfind] at h
  | none =>
      simp only [hfind, EStateM.Result.error.injEq] at h
      refine ⟨h.1.symm, fun item hmem => ?_⟩
      simpa using List.findIdx?_eq_none_iff.mp hfind item hmem

/-- **An action that fails is refused** for one of these reasons. -/
lemma refuses_of_perform (h : (perform sha256 action now).run w = .error e w') :
    Refuses sha256 w action e := by
  cases action with
  | PauseCapture => cases h
  | ResumeCapture => cases h
  | SetSearch query =>
      rw [perform, run_rejectIf_bind] at h
      split_ifs at h with hlong
      · cases h
        exact .search hlong
      · cases h
  | PinItem itemId =>
      obtain ⟨rfl, hgone⟩ := run_itemMut_eq_error h
      exact .pin hgone
  | UnpinItem itemId =>
      rcases run_bind_eq_error.mp h with hfind | ⟨_, _, -, hrest⟩
      · obtain ⟨rfl, hgone⟩ := run_itemMut_eq_error hfind
        exact .unpin hgone
      · cases hrest
  | DeleteItem itemId =>
      rw [run_delete] at h
      split_ifs at h with hsame
      simp only [EStateM.Result.error.injEq] at h
      obtain ⟨rfl, -⟩ := h
      exact .delete (length_eq_length_filter_iff.mp hsame)
  | ClearUnpinned => cases h
  | SetRetention policy =>
      cases hpolicy : policy.validate with
      | error e' =>
          simp only [perform, hpolicy] at h
          cases h
          exact .retention hpolicy
      | ok policy' =>
          simp only [perform, hpolicy] at h
          cases h
  | SetSourceExclusions fingerprints =>
      rw [perform, run_rejectIf_bind] at h
      split_ifs at h with hbad
      · cases h
        refine .exclusions (hbad.imp_right fun hany => ?_)
        simpa using hany
      · cases h
  | IngestText itemId text contentSha256 byteSize capturedAt sourceFingerprint =>
      rw [perform, run_ingestText] at h
      cases hcheck : checkIngest sha256 w text contentSha256 byteSize sourceFingerprint with
      | error e' =>
          simp only [hcheck, EStateM.Result.error.injEq] at h
          exact h.1 ▸ .ingest hcheck
      | ok _ => cases hdup : duplicateIndex w contentSha256 <;> simp [hcheck, hdup] at h

/-- **A command that fails** was applied before, or expects another revision, or there is no
revision left, or its action is refused. -/
lemma refused_of_apply {r : Request} (h : (r.call sha256).run w = .error e w') :
    (e = .DuplicateCommand ∧ r.commandId ∈ w.processedCommands) ∨
      (e = .RevisionConflict ∧ r.expectedRevision ≠ w.revision) ∨
      (e = .RevisionOverflow ∧ MAX_REVISION ≤ w.revision) ∨ Refuses sha256 w r.action e := by
  rw [Request.call, run_apply] at h
  split_ifs at h with hid hrevision hmax
  · cases h
    exact Or.inl ⟨rfl, hid⟩
  · cases h
    exact Or.inr (Or.inl ⟨rfl, hrevision⟩)
  · cases h
    exact Or.inr (Or.inr (Or.inl ⟨rfl, hmax⟩))
  · refine Or.inr (Or.inr (Or.inr ?_))
    cases hrun : (perform sha256 r.action r.now).run w with
    | error e' m =>
        simp only [hrun, EStateM.Result.error.injEq] at h
        exact h.1 ▸ refuses_of_perform hrun
    | ok u m =>
        have hrevision := (perform_eq_ok_iff.mp hrun).revision_eq
        simp [hrun, hrevision, checkedAddU64_of_lt (not_le.mp hmax)] at h

end Refuses

/-! ## What an input asks for -/

/-- The input reads this text from the system clipboard, and it is not the one that the app
remembers. -/
structure Reads (sha256 : Bytes → Digest) (desktop : Desktop) (input : Input) (text : String) :
    Prop where
  event : input.event.isCapture = true
  due : input.event = .Poll →
    fromMillis 750 ≤ elapsed input.outside.checked desktop.app.lastClipboardPoll
  active : desktop.app.workspace.captureState = .Active
  clipboard : desktop.app.clipboard = true
  readable : input.outside.readable = true
  text_eq : desktop.systemClipboard = some text
  nonempty : text.isEmpty = false
  new : desktop.app.lastClipboardHash ≠ some (contentSha256Hex sha256 text)

/-- The action that the app has its workspace apply. -/
inductive Requests (sha256 : Bytes → Digest) (desktop : Desktop) (input : Input) :
    WorkspaceAction → Prop
  | click {action : WorkspaceAction} (hasks : desktop.Asks input.event action) :
      Requests sha256 desktop input action
  | capture {text : String} (hreads : Reads sha256 desktop input text) :
      Requests sha256 desktop input (.IngestText input.outside.itemId text
        (contentSha256Hex sha256 text) text.utf8ByteSize input.outside.capturedAt none)

/-- The messages that are not about the workspace. -/
def notices : List String :=
  ["Clipboard access is unavailable on this system.",
    "The clipboard does not contain plain text.",
    "That clipboard item is already current.",
    "Copied to the system clipboard.",
    "The clipboard could not be updated."]

/-- The message about a request. -/
inductive Reports (sha256 : Bytes → Digest) (w : ClipboardWorkspace) (r : Request) :
    Option String → Prop
  | accepted (haccepts : accepts sha256 w r = true) : Reports sha256 w r none
  | refused {e : WorkspaceError} (hrun : (r.call sha256).run w = .error e w) :
      Reports sha256 w r (some (errorMessage e))

/-- **What becomes of the workspace and the message.** -/
inductive Handled (sha256 : Bytes → Digest) (desktop : Desktop) (input : Input)
    (app : DesktopApp) : Prop
  | quiet (hworkspace : app.workspace = desktop.app.workspace)
      (hmessage : app.workspaceMessage = desktop.app.workspaceMessage
        ∨ ∃ notice ∈ notices, app.workspaceMessage = some notice)
  | served (action : WorkspaceAction) (hrequests : Requests sha256 desktop input action)
      (hworkspace : app.workspace
        = serve sha256 desktop.app.workspace (desktop.app.request input.outside action))
      (hmessage : Reports sha256 desktop.app.workspace (desktop.app.request input.outside action)
        app.workspaceMessage)

variable (outside) in
/-- The message after `apply_workspace_action`. -/
lemma reports_apply (self : DesktopApp) (action : WorkspaceAction) :
    Reports sha256 self.workspace (self.request outside action)
      (self.applyWorkspaceAction sha256 outside action).2.workspaceMessage := by
  obtain ⟨-, -, haccepts⟩ := applyWorkspaceAction_cases sha256 outside self action
  rw [DesktopApp.applyWorkspaceAction] at haccepts ⊢
  cases hrun : (apply sha256 outside.commandId self.workspace.revision action outside.now).run
      self.workspace with
  | ok u workspace =>
      rw [hrun] at haccepts
      exact .accepted haccepts.symm
  | error e workspace =>
      obtain rfl := apply_eq_error hrun
      exact .refused hrun

lemma handled_apply {action : WorkspaceAction} (self : DesktopApp)
    (hself : self.workspace = desktop.app.workspace)
    (hrequests : Requests sha256 desktop input action) :
    Handled sha256 desktop input (self.applyWorkspaceAction sha256 input.outside action).2 := by
  obtain ⟨hworkspace, -, -⟩ := applyWorkspaceAction_cases sha256 input.outside self action
  have hreports : Reports sha256 _ _ _ := reports_apply input.outside self action
  have hrequest : self.request input.outside action = desktop.app.request input.outside action := by
    rw [DesktopApp.request, DesktopApp.request, hself]
  rw [hself, hrequest] at hworkspace hreports
  exact .served action hrequests hworkspace hreports

/-- Fields other than the two are free. -/
lemma Handled.congr {app app' : DesktopApp} (h : Handled sha256 desktop input app)
    (hworkspace : app'.workspace = app.workspace)
    (hmessage : app'.workspaceMessage = app.workspaceMessage) :
    Handled sha256 desktop input app' := by
  cases h with
  | quiet hworkspace' hmessage' =>
      rw [← hmessage] at hmessage'
      exact .quiet (hworkspace.trans hworkspace') hmessage'
  | served action hrequests hworkspace' hmessage' =>
      rw [← hmessage] at hmessage'
      exact .served action hrequests (hworkspace.trans hworkspace') hmessage'

lemma handled_same : Handled sha256 desktop input desktop.app := .quiet rfl (Or.inl rfl)

lemma handled_setCaptureActive {active : Bool}
    (hrequests : Requests sha256 desktop input (if active then .ResumeCapture else .PauseCapture)) :
    Handled sha256 desktop input (desktop.app.setCaptureActive sha256 input.outside active) := by
  rw [DesktopApp.setCaptureActive]
  by_cases hstate : desktop.app.workspace.captureState
      ≠ if active then CaptureState.Active else .Paused
  · rw [if_pos hstate]
    exact (handled_apply desktop.app rfl hrequests).congr rfl rfl
  · rw [if_neg hstate]
    exact handled_same.congr rfl rfl

lemma handled_notice {notice : String} (hnotice : notice ∈ notices) {self : DesktopApp}
    (hself : self.workspace = desktop.app.workspace) :
    Handled sha256 desktop input { self with workspaceMessage := some notice } :=
  .quiet hself (Or.inr ⟨notice, hnotice, rfl⟩)

/-- A capture, by the app as it is after the poll was noted. -/
lemma handled_capture (self : DesktopApp) (reportEmpty : Bool)
    (hself : self.workspace = desktop.app.workspace)
    (hclipboard : self.clipboard = desktop.app.clipboard)
    (hhash : self.lastClipboardHash = desktop.app.lastClipboardHash)
    (hmessage : self.workspaceMessage = desktop.app.workspaceMessage)
    (hevent : input.event.isCapture = true)
    (hdue : input.event = .Poll →
      fromMillis 750 ≤ elapsed input.outside.checked desktop.app.lastClipboardPoll) :
    Handled sha256 desktop input
      (self.captureClipboardText sha256 input.outside desktop.systemClipboard reportEmpty) := by
  have hquiet : Handled sha256 desktop input self := .quiet hself (Or.inl hmessage)
  rw [DesktopApp.captureClipboardText]
  by_cases hactive : self.workspace.captureState ≠ .Active
  · rw [if_pos hactive]
    exact hquiet
  rw [if_neg hactive]
  by_cases hnone : ¬ self.clipboard
  · rw [if_pos hnone]
    split_ifs
    · exact handled_notice (by simp [notices]) hself
    · exact hquiet
  rw [if_neg hnone]
  cases htext : DesktopApp.getText input.outside desktop.systemClipboard with
  | none =>
      dsimp only
      split_ifs
      · exact handled_notice (by simp [notices]) hself
      · exact hquiet
  | some text =>
      dsimp only
      by_cases hempty : text.isEmpty
      · rw [if_pos hempty]
        exact hquiet
      rw [if_neg hempty]
      by_cases hsame : self.lastClipboardHash = some (contentSha256Hex sha256 text)
      · rw [if_pos hsame]
        split_ifs
        · exact handled_notice (by simp [notices]) hself
        · exact hquiet
      rw [if_neg hsame]
      have hreads : Reads sha256 desktop input text :=
        { event := hevent
          due := hdue
          active := by simpa [hself] using hactive
          clipboard := by simpa [hclipboard] using hnone
          readable := by
            rw [DesktopApp.getText] at htext
            split_ifs at htext with hreadable
            exact hreadable
          text_eq := getText_eq_some htext
          nonempty := by simpa using hempty
          new := hhash ▸ hsame }
      have hingest := handled_apply self hself (.capture hreads)
      split
      · next heq =>
          rw [heq] at hingest
          exact hingest.congr rfl rfl
      · next heq =>
          rw [heq] at hingest
          exact hingest

lemma handled_handleRow {index : ℕ} {clicks : RowClicks} {item : ClipboardItem}
    (hevent : input.event = .Row index clicks) (hitem : desktop.items[index]? = some item) :
    Handled sha256 desktop input (handleRow sha256 input.outside desktop item clicks).app := by
  have hcopy : Handled sha256 desktop input
      (if clicks.copy then copyClipboardItem input.outside desktop item else desktop).app ∧
      (if clicks.copy then copyClipboardItem input.outside desktop item else desktop).app.workspace
        = desktop.app.workspace := by
    rw [copyClipboardItem]
    have hnotice : ∀ notice ∈ notices, Handled sha256 desktop input
        { desktop.app with workspaceMessage := some notice } :=
      fun notice hnotice => handled_notice hnotice rfl
    split_ifs
    · exact ⟨(hnotice "Copied to the system clipboard." (by simp [notices])).congr rfl rfl, rfl⟩
    · exact ⟨hnotice "The clipboard could not be updated." (by simp [notices]), rfl⟩
    · exact ⟨hnotice "Clipboard access is unavailable on this system." (by simp [notices]), rfl⟩
    · exact ⟨handled_same, rfl⟩
  rw [handleRow]
  cases haction : clicks.action item with
  | none => exact hcopy.1
  | some action =>
      refine handled_apply _ hcopy.2 (.click ?_)
      rw [hevent]
      exact ⟨item, hitem, haction⟩

/-- **Every input makes at most one request**, with the ids and the time it was given. -/
theorem step_handled (sha256 : Bytes → Digest) (toLowercase : String → String) (desktop : Desktop)
    (input : Input) :
    Handled sha256 desktop input (step sha256 toLowercase desktop input).app := by
  cases hevent : input.event with
  | ShellAction action =>
      simp only [step, hevent]
      unfold DesktopApp.processShellAction
      split_ifs with htray
      · cases action with
        | OpenWindow => exact handled_same.congr rfl rfl
        | HideWindow => exact handled_same.congr rfl rfl
        | PauseCapture => exact handled_setCaptureActive (.click (by rw [hevent]; rfl))
        | ResumeCapture => exact handled_setCaptureActive (.click (by rw [hevent]; rfl))
        | Quit => exact handled_same.congr rfl rfl
      · exact handled_same
  | CloseRequested =>
      simp only [step, hevent]
      exact handled_same.congr rfl rfl
  | Poll =>
      simp only [step, hevent]
      rw [DesktopApp.pollClipboard]
      split_ifs with hdue
      · exact handled_capture _ false rfl rfl rfl rfl (by rw [hevent]; rfl) fun _ => hdue.2
      · exact handled_same
  | ToggleCapture =>
      simp only [step, hevent]
      refine handled_setCaptureActive (.click ?_)
      rw [hevent]
      simp [Desktop.Asks]
  | CaptureNow =>
      simp only [step, hevent]
      refine handled_capture _ true rfl rfl rfl rfl (by rw [hevent]; rfl) fun hpoll => ?_
      rw [hevent] at hpoll
      cases hpoll
  | Search query =>
      simp only [step, hevent]
      exact handled_apply _ rfl (.click (by rw [hevent]; rfl))
  | ClearUnpinned =>
      simp only [step, hevent]
      rw [DesktopApp.clearUnpinned]
      split_ifs
      · exact handled_apply _ rfl (.click (by rw [hevent]; rfl))
      · exact handled_same
  | ShowItems =>
      simp only [step, hevent]
      exact handled_same
  | Row index clicks =>
      simp only [step, hevent]
      cases hitem : desktop.items[index]? with
      | none => exact handled_same
      | some item => exact handled_handleRow hevent hitem
  | ApplyRetention policy =>
      simp only [step, hevent]
      rw [DesktopApp.applyRetentionPolicy]
      split_ifs
      · exact handled_apply _ rfl (.click (by rw [hevent]; rfl))
      · exact handled_same
  | EditExclusion text =>
      simp only [step, hevent]
      exact handled_same.congr rfl rfl
  | AddExclusion =>
      simp only [step, hevent]
      have happly : Handled sha256 desktop input (desktop.app.applyWorkspaceAction sha256
          input.outside (.SetSourceExclusions
            (desktop.app.workspace.excludedSourceFingerprints.elems
              ++ [trim desktop.app.sourceExclusionInput]))).2 :=
        handled_apply _ rfl (.click (by rw [hevent]; rfl))
      rw [DesktopApp.addExclusion]
      split
      · next heq =>
          rw [heq] at happly
          exact happly.congr rfl rfl
      · next heq =>
          rw [heq] at happly
          exact happly
  | RemoveExclusion fingerprint =>
      simp only [step, hevent]
      exact handled_apply _ rfl (.click (by rw [hevent]; rfl))
  | External text =>
      simp only [step, hevent]
      exact handled_same

/-! ## Refusals -/

section Refusals

/-- What the user has done, or the state has come to, that explains a refusal. -/
def Explains (desktop : Desktop) (input : Input) : WorkspaceError → Prop
  | .InvalidContentSize =>
      input.event.isCapture = true ∧ ∃ text, desktop.systemClipboard = some text ∧
        (MAX_TEXT_CHARACTERS < text.length ∨ MAX_TEXT_BYTES < text.utf8ByteSize)
  | .InvalidSearch =>
      ∃ query, input.event = .Search query ∧ MAX_SEARCH_CHARACTERS < query.length
  | .ItemNotFound =>
      ∃ index clicks item, input.event = .Row index clicks ∧ desktop.items[index]? = some item ∧
        ∀ stored ∈ desktop.app.workspace.items, stored.itemId ≠ item.itemId
  | .InvalidRetention => ∃ policy, input.event = .ApplyRetention policy ∧ ¬ policy.InBounds
  | .InvalidSourceFingerprint =>
      input.event = .AddExclusion ∧
        (desktop.app.workspace.excludedSourceFingerprints.size = MAX_SOURCE_EXCLUSIONS ∨
          isSourceFingerprint (trim desktop.app.sourceExclusionInput) = false)
  | .RevisionOverflow => desktop.app.workspace.revision = MAX_REVISION
  | _ => False

/-- What is read while capture is active can only be too large. -/
lemma explains_of_reads {text : String} (hreads : Reads sha256 desktop input text)
    {e : WorkspaceError}
    (hcheck : checkIngest sha256 desktop.app.workspace text (contentSha256Hex sha256 text)
      text.utf8ByteSize none = .error e) : Explains desktop input e := by
  rw [checkIngest, rejectIf_bind, if_neg (by simp [hreads.active]), rejectIf_bind] at hcheck
  split_ifs at hcheck with hsize
  · cases hcheck
    refine ⟨hreads.event, text, hreads.text_eq, ?_⟩
    rcases hsize with hempty | hlong | hlarge | hother
    · rw [hreads.nonempty] at hempty
      cases hempty
    · exact Or.inl hlong
    · exact Or.inr hlarge
    · exact absurd rfl hother
  · rw [rejectIf_bind, if_neg (by simp), rejectIf_bind, if_neg (by simp)] at hcheck
    simp only [rejectIf, Option.any_none, Bool.false_eq_true, ↓reduceIte] at hcheck
    cases hcheck

/-- **A refusal of what the app asked for** is explained. -/
lemma explains_of_refuses (hstored : Stored sha256 desktop) {action : WorkspaceAction}
    {e : WorkspaceError} (hrequests : Requests sha256 desktop input action)
    (hrefuses : Refuses sha256 desktop.app.workspace action e) : Explains desktop input e := by
  cases hrequests with
  | capture hreads =>
      cases hrefuses with
      | ingest hcheck => exact explains_of_reads hreads hcheck
  | click hasks =>
      cases hevent : input.event with
      | ShellAction shell =>
          rw [hevent] at hasks
          cases shell with
          | PauseCapture => cases hasks; cases hrefuses
          | ResumeCapture => cases hasks; cases hrefuses
          | OpenWindow => cases hasks
          | HideWindow => cases hasks
          | Quit => cases hasks
      | ToggleCapture =>
          rw [hevent] at hasks
          simp only [Desktop.Asks] at hasks
          split_ifs at hasks
          · cases hasks; cases hrefuses
          · cases hasks; cases hrefuses
      | Search query =>
          rw [hevent] at hasks
          cases hasks
          cases hrefuses with
          | search hlong => exact ⟨query, hevent, hlong⟩
      | ClearUnpinned =>
          rw [hevent] at hasks
          cases hasks
          cases hrefuses
      | Row index clicks =>
          rw [hevent] at hasks
          obtain ⟨item, hitem, haction⟩ := hasks
          rw [RowClicks.action] at haction
          split_ifs at haction
          all_goals
            cases haction
            cases hrefuses
            exact ⟨index, clicks, item, hevent, hitem, by assumption⟩
      | ApplyRetention policy =>
          rw [hevent] at hasks
          cases hasks
          cases hrefuses with
          | retention hpolicy =>
              rw [RetentionPolicy.validate] at hpolicy
              split_ifs at hpolicy with hout
              cases hpolicy
              exact ⟨policy, hevent, fun hin => hout.elim
                (fun hitems => hitems ⟨hin.one_le_items, hin.items_le⟩)
                fun hdays => hdays ⟨hin.one_le_days, hin.days_le⟩⟩
      | AddExclusion =>
          rw [hevent] at hasks
          cases hasks
          have hsize := hstored.workspace.exclusions_size
          cases hrefuses with
          | exclusions hbad =>
              refine ⟨hevent, ?_⟩
              rcases hbad with hlong | ⟨value, hvalue, hmalformed⟩
              · rw [List.length_append, List.length_singleton] at hlong
                exact Or.inl (le_antisymm hsize (Nat.lt_succ_iff.mp hlong))
              · rcases List.mem_append.mp hvalue with hold | hnew
                · rw [hstored.workspace.exclusions value hold] at hmalformed
                  cases hmalformed
                · rw [List.mem_singleton.mp hnew] at hmalformed
                  exact Or.inr hmalformed
      | RemoveExclusion fingerprint =>
          -- what is left of a valid set is valid
          rw [hevent] at hasks
          cases hasks
          cases hrefuses with
          | exclusions hbad =>
              rcases hbad with hlong | ⟨value, hvalue, hmalformed⟩
              · have hle := (List.length_filter_le (fun value => decide (value ≠ fingerprint))
                  desktop.app.workspace.excludedSourceFingerprints.elems).trans
                    hstored.workspace.exclusions_size
                omega
              · rw [hstored.workspace.exclusions value (List.mem_of_mem_filter hvalue)]
                  at hmalformed
                cases hmalformed
      | CloseRequested => rw [hevent] at hasks; cases hasks
      | Poll => rw [hevent] at hasks; cases hasks
      | CaptureNow => rw [hevent] at hasks; cases hasks
      | ShowItems => rw [hevent] at hasks; cases hasks
      | EditExclusion text => rw [hevent] at hasks; cases hasks
      | External text => rw [hevent] at hasks; cases hasks

/-- Only the ids of past inputs were used. -/
def UsedIds (desktop : Desktop) (inputs : List Input) : Prop :=
  ∀ commandId ∈ desktop.app.workspace.processedCommands,
    commandId ∈ inputs.map fun input => input.outside.commandId

lemma usedIds_step {inputs : List Input} (h : UsedIds desktop inputs) (input : Input) :
    UsedIds (step sha256 toLowercase desktop input) (inputs ++ [input]) := by
  intro commandId hmem
  rw [List.map_append, List.mem_append]
  cases step_handled sha256 toLowercase desktop input with
  | quiet hworkspace hmessage =>
      rw [hworkspace] at hmem
      exact Or.inl (h commandId hmem)
  | served action hrequests hworkspace hmessage =>
      rw [hworkspace] at hmem
      rcases serve_cases sha256 desktop.app.workspace (desktop.app.request input.outside action)
        with ⟨-, heq⟩ | ⟨-, -, -, -, m, heffect, heq⟩
      · rw [heq] at hmem
        exact Or.inl (h commandId hmem)
      · rw [heq] at hmem
        rcases Window.mem_of_mem_push hmem with hold | rfl
        · rw [heffect.processedCommands_eq] at hold
          exact Or.inl (h commandId hold)
        · exact Or.inr (by simp [DesktopApp.request])

lemma usedIds_exec (tray clipboard : Bool) (start : Instant) (content : Option String)
    (inputs : List Input) :
    UsedIds (exec (step sha256 toLowercase) (.start tray clipboard start content) inputs)
      inputs := by
  induction inputs using List.reverseRecOn with
  | nil =>
      intro commandId hmem
      cases hmem
  | append_singleton inputs input ih =>
      rw [exec_concat]
      exact usedIds_step ih input

/-- **Refusals are explained.**  Over every run from the start of the app whose command ids are new,
the message that an input leaves is the one before it, or none, or a notice, or a refusal that the
input explains in the state it meets.  The app never reports a duplicate command, a conflict of
revisions, a paused capture, an excluded source, or a false digest. -/
theorem refusals_are_explained (sha256 : Bytes → Digest) (toLowercase : String → String)
    (tray clipboard : Bool) (start : Instant) (content : Option String) (inputs : List Input)
    (input : Input)
    (hfresh : ((inputs ++ [input]).map fun input => input.outside.commandId).Nodup) :
    let desktop := exec (step sha256 toLowercase) (.start tray clipboard start content) inputs
    let message := (step sha256 toLowercase desktop input).app.workspaceMessage
    message = desktop.app.workspaceMessage ∨ message = none ∨
      (∃ notice ∈ notices, message = some notice) ∨
      ∃ e, Explains desktop input e ∧ message = some (errorMessage e) := by
  intro desktop message
  have hmessage : (step sha256 toLowercase desktop input).app.workspaceMessage = message := rfl
  clear_value message
  have hused : UsedIds desktop inputs := usedIds_exec tray clipboard start content inputs
  have hstored : Stored sha256 desktop :=
    exec_invariant (P := Stored sha256) (fun _ input h => stored_step h input)
      (stored_start tray clipboard start content) inputs
  have hunused : input.outside.commandId ∉ desktop.app.workspace.processedCommands := by
    intro hmem
    rw [List.map_append, List.nodup_append] at hfresh
    exact hfresh.2.2 _ (hused _ hmem) _ (by simp) rfl
  cases step_handled sha256 toLowercase desktop input with
  | quiet hworkspace hshown =>
      rw [hmessage] at hshown
      rcases hshown with hsame | hnotice
      · exact Or.inl hsame
      · exact Or.inr (Or.inr (Or.inl hnotice))
  | served action hrequests hworkspace hreports =>
      rw [hmessage] at hreports
      cases hreports with
      | accepted haccepts => exact Or.inr (Or.inl rfl)
      | @refused e hrun =>
          refine Or.inr (Or.inr (Or.inr ⟨e, ?_, rfl⟩))
          rcases refused_of_apply hrun with
            ⟨-, hduplicate⟩ | ⟨-, hconflict⟩ | ⟨rfl, hmax⟩ | hrefuses
          · exact absurd hduplicate hunused
          · exact absurd rfl hconflict
          · exact le_antisymm hstored.workspace.revision hmax
          · exact explains_of_refuses hstored hrequests hrefuses

end Refusals

/-- The user asks for a policy that keeps nothing. -/
def exampleForgetful : Input := exampleInput 3 (.ApplyRetention ⟨0, 0, true⟩)

/-- After a text was captured, that is refused, and the refusal says why. -/
theorem refusals_are_explained_retention :
    let desktop := exec (step exampleSha256 id) (.start true true 0 (some "a"))
      [exampleInput 1 .ToggleCapture, exampleInput 2 .Poll]
    (step exampleSha256 id desktop exampleForgetful).app.workspaceMessage
        = some "the retention policy is outside the supported bounds" ∧
      Explains desktop exampleForgetful .InvalidRetention := by
  have hshown : (step exampleSha256 id (exec (step exampleSha256 id)
      (.start true true 0 (some "a")) [exampleInput 1 .ToggleCapture, exampleInput 2 .Poll])
        exampleForgetful).app.workspaceMessage
      = some "the retention policy is outside the supported bounds" := by decide
  refine ⟨hshown, ?_⟩
  rcases refusals_are_explained exampleSha256 id true true 0 (some "a")
    [exampleInput 1 .ToggleCapture, exampleInput 2 .Poll] exampleForgetful
    (by decide) with hsame | hnone | ⟨notice, hmem, hnotice⟩ | ⟨e, hexplains, hmessage⟩
  · exact absurd (hshown.symm.trans hsame) (by decide)
  · exact absurd (hshown.symm.trans hnone) (by decide)
  · obtain rfl := Option.some.inj (hshown.symm.trans hnotice)
    exact absurd hmem (by decide)
  · have herror := Option.some.inj (hshown.symm.trans hmessage)
    cases e with
    | InvalidRetention => exact hexplains
    | _ => exact absurd herror (by decide)

/-! ## Provenance -/

section Provenance

/-- The `n`-th input of the run reads this text. -/
def ReadAt (sha256 : Bytes → Digest) (toLowercase : String → String) (start : Desktop)
    (inputs : List Input) (n : ℕ) (text : String) (capturedAt : SystemTime) : Prop :=
  ∃ input, inputs[n]? = some input ∧ input.outside.capturedAt = capturedAt ∧
    Reads sha256 (stateAt (step sha256 toLowercase) start inputs n) input text

/-- The text of an item was read, and its capture time is that of the same or a later reading of a
text with the same digest. -/
def WasRead (sha256 : Bytes → Digest) (toLowercase : String → String) (start : Desktop)
    (inputs : List Input) (n : ℕ) (item : ClipboardItem) : Prop :=
  ∃ i j, i ≤ j ∧ j < n ∧
    (∃ capturedAt, ReadAt sha256 toLowercase start inputs i item.text capturedAt) ∧
    ∃ text, ReadAt sha256 toLowercase start inputs j text item.capturedAt ∧
      contentSha256Hex sha256 text = item.contentSha256

/-- An item after an input has the captures of one before it, or the input has read its text, or a
text with its digest. -/
lemma mem_items_step {item : ClipboardItem}
    (hmem : item ∈ (step sha256 toLowercase desktop input).app.workspace.items) :
    (∃ old ∈ desktop.app.workspace.items, item.SameCapture old) ∨
      ∃ text, Reads sha256 desktop input text ∧ item.sourceFingerprint = none ∧
        contentSha256Hex sha256 text = item.contentSha256 ∧
        input.outside.capturedAt = item.capturedAt ∧
        (item.text = text ∨ ∃ old ∈ desktop.app.workspace.items, old.text = item.text) := by
  have hself : ∀ {items : List ClipboardItem}, item ∈ items → ∃ old ∈ items, item.SameCapture old :=
    fun h => ⟨item, h, rfl, rfl, rfl, rfl⟩
  cases step_handled sha256 toLowercase desktop input with
  | quiet hworkspace hmessage => exact Or.inl (hself (hworkspace ▸ hmem))
  | served action hrequests hworkspace hmessage =>
      rw [hworkspace] at hmem
      rcases serve_cases sha256 desktop.app.workspace (desktop.app.request input.outside action)
        with ⟨-, heq⟩ | ⟨-, -, -, -, m, heffect, heq⟩
      · exact Or.inl (hself (heq ▸ hmem))
      · rw [heq] at hmem
        rcases heffect.mem_items hmem with hold | ⟨itemId, text, byteSize, haction, -, htext⟩
        · exact Or.inl hold
        · refine Or.inr ?_
          cases hrequests with
          | click hasks =>
              have hnone := hasks.ingestedId_eq_none
              rw [show action = _ from haction] at hnone
              cases hnone
          | capture hreads =>
              simp only [DesktopApp.request, WorkspaceAction.IngestText.injEq] at haction
              obtain ⟨-, rfl, hdigest, -, htime, hsource⟩ := haction
              refine ⟨_, hreads, hsource.symm, hdigest, htime, htext.imp_right ?_⟩
              rintro ⟨old, hold, hsame, -⟩
              exact ⟨old, hold, hsame⟩

variable {start : Desktop} {inputs : List Input} {item : ClipboardItem}

lemma WasRead.of_sameCapture {old : ClipboardItem} {n n' : ℕ}
    (h : WasRead sha256 toLowercase start inputs n old) (hsame : item.SameCapture old)
    (hn : n ≤ n') : WasRead sha256 toLowercase start inputs n' item := by
  obtain ⟨i, j, hij, hj, htext, hmeta⟩ := h
  obtain ⟨hsametext, hsamedigest, hsametime, -⟩ := hsame
  rw [hsametext] at htext
  rw [hsamedigest, hsametime] at hmeta
  exact ⟨i, j, hij, hj.trans_le hn, htext, hmeta⟩

/-- The induction over the points of a run that starts with nothing stored. -/
lemma wasRead_stateAt (hstart : start.app.workspace.items = []) {n : ℕ} (hn : n ≤ inputs.length)
    (hmem : item ∈ (stateAt (step sha256 toLowercase) start inputs n).app.workspace.items) :
    item.sourceFingerprint = none ∧ WasRead sha256 toLowercase start inputs n item := by
  induction n generalizing item with
  | zero =>
      rw [stateAt_zero, hstart] at hmem
      cases hmem
  | succ n ih =>
      have hlt : n < inputs.length := hn
      rw [stateAt_succ start inputs hlt] at hmem
      rcases mem_items_step hmem with ⟨old, hold, hsame⟩ |
        ⟨text, hreads, hsource, hdigest, htime, htext⟩
      · obtain ⟨hnone, hread⟩ := ih hlt.le hold
        exact ⟨hsame.sourceFingerprint.symm.trans hnone, hread.of_sameCapture hsame n.le_succ⟩
      · have hnow : ReadAt sha256 toLowercase start inputs n text item.capturedAt :=
          ⟨inputs[n], List.getElem?_eq_getElem hlt, htime, hreads⟩
        refine ⟨hsource, ?_⟩
        rcases htext with rfl | ⟨old, hold, hsame⟩
        · exact ⟨n, n, le_rfl, n.lt_succ_self, ⟨_, hnow⟩, _, hnow, hdigest⟩
        · -- the text is that of an older item, whose own reading is earlier
          obtain ⟨i, j, hij, hj, hfirst, -⟩ := (ih hlt.le hold).2
          rw [hsame] at hfirst
          exact ⟨i, n, by omega, n.lt_succ_self, hfirst, _, hnow, hdigest⟩

/-- **Every stored text was read from the system clipboard**, over every run from the start of the
app: it was there when a poll that was due, or "Capture now", read it while capture was active.
The capture time of the item is that of this or a later reading of the same digest, and no item
claims a source. -/
theorem stored_text_was_read (sha256 : Bytes → Digest) (toLowercase : String → String)
    (tray clipboard : Bool) (start : Instant) (content : Option String) (inputs : List Input) :
    ∀ item ∈ (exec (step sha256 toLowercase) (.start tray clipboard start content)
        inputs).app.workspace.items,
      item.sourceFingerprint = none ∧
      item.contentSha256 = contentSha256Hex sha256 item.text ∧
      WasRead sha256 toLowercase (.start tray clipboard start content) inputs inputs.length
        item := by
  intro item hmem
  have hstored : Stored sha256
      (exec (step sha256 toLowercase) (.start tray clipboard start content) inputs) :=
    exec_invariant (P := Stored sha256) (fun _ input h => stored_step h input)
      (stored_start tray clipboard start content) inputs
  have hfaithful := hstored.workspace.items item hmem
  rw [← stateAt_length] at hmem
  obtain ⟨hsource, hread⟩ := wasRead_stateAt rfl le_rfl hmem
  exact ⟨hsource, hfaithful.digest_eq, hread⟩

end Provenance

/-- The text that a poll has stored. -/
theorem stored_text_was_read_poll :
    ∃ item, item.text = "a" ∧ WasRead exampleSha256 id (.start true true 0 (some "a"))
      [exampleInput 1 .ToggleCapture, exampleInput 2 .Poll] 2 item := by
  have hhead : (exec (step exampleSha256 id) (.start true true 0 (some "a"))
      [exampleInput 1 .ToggleCapture, exampleInput 2 .Poll]).app.workspace.items.head?.map
        ClipboardItem.text = some "a" := by decide
  obtain ⟨item, hitem, htext⟩ := Option.map_eq_some_iff.mp hhead
  obtain ⟨-, -, hread⟩ := stored_text_was_read exampleSha256 id true true 0 (some "a")
    [exampleInput 1 .ToggleCapture, exampleInput 2 .Poll] item (List.mem_of_head? hitem)
  exact ⟨item, htext, hread⟩

end FtnlDesktop.Clipboard
