import FtnlDesktop.Clipboard.App
import FtnlDesktop.Workspace.Aging
import FtnlDesktop.Workspace.Identity
import FtnlDesktop.Workspace.Representation

/-!
# Deleted content does not come back

The app remembers the digest of the text that it last captured or copied.  `Current` says that this
is the digest of the text on the system clipboard.  A capture establishes it by hashing what it has
read; a copy writes the stored text and remembers the stored digest, which is that of the text
because the workspace is well formed.  Only another application can break it.  As long as it holds,
a poll and "Capture now" find nothing new (`captureClipboardText_of_current`).

* **`Change`**, `step_change` — what every other input can do to the desktop.
* **`current_step`** — the step lemma.
* **`no_resurrection`** — after a capture or a copy, as long as no other application interferes, the
  workspace changes by the user's actions only, and no item comes back.
-/

namespace FtnlDesktop.Clipboard

open Machine

variable {sha256 : Bytes → Digest} {toLowercase : String → String} {outside : Outside}
  {desktop : Desktop} {self : DesktopApp}

/-! ## Kinds of inputs -/

/-- The inputs that read the system clipboard. -/
def Event.isCapture : Event → Bool
  | .Poll => true
  | .CaptureNow => true
  | _ => false

def Event.isExternal : Event → Bool
  | .External _ => true
  | _ => false

/-- A capture or a copy that succeeds: the capture has changed the workspace, the copy has set the
text of the system clipboard. -/
inductive Succeeds (sha256 : Bytes → Digest) (toLowercase : String → String) (desktop : Desktop)
    (input : Input) : Prop
  | capture (hcapture : input.event.isCapture = true)
      (hingest : (step sha256 toLowercase desktop input).app.workspace ≠ desktop.app.workspace)
  | copy (index : ℕ) (clicks : RowClicks) (hevent : input.event = .Row index clicks)
      (hcopy : clicks.copy = true) (hindex : index < desktop.items.length)
      (hclipboard : desktop.app.clipboard = true) (hset : input.outside.writable = true)

/-! ## Workspace actions -/

/-- The request that `apply_workspace_action` makes. -/
def DesktopApp.request (self : DesktopApp) (outside : Outside) (action : WorkspaceAction) :
    Request :=
  ⟨outside.commandId, self.workspace.revision, action, outside.now⟩

lemma applyWorkspaceAction_cases (sha256 : Bytes → Digest) (outside : Outside)
    (self : DesktopApp) (action : WorkspaceAction) :
    (self.applyWorkspaceAction sha256 outside action).2.workspace
        = serve sha256 self.workspace (self.request outside action) ∧
      (self.applyWorkspaceAction sha256 outside action).2.lastClipboardHash
        = self.lastClipboardHash ∧
      (self.applyWorkspaceAction sha256 outside action).1
        = accepts sha256 self.workspace (self.request outside action) := by
  rw [DesktopApp.applyWorkspaceAction, serve, accepts, Request.call, DesktopApp.request]
  cases (apply sha256 outside.commandId self.workspace.revision action outside.now).run
      self.workspace with
  | ok u workspace => exact ⟨rfl, rfl, rfl⟩
  | error e workspace => exact ⟨rfl, rfl, rfl⟩

/-- What a button does that captures and copies nothing: at most it has an action applied that it
may ask for. -/
structure Handles (sha256 : Bytes → Digest) (asked : WorkspaceAction → Prop)
    (self self' : DesktopApp) : Prop where
  hash : self'.lastClipboardHash = self.lastClipboardHash
  workspace : self'.workspace = self.workspace ∨
    ∃ r : Request, asked r.action ∧ self'.workspace = serve sha256 self.workspace r

variable {asked : WorkspaceAction → Prop}

lemma Handles.refl (self : DesktopApp) : Handles sha256 asked self self := ⟨rfl, Or.inl rfl⟩

/-- Fields other than the two are free. -/
lemma Handles.congr {self' self'' : DesktopApp} (hhandles : Handles sha256 asked self self')
    (hhash : self''.lastClipboardHash = self'.lastClipboardHash)
    (hworkspace : self''.workspace = self'.workspace) : Handles sha256 asked self self'' := by
  obtain ⟨hhash', hworkspace'⟩ := hhandles
  refine ⟨hhash.trans hhash', ?_⟩
  rw [hworkspace]
  exact hworkspace'

lemma handles_applyWorkspaceAction (self : DesktopApp) {action : WorkspaceAction}
    (hasked : asked action) :
    Handles sha256 asked self (self.applyWorkspaceAction sha256 outside action).2 := by
  obtain ⟨hworkspace, hhash, -⟩ :=
    applyWorkspaceAction_cases sha256 outside self action
  exact ⟨hhash, Or.inr ⟨_, hasked, hworkspace⟩⟩

lemma handles_setCaptureActive (self : DesktopApp) {active : Bool}
    (hasked : asked (if active then .ResumeCapture else .PauseCapture)) :
    Handles sha256 asked self (self.setCaptureActive sha256 outside active) := by
  rw [DesktopApp.setCaptureActive]
  by_cases hstate : self.workspace.captureState ≠ if active then CaptureState.Active else .Paused
  · rw [if_pos hstate]
    exact (handles_applyWorkspaceAction self hasked).congr rfl rfl
  · rw [if_neg hstate]
    exact (Handles.refl self).congr rfl rfl

/-! ## What the user asks for -/

/-- The actions of the workspace that a click asks for. -/
def Desktop.Asks (desktop : Desktop) (event : Event) (action : WorkspaceAction) : Prop :=
  match event with
  | .ShellAction .PauseCapture => action = .PauseCapture
  | .ShellAction .ResumeCapture => action = .ResumeCapture
  | .ToggleCapture =>
      action = if desktop.app.workspace.captureState ≠ .Active then .ResumeCapture
        else .PauseCapture
  | .Search query => action = .SetSearch query
  | .ClearUnpinned => action = .ClearUnpinned
  | .Row index clicks =>
      ∃ item, desktop.items[index]? = some item ∧ clicks.action item = some action
  | .ApplyRetention policy => action = .SetRetention policy
  | .AddExclusion =>
      action = .SetSourceExclusions (desktop.app.workspace.excludedSourceFingerprints.elems
        ++ [trim desktop.app.sourceExclusionInput])
  | .RemoveExclusion fingerprint =>
      action = .SetSourceExclusions
        (desktop.app.workspace.excludedSourceFingerprints.elems.filter (· ≠ fingerprint))
  | _ => False

lemma RowClicks.ingestedId_action {clicks : RowClicks} {item : ClipboardItem}
    {action : WorkspaceAction} (h : clicks.action item = some action) :
    action.ingestedId = none := by
  rw [RowClicks.action] at h
  split_ifs at h
  · cases h
    rfl
  · cases h
    rfl
  · cases h
    rfl

/-- No click asks for an ingest. -/
lemma Desktop.Asks.ingestedId_eq_none {event : Event} {action : WorkspaceAction}
    (h : desktop.Asks event action) : action.ingestedId = none := by
  unfold Desktop.Asks at h
  split at h
  · rw [h]
    rfl
  · rw [h]
    rfl
  · rw [h]
    split_ifs
    · rfl
    · rfl
  · rw [h]
    rfl
  · rw [h]
    rfl
  · obtain ⟨item, -, haction⟩ := h
    exact RowClicks.ingestedId_action haction
  · rw [h]
    rfl
  · rw [h]
    rfl
  · rw [h]
    rfl
  · exact h.elim

/-- What an input does that is no capture and comes from no other application. -/
structure Change (sha256 : Bytes → Digest) (event : Event) (desktop desktop' : Desktop) :
    Prop where
  workspace : desktop'.app.workspace = desktop.app.workspace ∨
    ∃ r : Request, desktop.Asks event r.action ∧
      desktop'.app.workspace = serve sha256 desktop.app.workspace r
  copied : (desktop'.systemClipboard = desktop.systemClipboard ∧
      desktop'.app.lastClipboardHash = desktop.app.lastClipboardHash) ∨
    ∃ item ∈ desktop.items, desktop'.systemClipboard = some item.text ∧
      desktop'.app.lastClipboardHash = some item.contentSha256
  items : ∀ item ∈ desktop'.items, item ∈ desktop.items ∨ item ∈ desktop.app.workspace.items

lemma Handles.change {event : Event} {self' : DesktopApp}
    (hhandles : Handles sha256 (desktop.Asks event) desktop.app self') :
    Change sha256 event desktop { desktop with app := self' } := by
  obtain ⟨hhash, hworkspace⟩ := hhandles
  exact ⟨hworkspace, Or.inl ⟨rfl, hhash⟩, fun item hitem => Or.inl hitem⟩

/-- Copying writes the text and remembers the digest of one item, or leaves both. -/
structure Copies (item : ClipboardItem) (desktop desktop' : Desktop) : Prop where
  workspace : desktop'.app.workspace = desktop.app.workspace
  items : desktop'.items = desktop.items
  copied : (desktop'.systemClipboard = desktop.systemClipboard ∧
      desktop'.app.lastClipboardHash = desktop.app.lastClipboardHash) ∨
    desktop'.systemClipboard = some item.text ∧
      desktop'.app.lastClipboardHash = some item.contentSha256

lemma copies_copyClipboardItem (outside : Outside) (desktop : Desktop) (item : ClipboardItem) :
    Copies item desktop (copyClipboardItem outside desktop item) := by
  rw [copyClipboardItem]
  split_ifs with hclipboard hset
  · exact ⟨rfl, rfl, Or.inr ⟨rfl, rfl⟩⟩
  · exact ⟨rfl, rfl, Or.inl ⟨rfl, rfl⟩⟩
  · exact ⟨rfl, rfl, Or.inl ⟨rfl, rfl⟩⟩

lemma step_row_of_some {index : ℕ} {clicks : RowClicks} {item : ClipboardItem}
    (h : desktop.items[index]? = some item) :
    step sha256 toLowercase desktop ⟨.Row index clicks, outside⟩
      = handleRow sha256 outside desktop item clicks := by
  simp only [step, h]

lemma step_row_of_none {index : ℕ} {clicks : RowClicks} (h : desktop.items[index]? = none) :
    step sha256 toLowercase desktop ⟨.Row index clicks, outside⟩ = desktop := by
  simp only [step, h]

lemma change_handleRow {index : ℕ} {clicks : RowClicks} {item : ClipboardItem}
    (hitem : desktop.items[index]? = some item) :
    Change sha256 (.Row index clicks) desktop
      (handleRow sha256 outside desktop item clicks) := by
  have hcopies : Copies item desktop
      (if clicks.copy then copyClipboardItem outside desktop item else desktop) := by
    split_ifs with hcopy
    · exact copies_copyClipboardItem outside desktop item
    · exact ⟨rfl, rfl, Or.inl ⟨rfl, rfl⟩⟩
  have hmem : item ∈ desktop.items := List.mem_of_getElem? hitem
  rw [handleRow]
  generalize (if clicks.copy then copyClipboardItem outside desktop item else desktop)
    = desktop' at hcopies ⊢
  obtain ⟨hworkspace, hitems, hcopied⟩ := hcopies
  cases haction : clicks.action item with
  | none =>
      exact ⟨Or.inl hworkspace, hcopied.imp_right fun h => ⟨item, hmem, h⟩,
        fun item hitem => Or.inl (hitems ▸ hitem)⟩
  | some action =>
      obtain ⟨hserve, hhash, -⟩ :=
        applyWorkspaceAction_cases sha256 outside desktop'.app action
      rw [hworkspace] at hserve
      rw [← hhash] at hcopied
      exact ⟨Or.inr ⟨_, ⟨item, hitem, haction⟩, hserve⟩,
        hcopied.imp_right fun h => ⟨item, hmem, h⟩, fun item hitem => Or.inl (hitems ▸ hitem)⟩

/-- **Every other input**, by the method that handles it. -/
theorem step_change (sha256 : Bytes → Digest) (toLowercase : String → String) (desktop : Desktop)
    {input : Input} (hcapture : input.event.isCapture = false)
    (hexternal : input.event.isExternal = false) :
    Change sha256 input.event desktop (step sha256 toLowercase desktop input) := by
  obtain ⟨event, outside⟩ := input
  cases event with
  | ShellAction action =>
      refine Handles.change ?_
      unfold DesktopApp.processShellAction
      split_ifs with htray
      · cases action with
        | OpenWindow => exact (Handles.refl _).congr rfl rfl
        | HideWindow => exact (Handles.refl _).congr rfl rfl
        | PauseCapture => exact handles_setCaptureActive _ rfl
        | ResumeCapture => exact handles_setCaptureActive _ rfl
        | Quit => exact (Handles.refl _).congr rfl rfl
      · exact .refl _
  | CloseRequested => exact Handles.change ((Handles.refl _).congr rfl rfl)
  | Poll => cases hcapture
  | ToggleCapture =>
      refine Handles.change (handles_setCaptureActive _ ?_)
      simp [Desktop.Asks]
  | CaptureNow => cases hcapture
  | Search query => exact Handles.change (handles_applyWorkspaceAction _ rfl)
  | ClearUnpinned =>
      refine Handles.change ?_
      rw [DesktopApp.clearUnpinned]
      split_ifs
      · exact handles_applyWorkspaceAction _ rfl
      · exact .refl _
  | ShowItems =>
      exact ⟨Or.inl rfl, Or.inl ⟨rfl, rfl⟩,
        fun item hitem => Or.inr (mem_of_mem_visibleItems hitem)⟩
  | Row index clicks =>
      cases hitem : desktop.items[index]? with
      | none =>
          rw [step_row_of_none hitem]
          exact Handles.change (.refl desktop.app)
      | some item =>
          rw [step_row_of_some hitem]
          exact change_handleRow hitem
  | ApplyRetention policy =>
      refine Handles.change ?_
      rw [DesktopApp.applyRetentionPolicy]
      split_ifs
      · exact handles_applyWorkspaceAction _ rfl
      · exact .refl _
  | EditExclusion text => exact Handles.change ((Handles.refl _).congr rfl rfl)
  | AddExclusion =>
      refine Handles.change ?_
      have happly : Handles sha256 (desktop.Asks .AddExclusion) desktop.app
          (desktop.app.applyWorkspaceAction sha256 outside (.SetSourceExclusions
            (desktop.app.workspace.excludedSourceFingerprints.elems
              ++ [trim desktop.app.sourceExclusionInput]))).2 :=
        handles_applyWorkspaceAction _ rfl
      rw [DesktopApp.addExclusion]
      split
      · next heq =>
          rw [heq] at happly
          exact happly.congr rfl rfl
      · next heq =>
          rw [heq] at happly
          exact happly
  | RemoveExclusion fingerprint => exact Handles.change (handles_applyWorkspaceAction _ rfl)
  | External text => cases hexternal

/-! ## Captures -/

/-- The request for a text read from the system clipboard. -/
def DesktopApp.ingestRequest (sha256 : Bytes → Digest) (self : DesktopApp) (outside : Outside)
    (text : String) : Request :=
  self.request outside (.IngestText outside.itemId text (contentSha256Hex sha256 text)
    text.utf8ByteSize outside.capturedAt none)

/-- **What a capture does**: nothing but a message, or it has a text ingested that is not the one
it remembers, and remembers that. -/
inductive Captures (sha256 : Bytes → Digest) (outside : Outside) (self : DesktopApp)
    (systemClipboard : Option String) (self' : DesktopApp) : Prop
  | keeps (hworkspace : self'.workspace = self.workspace)
      (hhash : self'.lastClipboardHash = self.lastClipboardHash)
  | ingests (text : String) (htext : systemClipboard = some text)
      (hnew : self.lastClipboardHash ≠ some (contentSha256Hex sha256 text))
      (hworkspace : self'.workspace
        = serve sha256 self.workspace (self.ingestRequest sha256 outside text))
      (hhash : self'.lastClipboardHash = some (contentSha256Hex sha256 text))

lemma getText_eq_some {systemClipboard : Option String} {text : String}
    (h : DesktopApp.getText outside systemClipboard = some text) :
    systemClipboard = some text := by
  rw [DesktopApp.getText] at h
  split_ifs at h
  exact h

theorem captures_captureClipboardText (sha256 : Bytes → Digest) (outside : Outside)
    (self : DesktopApp) (systemClipboard : Option String) (reportEmpty : Bool) :
    Captures sha256 outside self systemClipboard
      (self.captureClipboardText sha256 outside systemClipboard reportEmpty) := by
  rw [DesktopApp.captureClipboardText]
  by_cases hpaused : self.workspace.captureState ≠ .Active
  · rw [if_pos hpaused]
    exact .keeps rfl rfl
  rw [if_neg hpaused]
  by_cases hnone : ¬ self.clipboard
  · rw [if_pos hnone]
    split_ifs
    · exact .keeps rfl rfl
    · exact .keeps rfl rfl
  rw [if_neg hnone]
  cases htext : DesktopApp.getText outside systemClipboard with
  | none =>
      dsimp only
      split_ifs
      · exact .keeps rfl rfl
      · exact .keeps rfl rfl
  | some text =>
      dsimp only
      by_cases hempty : text.isEmpty
      · rw [if_pos hempty]
        exact .keeps rfl rfl
      rw [if_neg hempty]
      by_cases hsame : self.lastClipboardHash = some (contentSha256Hex sha256 text)
      · rw [if_pos hsame]
        split_ifs
        · exact .keeps rfl rfl
        · exact .keeps rfl rfl
      rw [if_neg hsame]
      obtain ⟨hworkspace, hhash, haccepts⟩ :=
        applyWorkspaceAction_cases sha256 outside self
          (.IngestText outside.itemId text (contentSha256Hex sha256 text) text.utf8ByteSize
            outside.capturedAt none)
      split
      · next heq =>
          rw [heq] at hworkspace
          exact .ingests text (getText_eq_some htext) hsame hworkspace rfl
      · next heq =>
          rw [heq] at hworkspace hhash haccepts
          exact .keeps (hworkspace.trans (serve_of_not_accepts sha256 haccepts.symm)) hhash

lemma captures_pollClipboard (self : DesktopApp) (systemClipboard : Option String) :
    Captures sha256 outside self systemClipboard
      (self.pollClipboard sha256 outside systemClipboard) := by
  rw [DesktopApp.pollClipboard]
  split_ifs with hdue
  · cases captures_captureClipboardText sha256 outside
      { self with lastClipboardPoll := outside.instant } systemClipboard false with
    | keeps hworkspace hhash => exact .keeps hworkspace hhash
    | ingests text htext hnew hworkspace hhash => exact .ingests text htext hnew hworkspace hhash
  · exact .keeps rfl rfl

/-! ## One input -/

/-- What the methods rely on: the workspace is well formed, and so are the items that are shown,
whether or not they are still stored. -/
structure Stored (sha256 : Bytes → Digest) (desktop : Desktop) : Prop where
  workspace : WellFormed sha256 desktop.app.workspace
  items : ∀ item ∈ desktop.items, item.Faithful sha256

/-- **The remembered digest** is that of the text on the system clipboard. -/
def Current (sha256 : Bytes → Digest) (desktop : Desktop) : Prop :=
  ∃ text, desktop.systemClipboard = some text ∧
    desktop.app.lastClipboardHash = some (contentSha256Hex sha256 text)

lemma stored_start (tray clipboard : Bool) (start : Instant) (content : Option String) :
    Stored sha256 (.start tray clipboard start content) where
  workspace := wellFormed_default
  items := by
    intro item hitem
    cases hitem

/-- A capture, seen from the desktop. -/
lemma captures_step (sha256 : Bytes → Digest) (toLowercase : String → String) (desktop : Desktop)
    {input : Input} (hcapture : input.event.isCapture = true) :
    Captures sha256 input.outside desktop.app desktop.systemClipboard
        (step sha256 toLowercase desktop input).app ∧
      (step sha256 toLowercase desktop input).systemClipboard = desktop.systemClipboard ∧
      (step sha256 toLowercase desktop input).items = desktop.items := by
  obtain ⟨event, outside⟩ := input
  cases event with
  | Poll => exact ⟨captures_pollClipboard _ _, rfl, rfl⟩
  | CaptureNow => exact ⟨captures_captureClipboardText _ _ _ _ _, rfl, rfl⟩
  | _ => cases hcapture

lemma external_step (sha256 : Bytes → Digest) (toLowercase : String → String) (desktop : Desktop)
    {input : Input} (hexternal : input.event.isExternal = true) :
    (step sha256 toLowercase desktop input).app = desktop.app ∧
      (step sha256 toLowercase desktop input).items = desktop.items := by
  obtain ⟨event, outside⟩ := input
  cases event with
  | External text => exact ⟨rfl, rfl⟩
  | _ => cases hexternal

/-- Every input keeps what is stored well formed. -/
theorem stored_step (h : Stored sha256 desktop) (input : Input) :
    Stored sha256 (step sha256 toLowercase desktop input) := by
  cases hcapture : input.event.isCapture with
  | true =>
      obtain ⟨hcaptures, -, hitems⟩ :=
        captures_step sha256 toLowercase desktop hcapture
      refine ⟨?_, hitems ▸ h.items⟩
      cases hcaptures with
      | keeps hworkspace hhash => exact hworkspace ▸ h.workspace
      | ingests text htext hnew hworkspace hhash => exact hworkspace ▸ h.workspace.serve _
  | false =>
      cases hexternal : input.event.isExternal with
      | true =>
          obtain ⟨happ, hitems⟩ := external_step sha256 toLowercase desktop hexternal
          exact ⟨happ ▸ h.workspace, hitems ▸ h.items⟩
      | false =>
          obtain ⟨hworkspace, -, hitems⟩ :=
            step_change sha256 toLowercase desktop hcapture hexternal
          refine ⟨?_, fun item hitem => ?_⟩
          · rcases hworkspace with heq | ⟨r, -, heq⟩
            · exact heq ▸ h.workspace
            · exact heq ▸ h.workspace.serve r
          · rcases hitems item hitem with hold | hold
            · exact h.items item hold
            · exact h.workspace.items item hold

/-- **A capture finds nothing new.** -/
theorem capture_of_current (h : Current sha256 desktop) {input : Input}
    (hcapture : input.event.isCapture = true) :
    (step sha256 toLowercase desktop input).app.workspace = desktop.app.workspace ∧
      Current sha256 (step sha256 toLowercase desktop input) := by
  obtain ⟨text, htext, hhash⟩ := h
  obtain ⟨hcaptures, hsystem, -⟩ :=
    captures_step sha256 toLowercase desktop hcapture
  cases hcaptures with
  | keeps hworkspace hsame =>
      exact ⟨hworkspace, text, hsystem.trans htext, hsame.trans hhash⟩
  | ingests text' htext' hnew hworkspace hsame =>
      obtain rfl := Option.some.inj (htext.symm.trans htext')
      exact absurd hhash hnew

/-- **One input** of the app or its user keeps the remembered digest current. -/
theorem current_step (hstored : Stored sha256 desktop) (h : Current sha256 desktop) {input : Input}
    (hexternal : input.event.isExternal = false) :
    Current sha256 (step sha256 toLowercase desktop input) := by
  cases hcapture : input.event.isCapture with
  | true => exact (capture_of_current h hcapture).2
  | false =>
      obtain ⟨-, hcopied, -⟩ := step_change sha256 toLowercase desktop hcapture hexternal
      rcases hcopied with ⟨hsystem, hhash⟩ | ⟨item, hitem, hsystem, hhash⟩
      · obtain ⟨text, htext, hdigest⟩ := h
        exact ⟨text, hsystem.trans htext, hhash.trans hdigest⟩
      · -- the copied item says the truth about its text
        refine ⟨item.text, hsystem, hhash.trans ?_⟩
        rw [(hstored.items item hitem).digest_eq]

/-- A copy that the system clipboard takes, whatever else is clicked in the row. -/
lemma copied_handleRow (sha256 : Bytes → Digest) (desktop : Desktop) (item : ClipboardItem)
    {clicks : RowClicks} (hcopy : clicks.copy = true)
    (hclipboard : desktop.app.clipboard = true) (hset : outside.writable = true) :
    (handleRow sha256 outside desktop item clicks).systemClipboard = some item.text ∧
      (handleRow sha256 outside desktop item clicks).app.lastClipboardHash
        = some item.contentSha256 := by
  rw [handleRow, if_pos hcopy, copyClipboardItem, if_neg (not_not.mpr hclipboard), if_pos hset]
  cases clicks.action item with
  | none => exact ⟨rfl, rfl⟩
  | some action =>
      refine ⟨rfl, ?_⟩
      rw [(applyWorkspaceAction_cases sha256 outside _ action).2.1]

/-- **A successful capture or copy** makes the remembered digest current. -/
theorem current_of_succeeds (hstored : Stored sha256 desktop) {input : Input}
    (h : Succeeds sha256 toLowercase desktop input) :
    Current sha256 (step sha256 toLowercase desktop input) := by
  cases h with
  | capture hcapture hingest =>
      obtain ⟨hcaptures, hsystem, -⟩ :=
        captures_step sha256 toLowercase desktop hcapture
      cases hcaptures with
      | keeps hworkspace hhash => exact absurd hworkspace hingest
      | ingests text htext hnew hworkspace hhash => exact ⟨text, hsystem.trans htext, hhash⟩
  | copy index clicks hevent hcopy hindex hclipboard hset =>
      obtain ⟨event, outside⟩ := input
      obtain rfl : event = .Row index clicks := hevent
      obtain ⟨hsystem, hhash⟩ := copied_handleRow sha256 desktop desktop.items[index] hcopy
        hclipboard hset
      rw [step_row_of_some (List.getElem?_eq_getElem hindex)]
      refine ⟨_, hsystem, hhash.trans ?_⟩
      rw [(hstored.items _ (List.getElem_mem hindex)).digest_eq]

/-! ## Runs without other applications -/

lemma current_exec {inputs : List Input} (hstored : Stored sha256 desktop)
    (h : Current sha256 desktop) (hquiet : ∀ i ∈ inputs, i.event.isExternal = false) :
    Current sha256 (exec (step sha256 toLowercase) desktop inputs) := by
  induction inputs generalizing desktop with
  | nil => exact h
  | cons i inputs ih =>
      exact ih (stored_step hstored i) (current_step hstored h (hquiet i List.mem_cons_self))
        fun j hj => hquiet j (List.mem_cons_of_mem _ hj)

/-- The workspace after an input: as before, or with the action applied that the user asked for. -/
lemma workspace_step (toLowercase : String → String) (h : Current sha256 desktop) {input : Input}
    (hexternal : input.event.isExternal = false) :
    (step sha256 toLowercase desktop input).app.workspace = desktop.app.workspace ∨
      ∃ r : Request, desktop.Asks input.event r.action ∧
        (step sha256 toLowercase desktop input).app.workspace
          = serve sha256 desktop.app.workspace r := by
  cases hcapture : input.event.isCapture with
  | true => exact Or.inl (capture_of_current h hcapture).1
  | false => exact (step_change sha256 toLowercase desktop hcapture hexternal).workspace

/-- Every item of a later workspace is in every earlier one. -/
lemma exists_old_exec {inputs : List Input} (hstored : Stored sha256 desktop)
    (h : Current sha256 desktop) (hquiet : ∀ i ∈ inputs, i.event.isExternal = false)
    {item : ClipboardItem}
    (hitem : item ∈ (exec (step sha256 toLowercase) desktop inputs).app.workspace.items) :
    ∃ old ∈ desktop.app.workspace.items, item.IsRepinned old := by
  induction inputs generalizing desktop with
  | nil => exact ⟨item, hitem, .rfl⟩
  | cons i inputs ih =>
      have hexternal := hquiet i List.mem_cons_self
      obtain ⟨old, hold, hsame⟩ := ih (stored_step hstored i) (current_step hstored h hexternal)
        (fun j hj => hquiet j (List.mem_cons_of_mem _ hj)) hitem
      rcases workspace_step toLowercase h hexternal with heq | ⟨r, hasks, heq⟩
      · exact ⟨old, heq ▸ hold, hsame⟩
      · rw [heq] at hold
        obtain ⟨older, holder, hsame'⟩ := exists_old_serve hasks.ingestedId_eq_none hold
        exact ⟨older, holder, hsame.trans hsame'⟩

/-- **Deleted content is not resurrected.**  Take any run of the app, at the end of which a capture
or a copy succeeds, and let it go on without another application changing the system clipboard.
From then on no poll and no "Capture now" changes the workspace, whatever else happens; it changes
only by the actions that the user asks for, none of which is an ingest.  So an item that is stored
was stored at every earlier point: once it is gone it stays away. -/
theorem no_resurrection (sha256 : Bytes → Digest) (toLowercase : String → String)
    (tray clipboard : Bool) (start : Instant) (content : Option String) (before : List Input)
    (input : Input) (after : List Input)
    (hsucceeds : Succeeds sha256 toLowercase
      (exec (step sha256 toLowercase) (.start tray clipboard start content) before) input)
    (hquiet : ∀ i ∈ after, i.event.isExternal = false) :
    let desktop :=
      exec (step sha256 toLowercase) (.start tray clipboard start content) (before ++ [input])
    (∀ n (hn : n < after.length),
      let now := stateAt (step sha256 toLowercase) desktop after n
      let next := stateAt (step sha256 toLowercase) desktop after (n + 1)
      (after[n].event.isCapture = true → next.app.workspace = now.app.workspace) ∧
      (next.app.workspace = now.app.workspace ∨
        ∃ r : Request, now.Asks after[n].event r.action ∧ r.action.ingestedId = none ∧
          next.app.workspace = serve sha256 now.app.workspace r)) ∧
    ∀ m n, m ≤ n →
      ∀ item ∈ (stateAt (step sha256 toLowercase) desktop after n).app.workspace.items,
        ∃ old ∈ (stateAt (step sha256 toLowercase) desktop after m).app.workspace.items,
          item.IsRepinned old := by
  intro desktop
  have hbefore : Stored sha256
      (exec (step sha256 toLowercase) (.start tray clipboard start content) before) :=
    exec_invariant (P := Stored sha256) (fun _ i h => stored_step h i)
      (stored_start tray clipboard start content) before
  have hdesktop : desktop = step sha256 toLowercase
      (exec (step sha256 toLowercase) (.start tray clipboard start content) before) input :=
    exec_concat _ _ _
  have hstored : ∀ n, Stored sha256 (stateAt (step sha256 toLowercase) desktop after n) :=
    fun n => exec_invariant (P := Stored sha256) (fun _ i h => stored_step h i)
      (hdesktop ▸ stored_step hbefore input) _
  have hcurrent : ∀ n, Current sha256 (stateAt (step sha256 toLowercase) desktop after n) :=
    fun n => current_exec (hstored 0) (hdesktop ▸ current_of_succeeds hbefore hsucceeds)
      fun i hi => hquiet i (List.mem_of_mem_take hi)
  refine ⟨fun n hn => ?_, fun m n hmn item hitem => ?_⟩
  · have hexternal := hquiet _ (List.getElem_mem hn)
    rw [stateAt_succ _ _ hn]
    refine ⟨fun hcapture => (capture_of_current (hcurrent n) hcapture).1, ?_⟩
    refine (workspace_step toLowercase (hcurrent n) hexternal).imp_right ?_
    rintro ⟨r, hasks, heq⟩
    exact ⟨r, hasks, hasks.ingestedId_eq_none, heq⟩
  · rw [stateAt_split _ _ hmn] at hitem
    exact exists_old_exec (hstored m) (hcurrent m)
      (fun i hi => hquiet i (List.mem_of_mem_take (List.mem_of_mem_drop hi))) hitem

/-- The `k`-th input, one second after the one before it.  The clock is read twice, 50 µs apart. -/
def exampleInput (k : ℕ) (event : Event) : Input :=
  { event
    outside :=
      { commandId := BitVec.ofNat 128 k, itemId := BitVec.ofNat 128 k, capturedAt := 0, now := 0
        checked := k * NANOS_PER_SEC, instant := k * NANOS_PER_SEC + 50000
        readable := true, writable := true } }

/-- A text is captured and its item deleted; the text stays on the clipboard, and nothing brings
the item back. -/
theorem no_resurrection_deleted :
    (exec (step exampleSha256 id) (.start true true 0 none)
      ([exampleInput 1 (.ShellAction .ResumeCapture), exampleInput 2 (.External (some "a"))]
        ++ [exampleInput 3 .Poll]
        ++ [exampleInput 4 .ShowItems, exampleInput 5 (.Row 0 ⟨true, false, false⟩),
          exampleInput 6 .Poll, exampleInput 7 .CaptureNow])).app.workspace.items = [] := by
  obtain ⟨-, hgone⟩ := no_resurrection exampleSha256 id true true 0 none
    [exampleInput 1 (.ShellAction .ResumeCapture), exampleInput 2 (.External (some "a"))]
    (exampleInput 3 .Poll)
    [exampleInput 4 .ShowItems, exampleInput 5 (.Row 0 ⟨true, false, false⟩),
      exampleInput 6 .Poll, exampleInput 7 .CaptureNow]
    (.capture rfl (by decide +kernel)) (by decide)
  rw [exec_append]
  refine List.eq_nil_iff_forall_not_mem.mpr fun item hitem => ?_
  obtain ⟨old, hold, -⟩ := hgone 2 4 (by decide) item hitem
  have hdeleted : (stateAt (step exampleSha256 id)
      (exec (step exampleSha256 id) (.start true true 0 none)
        ([exampleInput 1 (.ShellAction .ResumeCapture), exampleInput 2 (.External (some "a"))]
          ++ [exampleInput 3 .Poll]))
      [exampleInput 4 .ShowItems, exampleInput 5 (.Row 0 ⟨true, false, false⟩),
        exampleInput 6 .Poll, exampleInput 7 .CaptureNow] 2).app.workspace.items = [] := by
    decide +kernel
  rw [hdeleted] at hold
  exact absurd hold List.not_mem_nil

end FtnlDesktop.Clipboard
