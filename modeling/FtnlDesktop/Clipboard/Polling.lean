import FtnlDesktop.Clipboard.Requests
import FtnlDesktop.Core.Throttle
import FtnlDesktop.Workspace.Ingest
import FtnlDesktop.Workspace.Revision

/-!
# How often the system clipboard is polled

Every frame calls `poll_clipboard`, which reads the system clipboard when capture is active and
750 ms have passed since it last did.  That is a throttle, and what holds of throttles holds here:
it does not read more often than that, and it does not read less often either.  The clock is read to
check it and then again to keep it, and the 750 ms are from what one poll keeps to what a later one
checks.

* **`polls_are_throttled`** — the readings are 750 ms apart, and every other poll does nothing.
* **`lingering_text_is_stored`** — a text that stays on the clipboard from one poll to another
  750 ms later ends up in the history.

The second has its limits, which are those of the workspace: the text must not be too long, and the
system time may not jump by a day while a text is being captured.  A text that is remembered already
is not stored again, but then it has been in the history before.
-/

namespace FtnlDesktop.Clipboard

open Machine Method

variable {sha256 : Bytes → Digest} {toLowercase : String → String} {outside : Outside}
  {desktop : Desktop} {input : Input}

/-! ## The throttle -/

section Throttle

/-- What stays as it is unless the clipboard is polled. -/
structure Unpolled (app app' : DesktopApp) : Prop where
  tray : app'.tray = app.tray
  clipboard : app'.clipboard = app.clipboard
  lastClipboardPoll : app'.lastClipboardPoll = app.lastClipboardPoll

lemma Unpolled.refl (app : DesktopApp) : Unpolled app app := ⟨rfl, rfl, rfl⟩

lemma Unpolled.trans {app app' app'' : DesktopApp} (h : Unpolled app app')
    (h' : Unpolled app' app'') : Unpolled app app'' :=
  ⟨h'.tray.trans h.tray, h'.clipboard.trans h.clipboard,
    h'.lastClipboardPoll.trans h.lastClipboardPoll⟩

lemma unpolled_applyWorkspaceAction (sha256 : Bytes → Digest) (outside : Outside)
    (self : DesktopApp) (action : WorkspaceAction) :
    Unpolled self (self.applyWorkspaceAction sha256 outside action).2 := by
  rw [DesktopApp.applyWorkspaceAction]
  cases (apply sha256 outside.commandId self.workspace.revision action outside.now).run
      self.workspace with
  | ok u workspace => exact ⟨rfl, rfl, rfl⟩
  | error e workspace => exact ⟨rfl, rfl, rfl⟩

lemma unpolled_setCaptureActive (self : DesktopApp) (active : Bool) :
    Unpolled self (self.setCaptureActive sha256 outside active) := by
  rw [DesktopApp.setCaptureActive]
  by_cases hstate : self.workspace.captureState ≠ if active then CaptureState.Active else .Paused
  · rw [if_pos hstate]
    obtain ⟨htray, hclipboard, hpoll⟩ := unpolled_applyWorkspaceAction sha256 outside self
      (if active then .ResumeCapture else .PauseCapture)
    exact ⟨htray, hclipboard, hpoll⟩
  · rw [if_neg hstate]
    exact ⟨rfl, rfl, rfl⟩

lemma unpolled_captureClipboardText (sha256 : Bytes → Digest) (outside : Outside)
    (self : DesktopApp) (systemClipboard : Option String) (reportEmpty : Bool) :
    Unpolled self (self.captureClipboardText sha256 outside systemClipboard reportEmpty) := by
  rw [DesktopApp.captureClipboardText]
  by_cases hpaused : self.workspace.captureState ≠ .Active
  · rw [if_pos hpaused]
    exact .refl self
  rw [if_neg hpaused]
  by_cases hnone : ¬ self.clipboard
  · rw [if_pos hnone]
    split_ifs
    · exact ⟨rfl, rfl, rfl⟩
    · exact .refl self
  rw [if_neg hnone]
  cases DesktopApp.getText outside systemClipboard with
  | none =>
      dsimp only
      split_ifs
      · exact ⟨rfl, rfl, rfl⟩
      · exact .refl self
  | some text =>
      have happly : Unpolled self (self.applyWorkspaceAction sha256 outside
          (.IngestText outside.itemId text (contentSha256Hex sha256 text) text.utf8ByteSize
            outside.capturedAt none)).2 := unpolled_applyWorkspaceAction _ _ self _
      dsimp only
      split_ifs
      · exact .refl self
      · exact ⟨rfl, rfl, rfl⟩
      · exact .refl self
      · split
        · next heq =>
            rw [heq] at happly
            exact ⟨happly.tray, happly.clipboard, happly.lastClipboardPoll⟩
        · next heq =>
            rw [heq] at happly
            exact happly

lemma unpolled_handleRow (item : ClipboardItem) (clicks : RowClicks) :
    Unpolled desktop.app (handleRow sha256 outside desktop item clicks).app := by
  have hcopy : Unpolled desktop.app
      (if clicks.copy then copyClipboardItem outside desktop item else desktop).app := by
    rw [copyClipboardItem]
    split_ifs
    all_goals exact ⟨rfl, rfl, rfl⟩
  rw [handleRow]
  cases clicks.action item with
  | none => exact hcopy
  | some action =>
      exact hcopy.trans (unpolled_applyWorkspaceAction sha256 outside _ action)

/-- The poll reads the clipboard. -/
def Polls (desktop : Desktop) (input : Input) : Prop :=
  input.event = .Poll ∧ desktop.app.workspace.captureState = .Active ∧
    fromMillis 750 ≤ elapsed input.outside.checked desktop.app.lastClipboardPoll

instance (desktop : Desktop) (input : Input) : Decidable (Polls desktop input) :=
  inferInstanceAs (Decidable (_ ∧ _ ∧ _))

/-- A poll that reads nothing does nothing. -/
lemma step_of_not_polls (hevent : input.event = .Poll) (hpolls : ¬ Polls desktop input) :
    step sha256 toLowercase desktop input = desktop := by
  simp only [step, hevent]
  rw [DesktopApp.pollClipboard, if_neg fun hdue => hpolls ⟨hevent, hdue⟩]

lemma unpolled_step (hpolls : ¬ Polls desktop input) :
    Unpolled desktop.app (step sha256 toLowercase desktop input).app := by
  cases hevent : input.event with
  | ShellAction action =>
      simp only [step, hevent]
      unfold DesktopApp.processShellAction
      split_ifs
      · cases action with
        | PauseCapture => exact unpolled_setCaptureActive _ _
        | ResumeCapture => exact unpolled_setCaptureActive _ _
        | _ => exact ⟨rfl, rfl, rfl⟩
      · exact .refl _
  | Poll =>
      rw [step_of_not_polls hevent hpolls]
      exact .refl _
  | ToggleCapture =>
      simp only [step, hevent]
      exact unpolled_setCaptureActive _ _
  | CaptureNow =>
      simp only [step, hevent]
      exact unpolled_captureClipboardText _ _ _ _ _
  | Search query =>
      simp only [step, hevent]
      exact unpolled_applyWorkspaceAction _ _ _ _
  | ClearUnpinned =>
      simp only [step, hevent]
      rw [DesktopApp.clearUnpinned]
      split_ifs
      · exact unpolled_applyWorkspaceAction _ _ _ _
      · exact .refl _
  | Row index clicks =>
      simp only [step, hevent]
      cases desktop.items[index]? with
      | none => exact .refl _
      | some item => exact unpolled_handleRow item clicks
  | ApplyRetention policy =>
      simp only [step, hevent]
      rw [DesktopApp.applyRetentionPolicy]
      split_ifs
      · exact unpolled_applyWorkspaceAction _ _ _ _
      · exact .refl _
  | AddExclusion =>
      have happly : Unpolled desktop.app (desktop.app.applyWorkspaceAction sha256 input.outside
          (.SetSourceExclusions (desktop.app.workspace.excludedSourceFingerprints.elems
            ++ [trim desktop.app.sourceExclusionInput]))).2 :=
        unpolled_applyWorkspaceAction _ _ _ _
      simp only [step, hevent]
      rw [DesktopApp.addExclusion]
      split
      · next heq =>
          rw [heq] at happly
          exact ⟨happly.tray, happly.clipboard, happly.lastClipboardPoll⟩
      · next heq =>
          rw [heq] at happly
          exact happly
  | RemoveExclusion fingerprint =>
      simp only [step, hevent]
      exact unpolled_applyWorkspaceAction _ _ _ _
  | CloseRequested | ShowItems | EditExclusion _ | External _ =>
      simp only [step, hevent]
      exact ⟨rfl, rfl, rfl⟩

/-- What a poll that reads does with the clock. -/
lemma polled_step (hpolls : Polls desktop input) :
    (step sha256 toLowercase desktop input).app.tray = desktop.app.tray ∧
      (step sha256 toLowercase desktop input).app.clipboard = desktop.app.clipboard ∧
      (step sha256 toLowercase desktop input).app.lastClipboardPoll = input.outside.instant := by
  obtain ⟨hevent, hdue⟩ := hpolls
  simp only [step, hevent]
  rw [DesktopApp.pollClipboard, if_pos hdue]
  obtain ⟨htray, hclipboard, hpoll⟩ := unpolled_captureClipboardText sha256 input.outside
    { desktop.app with lastClipboardPoll := input.outside.instant } desktop.systemClipboard false
  exact ⟨htray, hclipboard, hpoll⟩

/-- `self.last_clipboard_poll`, as the throttle of the polls. -/
def pollThrottle (sha256 : Bytes → Digest) (toLowercase : String → String) :
    Throttle (step sha256 toLowercase) where
  interval := fromMillis 750
  kept desktop := desktop.app.lastClipboardPoll
  checked input := if input.event = .Poll then some input.outside.checked else none
  stored input := if input.event = .Poll then some input.outside.instant else none
  fires desktop input := Polls desktop input
  moved desktop input := by
    by_cases hpolls : Polls desktop input
    · rw [if_pos hpolls.1, (polled_step hpolls).2.2]
      exact Or.inr rfl
    · exact Or.inl (unpolled_step hpolls).lastClipboardPoll
  due desktop input hfires := by
    have hpolls : Polls desktop input := of_decide_eq_true hfires
    rw [if_pos hpolls.1, if_pos hpolls.1, (polled_step hpolls).2.2]
    exact ⟨rfl, input.outside.checked, rfl, hpolls.2.2⟩

end Throttle

/-! ## Not too often -/

/-- **Polls are throttled.**  In every run of the app in which the clock does not go back, the polls
that read the system clipboard are at least 750 ms apart, by the readings that they keep, the first
one counting from the start of the app, so that at most `k` of them fall into any `k * 750` ms.
Every other poll does nothing. -/
theorem polls_are_throttled (sha256 : Bytes → Digest) (toLowercase : String → String)
    (tray clipboard : Bool) (start : Instant) (content : Option String) (inputs : List Input)
    (hclock : (start :: (pollThrottle sha256 toLowercase).readings inputs).SortedLE) :
    let desktop := Desktop.start tray clipboard start content
    let times := (pollThrottle sha256 toLowercase).firings desktop inputs
    (start :: times).Pairwise (fun t t' => t + fromMillis 750 ≤ t') ∧
    (∀ k t, (times.filter fun t' => t ≤ t' ∧ t' < t + k * fromMillis 750).length ≤ k) ∧
    ∀ n input, inputs[n]? = some input → input.event = .Poll →
      ¬ Polls (stateAt (step sha256 toLowercase) desktop inputs n) input →
      stateAt (step sha256 toLowercase) desktop inputs (n + 1)
        = stateAt (step sha256 toLowercase) desktop inputs n := by
  intro desktop times
  have hordered : (pollThrottle sha256 toLowercase).Ordered desktop inputs := hclock
  refine ⟨Throttle.spaced hordered, Throttle.length_firings_le hordered, ?_⟩
  intro n input hinput hevent hpolls
  obtain ⟨hn, rfl⟩ := List.getElem?_eq_some_iff.mp hinput
  rw [stateAt_succ desktop inputs hn, step_of_not_polls hevent hpolls]

/-- Two polls read the clipboard, the second one a second after the first. -/
theorem polls_are_throttled_twice :
    (0 :: (pollThrottle exampleSha256 id).firings (.start true true 0 (some "a"))
      [exampleInput 1 .ToggleCapture, exampleInput 2 .Poll, exampleInput 3 .Poll]).Pairwise
        fun t t' => t + fromMillis 750 ≤ t' :=
  (polls_are_throttled exampleSha256 id true true 0 (some "a") _
    (List.Pairwise.sortedLE (by decide))).1

/-! ## What is remembered was stored -/

section Remembers

/-- A capture that remembers another digest has had its text ingested. -/
lemma hash_captureClipboardText (sha256 : Bytes → Digest) (outside : Outside) (self : DesktopApp)
    (systemClipboard : Option String) (reportEmpty : Bool) :
    let self' := self.captureClipboardText sha256 outside systemClipboard reportEmpty
    self'.lastClipboardHash = self.lastClipboardHash ∨
      ∃ text, self'.lastClipboardHash = some (contentSha256Hex sha256 text) ∧
        accepts sha256 self.workspace (self.ingestRequest sha256 outside text) = true ∧
        self'.workspace = serve sha256 self.workspace (self.ingestRequest sha256 outside text) := by
  intro self'
  have hself : self' = self.captureClipboardText sha256 outside systemClipboard reportEmpty := rfl
  rw [DesktopApp.captureClipboardText] at hself
  by_cases hpaused : self.workspace.captureState ≠ .Active
  · rw [if_pos hpaused] at hself
    exact Or.inl (by rw [hself])
  rw [if_neg hpaused] at hself
  by_cases hnone : ¬ self.clipboard
  · rw [if_pos hnone] at hself
    refine Or.inl ?_
    split_ifs at hself
    all_goals rw [hself]
  rw [if_neg hnone] at hself
  cases htext : DesktopApp.getText outside systemClipboard with
  | none =>
      rw [htext] at hself
      dsimp only at hself
      refine Or.inl ?_
      split_ifs at hself
      all_goals rw [hself]
  | some text =>
      rw [htext] at hself
      dsimp only at hself
      obtain ⟨hworkspace, hhash, haccepts⟩ :=
        applyWorkspaceAction_cases sha256 outside self
          (.IngestText outside.itemId text (contentSha256Hex sha256 text) text.utf8ByteSize
            outside.capturedAt none)
      split_ifs at hself
      · exact Or.inl (by rw [hself])
      · exact Or.inl (by rw [hself])
      · exact Or.inl (by rw [hself])
      · split at hself
        · next heq =>
            rw [heq] at hworkspace haccepts
            rw [hself]
            exact Or.inr ⟨text, rfl, haccepts.symm, hworkspace⟩
        · next heq =>
            rw [heq] at hhash
            rw [hself]
            exact Or.inl hhash

/-- A capture, seen from the desktop. -/
lemma hash_step (sha256 : Bytes → Digest) (toLowercase : String → String)
    (hcapture : input.event.isCapture = true) :
    let desktop' := step sha256 toLowercase desktop input
    desktop'.app.lastClipboardHash = desktop.app.lastClipboardHash ∨
      ∃ text, desktop'.app.lastClipboardHash = some (contentSha256Hex sha256 text) ∧
        accepts sha256 desktop.app.workspace
          (desktop.app.ingestRequest sha256 input.outside text) = true ∧
        desktop'.app.workspace = serve sha256 desktop.app.workspace
          (desktop.app.ingestRequest sha256 input.outside text) := by
  obtain ⟨event, outside⟩ := input
  cases event with
  | Poll =>
      simp only [step]
      rw [DesktopApp.pollClipboard]
      split_ifs
      · exact hash_captureClipboardText sha256 outside
          { desktop.app with lastClipboardPoll := outside.instant } desktop.systemClipboard false
      · exact Or.inl rfl
  | CaptureNow => exact hash_captureClipboardText sha256 outside desktop.app _ true
  | _ => cases hcapture

/-- The two readings of the system time in a capture are no more than a day apart. -/
def Input.Steady (input : Input) : Prop :=
  input.outside.now - input.outside.capturedAt ≤ (fromSecs (24 * 60 * 60) : ℤ)

instance (input : Input) : Decidable input.Steady := inferInstanceAs (Decidable (_ ≤ _))

/-- No policy forgets what is a day old. -/
lemma not_tooOld_of_steady {policy : RetentionPolicy} (hpolicy : policy.InBounds)
    (hsteady : input.Steady) : ¬ TooOld policy input.outside.now input.outside.capturedAt := by
  rintro ⟨-, hold⟩
  have hdays := hpolicy.one_le_days
  rw [Input.Steady] at hsteady
  have hlt := hold.trans_le hsteady
  simp only [fromSecs, NANOS_PER_SEC] at hlt
  omega

/-- The ingested text is in the history afterwards. -/
lemma exists_mem_serve_ingest (hstored : Stored sha256 desktop) (hsteady : input.Steady)
    {text : String}
    (haccepts : accepts sha256 desktop.app.workspace
      (desktop.app.ingestRequest sha256 input.outside text) = true) :
    ∃ item ∈ (serve sha256 desktop.app.workspace
        (desktop.app.ingestRequest sha256 input.outside text)).items,
      item.contentSha256 = contentSha256Hex sha256 text := by
  rcases serve_cases sha256 desktop.app.workspace
    (desktop.app.ingestRequest sha256 input.outside text) with
    ⟨hreject, -⟩ | ⟨-, -, -, -, m, heffect, heq⟩
  · rw [haccepts] at hreject
    cases hreject
  · obtain ⟨front, others, hfront, hitems⟩ := heffect.exists_ingestFront
    have hage : ¬ TooOld desktop.app.workspace.retention input.outside.now front.capturedAt := by
      rw [hfront.capturedAt_eq]
      exact not_tooOld_of_steady hstored.workspace.retention hsteady
    refine ⟨front, ?_, hfront.contentSha256_eq⟩
    rw [heq]
    refine hitems.symm ▸ ?_
    rw [DesktopApp.ingestRequest, DesktopApp.request,
      retained_front hstored.workspace.retention hage others]
    exact List.mem_cons_self

/-- An item with this digest is in the history, or was at an earlier point of the run. -/
def WasStored (sha256 : Bytes → Digest) (toLowercase : String → String) (start : Desktop)
    (inputs : List Input) (n : ℕ) (digest : String) : Prop :=
  ∃ m ≤ n, ∃ item ∈ (stateAt (step sha256 toLowercase) start inputs m).app.workspace.items,
    item.contentSha256 = digest

variable {start : Desktop} {inputs : List Input} {n : ℕ}

lemma WasStored.mono {n' : ℕ} {digest : String}
    (h : WasStored sha256 toLowercase start inputs n digest) (hn : n ≤ n') :
    WasStored sha256 toLowercase start inputs n' digest := by
  obtain ⟨m, hm, hstored⟩ := h
  exact ⟨m, hm.trans hn, hstored⟩

/-- What the app remembers was stored, and so was what a frame shows. -/
structure Recalls (sha256 : Bytes → Digest) (toLowercase : String → String) (start : Desktop)
    (inputs : List Input) (n : ℕ) : Prop where
  hash : ∀ digest,
    (stateAt (step sha256 toLowercase) start inputs n).app.lastClipboardHash = some digest →
      WasStored sha256 toLowercase start inputs n digest
  items : ∀ item ∈ (stateAt (step sha256 toLowercase) start inputs n).items,
    WasStored sha256 toLowercase start inputs n item.contentSha256

/-- The step lemma. -/
lemma Recalls.succ (h : Recalls sha256 toLowercase start inputs n) (hn : n < inputs.length)
    (hstored : Stored sha256 (stateAt (step sha256 toLowercase) start inputs n))
    (hsteady : inputs[n].Steady) : Recalls sha256 toLowercase start inputs (n + 1) := by
  have hnext : stateAt (step sha256 toLowercase) start inputs (n + 1) =
      step sha256 toLowercase (stateAt (step sha256 toLowercase) start inputs n) inputs[n] :=
    stateAt_succ start inputs hn
  have hhash : ∀ digest,
      (stateAt (step sha256 toLowercase) start inputs n).app.lastClipboardHash = some digest →
        WasStored sha256 toLowercase start inputs (n + 1) digest :=
    fun digest hdigest => (h.hash digest hdigest).mono n.le_succ
  have hitems : ∀ item ∈ (stateAt (step sha256 toLowercase) start inputs n).items,
      WasStored sha256 toLowercase start inputs (n + 1) item.contentSha256 :=
    fun item hitem => (h.items item hitem).mono n.le_succ
  cases hcapture : inputs[n].event.isCapture with
  | true =>
      obtain ⟨-, -, hshown⟩ := captures_step sha256 toLowercase
        (stateAt (step sha256 toLowercase) start inputs n) hcapture
      refine ⟨fun digest hdigest => ?_, fun item hitem => ?_⟩
      · rcases hash_step sha256 toLowercase hcapture with hsame | ⟨text, hnew, haccepts, heq⟩
        · exact hhash digest (by rw [← hsame, ← hnext, hdigest])
        · -- the text has just been stored
          rw [hnext, hnew] at hdigest
          cases hdigest
          refine ⟨n + 1, le_rfl, ?_⟩
          rw [hnext, heq]
          exact exists_mem_serve_ingest hstored hsteady haccepts
      · rw [hnext, hshown] at hitem
        exact hitems item hitem
  | false =>
      cases hexternal : inputs[n].event.isExternal with
      | true =>
          obtain ⟨happ, hshown⟩ := external_step sha256 toLowercase
            (stateAt (step sha256 toLowercase) start inputs n) hexternal
          rw [← hnext] at happ hshown
          exact ⟨fun digest hdigest => hhash digest (happ ▸ hdigest),
            fun item hitem => hitems item (hshown ▸ hitem)⟩
      | false =>
          obtain ⟨-, hcopied, hshown⟩ := step_change sha256 toLowercase
            (stateAt (step sha256 toLowercase) start inputs n) hcapture hexternal
          rw [← hnext] at hcopied hshown
          refine ⟨fun digest hdigest => ?_, fun item hitem => ?_⟩
          · rcases hcopied with ⟨-, hsame⟩ | ⟨item, hitem, -, hcopy⟩
            · exact hhash digest (hsame ▸ hdigest)
            · rw [hcopy] at hdigest
              cases hdigest
              exact hitems item hitem
          · rcases hshown item hitem with hold | hold
            · exact hitems item hold
            · exact ⟨n, n.le_succ, item, hold, rfl⟩

/-- The run lemma. -/
lemma recalls_stateAt (tray clipboard : Bool) (now : Instant) (content : Option String)
    (hsteady : ∀ input ∈ inputs, input.Steady) (hn : n ≤ inputs.length) :
    Recalls sha256 toLowercase (.start tray clipboard now content) inputs n := by
  induction n with
  | zero =>
      refine ⟨fun digest hdigest => ?_, fun item hitem => ?_⟩
      · cases hdigest
      · cases hitem
  | succ n ih =>
      have hlt : n < inputs.length := hn
      exact (ih hlt.le).succ hlt (exec_invariant (P := Stored sha256)
        (fun _ input h => stored_step h input) (stored_start tray clipboard now content) _)
        (hsteady _ (List.getElem_mem hlt))

end Remembers

/-! ## Not too seldom -/

section Lingers

/-- Every input raises the revision by at most one. -/
lemma revision_step_le (desktop : Desktop) (input : Input) :
    (step sha256 toLowercase desktop input).app.workspace.revision
      ≤ desktop.app.workspace.revision + 1 := by
  cases step_handled sha256 toLowercase desktop input with
  | quiet hworkspace hmessage =>
      rw [hworkspace]
      exact Nat.le_succ _
  | served action hrequests hworkspace hmessage =>
      rw [hworkspace]
      rcases serve_cases sha256 desktop.app.workspace (desktop.app.request input.outside action)
        with ⟨-, heq⟩ | ⟨haccepts, -⟩
      · rw [heq]
        exact Nat.le_succ _
      · exact (revision_serve_of_accepts sha256 haccepts).le

lemma revision_stateAt_le (tray clipboard : Bool) (now : Instant) (content : Option String)
    {inputs : List Input} {n : ℕ} (hn : n ≤ inputs.length) :
    (stateAt (step sha256 toLowercase) (.start tray clipboard now content)
      inputs n).app.workspace.revision ≤ n := by
  induction n with
  | zero => exact le_rfl
  | succ n ih =>
      have hlt : n < inputs.length := hn
      rw [stateAt_succ _ _ hlt]
      exact (revision_step_le _ _).trans (Nat.succ_le_succ (ih hlt.le))

/-- Whether there is a clipboard does not change. -/
lemma clipboard_step (desktop : Desktop) (input : Input) :
    (step sha256 toLowercase desktop input).app.clipboard = desktop.app.clipboard := by
  by_cases hpolls : Polls desktop input
  · exact (polled_step hpolls).2.1
  · exact (unpolled_step hpolls).clipboard

/-- Nor does it change whether there is a tray. -/
lemma tray_step (desktop : Desktop) (input : Input) :
    (step sha256 toLowercase desktop input).app.tray = desktop.app.tray := by
  by_cases hpolls : Polls desktop input
  · exact (polled_step hpolls).1
  · exact (unpolled_step hpolls).tray

variable (sha256) in
/-- The workspace takes a text of the right length from the app. -/
lemma accepts_ingestRequest {text : String} (hactive : desktop.app.workspace.captureState = .Active)
    (hnonempty : text.isEmpty = false) (hlength : text.length ≤ MAX_TEXT_CHARACTERS)
    (hid : outside.commandId ∉ desktop.app.workspace.processedCommands)
    (hroom : desktop.app.workspace.revision < MAX_REVISION) :
    accepts sha256 desktop.app.workspace (desktop.app.ingestRequest sha256 outside text)
      = true := by
  -- four bytes for a character are within the other limit
  have hbytes : text.utf8ByteSize ≤ MAX_TEXT_BYTES := by
    have hle := utf8ByteSize_ofList_le text.toList
    rw [String.ofList_toList, String.length_toList] at hle
    refine hle.trans ((Nat.mul_le_mul_left 4 hlength).trans ?_)
    decide
  have hcontent : Ingestible sha256 desktop.app.workspace text (contentSha256Hex sha256 text)
      text.utf8ByteSize none :=
    ⟨hactive, ⟨hnonempty, hlength, hbytes, rfl, rfl, by simp⟩, by simp⟩
  cases hrun : ((desktop.app.ingestRequest sha256 outside text).call sha256).run
      desktop.app.workspace with
  | ok u workspace => rw [accepts, hrun]
  | error e workspace =>
      rcases refused_of_apply hrun with ⟨-, hduplicate⟩ | ⟨-, hconflict⟩ | ⟨-, hmax⟩ | hrefuses
      · exact absurd hduplicate hid
      · exact absurd rfl hconflict
      · exact absurd hmax (not_le.mpr hroom)
      · cases hrefuses with
        | ingest hcheck =>
            rw [(checkIngest_eq_ok_iff (u := ())).mpr hcontent] at hcheck
            cases hcheck

/-- A poll that reads a text remembers it. -/
lemma hash_of_polls (hpolls : Polls desktop input) {text : String}
    (hclipboard : desktop.app.clipboard = true) (hreadable : input.outside.readable = true)
    (htext : desktop.systemClipboard = some text) (hnonempty : text.isEmpty = false)
    (haccepts : accepts sha256 desktop.app.workspace
      (desktop.app.ingestRequest sha256 input.outside text) = true) :
    (step sha256 toLowercase desktop input).app.lastClipboardHash
      = some (contentSha256Hex sha256 text) := by
  obtain ⟨hevent, hactive, hdue⟩ := hpolls
  simp only [step, hevent]
  rw [DesktopApp.pollClipboard, if_pos ⟨hactive, hdue⟩, DesktopApp.captureClipboardText,
    if_neg (not_not.mpr hactive), if_neg (not_not.mpr hclipboard), DesktopApp.getText,
    if_pos hreadable, htext]
  dsimp only
  rw [if_neg (by rw [hnonempty]; exact Bool.false_ne_true)]
  by_cases hsame : desktop.app.lastClipboardHash = some (contentSha256Hex sha256 text)
  · rw [if_pos hsame, if_neg Bool.false_ne_true]
    exact hsame
  · rw [if_neg hsame]
    obtain ⟨-, -, hresult⟩ := applyWorkspaceAction_cases sha256 input.outside
      { desktop.app with lastClipboardPoll := input.outside.instant }
      (.IngestText input.outside.itemId text (contentSha256Hex sha256 text) text.utf8ByteSize
        input.outside.capturedAt none)
    split
    · rfl
    · next heq =>
        rw [heq] at hresult
        exact absurd (hresult.trans haccepts) Bool.false_ne_true

/-- From one poll to another one that checks the clock 750 ms after the first one reads it for the
second time, the text stays on the system clipboard and capture stays active; and the system
clipboard answers at every input from the first poll on. -/
structure Lingers (sha256 : Bytes → Digest) (toLowercase : String → String) (start : Desktop)
    (inputs : List Input) (text : String) (i j : ℕ) : Prop where
  lt : i < j
  polls : ∃ early late, inputs[i]? = some early ∧ inputs[j]? = some late ∧
    early.event = .Poll ∧ late.event = .Poll ∧
    early.outside.instant + fromMillis 750 ≤ late.outside.checked
  stays : ∀ n, i < n → n ≤ j →
    (stateAt (step sha256 toLowercase) start inputs n).systemClipboard = some text
  active : ∀ n, i < n → n ≤ j →
    (stateAt (step sha256 toLowercase) start inputs n).app.workspace.captureState = .Active
  readable : ∀ n input, i < n → n ≤ j → inputs[n]? = some input → input.outside.readable = true

/-- **A lingering text is stored.**  Take any run of the app, with a clipboard, in which the clock
does not go back and the system time is steady, and whose command ids are new.  If a text of at most
65536 characters stays on the system clipboard from one poll to another one 750 ms later, while
capture is active and the system clipboard can be read, then the app comes to remember the text in
between, and an item with its digest is in the history, or was before. -/
theorem lingering_text_is_stored (sha256 : Bytes → Digest) (toLowercase : String → String)
    (tray : Bool) (start : Instant) (content : Option String) (inputs : List Input)
    (hclock : (start :: (pollThrottle sha256 toLowercase).readings inputs).SortedLE)
    (hsteady : ∀ input ∈ inputs, input.Steady)
    (hfresh : (inputs.map fun input => input.outside.commandId).Nodup)
    (hroom : inputs.length ≤ MAX_REVISION) {text : String} (hnonempty : text.isEmpty = false)
    (hlength : text.length ≤ MAX_TEXT_CHARACTERS) {i j : ℕ}
    (hlingers : Lingers sha256 toLowercase (.start tray true start content) inputs text i j) :
    ∃ n, i < n ∧ n ≤ j + 1 ∧
      (stateAt (step sha256 toLowercase) (.start tray true start content)
        inputs n).app.lastClipboardHash = some (contentSha256Hex sha256 text) ∧
      WasStored sha256 toLowercase (.start tray true start content) inputs n
        (contentSha256Hex sha256 text) := by
  obtain ⟨hij, ⟨early, late, hearly, hlate, hpoll, hpoll', hdue⟩, hstays, hactive, hreadable⟩ :=
    hlingers
  obtain ⟨hi, rfl⟩ := List.getElem?_eq_some_iff.mp hearly
  obtain ⟨hj, rfl⟩ := List.getElem?_eq_some_iff.mp hlate
  -- between the two polls one reads the clipboard
  obtain ⟨n, hn, hin, hnj, hrestart⟩ := (pollThrottle sha256 toLowercase).exists_restart
    (s := .start tray true start content) hclock hij hj (if_pos hpoll) hdue
    fun hlast => decide_eq_true ⟨hpoll', hactive j hij le_rfl, hlast⟩
  have hpolls : Polls (stateAt (step sha256 toLowercase) (.start tray true start content) inputs n)
      inputs[n] := by
    rcases hrestart with hfires | hmoved
    · exact of_decide_eq_true hfires
    · by_contra hquiet
      rw [stateAt_succ _ _ hn] at hmoved
      exact hmoved (unpolled_step hquiet).lastClipboardPoll
  have hused : inputs[n].outside.commandId ∉ (stateAt (step sha256 toLowercase)
      (.start tray true start content) inputs n).app.workspace.processedCommands := by
    intro hmem
    have hold := usedIds_exec tray true start content (inputs.take n) _ hmem
    rw [← List.take_append_drop n inputs, List.map_append, List.nodup_append] at hfresh
    refine hfresh.2.2 _ hold inputs[n].outside.commandId (List.mem_map_of_mem ?_) rfl
    rw [List.drop_eq_getElem_cons hn]
    exact List.mem_cons_self
  have haccepts := accepts_ingestRequest sha256 (hactive n hin hnj) hnonempty hlength
    hused ((revision_stateAt_le tray true start content hn.le).trans_lt (hn.trans_le hroom))
  have hclipboard : (stateAt (step sha256 toLowercase) (.start tray true start content)
      inputs n).app.clipboard = true :=
    exec_invariant (P := fun desktop => desktop.app.clipboard = true)
      (fun desktop input h => (clipboard_step desktop input).trans h) rfl _
  have hhash : (stateAt (step sha256 toLowercase) (.start tray true start content)
      inputs (n + 1)).app.lastClipboardHash = some (contentSha256Hex sha256 text) := by
    rw [stateAt_succ _ _ hn]
    exact hash_of_polls hpolls hclipboard
      (hreadable n _ hin hnj (List.getElem?_eq_getElem hn)) (hstays n hin hnj) hnonempty haccepts
  exact ⟨n + 1, hin.trans n.lt_succ_self, Nat.succ_le_succ hnj, hhash,
    (recalls_stateAt tray true start content hsteady hn).hash _ hhash⟩

end Lingers

/-- The text is there from the start. -/
theorem lingering_text_is_stored_example :
    ∃ n, 1 < n ∧ n ≤ 3 ∧
      (stateAt (step exampleSha256 id) (.start true true 0 (some "a"))
        [exampleInput 1 .ToggleCapture, exampleInput 2 .Poll, exampleInput 3 .Poll]
        n).app.lastClipboardHash = some (contentSha256Hex exampleSha256 "a") ∧
      WasStored exampleSha256 id (.start true true 0 (some "a"))
        [exampleInput 1 .ToggleCapture, exampleInput 2 .Poll, exampleInput 3 .Poll] n
        (contentSha256Hex exampleSha256 "a") := by
  refine lingering_text_is_stored exampleSha256 id true 0 (some "a") _
    (List.Pairwise.sortedLE (by decide)) (by decide) (by decide) (by decide) (by decide) (by decide)
    ⟨by decide, ⟨_, _, rfl, rfl, rfl, rfl, by decide⟩, ?_, ?_, ?_⟩
  all_goals intro n
  · intro hn hn'
    obtain rfl : n = 2 := by omega
    decide
  · intro hn hn'
    obtain rfl : n = 2 := by omega
    decide
  · intro input hn hn' hinput
    obtain rfl : n = 2 := by omega
    cases hinput
    rfl

end FtnlDesktop.Clipboard
