import FtnlDesktop.Workspace.Retention

/-!
# What one command can do

`apply` is unfolded here and nowhere else.  `Effect` lists what an accepted action does to the
workspace, one constructor per arm and two for the two insertion paths, each with the checks it
passed.  The two facts the rest of the development works from are

* **`apply_eq_ok_iff`** — an accepted command passed the three preliminary checks, had an
  `Effect`, and then advanced the revision and the replay window;
* **`apply_eq_error`** — a rejected command left every field as it was, in all ten arms and for
  every one of their exits.

The second needs an argument in two places only.  `DeleteItem` writes before it checks, and the
check fails exactly when the write did nothing; and the revision bump comes after every write,
where it is the second preliminary check that rules its failure out.
-/

namespace FtnlDesktop

open Method

variable {sha256 : Bytes → Digest} {w w' : ClipboardWorkspace} {now : SystemTime}

/-! ## Accepted ingests -/

/-- The content checks that `ingest_text` and `from_snapshot_parts` both make. -/
structure WellFormedContent (sha256 : Bytes → Digest) (text contentSha256 : String)
    (byteSize : ℕ) (sourceFingerprint : Option String) : Prop where
  nonempty : text.isEmpty = false
  characters : text.length ≤ MAX_TEXT_CHARACTERS
  bytes : text.utf8ByteSize ≤ MAX_TEXT_BYTES
  byteSize_eq : byteSize = text.utf8ByteSize
  digest_eq : contentSha256 = contentSha256Hex sha256 text
  fingerprint : ∀ value ∈ sourceFingerprint, isSourceFingerprint value = true

/-- An ingest that passes the five checks of `ingest_text` in the workspace `w`. -/
structure Ingestible (sha256 : Bytes → Digest) (w : ClipboardWorkspace)
    (text contentSha256 : String) (byteSize : ℕ) (sourceFingerprint : Option String) : Prop where
  active : w.captureState = .Active
  content : WellFormedContent sha256 text contentSha256 byteSize sourceFingerprint
  allowed : ∀ value ∈ sourceFingerprint, value ∉ w.excludedSourceFingerprints

lemma checkIngest_eq_ok_iff {text contentSha256 : String} {byteSize : ℕ}
    {sourceFingerprint : Option String} {u : Unit} :
    checkIngest sha256 w text contentSha256 byteSize sourceFingerprint = .ok u
      ↔ Ingestible sha256 w text contentSha256 byteSize sourceFingerprint := by
  simp only [checkIngest, bind_eq_ok, rejectIf_eq_ok, exists_const, not_not, not_or, not_lt,
    Option.any_eq_true, Bool.not_eq_eq_eq_not, Bool.not_true, not_exists, not_and,
    decide_eq_true_eq, Bool.not_eq_true, Bool.not_eq_false]
  constructor
  · rintro ⟨hactive, ⟨hne, hchars, hbytes, hsize⟩, hdigest, hfp, hex⟩
    exact ⟨hactive, ⟨hne, hchars, hbytes, hsize, hdigest, hfp⟩, hex⟩
  · rintro ⟨hactive, ⟨hne, hchars, hbytes, hsize, hdigest, hfp⟩, hex⟩
    exact ⟨hactive, ⟨hne, hchars, hbytes, hsize⟩, hdigest, hfp, hex⟩

lemma duplicateIndex_eq_some {contentSha256 : String} {index : ℕ}
    (h : duplicateIndex w contentSha256 = some index) :
    w.retention.deduplicate = true ∧
      ∃ hlt : index < w.items.length, w.items[index].contentSha256 = contentSha256 := by
  rw [duplicateIndex] at h
  split_ifs at h with hdedup
  obtain ⟨hlt, heq, -⟩ := List.findIdx?_eq_some_iff_getElem.mp h
  exact ⟨hdedup, hlt, by simpa using heq⟩

/-! ## The effect of an action -/

/-- The workspace with its items replaced. -/
def withItems (w : ClipboardWorkspace) (items : List ClipboardItem) : ClipboardWorkspace :=
  { w with items }

@[simp] lemma withItems_revision (w : ClipboardWorkspace) (items : List ClipboardItem) :
    (withItems w items).revision = w.revision := rfl
@[simp] lemma withItems_captureState (w : ClipboardWorkspace) (items : List ClipboardItem) :
    (withItems w items).captureState = w.captureState := rfl
@[simp] lemma withItems_retention (w : ClipboardWorkspace) (items : List ClipboardItem) :
    (withItems w items).retention = w.retention := rfl
@[simp] lemma withItems_searchQuery (w : ClipboardWorkspace) (items : List ClipboardItem) :
    (withItems w items).searchQuery = w.searchQuery := rfl
@[simp] lemma withItems_excluded (w : ClipboardWorkspace) (items : List ClipboardItem) :
    (withItems w items).excludedSourceFingerprints = w.excludedSourceFingerprints := rfl
@[simp] lemma withItems_items (w : ClipboardWorkspace) (items : List ClipboardItem) :
    (withItems w items).items = items := rfl
@[simp] lemma withItems_processedCommands (w : ClipboardWorkspace) (items : List ClipboardItem) :
    (withItems w items).processedCommands = w.processedCommands := rfl

lemma enforceRetention_eq_withItems (now : SystemTime) (w : ClipboardWorkspace) :
    enforceRetention now w = withItems w (retained w.retention now w.items) :=
  enforceRetention_eq now w

/-- **What an accepted action does**, with the checks it passed. -/
inductive Effect (sha256 : Bytes → Digest) (w : ClipboardWorkspace) (now : SystemTime) :
    WorkspaceAction → ClipboardWorkspace → Prop
  | pause : Effect sha256 w now .PauseCapture { w with captureState := .Paused }
  | resume : Effect sha256 w now .ResumeCapture { w with captureState := .Active }
  | search {query : String} (hlen : query.length ≤ MAX_SEARCH_CHARACTERS) :
      Effect sha256 w now (.SetSearch query) { w with searchQuery := query }
  | pin {itemId : Uuid} {index : ℕ}
      (hfind : (w.items.findIdx? fun item => item.itemId = itemId) = some index) :
      Effect sha256 w now (.PinItem itemId)
        (withItems w (w.items.modify index fun item => { item with isPinned := true }))
  | unpin {itemId : Uuid} {index : ℕ}
      (hfind : (w.items.findIdx? fun item => item.itemId = itemId) = some index) :
      Effect sha256 w now (.UnpinItem itemId)
        (withItems w (retained w.retention now
          (w.items.modify index fun item => { item with isPinned := false })))
  | delete {itemId : Uuid} (hmem : ∃ item ∈ w.items, item.itemId = itemId) :
      Effect sha256 w now (.DeleteItem itemId)
        (withItems w (w.items.filter fun item => item.itemId ≠ itemId))
  | clear :
      Effect sha256 w now .ClearUnpinned (withItems w (w.items.filter fun item => item.isPinned))
  | setRetention {policy : RetentionPolicy} (hpolicy : policy.validate = .ok policy) :
      Effect sha256 w now (.SetRetention policy)
        { w with retention := policy, items := retained policy now w.items }
  | setExclusions {fingerprints : List String}
      (hlen : fingerprints.length ≤ MAX_SOURCE_EXCLUSIONS)
      (hwf : ∀ value ∈ fingerprints, isSourceFingerprint value = true) :
      Effect sha256 w now (.SetSourceExclusions fingerprints)
        { w with excludedSourceFingerprints := SortedSet.ofList fingerprints }
  | move {itemId : Uuid} {text contentSha256 : String} {byteSize : ℕ} {capturedAt : SystemTime}
      {sourceFingerprint : Option String} {index : ℕ}
      (hcheck : Ingestible sha256 w text contentSha256 byteSize sourceFingerprint)
      (hdup : duplicateIndex w contentSha256 = some index) (hlt : index < w.items.length) :
      Effect sha256 w now
        (.IngestText itemId text contentSha256 byteSize capturedAt sourceFingerprint)
        (withItems w (retained w.retention now
          ({ w.items[index] with capturedAt, sourceFingerprint } :: w.items.eraseIdx index)))
  | insert {itemId : Uuid} {text contentSha256 : String} {byteSize : ℕ} {capturedAt : SystemTime}
      {sourceFingerprint : Option String}
      (hcheck : Ingestible sha256 w text contentSha256 byteSize sourceFingerprint)
      (hdup : duplicateIndex w contentSha256 = none) :
      Effect sha256 w now
        (.IngestText itemId text contentSha256 byteSize capturedAt sourceFingerprint)
        (withItems w (retained w.retention now
          ({ itemId, text, contentSha256, byteSize, capturedAt, isPinned := false,
             sourceFingerprint } :: w.items)))

variable {action : WorkspaceAction} {m : ClipboardWorkspace}

/-- No action touches the revision: only the final bump of `apply` does. -/
lemma Effect.revision_eq (h : Effect sha256 w now action m) : m.revision = w.revision := by
  cases h <;> rfl

/-- No action touches the replay window. -/
lemma Effect.processedCommands_eq (h : Effect sha256 w now action m) :
    m.processedCommands = w.processedCommands := by
  cases h <;> rfl

/-- An item of a list with one entry rewritten is an old item or the rewritten one. -/
lemma mem_modify {items : List ClipboardItem} {index : ℕ} {f : ClipboardItem → ClipboardItem}
    {item : ClipboardItem} (h : item ∈ items.modify index f) :
    item ∈ items ∨ ∃ old ∈ items, item = f old := by
  induction items generalizing index with
  | nil => simp at h
  | cons a items ih =>
      cases index with
      | zero =>
          rw [List.modify_zero_cons] at h
          rcases List.mem_cons.mp h with rfl | h
          · exact Or.inr ⟨a, List.mem_cons_self, rfl⟩
          · exact Or.inl (List.mem_cons_of_mem _ h)
      | succ index =>
          rw [List.modify_succ_cons] at h
          rcases List.mem_cons.mp h with rfl | h
          · exact Or.inl List.mem_cons_self
          · rcases ih h with h | ⟨old, hold, heq⟩
            · exact Or.inl (List.mem_cons_of_mem _ h)
            · exact Or.inr ⟨old, List.mem_cons_of_mem _ hold, heq⟩

/-- Pinning and unpinning leave every other field of the items alone. -/
lemma map_modify_pin {α : Type} (field : ClipboardItem → α) {pin : Bool}
    (h : ∀ item, field { item with isPinned := pin } = field item) (items : List ClipboardItem)
    (index : ℕ) :
    (items.modify index fun item => { item with isPinned := pin }).map field = items.map field := by
  induction items generalizing index with
  | nil => simp
  | cons a items ih =>
      cases index with
      | zero => simp [h]
      | succ index => simp [ih index]

/-! ## The arms of `apply` -/

lemma run_itemMut (itemId : Uuid) (f : ClipboardItem → ClipboardItem) (w : ClipboardWorkspace) :
    (itemMut itemId f).run w =
      match w.items.findIdx? fun item => item.itemId = itemId with
      | some index => .ok () (withItems w (w.items.modify index f))
      | none => .error .ItemNotFound w := by
  simp only [itemMut, EStateM.run_bind, EStateM.run_get]
  cases w.items.findIdx? fun item => item.itemId = itemId with
  | some index => rfl
  | none => rfl

lemma run_ingestText (itemId : Uuid) (text contentSha256 : String) (byteSize : ℕ)
    (capturedAt : SystemTime) (sourceFingerprint : Option String) (now : SystemTime)
    (w : ClipboardWorkspace) :
    (ingestText sha256 itemId text contentSha256 byteSize capturedAt sourceFingerprint now).run w =
      match checkIngest sha256 w text contentSha256 byteSize sourceFingerprint with
      | .error e => .error e w
      | .ok _ =>
        match duplicateIndex w contentSha256 with
        | some index => .ok () (enforceRetention now (withItems w (moveToFront index
            (fun item => { item with capturedAt, sourceFingerprint }) w.items)))
        | none => .ok () (enforceRetention now (withItems w
            ({ itemId, text, contentSha256, byteSize, capturedAt, isPinned := false,
               sourceFingerprint } :: w.items))) := by
  simp only [ingestText, EStateM.run_bind, EStateM.run_get]
  cases checkIngest sha256 w text contentSha256 byteSize sourceFingerprint with
  | error e => rfl
  | ok u =>
      simp only [run_attempt_ok]
      cases duplicateIndex w contentSha256 with
      | some index => rfl
      | none => rfl

lemma moveToFront_eq {index : ℕ} (f : ClipboardItem → ClipboardItem) {items : List ClipboardItem}
    (hlt : index < items.length) :
    moveToFront index f items = f items[index] :: items.eraseIdx index := by
  rw [moveToFront, List.getElem?_eq_getElem hlt]

lemma validate_eq_ok {policy policy' : RetentionPolicy} (h : policy.validate = .ok policy') :
    policy' = policy := by
  rw [RetentionPolicy.validate] at h
  split_ifs at h
  exact (Except.ok.inj h).symm

lemma run_delete (itemId : Uuid) (now : SystemTime) (w : ClipboardWorkspace) :
    (perform sha256 (.DeleteItem itemId) now).run w =
      if w.items.length = (w.items.filter fun item => item.itemId ≠ itemId).length then
        .error .ItemNotFound (withItems w (w.items.filter fun item => item.itemId ≠ itemId))
      else .ok () (withItems w (w.items.filter fun item => item.itemId ≠ itemId)) := by
  simp only [perform, EStateM.run_bind, EStateM.run_get, EStateM.run_modify, run_rejectIf]
  rfl

/-- Deleting shortens the list unless no item has the id. -/
lemma length_eq_length_filter_iff {itemId : Uuid} {items : List ClipboardItem} :
    items.length = (items.filter fun item => item.itemId ≠ itemId).length ↔
      ∀ item ∈ items, item.itemId ≠ itemId := by
  rw [eq_comm, List.length_filter_eq_length_iff]
  simp

lemma effect_of_ingestText {itemId : Uuid} {text contentSha256 : String} {byteSize : ℕ}
    {capturedAt : SystemTime} {sourceFingerprint : Option String} {u : Unit}
    (h : (ingestText sha256 itemId text contentSha256 byteSize capturedAt sourceFingerprint
      now).run w = .ok u m) :
    Effect sha256 w now
      (.IngestText itemId text contentSha256 byteSize capturedAt sourceFingerprint) m := by
  rw [run_ingestText] at h
  cases hcheck : checkIngest sha256 w text contentSha256 byteSize sourceFingerprint with
  | error e => simp [hcheck] at h
  | ok u =>
      have hingest := checkIngest_eq_ok_iff.mp hcheck
      cases hdup : duplicateIndex w contentSha256 with
      | none =>
          simp only [hcheck, hdup] at h
          cases h
          rw [enforceRetention_eq_withItems]
          exact .insert hingest hdup
      | some index =>
          obtain ⟨-, hlt, -⟩ := duplicateIndex_eq_some hdup
          simp only [hcheck, hdup] at h
          cases h
          rw [enforceRetention_eq_withItems, moveToFront_eq _ hlt]
          exact .move hingest hdup hlt

/-- A successful action has passed the checks of its `Effect` and done what that says. -/
lemma effect_of_perform {u : Unit} (h : (perform sha256 action now).run w = .ok u m) :
    Effect sha256 w now action m := by
  cases action with
  | PauseCapture => cases h; exact .pause
  | ResumeCapture => cases h; exact .resume
  | SetSearch query =>
      obtain ⟨hlen, hset⟩ := run_rejectIf_bind_eq_ok.mp h
      cases hset
      exact .search (not_lt.mp hlen)
  | PinItem itemId =>
      rw [perform, run_itemMut] at h
      cases hfind : w.items.findIdx? fun item => item.itemId = itemId with
      | none => simp [hfind] at h
      | some index =>
          simp only [hfind] at h
          cases h
          exact .pin hfind
  | UnpinItem itemId =>
      obtain ⟨_, _, hpin, hset⟩ := run_bind_eq_ok.mp h
      rw [run_itemMut] at hpin
      cases hfind : w.items.findIdx? fun item => item.itemId = itemId with
      | none => simp [hfind] at hpin
      | some index =>
          simp only [hfind] at hpin
          cases hpin
          cases hset
          rw [enforceRetention_eq_withItems]
          exact .unpin hfind
  | DeleteItem itemId =>
      rw [run_delete] at h
      split_ifs at h with hsame
      cases h
      rw [length_eq_length_filter_iff] at hsame
      push Not at hsame
      exact .delete hsame
  | ClearUnpinned => cases h; exact .clear
  | SetRetention policy =>
      obtain ⟨policy', hpolicy, hset⟩ := run_attempt_bind_eq_ok.mp h
      obtain rfl := validate_eq_ok hpolicy
      cases hset
      rw [enforceRetention_eq]
      exact .setRetention hpolicy
  | SetSourceExclusions fingerprints =>
      obtain ⟨hok, hset⟩ := run_rejectIf_bind_eq_ok.mp h
      cases hset
      simp only [not_or, not_lt, List.any_eq_true, Bool.not_eq_eq_eq_not, Bool.not_true,
        not_exists, not_and, Bool.not_eq_false] at hok
      exact .setExclusions hok.1 hok.2
  | IngestText itemId text contentSha256 byteSize capturedAt sourceFingerprint =>
      exact effect_of_ingestText h

/-- An action that passes the checks of its `Effect` succeeds. -/
lemma run_perform_of_effect (h : Effect sha256 w now action m) :
    (perform sha256 action now).run w = .ok () m := by
  cases h with
  | pause => rfl
  | resume => rfl
  | search hlen => exact run_rejectIf_bind_eq_ok.mpr ⟨not_lt.mpr hlen, rfl⟩
  | pin hfind => rw [perform, run_itemMut, hfind]
  | unpin hfind =>
      refine run_bind_eq_ok.mpr ⟨(), _, by rw [run_itemMut, hfind], ?_⟩
      rw [EStateM.run_modify, enforceRetention_eq_withItems]
      rfl
  | delete hmem =>
      obtain ⟨item, hitem, hid⟩ := hmem
      rw [run_delete, if_neg]
      intro hsame
      exact length_eq_length_filter_iff.mp hsame item hitem hid
  | clear => rfl
  | setRetention hpolicy =>
      refine run_attempt_bind_eq_ok.mpr ⟨_, hpolicy, ?_⟩
      simp only [EStateM.run_bind, EStateM.run_modify, enforceRetention_eq]
  | setExclusions hlen hwf =>
      refine run_rejectIf_bind_eq_ok.mpr ⟨?_, rfl⟩
      simp only [not_or, not_lt, List.any_eq_true, Bool.not_eq_eq_eq_not, Bool.not_true,
        not_exists, not_and, Bool.not_eq_false]
      exact ⟨hlen, hwf⟩
  | move hcheck hdup hlt =>
      rw [perform, run_ingestText, checkIngest_eq_ok_iff (u := ()) |>.mpr hcheck, hdup]
      simp only [moveToFront_eq _ hlt, enforceRetention_eq_withItems]
      rfl
  | insert hcheck hdup =>
      rw [perform, run_ingestText, checkIngest_eq_ok_iff (u := ()) |>.mpr hcheck, hdup]
      simp only [enforceRetention_eq_withItems]
      rfl

/-- **An action succeeds exactly with its `Effect`.** -/
theorem perform_eq_ok_iff {u : Unit} :
    (perform sha256 action now).run w = .ok u m ↔ Effect sha256 w now action m :=
  ⟨effect_of_perform, run_perform_of_effect⟩

/-! ## A failing action changes nothing -/

lemma atomic_itemMut (itemId : Uuid) (f : ClipboardItem → ClipboardItem) :
    Atomic (itemMut itemId f) :=
  Atomic.get_bind fun _ => Atomic.okOr_bind fun _ => (total_modify _).atomic

/-- Every arm leaves the workspace alone when it fails.  All of them check before they write,
except `DeleteItem`, whose check fails exactly when its `retain` removed nothing. -/
theorem atomic_perform (action : WorkspaceAction) (now : SystemTime) :
    Atomic (perform sha256 action now) := by
  cases action with
  | PauseCapture => exact (total_modify _).atomic
  | ResumeCapture => exact (total_modify _).atomic
  | SetSearch query => exact Atomic.rejectIf_bind fun _ => (total_modify _).atomic
  | PinItem itemId => exact atomic_itemMut _ _
  | UnpinItem itemId => exact (atomic_itemMut _ _).bind_total fun _ => total_modify _
  | DeleteItem itemId =>
      intro w e w' h
      rw [run_delete] at h
      split_ifs at h with hsame
      simp only [EStateM.Result.error.injEq] at h
      have hself := List.filter_eq_self.mpr (List.length_filter_eq_length_iff.mp hsame.symm)
      rw [← h.2, hself]
      rfl
  | ClearUnpinned => exact (total_modify _).atomic
  | SetRetention policy =>
      exact Atomic.attempt_bind fun _ =>
        ((total_modify _).bind fun _ => total_modify _).atomic
  | SetSourceExclusions fingerprints =>
      exact Atomic.rejectIf_bind fun _ => (total_modify _).atomic
  | IngestText itemId text contentSha256 byteSize capturedAt sourceFingerprint =>
      refine Atomic.get_bind fun w => Atomic.attempt_bind fun _ => ?_
      cases duplicateIndex w contentSha256 with
      | some index => exact ((total_modify _).bind fun _ => total_modify _).atomic
      | none => exact ((total_modify _).bind fun _ => total_modify _).atomic

/-! ## The whole of `apply` -/

/-- What follows a successful action: the revision bump and the replay window. -/
def recordCommand (commandId : Uuid) (m : ClipboardWorkspace) : ClipboardWorkspace :=
  { m with
    revision := m.revision + 1
    processedCommands := Window.push MAX_PROCESSED_COMMANDS m.processedCommands commandId }

lemma run_apply (commandId : Uuid) (expectedRevision : ℕ) (action : WorkspaceAction)
    (now : SystemTime) (w : ClipboardWorkspace) :
    (apply sha256 commandId expectedRevision action now).run w =
      if commandId ∈ w.processedCommands then .error .DuplicateCommand w
      else if expectedRevision ≠ w.revision then .error .RevisionConflict w
      else if w.revision ≥ MAX_REVISION then .error .RevisionOverflow w
      else
        match (perform sha256 action now).run w with
        | .error e m => .error e m
        | .ok _ m =>
          match checkedAddU64 m.revision 1 with
          | some _ => .ok () (recordCommand commandId m)
          | none => .error .RevisionOverflow m := by
  rw [apply, EStateM.run_bind, EStateM.run_get]
  simp only [run_rejectIf_bind]
  refine if_congr Iff.rfl rfl (if_congr Iff.rfl rfl (if_congr Iff.rfl rfl ?_))
  rw [EStateM.run_bind]
  cases (perform sha256 action now).run w with
  | error e m => rfl
  | ok u m =>
      simp only [EStateM.run_bind, EStateM.run_get]
      cases hadd : checkedAddU64 m.revision 1 with
      | none => rfl
      | some revision =>
          have hrev : m.revision + 1 = revision := by
            rw [checkedAddU64] at hadd
            split_ifs at hadd
            exact Option.some.inj hadd
          simp only [run_okOr_some, EStateM.run_modify, recordCommand, hrev]

variable {commandId : Uuid} {expectedRevision : ℕ}

/-- Below `MAX_REVISION` the final `checked_add` cannot fail. -/
lemma checkedAddU64_of_lt {revision : ℕ} (h : revision < MAX_REVISION) :
    checkedAddU64 revision 1 = some (revision + 1) := by
  rw [checkedAddU64, if_pos]
  have : MAX_REVISION < 2 ^ 64 := by decide
  omega

/-- **An accepted command** passed the three preliminary checks, had an effect, and advanced the
revision and the replay window. -/
theorem apply_eq_ok_iff {u : Unit} :
    (apply sha256 commandId expectedRevision action now).run w = .ok u w' ↔
      commandId ∉ w.processedCommands ∧ expectedRevision = w.revision ∧ w.revision < MAX_REVISION ∧
        ∃ m, Effect sha256 w now action m ∧ w' = recordCommand commandId m := by
  rw [run_apply]
  split_ifs with hid hrev hmax
  · simp [hid]
  · simp [hrev]
  · simp only [false_iff, not_and]
    intro _ _ hlt
    omega
  · have hlt : w.revision < MAX_REVISION := not_le.mp hmax
    simp only [hid, not_not.mp hrev, hlt, not_false_eq_true, true_and]
    cases hrun : (perform sha256 action now).run w with
    | error e m =>
        simp only [reduceCtorEq, false_iff, not_exists, not_and]
        intro m' heffect
        rw [perform_eq_ok_iff (u := ()) |>.mpr heffect] at hrun
        simp at hrun
    | ok u' m =>
        have heffect := perform_eq_ok_iff.mp hrun
        simp only [heffect.revision_eq, checkedAddU64_of_lt hlt, EStateM.Result.ok.injEq, true_and]
        constructor
        · rintro rfl
          exact ⟨m, heffect, rfl⟩
        · rintro ⟨m', heffect', rfl⟩
          rw [perform_eq_ok_iff (u := ()) |>.mpr heffect'] at hrun
          cases hrun
          rfl

/-- **A rejected command changes nothing.** -/
theorem apply_eq_error {e : WorkspaceError}
    (h : (apply sha256 commandId expectedRevision action now).run w = .error e w') : w' = w := by
  rw [run_apply] at h
  split_ifs at h with hid hrev hmax
  · cases h; rfl
  · cases h; rfl
  · cases h; rfl
  · cases hrun : (perform sha256 action now).run w with
    | error e' m =>
        simp only [hrun, EStateM.Result.error.injEq] at h
        exact h.2 ▸ atomic_perform action now w e' m hrun
    | ok u m =>
        have hrevision := (perform_eq_ok_iff.mp hrun).revision_eq
        simp only [hrun, hrevision, checkedAddU64_of_lt (not_le.mp hmax)] at h
        cases h

/-! ## One request -/

/-- **What one request does**: nothing, or the effect of its action and the record of it. -/
theorem serve_cases (sha256 : Bytes → Digest) (w : ClipboardWorkspace) (r : Request) :
    (accepts sha256 w r = false ∧ serve sha256 w r = w) ∨
    (accepts sha256 w r = true ∧ r.commandId ∉ w.processedCommands ∧
      r.expectedRevision = w.revision ∧ w.revision < MAX_REVISION ∧
      ∃ m, Effect sha256 w r.now r.action m ∧ serve sha256 w r = recordCommand r.commandId m) := by
  cases hrun : (r.call sha256).run w with
  | error e w' =>
      refine Or.inl ⟨by simp [accepts, hrun], ?_⟩
      simpa [serve, hrun] using apply_eq_error hrun
  | ok u w' =>
      obtain ⟨hid, hrev, hlt, m, heffect, hw'⟩ := apply_eq_ok_iff.mp hrun
      refine Or.inr ⟨by simp [accepts, hrun], hid, hrev, hlt, m, heffect, ?_⟩
      simpa [serve, hrun] using hw'

lemma serve_of_not_accepts (sha256 : Bytes → Digest) {w : ClipboardWorkspace} {r : Request}
    (h : accepts sha256 w r = false) : serve sha256 w r = w := by
  rcases serve_cases sha256 w r with ⟨-, heq⟩ | ⟨hacc, -⟩
  · exact heq
  · simp [hacc] at h

/-- A request that passes the preliminary checks and has an effect. -/
lemma serve_of_effect {r : Request} (hid : r.commandId ∉ w.processedCommands)
    (hrev : r.expectedRevision = w.revision) (hlt : w.revision < MAX_REVISION)
    (heffect : Effect sha256 w r.now r.action m) :
    serve sha256 w r = recordCommand r.commandId m := by
  have hrun : (r.call sha256).run w = .ok () (recordCommand r.commandId m) :=
    apply_eq_ok_iff.mpr ⟨hid, hrev, hlt, m, heffect, rfl⟩
  rw [serve, hrun]

/-- An invariant of the workspace is an invariant of `serve` when every effect keeps it and
recording a command does. -/
lemma serve_invariant {P : ClipboardWorkspace → Prop} {r : Request}
    (hP : P w)
    (heffect : ∀ m, Effect sha256 w r.now r.action m → w.revision < MAX_REVISION →
      P (recordCommand r.commandId m)) :
    P (serve sha256 w r) := by
  rcases serve_cases sha256 w r with ⟨-, heq⟩ | ⟨-, -, -, hlt, m, hm, heq⟩
  · rwa [heq]
  · rw [heq]
    exact heffect m hm hlt

end FtnlDesktop
