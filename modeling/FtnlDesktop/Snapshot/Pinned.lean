import FtnlDesktop.Snapshot.AtMostOnce

/-!
# Pinned items are never lost

Items leave the list in five places: the age filter and the eviction loop of a clean-up,
`ClearUnpinned`, `DeleteItem`, and the removal that a deduplicating ingest makes before it inserts
the item again.  All but `DeleteItem` spare what is pinned, and only `UnpinItem` takes a pin away.

What is followed through a run is the number of pinned copies of an item: entries with its id,
text, digest and size.  The capture time and the source are left out, because a deduplicating
ingest overwrites them.

* **`Effect.pinnedCopies_le`** — no effect lowers the number, unless it deletes or unpins that id.
* **`pinned_never_lost`** — the same along every run, across restores, and for what a saved
  workspace restores to.
-/

namespace FtnlDesktop

open Machine

variable {c : Crates} {sha256 : Bytes → Digest} {w m : ClipboardWorkspace} {now : SystemTime}
  {item : ClipboardItem}

/-- A pinned entry with the id, text, digest and size of `item`. -/
def ClipboardItem.IsPinnedCopy (item other : ClipboardItem) : Prop :=
  other.isPinned = true ∧ other.itemId = item.itemId ∧ other.text = item.text
    ∧ other.contentSha256 = item.contentSha256 ∧ other.byteSize = item.byteSize

instance (item other : ClipboardItem) : Decidable (item.IsPinnedCopy other) :=
  inferInstanceAs (Decidable (_ ∧ _ ∧ _ ∧ _ ∧ _))

/-- How many pinned copies of `item` the list holds. -/
def pinnedCopies (item : ClipboardItem) (items : List ClipboardItem) : ℕ :=
  items.countP fun other => item.IsPinnedCopy other

/-- Every pinned copy of `item` that is in `w` is still in `w'`, and there is one. -/
structure StillPinned (item : ClipboardItem) (w w' : ClipboardWorkspace) : Prop where
  present : ∃ item' ∈ w'.items, item.IsPinnedCopy item'
  copies : pinnedCopies item w.items ≤ pinnedCopies item w'.items

/-- The request neither deletes nor unpins the id. -/
def Request.Spares (itemId : Uuid) (r : Request) : Prop :=
  r.action ≠ .DeleteItem itemId ∧ r.action ≠ .UnpinItem itemId

instance (itemId : Uuid) (r : Request) : Decidable (r.Spares itemId) :=
  inferInstanceAs (Decidable (_ ∧ _))

/-- The event neither deletes nor unpins the id; saving and restoring always spares it. -/
def Event.Spares (itemId : Uuid) : Event → Prop
  | .command r => r.Spares itemId
  | .restore _ _ _ => True

/-! ## Copies under the operations on items -/

lemma isPinnedCopy_self (hpin : item.isPinned = true) : item.IsPinnedCopy item :=
  ⟨hpin, rfl, rfl, rfl, rfl⟩

lemma pinnedCopies_pos_iff {items : List ClipboardItem} :
    0 < pinnedCopies item items ↔ ∃ item' ∈ items, item.IsPinnedCopy item' := by
  simp [pinnedCopies, List.countP_pos_iff]

lemma stillPinned_of_le {w' : ClipboardWorkspace} (hmem : item ∈ w.items)
    (hpin : item.isPinned = true) (hle : pinnedCopies item w.items ≤ pinnedCopies item w'.items) :
    StillPinned item w w' := by
  have hpos : 0 < pinnedCopies item w.items :=
    pinnedCopies_pos_iff.mpr ⟨item, hmem, isPinnedCopy_self hpin⟩
  exact ⟨pinnedCopies_pos_iff.mp (hpos.trans_le hle), hle⟩

/-- Both stages of a clean-up keep every pinned entry. -/
lemma pinnedCopies_retained (policy : RetentionPolicy) (now : SystemTime)
    (items : List ClipboardItem) :
    pinnedCopies item (retained policy now items) = pinnedCopies item items :=
  countP_retained_of_pinned fun _ hcopy => (of_decide_eq_true hcopy).1

/-- Filtering keeps the copies when the predicate holds of all of them. -/
lemma pinnedCopies_filter {p : ClipboardItem → Bool}
    (hp : ∀ other, item.IsPinnedCopy other → p other = true) (items : List ClipboardItem) :
    pinnedCopies item (items.filter p) = pinnedCopies item items := by
  rw [pinnedCopies, List.countP_filter]
  refine List.countP_congr fun other _ => ?_
  simp only [Bool.and_eq_true, decide_eq_true_eq, and_iff_left_iff_imp]
  exact hp other

/-- Rewriting one entry loses no copy when it does not spoil a copy at that index. -/
lemma pinnedCopies_le_modify {f : ClipboardItem → ClipboardItem} {index : ℕ}
    {items : List ClipboardItem}
    (hf : ∀ other ∈ items[index]?, item.IsPinnedCopy other → item.IsPinnedCopy (f other)) :
    pinnedCopies item items ≤ pinnedCopies item (items.modify index f) := by
  simp only [pinnedCopies]
  induction items generalizing index with
  | nil => simp
  | cons a items ih =>
      cases index with
      | zero =>
          have ha := hf a (by simp)
          simp only [List.modify_zero_cons, List.countP_cons]
          by_cases hcopy : item.IsPinnedCopy a
          · simp [hcopy, ha hcopy]
          · simp [hcopy]
      | succ index =>
          have htail : List.countP (fun other => decide (item.IsPinnedCopy other)) items
              ≤ List.countP (fun other => decide (item.IsPinnedCopy other))
                (items.modify index f) :=
            ih (by simpa using hf)
          simp only [List.modify_succ_cons, List.countP_cons]
          omega

/-- The entry moved to the front is a copy if it was one before. -/
lemma pinnedCopies_move {items : List ClipboardItem} {index : ℕ} (hlt : index < items.length)
    (capturedAt : SystemTime) (sourceFingerprint : Option String) :
    pinnedCopies item ({ items[index] with capturedAt, sourceFingerprint } :: items.eraseIdx index)
      = pinnedCopies item items := by
  have hperm := (List.getElem_cons_eraseIdx_perm hlt).countP_eq
    fun other => decide (item.IsPinnedCopy other)
  rw [pinnedCopies, pinnedCopies, ← hperm, List.countP_cons, List.countP_cons]
  rfl

/-! ## One event -/

/-- **One effect.**  An accepted action that neither deletes nor unpins the id loses no pinned copy
of the item, whatever the policy and the time. -/
theorem Effect.pinnedCopies_le {action : WorkspaceAction} (heffect : Effect sha256 w now action m)
    (hdelete : action ≠ .DeleteItem item.itemId) (hunpin : action ≠ .UnpinItem item.itemId) :
    pinnedCopies item w.items ≤ pinnedCopies item m.items := by
  cases heffect with
  | pause => exact le_rfl
  | resume => exact le_rfl
  | search hlen => exact le_rfl
  | pin hfind =>
      refine pinnedCopies_le_modify ?_
      rintro other - ⟨-, hcontent⟩
      exact ⟨rfl, hcontent⟩
  | @unpin itemId index hfind =>
      rw [withItems_items, pinnedCopies_retained]
      refine pinnedCopies_le_modify ?_
      -- the entry at the index has the unpinned id, so it is no copy of this item
      intro other hget hcopy
      obtain ⟨hlt, hid, -⟩ := List.findIdx?_eq_some_iff_getElem.mp hfind
      obtain rfl : w.items[index] = other := by simpa [List.getElem?_eq_getElem hlt] using hget
      have hsame : item.itemId = itemId := hcopy.2.1.symm.trans (of_decide_eq_true hid)
      exact absurd (congrArg WorkspaceAction.UnpinItem hsame.symm) hunpin
  | @delete itemId hmem =>
      rw [withItems_items, pinnedCopies_filter]
      intro other hcopy
      simp only [decide_eq_true_eq]
      rintro rfl
      exact hdelete (congrArg WorkspaceAction.DeleteItem hcopy.2.1)
  | clear =>
      rw [withItems_items, pinnedCopies_filter]
      intro other hcopy
      exact hcopy.1
  | setRetention hpolicy => exact (pinnedCopies_retained _ _ _).ge
  | setExclusions hlen hwf => exact le_rfl
  | move hcheck hdup hlt =>
      rw [withItems_items, pinnedCopies_retained, pinnedCopies_move]
  | insert hcheck hdup =>
      rw [withItems_items, pinnedCopies_retained]
      exact (List.sublist_cons_self _ _).countP_le

lemma pinnedCopies_le_serve {r : Request} (hr : r.Spares item.itemId) :
    pinnedCopies item w.items ≤ pinnedCopies item (serve sha256 w r).items := by
  rcases serve_cases sha256 w r with ⟨-, heq⟩ | ⟨-, -, -, -, m, heffect, heq⟩
  · rw [heq]
  · rw [heq]
    exact heffect.pinnedCopies_le hr.1 hr.2

/-- What a saved workspace restores to holds its items, cleaned up at the time of the restore. -/
lemma items_of_saveAndRestore (hc : c.Lawful) {w' : ClipboardWorkspace}
    (hw : WellFormed c.sha256 w) {key : Bytes} {nonce : SnapshotNonce}
    (h : saveAndRestore c w key nonce now = .ok w') :
    w'.items = retained w.retention now w.items := by
  obtain ⟨encoded, hencrypt, hdecrypt⟩ := Method.bind_eq_ok.mp h
  obtain ⟨plaintext, hplain, hopens⟩ := opensTo_of_encryptSnapshot hc hencrypt
  obtain ⟨plaintext', hopens', hdecode⟩ := decryptSnapshot_eq_ok_iff.mp hdecrypt
  obtain rfl := hopens.unique hopens'
  obtain ⟨-, wires, hwires, hvec⟩ := encodeSnapshot_eq_ok_iff.mp hplain
  obtain ⟨wire, captureState, items, hwire, hreadable, hparts⟩ :=
    decodeSnapshot_eq_ok_iff.mp hdecode
  obtain ⟨plaintext', hvec', hslice⟩ := hc.wire _ (fits_snapshotWire hw hwires)
  obtain rfl : plaintext' = plaintext := Option.some.inj (hvec'.symm.trans hvec)
  obtain rfl : snapshotWire w wires = wire := Option.some.inj (hslice.symm.trans hwire)
  -- reading the written items gives them back
  have hread : wires.mapM (decodeItem c) = .ok items :=
    Method.mapM_eq_ok_iff.mpr (hreadable.items.imp fun _ _ => decodeItem_eq_ok_iff.mpr)
  obtain rfl : w.items = items :=
    Except.ok.inj ((mapM_decodeItem_encodeItem hc hwires).symm.trans hread)
  obtain ⟨-, hw'⟩ := fromSnapshotParts_eq_ok_iff.mp hparts
  rw [hw', enforceRetention_eq]
  rfl

lemma pinnedCopies_saveAndRestore (hc : c.Lawful) {w' : ClipboardWorkspace}
    (hw : WellFormed c.sha256 w) {key : Bytes} {nonce : SnapshotNonce}
    (h : saveAndRestore c w key nonce now = .ok w') :
    pinnedCopies item w'.items = pinnedCopies item w.items := by
  rw [items_of_saveAndRestore hc hw h, pinnedCopies_retained]

lemma pinnedCopies_le_auditStep (hc : c.Lawful) {s : Audit} (hs : AuditInvariant c s) {e : Event}
    (he : e.Spares item.itemId) :
    pinnedCopies item s.workspace.items ≤ pinnedCopies item (auditStep c s e).workspace.items := by
  cases e with
  | command r => exact pinnedCopies_le_serve he
  | restore key nonce now =>
      simp only [auditStep]
      cases hrestore : saveAndRestore c s.workspace key nonce now with
      | error e => exact le_rfl
      | ok w' => exact (pinnedCopies_saveAndRestore hc hs.wellFormed hrestore).ge

/-! ## Every run -/

lemma pinnedCopies_le_exec (w : ClipboardWorkspace) {rs : List Request}
    (hrs : ∀ r ∈ rs, r.Spares item.itemId) :
    pinnedCopies item w.items ≤ pinnedCopies item (exec (serve sha256) w rs).items := by
  induction rs generalizing w with
  | nil => exact le_rfl
  | cons r rs ih =>
      have hhead := hrs r List.mem_cons_self
      have htail := fun r' h => hrs r' (List.mem_cons_of_mem r h)
      exact (pinnedCopies_le_serve hhead).trans (ih (serve sha256 w r) htail)

lemma pinnedCopies_le_exec_audit (hc : c.Lawful) {s : Audit} (hs : AuditInvariant c s)
    {events : List Event} (hevents : ∀ e ∈ events, e.Spares item.itemId) :
    pinnedCopies item s.workspace.items
      ≤ pinnedCopies item (exec (auditStep c) s events).workspace.items := by
  induction events generalizing s with
  | nil => exact le_rfl
  | cons e events ih =>
      have hhead := hevents e List.mem_cons_self
      have htail := fun e' h => hevents e' (List.mem_cons_of_mem e h)
      exact (pinnedCopies_le_auditStep hc hs hhead).trans (ih (hs.step hc e) htail)

/-- **Pinned items are never lost.**  Whatever commands are accepted or rejected, at whatever
times, a pinned item is still there, pinned, with its id, text, digest and size, unless one of the
commands deletes or unpins its id.  The same holds for runs that also save the workspace and
continue from what it restores to; and at every point of such a run a save that succeeds, while
ids are distinct, restores to a workspace that has the item. -/
theorem pinned_never_lost (c : Crates) (item : ClipboardItem) (hpin : item.isPinned = true) :
    (∀ (w : ClipboardWorkspace) (rs : List Request), item ∈ w.items →
      (∀ r ∈ rs, r.Spares item.itemId) → StillPinned item w (exec (serve c.sha256) w rs)) ∧
    (c.Lawful → ∀ w, Origin c.sha256 w → ∀ past future : List Event,
      item ∈ (exec (auditStep c) ⟨w, []⟩ past).workspace.items →
      (∀ e ∈ future, e.Spares item.itemId) →
      StillPinned item (exec (auditStep c) ⟨w, []⟩ past).workspace
        (exec (auditStep c) ⟨w, []⟩ (past ++ future)).workspace ∧
      ∀ key nonce now encoded,
        (exec (auditStep c) ⟨w, []⟩ (past ++ future)).workspace.itemIds.Nodup →
        encryptSnapshotWithNonce c (exec (auditStep c) ⟨w, []⟩ (past ++ future)).workspace key nonce
          = .ok encoded →
        ∃ w', decryptSnapshot c encoded key now = .ok w' ∧
          StillPinned item (exec (auditStep c) ⟨w, []⟩ past).workspace w') := by
  refine ⟨?_, ?_⟩
  · intro w rs hmem hrs
    exact stillPinned_of_le hmem hpin (pinnedCopies_le_exec w hrs)
  · intro hc w hw past future hmem hfuture
    have hstep : ∀ s e, AuditInvariant c s → AuditInvariant c (auditStep c s e) :=
      fun s e h => h.step hc e
    have hpast := exec_invariant hstep (auditInvariant_init hw) past
    have hend := exec_invariant hstep (auditInvariant_init hw) (past ++ future)
    have hle : pinnedCopies item (exec (auditStep c) ⟨w, []⟩ past).workspace.items
        ≤ pinnedCopies item (exec (auditStep c) ⟨w, []⟩ (past ++ future)).workspace.items := by
      rw [exec_append]
      exact pinnedCopies_le_exec_audit hc hpast hfuture
    refine ⟨stillPinned_of_le hmem hpin hle, ?_⟩
    intro key nonce now encoded hids hencrypt
    have hdecrypt := decryptSnapshot_encryptSnapshot hc hend.wellFormed hids hencrypt now
    refine ⟨_, hdecrypt, stillPinned_of_le hmem hpin (hle.trans ?_)⟩
    have hrestore : saveAndRestore c (exec (auditStep c) ⟨w, []⟩ (past ++ future)).workspace key
        nonce now = .ok _ := Method.bind_eq_ok.mpr ⟨encoded, hencrypt, hdecrypt⟩
    exact (pinnedCopies_saveAndRestore hc hend.wellFormed hrestore).ge

/-- The item of `dayOneRun`, pinned. -/
def pinnedDayOneItem : ClipboardItem := { dayOneItem with isPinned := true }

/-- A policy of one item and one day, a clear and a restore fifty days later leave it alone. -/
theorem pinned_never_lost_dayOne :
    ∃ item' ∈ (exec (auditStep dayOneRecording.crates) ⟨.default, []⟩
        (dayOneRun.map .command ++ [.command ⟨3, 2, .PinItem dayOneItem.itemId, dayOne⟩]
          ++ [.command ⟨4, 3, .SetRetention ⟨1, 1, true⟩, 50 * dayOne⟩,
              .restore dayOneRecording.key.toList dayOneRecording.nonce (50 * dayOne),
              .command ⟨5, 4, .ClearUnpinned, 0⟩])).workspace.items,
      pinnedDayOneItem.IsPinnedCopy item' := by
  have hkept := (pinned_never_lost dayOneRecording.crates pinnedDayOneItem rfl).2
    (Recording.lawful_crates consistent_dayOneRecording) .default Origin.default
  refine (hkept _ _ ?_ ?_).1.present
  · show pinnedDayOneItem ∈ (exec (serve exampleSha256) .default
      (dayOneRun ++ [⟨3, 2, .PinItem dayOneItem.itemId, dayOne⟩])).items
    decide +kernel
  · intro e he
    simp only [List.mem_cons, List.not_mem_nil, or_false] at he
    rcases he with rfl | rfl | rfl
    · exact ⟨by decide, by decide⟩
    · trivial
    · exact ⟨by decide, by decide⟩

end FtnlDesktop
