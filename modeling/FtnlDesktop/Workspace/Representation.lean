import FtnlDesktop.Core.Run
import FtnlDesktop.Workspace.Effect

/-!
# The representation invariant

`WellFormed` collects the bounds that a workspace keeps through its whole life: retention policy,
unpinned count, item contents, exclusions, query, revision, replay window.  It is established by
the two ways a workspace comes into being —

* **`wellFormed_default`** for the empty one,
* **`wellFormed_of_fromSnapshotParts`** for a decoded snapshot, whose checks are written a second
  time and read off by `fromSnapshotParts_eq_ok_iff` —

and it is kept by every effect (`wellFormed_recordCommand`), so it holds at the end of every run.

Six effects rewrite the items.  The unpinned count is restored by the retention clean-up in four
of them and can only fall in the other two (`countP_modify_pin_le`, `List.Sublist.countP_le`), and
what an item says about its own text is never rewritten: the deduplicating ingest replaces the
time and the source fingerprint, and the fingerprint was checked.
-/

namespace FtnlDesktop

open Machine Method

variable {sha256 : Bytes → Digest} {w : ClipboardWorkspace} {now : SystemTime}

/-! ## The invariant -/

/-- The bounds that `RetentionPolicy::validate` checks. -/
structure RetentionPolicy.InBounds (policy : RetentionPolicy) : Prop where
  one_le_items : 1 ≤ policy.maxItems
  items_le : policy.maxItems ≤ 10000
  one_le_days : 1 ≤ policy.maxAgeDays
  days_le : policy.maxAgeDays ≤ 365

/-- What a stored item says about its text is true, and its source is well formed. -/
def ClipboardItem.Faithful (sha256 : Bytes → Digest) (item : ClipboardItem) : Prop :=
  WellFormedContent sha256 item.text item.contentSha256 item.byteSize item.sourceFingerprint

structure WellFormed (sha256 : Bytes → Digest) (w : ClipboardWorkspace) : Prop where
  retention : w.retention.InBounds
  unpinned : w.items.countP isUnpinned ≤ w.retention.maxItems
  items : ∀ item ∈ w.items, item.Faithful sha256
  exclusions_size : w.excludedSourceFingerprints.size ≤ MAX_SOURCE_EXCLUSIONS
  exclusions : ∀ value ∈ w.excludedSourceFingerprints, isSourceFingerprint value = true
  query : w.searchQuery.length ≤ MAX_SEARCH_CHARACTERS
  revision : w.revision ≤ MAX_REVISION
  processed : w.processedCommands.length ≤ MAX_PROCESSED_COMMANDS

lemma validate_eq_ok_iff {policy p : RetentionPolicy} :
    policy.validate = .ok p ↔ policy.InBounds ∧ p = policy := by
  rw [RetentionPolicy.validate]
  split_ifs with hout
  · simp only [false_iff, not_and]
    rintro ⟨h1, h2, h3, h4⟩
    omega
  · simp only [not_or, not_not] at hout
    obtain ⟨⟨h1, h2⟩, h3, h4⟩ := hout
    constructor
    · intro h
      exact ⟨⟨h1, h2, h3, h4⟩, (Except.ok.inj h).symm⟩
    · rintro ⟨-, rfl⟩
      rfl

lemma inBounds_default : RetentionPolicy.default.InBounds :=
  ⟨by decide, by decide, by decide, by decide⟩

theorem wellFormed_default : WellFormed sha256 .default where
  retention := inBounds_default
  unpinned := Nat.zero_le _
  items := by simp [ClipboardWorkspace.default]
  exclusions_size := Nat.zero_le _
  exclusions := by
    intro value hvalue
    exact absurd hvalue (List.not_mem_nil (a := value))
  query := by decide
  revision := Nat.zero_le _
  processed := Nat.zero_le _

/-! ## Every effect keeps it -/

/-- Pinning does not raise the number of unpinned items. -/
lemma countP_modify_pin_le (items : List ClipboardItem) (index : ℕ) :
    (items.modify index fun item => { item with isPinned := true }).countP isUnpinned
      ≤ items.countP isUnpinned := by
  induction items generalizing index with
  | nil => simp
  | cons a items ih =>
      cases index with
      | zero => simp [isUnpinned, List.countP_cons]
      | succ index =>
          have := ih index
          simp only [List.modify_succ_cons, List.countP_cons]
          omega

lemma faithful_of_mem_retained {policy : RetentionPolicy} {items : List ClipboardItem}
    (h : ∀ item ∈ items, item.Faithful sha256) :
    ∀ item ∈ retained policy now items, item.Faithful sha256 :=
  fun item hitem => h item (mem_of_mem_retained hitem)

lemma faithful_of_mem_modify {items : List ClipboardItem} {index : ℕ} (pin : Bool)
    (h : ∀ item ∈ items, item.Faithful sha256) :
    ∀ item ∈ items.modify index fun item => { item with isPinned := pin },
      item.Faithful sha256 := by
  intro item hitem
  rcases mem_modify hitem with hold | ⟨old, hold, rfl⟩
  · exact h item hold
  · exact h old hold

/-- A well-formed workspace with other items is well formed when these fit and are faithful. -/
lemma WellFormed.withItems (h : WellFormed sha256 w) {items : List ClipboardItem}
    (hcount : items.countP isUnpinned ≤ w.retention.maxItems)
    (hitems : ∀ item ∈ items, item.Faithful sha256) :
    WellFormed sha256 (withItems w items) :=
  { h with unpinned := hcount, items := hitems }

theorem Effect.wellFormed {action : WorkspaceAction} {m : ClipboardWorkspace}
    (heffect : Effect sha256 w now action m) (h : WellFormed sha256 w) : WellFormed sha256 m := by
  cases heffect with
  | pause => exact { h with }
  | resume => exact { h with }
  | search hlen => exact { h with query := hlen }
  | pin hfind =>
      exact h.withItems ((countP_modify_pin_le _ _).trans h.unpinned)
        (faithful_of_mem_modify true h.items)
  | unpin hfind =>
      exact h.withItems countP_retained_le
        (faithful_of_mem_retained (faithful_of_mem_modify false h.items))
  | delete hmem =>
      refine h.withItems (List.filter_sublist.countP_le.trans h.unpinned) ?_
      exact fun item hitem => h.items item (List.mem_of_mem_filter hitem)
  | clear =>
      refine h.withItems (List.filter_sublist.countP_le.trans h.unpinned) ?_
      exact fun item hitem => h.items item (List.mem_of_mem_filter hitem)
  | setRetention hpolicy =>
      exact { h with
        retention := (validate_eq_ok_iff.mp hpolicy).1
        unpinned := countP_retained_le
        items := faithful_of_mem_retained h.items }
  | setExclusions hlen hwf =>
      exact { h with
        exclusions_size := (SortedSet.size_ofList_le _).trans hlen
        exclusions := fun value hvalue => hwf value (SortedSet.mem_ofList.mp hvalue) }
  | move hcheck hdup hlt =>
      refine h.withItems countP_retained_le (faithful_of_mem_retained ?_)
      intro item hitem
      rcases List.mem_cons.mp hitem with rfl | hold
      · -- the moved item keeps its text and takes the source that the ingest was checked with
        exact { h.items _ (List.getElem_mem hlt) with fingerprint := hcheck.content.fingerprint }
      · exact h.items item (List.mem_of_mem_eraseIdx hold)
  | insert hcheck hdup =>
      refine h.withItems countP_retained_le (faithful_of_mem_retained ?_)
      intro item hitem
      rcases List.mem_cons.mp hitem with rfl | hold
      · exact hcheck.content
      · exact h.items item hold

/-- The final bump stays within `MAX_REVISION` because `apply` stopped earlier otherwise. -/
lemma wellFormed_recordCommand {m : ClipboardWorkspace} (commandId : Uuid)
    (h : WellFormed sha256 m) (hlt : m.revision < MAX_REVISION) :
    WellFormed sha256 (recordCommand commandId m) :=
  { h with
    revision := hlt
    processed := Window.length_push_le commandId h.processed }

theorem WellFormed.serve (h : WellFormed sha256 w) (r : Request) :
    WellFormed sha256 (serve sha256 w r) := by
  refine serve_invariant h ?_
  intro m heffect hlt
  refine wellFormed_recordCommand _ (heffect.wellFormed h) ?_
  rwa [heffect.revision_eq]

/-! ## Decoded snapshots -/

/-- One round of the item loop. -/
lemma checkItems_cons_eq_ok_iff {seen : List Uuid} {item : ClipboardItem}
    {items : List ClipboardItem} {u : Unit} :
    checkItems sha256 seen (item :: items) = .ok u ↔
      item.itemId ∉ seen ∧ item.Faithful sha256
        ∧ checkItems sha256 (item.itemId :: seen) items = .ok u := by
  rw [checkItems, bind_eq_ok]
  simp only [rejectIf_eq_ok, exists_const, not_or, not_lt, not_not, Option.any_eq_true, not_exists,
    not_and, Bool.not_eq_true', Bool.not_eq_false, Bool.not_eq_true]
  constructor
  · rintro ⟨⟨hseen, hne, hchars, hbytes, hsize, hdigest, hfp⟩, hrest⟩
    exact ⟨hseen, ⟨hne, hchars, hbytes, hsize, hdigest, hfp⟩, hrest⟩
  · rintro ⟨hseen, ⟨hne, hchars, hbytes, hsize, hdigest, hfp⟩, hrest⟩
    exact ⟨⟨hseen, hne, hchars, hbytes, hsize, hdigest, hfp⟩, hrest⟩

/-- The item loop accepts faithful items with distinct ids that it has not seen yet. -/
lemma checkItems_eq_ok_iff {seen : List Uuid} {items : List ClipboardItem} {u : Unit} :
    checkItems sha256 seen items = .ok u ↔
      (∀ item ∈ items, item.Faithful sha256) ∧ (items.map (·.itemId)).Nodup
        ∧ ∀ item ∈ items, item.itemId ∉ seen := by
  induction items generalizing seen with
  | nil => simp [checkItems]
  | cons a items ih =>
      rw [checkItems_cons_eq_ok_iff, ih]
      simp only [List.mem_cons, forall_eq_or_imp, List.map_cons, List.nodup_cons, List.mem_map,
        not_exists, not_and, not_or]
      constructor
      · rintro ⟨hseen, ha, hfaithful, hnodup, hfresh⟩
        exact ⟨⟨ha, hfaithful⟩, ⟨fun b hb => (hfresh b hb).1, hnodup⟩, hseen,
          fun b hb => (hfresh b hb).2⟩
      · rintro ⟨⟨ha, hfaithful⟩, ⟨hdistinct, hnodup⟩, hseen, hfresh⟩
        exact ⟨hseen, ha, hfaithful, hnodup, fun b hb => ⟨hdistinct b hb, hfresh b hb⟩⟩

section Snapshot

variable {revision : ℕ} {captureState : CaptureState} {retention : RetentionPolicy}
  {searchQuery : String} {exclusions : SortedSet String} {items : List ClipboardItem}

/-- The parts that `from_snapshot_parts` accepts. -/
structure Loadable (sha256 : Bytes → Digest) (revision : ℕ) (retention : RetentionPolicy)
    (searchQuery : String) (exclusions : SortedSet String) (items : List ClipboardItem) :
    Prop where
  revision_le : revision ≤ MAX_REVISION
  query_le : searchQuery.length ≤ MAX_SEARCH_CHARACTERS
  exclusions_le : exclusions.size ≤ MAX_SOURCE_EXCLUSIONS
  exclusions_wf : ∀ value ∈ exclusions, isSourceFingerprint value = true
  length_le : items.length ≤ MAX_SNAPSHOT_ITEMS
  policy : retention.InBounds
  faithful : ∀ item ∈ items, item.Faithful sha256
  ids : (items.map (·.itemId)).Nodup

/-- **`from_snapshot_parts`** accepts loadable parts and cleans them up. -/
theorem fromSnapshotParts_eq_ok_iff :
    fromSnapshotParts sha256 revision captureState retention searchQuery exclusions items now
        = .ok w ↔
      Loadable sha256 revision retention searchQuery exclusions items ∧
        w = enforceRetention now
          { revision, captureState, retention, searchQuery,
            excludedSourceFingerprints := exclusions, items, processedCommands := [] } := by
  rw [fromSnapshotParts]
  simp only [bind_eq_ok, rejectIf_eq_ok, mapError_eq_ok, exists_const, pure_eq_ok,
    checkItems_eq_ok_iff, not_or, not_lt, List.any_eq_true, not_exists, not_and, Bool.not_eq_true',
    Bool.not_eq_false, List.not_mem_nil, not_false_eq_true, implies_true, and_true]
  constructor
  · rintro ⟨⟨hrev, hquery, hsize, hexcl, hlen⟩, policy, hpolicy, ⟨hitems, hids⟩, rfl⟩
    obtain ⟨hbounds, rfl⟩ := validate_eq_ok_iff.mp hpolicy
    exact ⟨⟨hrev, hquery, hsize, hexcl, hlen, hbounds, hitems, hids⟩, rfl⟩
  · rintro ⟨⟨hrev, hquery, hsize, hexcl, hlen, hbounds, hitems, hids⟩, rfl⟩
    exact ⟨⟨hrev, hquery, hsize, hexcl, hlen⟩, retention, validate_eq_ok_iff.mpr ⟨hbounds, rfl⟩,
      ⟨hitems, hids⟩, rfl⟩

theorem wellFormed_of_fromSnapshotParts
    (h : fromSnapshotParts sha256 revision captureState retention searchQuery exclusions items now
      = .ok w) : WellFormed sha256 w := by
  obtain ⟨hload, rfl⟩ := fromSnapshotParts_eq_ok_iff.mp h
  rw [enforceRetention_eq]
  exact
    { retention := hload.policy
      unpinned := countP_retained_le
      items := faithful_of_mem_retained hload.faithful
      exclusions_size := hload.exclusions_le
      exclusions := hload.exclusions_wf
      query := hload.query_le
      revision := hload.revision_le
      processed := Nat.zero_le _ }

end Snapshot

/-! ## Every run -/

/-- The workspaces a run starts from: the empty one, and what `from_snapshot_parts` returns. -/
inductive Origin (sha256 : Bytes → Digest) : ClipboardWorkspace → Prop
  | default : Origin sha256 .default
  | restored {revision : ℕ} {captureState : CaptureState} {retention : RetentionPolicy}
      {searchQuery : String} {exclusions : SortedSet String} {items : List ClipboardItem}
      {now : SystemTime} {w : ClipboardWorkspace}
      (h : fromSnapshotParts sha256 revision captureState retention searchQuery exclusions items
        now = .ok w) : Origin sha256 w

lemma Origin.wellFormed (h : Origin sha256 w) : WellFormed sha256 w := by
  cases h with
  | default => exact wellFormed_default
  | restored h => exact wellFormed_of_fromSnapshotParts h

lemma WellFormed.exec (h : WellFormed sha256 w) (rs : List Request) :
    WellFormed sha256 (exec (FtnlDesktop.serve sha256) w rs) :=
  exec_invariant (fun _ r hw => hw.serve r) h rs

/-- **Representation invariant.**  Whatever requests are sent to an empty or a restored workspace,
in any order and at any times, it stays within its bounds and every item stays truthful about its
text. -/
theorem wellFormed_of_reachable {w₀ : ClipboardWorkspace} (h : Origin sha256 w₀)
    (rs : List Request) : WellFormed sha256 (exec (FtnlDesktop.serve sha256) w₀ rs) :=
  h.wellFormed.exec rs

/-- A snapshot with one unpinned item too many, restored and then used. -/
theorem wellFormed_of_reachable_restored :
    WellFormed exampleSha256 (exec (FtnlDesktop.serve exampleSha256)
      { revision := 3
        captureState := .Paused
        retention := { maxItems := 1, maxAgeDays := 30, deduplicate := false }
        searchQuery := ""
        excludedSourceFingerprints := ∅
        items := [exampleItem 1 "a" 0]
        processedCommands := [] }
      [⟨7, 3, .ResumeCapture, 0⟩, ⟨8, 4, .PinItem 1, 0⟩]) := by
  have hload : fromSnapshotParts exampleSha256 3 .Paused
      { maxItems := 1, maxAgeDays := 30, deduplicate := false } "" ∅
      [exampleItem 1 "a" 0, exampleItem 2 "b" 0] 0 = .ok _ := rfl
  exact wellFormed_of_reachable (Origin.restored hload) _

end FtnlDesktop
