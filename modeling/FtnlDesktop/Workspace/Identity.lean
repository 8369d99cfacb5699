import FtnlDesktop.Workspace.Representation

/-!
# Item identifiers

`PinItem`, `UnpinItem` and `DeleteItem` find an item by its id, and `from_snapshot_parts` rejects a
snapshot in which two items share one.  No effect makes two ids equal, with one exception: an
ingest that is not absorbed by a stored duplicate puts the id its caller chose in front of the
list, and `ingest_text` does not look whether that id is stored already.

* **`item_ids_distinct`** — ids stay distinct along every run in which no request takes that
  branch with a stored id (`ReusesId`).
* **`item_ids_can_repeat`** — one such request is enough to store an id twice.
-/

namespace FtnlDesktop

open Machine

variable {sha256 : Bytes → Digest} {w : ClipboardWorkspace} {now : SystemTime}

/-- The ids of the stored items, in order. -/
def ClipboardWorkspace.itemIds (w : ClipboardWorkspace) : List Uuid := w.items.map (·.itemId)

/-- There is an id, and a stored item has it. -/
def ClipboardWorkspace.StoresId (w : ClipboardWorkspace) : Option Uuid → Prop
  | some itemId => itemId ∈ w.itemIds
  | none => False

instance (w : ClipboardWorkspace) : ∀ itemId, Decidable (w.StoresId itemId)
  | some itemId => inferInstanceAs (Decidable (itemId ∈ w.itemIds))
  | none => isFalse id

/-- The id that an ingest brings along. -/
def WorkspaceAction.ingestedId : WorkspaceAction → Option Uuid
  | .IngestText itemId _ _ _ _ _ => some itemId
  | _ => none

/-- The id under which an action would put a new item in front: its ingest passes the checks of
`ingest_text`, and no stored item absorbs it. -/
def WorkspaceAction.insertedId (sha256 : Bytes → Digest) (w : ClipboardWorkspace) :
    WorkspaceAction → Option Uuid
  | .IngestText itemId text contentSha256 byteSize _ sourceFingerprint =>
      if (checkIngest sha256 w text contentSha256 byteSize sourceFingerprint).isOk
          ∧ duplicateIndex w contentSha256 = none then
        some itemId
      else
        none
  | _ => none

/-- The request passes the preliminary checks of `apply` and would put a new item in front under
an id that is stored already. -/
def ReusesId (sha256 : Bytes → Digest) (w : ClipboardWorkspace) (r : Request) : Prop :=
  r.commandId ∉ w.processedCommands ∧ r.expectedRevision = w.revision ∧ w.revision < MAX_REVISION
    ∧ w.StoresId (r.action.insertedId sha256 w)

instance (sha256 : Bytes → Digest) (w : ClipboardWorkspace) (r : Request) :
    Decidable (ReusesId sha256 w r) :=
  inferInstanceAs (Decidable (_ ∧ _ ∧ _ ∧ _))

/-- The request brings no id that is stored already. -/
def UsesFreshId (w : ClipboardWorkspace) (r : Request) : Prop :=
  ¬ w.StoresId r.action.ingestedId

instance (w : ClipboardWorkspace) (r : Request) : Decidable (UsesFreshId w r) :=
  inferInstanceAs (Decidable (¬ _))

lemma insertedId_eq_some {action : WorkspaceAction} {itemId : Uuid}
    (h : action.insertedId sha256 w = some itemId) : action.ingestedId = some itemId := by
  cases action with
  | IngestText itemId' text contentSha256 byteSize capturedAt sourceFingerprint =>
      rw [WorkspaceAction.insertedId] at h
      split_ifs at h
      exact h
  | _ => simp [WorkspaceAction.insertedId] at h

/-- Fresh ids, as the capture path draws them, are never reused ones. -/
lemma not_reusesId_of_usesFreshId {r : Request} (h : UsesFreshId w r) :
    ¬ ReusesId sha256 w r := by
  rintro ⟨-, -, -, hstored⟩
  cases hinserted : r.action.insertedId sha256 w with
  | none => exact (hinserted ▸ hstored : w.StoresId none)
  | some itemId =>
      rw [hinserted, ← insertedId_eq_some hinserted] at hstored
      exact h hstored

/-! ## Ids under the operations on items -/

lemma nodup_itemIds_retained {policy : RetentionPolicy} {items : List ClipboardItem}
    (h : (items.map (·.itemId)).Nodup) : ((retained policy now items).map (·.itemId)).Nodup :=
  h.sublist (retained_sublist.map _)

lemma nodup_itemIds_move {items : List ClipboardItem} {index : ℕ} (hlt : index < items.length)
    {item : ClipboardItem} (hid : item.itemId = items[index].itemId)
    (h : (items.map (·.itemId)).Nodup) :
    ((item :: items.eraseIdx index).map (·.itemId)).Nodup := by
  have hperm := (List.getElem_cons_eraseIdx_perm hlt).map fun item => item.itemId
  rw [List.map_cons, hid, ← List.map_cons]
  exact hperm.nodup_iff.mpr h

/-- Only the insertion of a new item needs to know that its id is new. -/
lemma Effect.nodup_itemIds {action : WorkspaceAction} {m : ClipboardWorkspace}
    (heffect : Effect sha256 w now action m) (h : w.itemIds.Nodup)
    (hnew : ∀ itemId, action.insertedId sha256 w = some itemId → itemId ∉ w.itemIds) :
    m.itemIds.Nodup := by
  cases heffect with
  | pause => exact h
  | resume => exact h
  | search hlen => exact h
  | pin hfind =>
      rw [ClipboardWorkspace.itemIds, withItems_items, map_modify_pin (·.itemId) fun _ => rfl]
      exact h
  | unpin hfind =>
      refine nodup_itemIds_retained ?_
      rw [map_modify_pin (·.itemId) fun _ => rfl]
      exact h
  | delete hmem => exact h.sublist (List.filter_sublist.map _)
  | clear => exact h.sublist (List.filter_sublist.map _)
  | setRetention hpolicy => exact nodup_itemIds_retained h
  | setExclusions hlen hwf => exact h
  | move hcheck hdup hlt => exact nodup_itemIds_retained (nodup_itemIds_move hlt rfl h)
  | insert hcheck hdup =>
      refine nodup_itemIds_retained (List.nodup_cons.mpr ⟨hnew _ ?_, h⟩)
      rw [WorkspaceAction.insertedId, checkIngest_eq_ok_iff (u := ()) |>.mpr hcheck]
      exact if_pos ⟨rfl, hdup⟩

/-! ## Commands that capture nothing -/

/-- The item is an old one, except perhaps for its pin. -/
def ClipboardItem.IsRepinned (item old : ClipboardItem) : Prop :=
  item = { old with isPinned := item.isPinned }

lemma ClipboardItem.IsRepinned.rfl {item : ClipboardItem} : item.IsRepinned item := Eq.refl item

lemma ClipboardItem.IsRepinned.trans {item old older : ClipboardItem} (h : item.IsRepinned old)
    (hold : old.IsRepinned older) : item.IsRepinned older := by
  rw [ClipboardItem.IsRepinned] at h hold ⊢
  rw [hold] at h
  exact h

lemma isRepinned_of_mem_modify {items : List ClipboardItem} {index : ℕ} {pin : Bool}
    {item : ClipboardItem}
    (h : item ∈ items.modify index fun item => { item with isPinned := pin }) :
    ∃ old ∈ items, item.IsRepinned old := by
  rcases mem_modify h with hmem | ⟨old, hmem, rfl⟩
  · exact ⟨item, hmem, .rfl⟩
  · exact ⟨old, hmem, rfl⟩

/-- **Only an ingest adds an item.** -/
theorem Effect.exists_old {action : WorkspaceAction} {m : ClipboardWorkspace}
    (heffect : Effect sha256 w now action m) (hnone : action.ingestedId = none)
    {item : ClipboardItem} (hmem : item ∈ m.items) : ∃ old ∈ w.items, item.IsRepinned old := by
  cases heffect with
  | pause => exact ⟨item, hmem, .rfl⟩
  | resume => exact ⟨item, hmem, .rfl⟩
  | search hlen => exact ⟨item, hmem, .rfl⟩
  | pin hfind => exact isRepinned_of_mem_modify hmem
  | unpin hfind => exact isRepinned_of_mem_modify (mem_of_mem_retained hmem)
  | delete hfind => exact ⟨item, List.mem_of_mem_filter hmem, .rfl⟩
  | clear => exact ⟨item, List.mem_of_mem_filter hmem, .rfl⟩
  | setRetention hpolicy => exact ⟨item, mem_of_mem_retained hmem, .rfl⟩
  | setExclusions hlen hwf => exact ⟨item, hmem, .rfl⟩
  | move hcheck hdup hlt => cases hnone
  | insert hcheck hdup => cases hnone

lemma exists_old_serve {r : Request} (hnone : r.action.ingestedId = none) {item : ClipboardItem}
    (hmem : item ∈ (serve sha256 w r).items) : ∃ old ∈ w.items, item.IsRepinned old := by
  rcases serve_cases sha256 w r with ⟨-, heq⟩ | ⟨-, -, -, -, m, heffect, heq⟩
  · rw [heq] at hmem
    exact ⟨item, hmem, .rfl⟩
  · rw [heq] at hmem
    exact heffect.exists_old hnone hmem

/-! ## One request and one run -/

/-- **One request** that does not reuse an id keeps ids distinct. -/
theorem nodup_itemIds_serve {r : Request} (h : w.itemIds.Nodup) (hr : ¬ ReusesId sha256 w r) :
    (serve sha256 w r).itemIds.Nodup := by
  rcases serve_cases sha256 w r with ⟨-, heq⟩ | ⟨-, hid, hrev, hlt, m, heffect, heq⟩
  · rwa [heq]
  · rw [heq]
    refine Effect.nodup_itemIds (m := m) heffect h ?_
    intro itemId hinserted hstored
    refine hr ⟨hid, hrev, hlt, ?_⟩
    rw [hinserted]
    exact hstored

/-- **Distinct ids.**  Along every run from the empty workspace in which no request reuses a stored
id, ids are distinct, each addresses at most one item, and the items pass the item checks that
`from_snapshot_parts` makes of a saved workspace. -/
theorem item_ids_distinct (sha256 : Bytes → Digest) (rs : List Request)
    (hrun : Along (serve sha256) (fun w r => ¬ ReusesId sha256 w r) .default rs) :
    (exec (serve sha256) .default rs).itemIds.Nodup ∧
    (∀ itemId : Uuid,
      ((exec (serve sha256) .default rs).items.filter fun item => item.itemId = itemId).length
        ≤ 1) ∧
    checkItems sha256 [] (exec (serve sha256) .default rs).items = .ok () := by
  have hnodup : (exec (serve sha256) .default rs).itemIds.Nodup :=
    exec_invariant_along (P := fun w => w.itemIds.Nodup)
      (fun _ _ h hr => nodup_itemIds_serve h hr) List.nodup_nil hrun
  have hwf : WellFormed sha256 (exec (serve sha256) .default rs) := wellFormed_default.exec rs
  refine ⟨hnodup, ?_, ?_⟩
  · intro itemId
    have hcount := List.nodup_iff_count_le_one.mp hnodup itemId
    rw [ClipboardWorkspace.itemIds, List.count_eq_countP, List.countP_map,
      List.countP_eq_length_filter] at hcount
    refine le_trans (le_of_eq ?_) hcount
    congr 1
  · exact checkItems_eq_ok_iff.mpr ⟨hwf.items, hnodup, fun _ _ => List.not_mem_nil⟩

/-- Two ingests of different texts, and a third that the stored `"a"` absorbs although it brings
the id of `"b"`. -/
theorem item_ids_distinct_two :
    (exec (serve exampleSha256) .default
      [⟨1, 0, .ResumeCapture, 0⟩, ⟨2, 1, exampleIngest 1 "a" 0, 0⟩,
       ⟨3, 2, exampleIngest 2 "b" 0, 0⟩, ⟨4, 3, exampleIngest 2 "a" 0, 0⟩]).itemIds.Nodup :=
  (item_ids_distinct exampleSha256 _ (by decide)).1

/-- **Ids can repeat.**  Two accepted ingests of different texts under one id store it twice, and
the result is not what `from_snapshot_parts` accepts. -/
theorem item_ids_can_repeat :
    ¬ (exec (serve exampleSha256) .default
      [⟨1, 0, .ResumeCapture, 0⟩, ⟨2, 1, exampleIngest 1 "a" 0, 0⟩,
       ⟨3, 2, exampleIngest 1 "b" 0, 0⟩]).itemIds.Nodup ∧
    checkItems exampleSha256 [] (exec (serve exampleSha256) .default
      [⟨1, 0, .ResumeCapture, 0⟩, ⟨2, 1, exampleIngest 1 "a" 0, 0⟩,
       ⟨3, 2, exampleIngest 1 "b" 0, 0⟩]).items = .error WorkspaceError.InvalidSnapshot := by
  decide

end FtnlDesktop
