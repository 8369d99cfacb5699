import FtnlDesktop.Core.Run
import FtnlDesktop.Workspace.Effect
import FtnlDesktop.Workspace.Enforcement

/-!
# Count retention evicts the oldest first

The loop of `enforce_retention` never looks at a time: it removes the last unpinned item of the
list.  That this is the oldest one rests on the order of the list, and the order on the clock of
the captures.  As long as accepted ingests carry times that do not go back, every item that enters
or re-enters the front is at least as new as all others, and no other command reorders anything.

* **`Effect.newestFirst`** — one action keeps the list sorted, from newest to oldest.
* **`count_retention_evicts_oldest`** — in every run with such captures the list is sorted at every
  point, and what the loop removes is at least as old as every unpinned item that stays.
-/

namespace FtnlDesktop

open Eviction Machine

/-- The items are sorted by the time of their capture, the newest in front. -/
def NewestFirst (items : List ClipboardItem) : Prop :=
  items.Pairwise fun newer older => older.capturedAt ≤ newer.capturedAt

instance (items : List ClipboardItem) : Decidable (NewestFirst items) :=
  inferInstanceAs (Decidable (items.Pairwise _))

/-! ## Captures -/

/-- The time that an ingest carries. -/
def WorkspaceAction.captureTime : WorkspaceAction → Option SystemTime
  | .IngestText _ _ _ _ capturedAt _ => some capturedAt
  | _ => none

/-- The times of the accepted ingests of a run, in their order. -/
def acceptedCaptures (sha256 : Bytes → Digest) :
    ClipboardWorkspace → List Request → List SystemTime
  | _, [] => []
  | w, r :: rs =>
      (if accepts sha256 w r then r.action.captureTime.toList else [])
        ++ acceptedCaptures sha256 (serve sha256 w r) rs

/-! ## What the loop removes -/

/-- The policy and the list that the `enforce_retention` of an action starts with, if the action
calls it. -/
def retentionInput (w : ClipboardWorkspace) :
    WorkspaceAction → Option (RetentionPolicy × List ClipboardItem)
  | .UnpinItem itemId =>
      (w.items.findIdx? fun item => item.itemId = itemId).map fun index =>
        (w.retention, w.items.modify index fun item => { item with isPinned := false })
  | .SetRetention policy => some (policy, w.items)
  | .IngestText itemId text contentSha256 byteSize capturedAt sourceFingerprint =>
      match duplicateIndex w contentSha256 with
      | some index => some (w.retention,
          moveToFront index (fun item => { item with capturedAt, sourceFingerprint }) w.items)
      | none => some (w.retention,
          { itemId, text, contentSha256, byteSize, capturedAt, isPinned := false,
            sourceFingerprint } :: w.items)
  | _ => none

/-- The loop that starts with `start` removes the item in one of its rounds. -/
def Evicts (maxItems : ℕ) (start : List ClipboardItem) (removed : ClipboardItem) : Prop :=
  ∃ items index, Relation.ReflTransGen (EvictRound maxItems) start items ∧
    Overfull maxItems items ∧ rposition isUnpinned items = some index ∧
    items[index]? = some removed

variable {maxItems : ℕ} {start items : List ClipboardItem} {removed item : ClipboardItem}

/-- Rounds do not change what is kept in the end. -/
lemma keepFirst_of_rounds (h : Relation.ReflTransGen (EvictRound maxItems) start items) :
    keepFirst isUnpinned maxItems items = keepFirst isUnpinned maxItems start := by
  induction h with
  | refl => rfl
  | tail _ hround ih =>
      cases hround with
      | remove hover hlast => exact (keepFirst_eraseIdx hlast hover).trans ih

lemma sublist_of_rounds (h : Relation.ReflTransGen (EvictRound maxItems) start items) :
    List.Sublist items start := by
  induction h with
  | refl => exact List.Sublist.refl start
  | tail _ hround ih =>
      cases hround with
      | remove hover hlast => exact (List.eraseIdx_sublist _ _).trans ih

/-- **The loop removes the oldest**, from a list that is sorted. -/
theorem Evicts.le (h : Evicts maxItems start removed) (hsorted : NewestFirst start)
    (hitem : item ∈ keepFirst isUnpinned maxItems start) (hunpinned : item.isPinned = false) :
    removed.capturedAt ≤ item.capturedAt := by
  obtain ⟨items, index, hrounds, -, hlast, hremoved⟩ := h
  rw [← keepFirst_of_rounds hrounds] at hitem
  have hmem : item ∈ items := (keepFirst_sublist _ _).subset hitem
  have hcounts : isUnpinned item = true := by simp [isUnpinned, hunpinned]
  rcases eq_or_rel_of_rposition (hsorted.sublist (sublist_of_rounds hrounds)) hlast hremoved item
    hmem hcounts with rfl | hle
  · exact le_rfl
  · exact hle

/-! ## One action -/

/-- Pins are not part of the order. -/
lemma NewestFirst.modify_pin (h : NewestFirst items) (index : ℕ) (pin : Bool) :
    NewestFirst (items.modify index fun item => { item with isPinned := pin }) := by
  have hiff : ∀ l : List ClipboardItem,
      (l.map (·.capturedAt)).Pairwise (fun newer older => older ≤ newer) ↔ NewestFirst l :=
    fun _ => List.pairwise_map
  rw [← hiff, map_modify_pin (·.capturedAt) fun _ => rfl, hiff]
  exact h

/-- An item at least as new as all others goes in front. -/
lemma NewestFirst.cons (h : NewestFirst items)
    (hnew : ∀ older ∈ items, older.capturedAt ≤ item.capturedAt) : NewestFirst (item :: items) :=
  List.pairwise_cons.mpr ⟨hnew, h⟩

variable {sha256 : Bytes → Digest} {w m : ClipboardWorkspace} {now : SystemTime}
  {action : WorkspaceAction}

/-- What an action that cleans up leaves is what `enforce_retention` makes of its list. -/
lemma Effect.items_eq_retained (heffect : Effect sha256 w now action m)
    {policy : RetentionPolicy} (hinput : retentionInput w action = some (policy, items)) :
    m.items = retained policy now items := by
  cases heffect with
  | unpin hfind =>
      rw [retentionInput, hfind, Option.map_some] at hinput
      obtain ⟨rfl, rfl⟩ := by simpa using hinput
      rfl
  | setRetention hpolicy =>
      obtain ⟨rfl, rfl⟩ := by simpa [retentionInput] using hinput
      rfl
  | move hcheck hdup hlt =>
      simp only [retentionInput, hdup, moveToFront_eq _ hlt] at hinput
      obtain ⟨rfl, rfl⟩ := by simpa using hinput
      rfl
  | insert hcheck hdup =>
      simp only [retentionInput, hdup] at hinput
      obtain ⟨rfl, rfl⟩ := by simpa using hinput
      rfl
  | _ => simp [retentionInput] at hinput

/-- The list that is cleaned up is sorted before the loop starts. -/
lemma newestFirst_retentionInput {policy : RetentionPolicy}
    (hinput : retentionInput w action = some (policy, items)) (hsorted : NewestFirst w.items)
    (hnew : ∀ t ∈ action.captureTime, ∀ old ∈ w.items, old.capturedAt ≤ t) :
    NewestFirst items := by
  cases action with
  | UnpinItem itemId =>
      obtain ⟨index, -, heq⟩ := Option.map_eq_some_iff.mp hinput
      obtain ⟨-, rfl⟩ := Prod.mk.inj heq
      exact hsorted.modify_pin index false
  | SetRetention policy' =>
      obtain ⟨-, rfl⟩ := by simpa [retentionInput] using hinput
      exact hsorted
  | IngestText itemId text contentSha256 byteSize capturedAt sourceFingerprint =>
      have hnew' : ∀ old ∈ w.items, old.capturedAt ≤ capturedAt := hnew capturedAt rfl
      cases hdup : duplicateIndex w contentSha256 with
      | none =>
          simp only [retentionInput, hdup] at hinput
          obtain ⟨-, rfl⟩ := by simpa using hinput
          exact hsorted.cons hnew'
      | some index =>
          obtain ⟨-, hlt, -⟩ := duplicateIndex_eq_some hdup
          simp only [retentionInput, hdup, moveToFront_eq _ hlt] at hinput
          obtain ⟨-, rfl⟩ := by simpa using hinput
          refine NewestFirst.cons (hsorted.sublist (List.eraseIdx_sublist _ _)) ?_
          exact fun old hold => hnew' old (List.mem_of_mem_eraseIdx hold)
  | _ => simp [retentionInput] at hinput

/-- **One action** keeps the order. -/
theorem Effect.newestFirst (heffect : Effect sha256 w now action m) (hsorted : NewestFirst w.items)
    (hnew : ∀ t ∈ action.captureTime, ∀ old ∈ w.items, old.capturedAt ≤ t) :
    NewestFirst m.items := by
  cases hinput : retentionInput w action with
  | some input =>
      rw [heffect.items_eq_retained hinput]
      exact (newestFirst_retentionInput hinput hsorted hnew).sublist retained_sublist
  | none =>
      cases heffect with
      | pause => exact hsorted
      | resume => exact hsorted
      | search hlen => exact hsorted
      | pin hfind => exact hsorted.modify_pin _ true
      | delete hmem => exact hsorted.sublist List.filter_sublist
      | clear => exact hsorted.sublist List.filter_sublist
      | setExclusions hlen hwf => exact hsorted
      | unpin hfind => simp [retentionInput, hfind] at hinput
      | setRetention hpolicy => simp [retentionInput] at hinput
      | move hcheck hdup hlt => simp [retentionInput, hdup] at hinput
      | insert hcheck hdup => simp [retentionInput, hdup] at hinput

/-- No action makes an item newer than the captures so far and its own. -/
lemma Effect.capturedAt_le (heffect : Effect sha256 w now action m) {t : SystemTime}
    (hold : ∀ item ∈ w.items, item.capturedAt ≤ t) (hcapture : ∀ t' ∈ action.captureTime, t' ≤ t) :
    ∀ item ∈ m.items, item.capturedAt ≤ t := by
  have hmodify : ∀ (index : ℕ) (pin : Bool),
      ∀ item ∈ w.items.modify index fun item => { item with isPinned := pin },
        item.capturedAt ≤ t := by
    intro index pin item hitem
    rcases mem_modify hitem with hmem | ⟨old, hmem, rfl⟩
    · exact hold item hmem
    · exact hold old hmem
  intro item hitem
  cases heffect with
  | pause => exact hold item hitem
  | resume => exact hold item hitem
  | search hlen => exact hold item hitem
  | pin hfind => exact hmodify _ _ item hitem
  | unpin hfind => exact hmodify _ _ item (mem_of_mem_retained hitem)
  | delete hmem => exact hold item (List.mem_of_mem_filter hitem)
  | clear => exact hold item (List.mem_of_mem_filter hitem)
  | setRetention hpolicy => exact hold item (mem_of_mem_retained hitem)
  | setExclusions hlen hwf => exact hold item hitem
  | move hcheck hdup hlt =>
      rcases List.mem_cons.mp (mem_of_mem_retained hitem) with rfl | hmem
      · exact hcapture _ rfl
      · exact hold item (List.mem_of_mem_eraseIdx hmem)
  | insert hcheck hdup =>
      rcases List.mem_cons.mp (mem_of_mem_retained hitem) with rfl | hmem
      · exact hcapture _ rfl
      · exact hold item hmem

/-! ## Runs -/

/-- The workspace is sorted, and nothing stored is newer than a capture still to come. -/
structure InStep (sha256 : Bytes → Digest) (w : ClipboardWorkspace) (rs : List Request) :
    Prop where
  sorted : NewestFirst w.items
  monotone : (acceptedCaptures sha256 w rs).Pairwise (· ≤ ·)
  bounded : ∀ item ∈ w.items, ∀ t ∈ acceptedCaptures sha256 w rs, item.capturedAt ≤ t

/-- What an accepted request contributes to the captures of a run. -/
lemma acceptedCaptures_cons_of_accepts {r : Request} {rs : List Request}
    (haccept : accepts sha256 w r = true) :
    acceptedCaptures sha256 w (r :: rs)
      = r.action.captureTime.toList ++ acceptedCaptures sha256 (serve sha256 w r) rs := by
  rw [acceptedCaptures, if_pos haccept]

/-- The time of an accepted ingest is not behind any stored one. -/
lemma InStep.le_captureTime {r : Request} {rs : List Request} (h : InStep sha256 w (r :: rs))
    (haccept : accepts sha256 w r = true) :
    ∀ t ∈ r.action.captureTime, ∀ old ∈ w.items, old.capturedAt ≤ t := by
  intro t ht old hold
  refine h.bounded old hold t ?_
  rw [acceptedCaptures_cons_of_accepts haccept]
  exact List.mem_append_left _ (Option.mem_toList.mpr ht)

/-- **One request** of the run. -/
theorem InStep.serve {r : Request} {rs : List Request} (h : InStep sha256 w (r :: rs)) :
    InStep sha256 (serve sha256 w r) rs := by
  rcases serve_cases sha256 w r with ⟨hreject, heq⟩ | ⟨haccept, -, -, -, m, heffect, heq⟩
  · have hcaptures : acceptedCaptures sha256 w (r :: rs) = acceptedCaptures sha256 w rs := by
      rw [acceptedCaptures, hreject, heq]
      rfl
    rw [heq]
    exact ⟨h.sorted, hcaptures ▸ h.monotone, hcaptures ▸ h.bounded⟩
  · have hnew := h.le_captureTime haccept
    have hmonotone := h.monotone
    have hbounded := h.bounded
    rw [acceptedCaptures_cons_of_accepts haccept] at hmonotone hbounded
    obtain ⟨-, hrest, hbefore⟩ := List.pairwise_append.mp hmonotone
    have hitems : (FtnlDesktop.serve sha256 w r).items = m.items := by rw [heq, recordCommand]
    refine ⟨?_, hrest, ?_⟩
    · rw [hitems]
      exact heffect.newestFirst h.sorted hnew
    · rw [hitems]
      intro item hitem t ht
      refine heffect.capturedAt_le ?_ ?_ item hitem
      · exact fun old hold => hbounded old hold t (List.mem_append_right _ ht)
      · exact fun t' ht' => hbefore t' (Option.mem_toList.mpr ht') t ht

lemma InStep.stateAt {rs : List Request} (h : InStep sha256 w rs) (n : ℕ) :
    InStep sha256 (stateAt (FtnlDesktop.serve sha256) w rs n) (rs.drop n) := by
  induction n generalizing w rs with
  | zero => exact h
  | succ n ih =>
      cases rs with
      | nil =>
          rw [stateAt_nil]
          exact h
      | cons r rs => exact ih h.serve

/-- **Count retention evicts the oldest first.**  In every run from the empty workspace whose
accepted captures do not go back in time, the items are sorted from newest to oldest at every
point; and when the next command is accepted and cleans up, everything that the loop removes is at
least as old as every unpinned item that the command leaves. -/
theorem count_retention_evicts_oldest (sha256 : Bytes → Digest) (rs : List Request)
    (hmonotone : (acceptedCaptures sha256 .default rs).Pairwise (· ≤ ·)) (n : ℕ) :
    let w := stateAt (serve sha256) .default rs n
    NewestFirst w.items ∧
    ∀ r, rs[n]? = some r → accepts sha256 w r = true →
      ∀ policy items, retentionInput w r.action = some (policy, items) →
        let fresh := items.filter (isFresh policy.maxAge r.now)
        (serve sha256 w r).items = evictLoop policy.maxItems fresh.length fresh ∧
        ∀ removed, Evicts policy.maxItems fresh removed →
          ∀ item ∈ (serve sha256 w r).items, item.isPinned = false →
            removed.capturedAt ≤ item.capturedAt := by
  intro w
  have hstart : InStep sha256 .default rs := ⟨List.Pairwise.nil, hmonotone, by
    intro item hitem
    exact absurd hitem List.not_mem_nil⟩
  have hstep : InStep sha256 w (rs.drop n) := hstart.stateAt n
  refine ⟨hstep.sorted, fun r hr haccept policy items hinput => ?_⟩
  intro fresh
  obtain ⟨hlt, rfl⟩ := List.getElem?_eq_some_iff.mp hr
  rw [List.drop_eq_getElem_cons hlt] at hstep
  have hinputSorted := newestFirst_retentionInput hinput hstep.sorted (hstep.le_captureTime haccept)
  rcases serve_cases sha256 w rs[n] with ⟨hreject, -⟩ | ⟨-, -, -, -, m, heffect, heq⟩
  · simp [haccept] at hreject
  have hitems : (serve sha256 w rs[n]).items = keepFirst isUnpinned policy.maxItems fresh := by
    rw [heq, recordCommand]
    exact heffect.items_eq_retained hinput
  refine ⟨by rw [hitems, evictLoop_eq_keepFirst _ _ _ le_rfl], ?_⟩
  intro removed hevicts item hitem hunpinned
  rw [hitems] at hitem
  exact hevicts.le (hinputSorted.sublist List.filter_sublist) hitem hunpinned

/-- Three captures, the first of which comes back to the front before the policy shrinks to one
item. -/
theorem count_retention_evicts_oldest_shrink :
    NewestFirst (stateAt (serve exampleSha256) .default
      [⟨1, 0, .ResumeCapture, 0⟩, ⟨2, 1, exampleIngest 1 "a" 0, 0⟩,
       ⟨3, 2, exampleIngest 2 "b" 1, 1⟩, ⟨4, 3, exampleIngest 3 "a" 2, 2⟩,
       ⟨5, 4, .SetRetention ⟨1, 30, true⟩, 3⟩] 4).items :=
  (count_retention_evicts_oldest exampleSha256
    [⟨1, 0, .ResumeCapture, 0⟩, ⟨2, 1, exampleIngest 1 "a" 0, 0⟩,
     ⟨3, 2, exampleIngest 2 "b" 1, 1⟩, ⟨4, 3, exampleIngest 3 "a" 2, 2⟩,
     ⟨5, 4, .SetRetention ⟨1, 30, true⟩, 3⟩] (by decide) 4).1

end FtnlDesktop
