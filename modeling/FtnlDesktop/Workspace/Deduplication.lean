import FtnlDesktop.Workspace.Representation

/-!
# Deduplication never multiplies content

While the policy deduplicates, an ingest adds a copy of a text only if none is stored; if there are
several, left from a time when the policy did not, it moves the first and adds none.  All other
commands can only remove copies.  So the number of copies of a digest never rises above one, or
above what it was.

* **`Effect.copies_le`** — one action.
* **`deduplication_never_multiplies`** — one command, and every run on which deduplication stays
  switched on, from the empty workspace or from any later point.
-/

namespace FtnlDesktop

open Machine

/-- The digests of the stored items, in order. -/
def ClipboardWorkspace.digests (w : ClipboardWorkspace) : List String :=
  w.items.map (·.contentSha256)

/-- The number of stored items with the digest. -/
def ClipboardWorkspace.copies (w : ClipboardWorkspace) (contentSha256 : String) : ℕ :=
  w.digests.count contentSha256

/-- The action is a policy without deduplication. -/
def WorkspaceAction.disablesDeduplication : WorkspaceAction → Bool
  | .SetRetention policy => !policy.deduplicate
  | _ => false

/-- The request is accepted and switches deduplication off. -/
def SwitchesOff (sha256 : Bytes → Digest) (w : ClipboardWorkspace) (r : Request) : Prop :=
  accepts sha256 w r = true ∧ r.action.disablesDeduplication = true

instance (sha256 : Bytes → Digest) (w : ClipboardWorkspace) (r : Request) :
    Decidable (SwitchesOff sha256 w r) :=
  inferInstanceAs (Decidable (_ ∧ _))

variable {sha256 : Bytes → Digest} {w m : ClipboardWorkspace} {now : SystemTime}
  {action : WorkspaceAction}

/-! ## One action -/

/-- Cleaning up removes copies or leaves them. -/
lemma count_digests_retained_le (policy : RetentionPolicy) (items : List ClipboardItem)
    (d : String) :
    ((retained policy now items).map (·.contentSha256)).count d
      ≤ (items.map (·.contentSha256)).count d :=
  (retained_sublist.map _).count_le d

/-- Moving an item to the front keeps the number of copies of everything. -/
lemma count_digests_move {items : List ClipboardItem} {index : ℕ} (hlt : index < items.length)
    {item : ClipboardItem} (hdigest : item.contentSha256 = items[index].contentSha256)
    (d : String) :
    ((item :: items.eraseIdx index).map (·.contentSha256)).count d
      = (items.map (·.contentSha256)).count d := by
  have hperm := (List.getElem_cons_eraseIdx_perm hlt).map fun item => item.contentSha256
  rw [List.map_cons, hdigest, ← List.map_cons]
  exact hperm.count_eq d

/-- A deduplicating ingest inserts only what is not stored. -/
lemma count_digests_insert {contentSha256 : String} (hdedup : w.retention.deduplicate = true)
    (hdup : duplicateIndex w contentSha256 = none) (d : String) :
    (contentSha256 :: w.digests).count d ≤ max 1 (w.copies d) := by
  rw [List.count_cons]
  by_cases hd : contentSha256 = d
  · have hnone : d ∉ w.digests := by
      rw [duplicateIndex, hdedup, if_pos rfl, List.findIdx?_eq_none_iff] at hdup
      rintro hmem
      obtain ⟨item, hitem, hdigest⟩ := List.mem_map.mp hmem
      simpa [hd, hdigest] using hdup item hitem
    simp [hd, List.count_eq_zero_of_not_mem hnone]
  · simp [hd, ClipboardWorkspace.copies]

/-- **One action**, performed while the policy deduplicates. -/
theorem Effect.copies_le (heffect : Effect sha256 w now action m)
    (hdedup : w.retention.deduplicate = true) (d : String) :
    m.copies d ≤ max 1 (w.copies d) := by
  have hsub : ∀ {items : List ClipboardItem}, List.Sublist items w.items →
      (items.map (·.contentSha256)).count d ≤ max 1 (w.copies d) :=
    fun h => ((h.map _).count_le d).trans (le_max_right _ _)
  cases heffect with
  | pause => exact le_max_right _ _
  | resume => exact le_max_right _ _
  | search hlen => exact le_max_right _ _
  | pin hfind =>
      refine le_trans (le_of_eq ?_) (le_max_right _ _)
      rw [ClipboardWorkspace.copies, ClipboardWorkspace.digests, withItems_items,
        map_modify_pin (·.contentSha256) fun _ => rfl]
      rfl
  | unpin hfind =>
      refine (count_digests_retained_le _ _ d).trans (le_trans (le_of_eq ?_) (le_max_right _ _))
      rw [map_modify_pin (·.contentSha256) fun _ => rfl]
      rfl
  | delete hmem => exact hsub List.filter_sublist
  | clear => exact hsub List.filter_sublist
  | setRetention hpolicy => exact hsub retained_sublist
  | setExclusions hlen hwf => exact le_max_right _ _
  | move hcheck hdup hlt =>
      refine (count_digests_retained_le _ _ d).trans (le_trans (le_of_eq ?_) (le_max_right _ _))
      exact count_digests_move hlt rfl d
  | insert hcheck hdup =>
      exact (count_digests_retained_le _ _ d).trans (count_digests_insert hdedup hdup d)

/-- Deduplication goes off with a policy that says so, and with nothing else. -/
lemma Effect.deduplicate_eq (heffect : Effect sha256 w now action m)
    (hdedup : w.retention.deduplicate = true) (hkeeps : action.disablesDeduplication = false) :
    m.retention.deduplicate = true := by
  cases heffect with
  | setRetention hpolicy => simpa [WorkspaceAction.disablesDeduplication] using hkeeps
  | _ => exact hdedup

/-! ## Commands and runs -/

/-- **One request**, whether it is accepted or not. -/
theorem copies_serve_le (r : Request) (hdedup : w.retention.deduplicate = true) (d : String) :
    (serve sha256 w r).copies d ≤ max 1 (w.copies d) := by
  refine serve_invariant (P := fun m => m.copies d ≤ max 1 (w.copies d)) (le_max_right _ _) ?_
  intro m heffect _
  exact heffect.copies_le hdedup d

lemma deduplicate_serve {r : Request} (hdedup : w.retention.deduplicate = true)
    (hkeeps : ¬ SwitchesOff sha256 w r) : (serve sha256 w r).retention.deduplicate = true := by
  rcases serve_cases sha256 w r with ⟨-, heq⟩ | ⟨haccept, -, -, -, m, heffect, heq⟩
  · rwa [heq]
  · rw [heq]
    refine heffect.deduplicate_eq (m := m) hdedup ?_
    by_contra hdisables
    exact hkeeps ⟨haccept, Bool.eq_true_of_not_eq_false hdisables⟩

/-- **Every run** on which deduplication stays on. -/
theorem copies_exec_le (hdedup : w.retention.deduplicate = true) {rs : List Request}
    (hrun : Along (serve sha256) (fun w r => ¬ SwitchesOff sha256 w r) w rs) (d : String) :
    (exec (serve sha256) w rs).copies d ≤ max 1 (w.copies d) := by
  refine (exec_invariant_along
    (P := fun v => v.retention.deduplicate = true ∧ v.copies d ≤ max 1 (w.copies d)) ?_
    ⟨hdedup, le_max_right _ _⟩ hrun).2
  rintro v r ⟨hon, hle⟩ hkeeps
  refine ⟨deduplicate_serve hon hkeeps, (copies_serve_le r hon d).trans ?_⟩
  exact max_le (le_max_left _ _) hle

/-- **Deduplication never multiplies content.**  In every reachable workspace an accepted command
that finds and leaves deduplication on brings the copies of a digest to at most one or to at most
what they were.  Hence digests are distinct in every run from the empty workspace that never
switches it off; and from any later point at which it is on, as long as it stays on, the copies
never exceed one or the number at that point. -/
theorem deduplication_never_multiplies (sha256 : Bytes → Digest) :
    (∀ (w₀ : ClipboardWorkspace), Origin sha256 w₀ → ∀ (rs : List Request) (r : Request)
      (d : String),
      accepts sha256 (exec (serve sha256) w₀ rs) r = true →
      (exec (serve sha256) w₀ rs).retention.deduplicate = true →
      (serve sha256 (exec (serve sha256) w₀ rs) r).retention.deduplicate = true →
      (serve sha256 (exec (serve sha256) w₀ rs) r).copies d
        ≤ max 1 ((exec (serve sha256) w₀ rs).copies d)) ∧
    (∀ rs : List Request,
      Along (serve sha256) (fun w r => ¬ SwitchesOff sha256 w r) .default rs →
      (exec (serve sha256) .default rs).digests.Nodup) ∧
    (∀ (w₀ : ClipboardWorkspace), Origin sha256 w₀ → ∀ (before after : List Request) (d : String),
      (exec (serve sha256) w₀ before).retention.deduplicate = true →
      Along (serve sha256) (fun w r => ¬ SwitchesOff sha256 w r)
        (exec (serve sha256) w₀ before) after →
      (exec (serve sha256) w₀ (before ++ after)).copies d
        ≤ max 1 ((exec (serve sha256) w₀ before).copies d)) := by
  refine ⟨?_, ?_, ?_⟩
  · intro w₀ _ rs r d _ hdedup _
    exact copies_serve_le r hdedup d
  · intro rs hrun
    refine List.nodup_iff_count_le_one.mpr fun d => ?_
    exact copies_exec_le rfl hrun d
  · intro w₀ _ before after d hdedup hrun
    rw [exec_append]
    exact copies_exec_le hdedup hrun d

/-- Two copies from a period without deduplication stay two after it is back on and the text is
captured again. -/
theorem deduplication_never_multiplies_back_on :
    (exec (serve exampleSha256) .default
      ([⟨1, 0, .ResumeCapture, 0⟩, ⟨2, 1, .SetRetention ⟨5, 30, false⟩, 0⟩,
        ⟨3, 2, exampleIngest 1 "a" 0, 0⟩, ⟨4, 3, exampleIngest 2 "a" 0, 0⟩,
        ⟨5, 4, .SetRetention ⟨5, 30, true⟩, 0⟩]
        ++ [⟨6, 5, exampleIngest 3 "a" 0, 0⟩])).copies (contentSha256Hex exampleSha256 "a")
      ≤ max 1 2 :=
  (deduplication_never_multiplies exampleSha256).2.2 .default .default
    [⟨1, 0, .ResumeCapture, 0⟩, ⟨2, 1, .SetRetention ⟨5, 30, false⟩, 0⟩,
     ⟨3, 2, exampleIngest 1 "a" 0, 0⟩, ⟨4, 3, exampleIngest 2 "a" 0, 0⟩,
     ⟨5, 4, .SetRetention ⟨5, 30, true⟩, 0⟩]
    [⟨6, 5, exampleIngest 3 "a" 0, 0⟩] _ (by decide) (by decide)

end FtnlDesktop
