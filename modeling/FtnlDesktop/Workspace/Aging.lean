import FtnlDesktop.Core.Run
import FtnlDesktop.Workspace.Effect

/-!
# When age retention is enforced

Items age between commands, and only some commands look at the clock: unpinning, ingesting and
setting the policy call `enforce_retention`, and clearing removes every unpinned item.  Pausing,
resuming, searching, pinning, deleting and excluding sources leave over-age items where they are
(`expired_item_survives_pause`).

What holds of every run is therefore stated relative to the last command that cleaned up:
**`not_expired_at_lastCleanup`**.
-/

namespace FtnlDesktop

open Machine

variable (sha256 : Bytes → Digest)

/-- The commands after which nothing unpinned is over age. -/
def WorkspaceAction.cleansUp : WorkspaceAction → Bool
  | .UnpinItem _ => true
  | .ClearUnpinned => true
  | .SetRetention _ => true
  | .IngestText _ _ _ _ _ _ => true
  | _ => false

/-- The time of the last accepted command of a run that cleaned up; `cleaned` is the one before
the run. -/
def lastCleanup (cleaned : Option SystemTime) :
    ClipboardWorkspace → List Request → Option SystemTime
  | _, [] => cleaned
  | w, r :: rs =>
      lastCleanup (if accepts sha256 w r && r.action.cleansUp then some r.now else cleaned)
        (serve sha256 w r) rs

variable {sha256} {w : ClipboardWorkspace} {now : SystemTime} {action : WorkspaceAction}
  {m : ClipboardWorkspace}

lemma not_expired_of_mem_retained {policy : RetentionPolicy} {items : List ClipboardItem}
    {item : ClipboardItem} (h : item ∈ retained policy now items) : ¬ Expired policy now item := by
  rw [← isFresh_eq_false_iff, fresh_of_mem_retained h]
  exact Bool.true_eq_false_eq_False

/-- A pinned item is never over age. -/
lemma not_expired_of_pinned {policy : RetentionPolicy} {item : ClipboardItem}
    (h : item.isPinned = true) : ¬ Expired policy now item := by
  rintro ⟨hpin, -⟩
  simp [h] at hpin

/-- What a cleaning command leaves is within its age. -/
lemma Effect.not_expired (heffect : Effect sha256 w now action m) (h : action.cleansUp = true) :
    ∀ item ∈ m.items, ¬ Expired m.retention now item := by
  intro item hitem
  cases heffect with
  | unpin hfind => exact not_expired_of_mem_retained hitem
  | clear => exact not_expired_of_pinned (List.of_mem_filter hitem)
  | setRetention hpolicy => exact not_expired_of_mem_retained hitem
  | move hcheck hdup hlt => exact not_expired_of_mem_retained hitem
  | insert hcheck hdup => exact not_expired_of_mem_retained hitem
  | _ => exact absurd h Bool.false_ne_true

/-- The other commands keep the policy and make nothing unpinned that was not there before. -/
lemma Effect.unpinned_subset (heffect : Effect sha256 w now action m)
    (h : action.cleansUp = false) :
    m.retention = w.retention ∧ ∀ item ∈ m.items, item.isPinned = false → item ∈ w.items := by
  cases heffect with
  | pause => exact ⟨rfl, fun _ hitem _ => hitem⟩
  | resume => exact ⟨rfl, fun _ hitem _ => hitem⟩
  | search hlen => exact ⟨rfl, fun _ hitem _ => hitem⟩
  | pin hfind =>
      refine ⟨rfl, fun item hitem hunpinned => ?_⟩
      rcases mem_modify hitem with hold | ⟨old, -, rfl⟩
      · exact hold
      · simp at hunpinned
  | delete hmem => exact ⟨rfl, fun _ hitem _ => List.mem_of_mem_filter hitem⟩
  | setExclusions hlen hwf => exact ⟨rfl, fun _ hitem _ => hitem⟩
  | _ => exact absurd h.symm Bool.false_ne_true

/-- **One accepted request**, of either kind. -/
theorem expired_serve (r : Request) (haccept : accepts sha256 w r = true) :
    if r.action.cleansUp then
      ∀ item ∈ (serve sha256 w r).items, ¬ Expired (serve sha256 w r).retention r.now item
    else
      (serve sha256 w r).retention = w.retention ∧
        ∀ item ∈ (serve sha256 w r).items, item.isPinned = false → item ∈ w.items := by
  rcases serve_cases sha256 w r with ⟨hreject, -⟩ | ⟨-, -, -, -, m, heffect, heq⟩
  · simp [hreject] at haccept
  · rw [heq]
    split_ifs with hclean
    · exact heffect.not_expired hclean
    · exact heffect.unpinned_subset (Bool.eq_false_iff.mpr hclean)

/-- Every item is within its age at the time of the last clean-up, along every run from a
workspace for which that is so. -/
lemma not_expired_exec {cleaned : Option SystemTime}
    (h : ∀ t ∈ cleaned, ∀ item ∈ w.items, ¬ Expired w.retention t item) (rs : List Request) :
    ∀ t ∈ lastCleanup sha256 cleaned w rs, ∀ item ∈ (exec (serve sha256) w rs).items,
      ¬ Expired (exec (serve sha256) w rs).retention t item := by
  induction rs generalizing w cleaned with
  | nil => exact h
  | cons r rs ih =>
      refine ih ?_
      cases haccept : accepts sha256 w r with
      | false =>
          rw [serve_of_not_accepts sha256 haccept]
          exact h
      | true =>
          have hstep := expired_serve r haccept
          cases hclean : r.action.cleansUp with
          | true =>
              simp only [hclean, if_true] at hstep
              rintro t ht
              obtain rfl : r.now = t := by simpa using ht
              exact hstep
          | false =>
              simp only [hclean, Bool.false_eq_true, if_false] at hstep
              intro t ht item hitem hexpired
              rw [hstep.1] at hexpired
              exact h t (by simpa using ht) item (hstep.2 item hitem hexpired.1) hexpired

lemma mem_of_mem_visibleItems {toLowercase : String → String} {item : ClipboardItem}
    (h : item ∈ visibleItems toLowercase w) : item ∈ w.items := by
  rcases List.mem_append.mp h with h | h
  · exact List.mem_of_mem_filter (List.mem_of_mem_filter h)
  · exact List.mem_of_mem_filter (List.mem_of_mem_filter h)

/-- **Age retention.**  An accepted cleaning command leaves nothing unpinned over age; any other
accepted command keeps the policy and brings in nothing unpinned.  Hence in every run from the
empty workspace no item, and nothing the window shows, was over age when the last cleaning command
ran. -/
theorem not_expired_at_lastCleanup (sha256 : Bytes → Digest) :
    (∀ (w : ClipboardWorkspace) (r : Request), accepts sha256 w r = true →
      if r.action.cleansUp then
        ∀ item ∈ (serve sha256 w r).items, ¬ Expired (serve sha256 w r).retention r.now item
      else
        (serve sha256 w r).retention = w.retention ∧
          ∀ item ∈ (serve sha256 w r).items, item.isPinned = false → item ∈ w.items) ∧
    (∀ (rs : List Request), ∀ t ∈ lastCleanup sha256 none .default rs,
      ∀ item ∈ (exec (serve sha256) .default rs).items,
        ¬ Expired (exec (serve sha256) .default rs).retention t item) ∧
    (∀ (rs : List Request) (toLowercase : String → String),
      ∀ t ∈ lastCleanup sha256 none .default rs,
      ∀ item ∈ visibleItems toLowercase (exec (serve sha256) .default rs),
        ¬ Expired (exec (serve sha256) .default rs).retention t item) := by
  have hrun : ∀ (rs : List Request), ∀ t ∈ lastCleanup sha256 none .default rs,
      ∀ item ∈ (exec (serve sha256) .default rs).items,
        ¬ Expired (exec (serve sha256) .default rs).retention t item :=
    fun rs => not_expired_exec (fun _ ht => by simp at ht) rs
  refine ⟨fun w r haccept => expired_serve r haccept, hrun, ?_⟩
  intro rs toLowercase t ht item hitem
  exact hrun rs t ht item (mem_of_mem_visibleItems hitem)

/-- A text ingested on day 1 is within its age as of that day, also after a later pause. -/
theorem not_expired_at_lastCleanup_pause :
    ∀ item ∈ (exec (serve exampleSha256) .default
        [⟨1, 0, .ResumeCapture, fromSecs (24 * 60 * 60)⟩,
         ⟨2, 1, exampleIngest 1 "a" (fromSecs (24 * 60 * 60)), fromSecs (24 * 60 * 60)⟩,
         ⟨3, 2, .PauseCapture, fromSecs (400 * 24 * 60 * 60)⟩]).items,
      ¬ Expired RetentionPolicy.default (fromSecs (24 * 60 * 60)) item :=
  (not_expired_at_lastCleanup exampleSha256).2.1
    [⟨1, 0, .ResumeCapture, fromSecs (24 * 60 * 60)⟩,
     ⟨2, 1, exampleIngest 1 "a" (fromSecs (24 * 60 * 60)), fromSecs (24 * 60 * 60)⟩,
     ⟨3, 2, .PauseCapture, fromSecs (400 * 24 * 60 * 60)⟩]
    (fromSecs (24 * 60 * 60)) (by decide)

/-- **Pausing does not clean up.**  A text captured on day 1 is still stored, and still shown, right
after an accepted pause on day 400, although the policy allows 30 days. -/
theorem expired_item_survives_pause :
    accepts exampleSha256
      (exec (serve exampleSha256) .default
        [⟨1, 0, .ResumeCapture, fromSecs (24 * 60 * 60)⟩,
         ⟨2, 1, exampleIngest 1 "a" (fromSecs (24 * 60 * 60)), fromSecs (24 * 60 * 60)⟩])
      ⟨3, 2, .PauseCapture, fromSecs (400 * 24 * 60 * 60)⟩ = true ∧
    ∃ item ∈ visibleItems id (exec (serve exampleSha256) .default
        [⟨1, 0, .ResumeCapture, fromSecs (24 * 60 * 60)⟩,
         ⟨2, 1, exampleIngest 1 "a" (fromSecs (24 * 60 * 60)), fromSecs (24 * 60 * 60)⟩,
         ⟨3, 2, .PauseCapture, fromSecs (400 * 24 * 60 * 60)⟩]),
      Expired RetentionPolicy.default (fromSecs (400 * 24 * 60 * 60)) item := by
  decide

end FtnlDesktop
