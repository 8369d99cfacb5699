import FtnlDesktop.Workspace.Model

/-!
# Retention

`enforce_retention` filters by age and then removes unpinned items from the back until their
number fits.  The loop is `Eviction.keepFirst` (`evictLoop_eq_keepFirst`), so the whole clean-up is

```
keepFirst unpinned maxItems (items.filter fresh)
```

and what later files need of it is read off that: its result is a sublist (`retained_sublist`),
pinned items all stay, as often as they are stored (`countP_retained_of_pinned`), the unpinned count
fits (`countP_retained_le`), nothing unpinned is over age (`fresh_of_mem_retained`), and applying
it again at the same time changes nothing (`retained_retained`).
-/

namespace FtnlDesktop

open Eviction

/-- The items that count towards `max_items`. -/
def isUnpinned (item : ClipboardItem) : Bool := !item.isPinned

/-- What `enforce_retention` leaves, without its loop. -/
def retained (policy : RetentionPolicy) (now : SystemTime) (items : List ClipboardItem) :
    List ClipboardItem :=
  keepFirst isUnpinned policy.maxItems (items.filter (isFresh policy.maxAge now))

/-- **The loop computes `keepFirst`**, and one round per item is enough fuel. -/
theorem evictLoop_eq_keepFirst (maxItems : ℕ) :
    ∀ (fuel : ℕ) (items : List ClipboardItem), items.length ≤ fuel →
      evictLoop maxItems fuel items = keepFirst isUnpinned maxItems items := by
  intro fuel
  induction fuel with
  | zero =>
      intro items hfuel
      have hnil : items = [] := List.length_eq_zero_iff.mp (by omega)
      simp [hnil, evictLoop, keepFirst]
  | succ fuel ih =>
      intro items hfuel
      have hcount : (items.filter fun item => !item.isPinned).length = items.countP isUnpinned :=
        List.countP_eq_length_filter.symm
      rw [evictLoop, hcount]
      split_ifs with hover
      · obtain ⟨index, hindex⟩ := exists_rposition (p := isUnpinned) (l := items) (by omega)
        have hlt := rposition_lt_length hindex
        have hlen : (items.eraseIdx index).length ≤ fuel := by
          rw [List.length_eraseIdx_of_lt hlt]
          omega
        have hlast : rposition (fun item => !item.isPinned) items = some index := hindex
        simp only [hlast]
        exact (ih _ hlen).trans (keepFirst_eraseIdx hindex (by omega))
      · exact (keepFirst_of_countP_le (by omega)).symm

/-- `enforce_retention` rewrites the items and nothing else. -/
theorem enforceRetention_eq (now : SystemTime) (workspace : ClipboardWorkspace) :
    enforceRetention now workspace
      = { workspace with items := retained workspace.retention now workspace.items } := by
  rw [enforceRetention, evictLoop_eq_keepFirst _ _ _ le_rfl]
  rfl

section

variable {policy : RetentionPolicy} {now : SystemTime} {items : List ClipboardItem}
  {item : ClipboardItem}

lemma retained_sublist : List.Sublist (retained policy now items) items :=
  (keepFirst_sublist _ _).trans List.filter_sublist

lemma mem_of_mem_retained (h : item ∈ retained policy now items) : item ∈ items :=
  retained_sublist.subset h

/-- Pinned items are exempt from both stages. -/
lemma countP_retained_of_pinned {q : ClipboardItem → Bool}
    (hq : ∀ item, q item = true → item.isPinned = true) :
    (retained policy now items).countP q = items.countP q := by
  rw [retained, countP_keepFirst_of_exempt, List.countP_filter]
  · refine List.countP_congr fun item _ => ?_
    simp only [Bool.and_eq_true, and_iff_left_iff_imp]
    intro hitem
    simp [isFresh, hq item hitem]
  · intro item hitem
    simp [isUnpinned, hq item hitem]

lemma countP_retained_le : (retained policy now items).countP isUnpinned ≤ policy.maxItems := by
  rw [retained, countP_keepFirst]
  exact min_le_left _ _

lemma fresh_of_mem_retained (h : item ∈ retained policy now items) :
    isFresh policy.maxAge now item = true :=
  (List.mem_filter.mp ((keepFirst_sublist _ _).subset h)).2

lemma retained_eq_self (hfresh : ∀ item ∈ items, isFresh policy.maxAge now item = true)
    (hcount : items.countP isUnpinned ≤ policy.maxItems) : retained policy now items = items := by
  rw [retained, List.filter_eq_self.mpr hfresh, keepFirst_of_countP_le hcount]

lemma retained_retained :
    retained policy now (retained policy now items) = retained policy now items :=
  retained_eq_self (fun _ h => fresh_of_mem_retained h) countP_retained_le

end

/-- What is captured now, or later, is fresh. -/
lemma isFresh_of_le {maxAge : Duration} {now : SystemTime} {item : ClipboardItem}
    (h : now ≤ item.capturedAt) : isFresh maxAge now item = true := by
  have hage : (now - item.capturedAt).toNat = 0 := Int.toNat_of_nonpos (sub_nonpos.mpr h)
  rw [isFresh, durationSince, hage]
  split_ifs with hpast
  · simp
  · simp

/-- An unpinned item is over age when it was not captured in the future and more than the maximal
age lies between its capture and now. -/
def Expired (policy : RetentionPolicy) (now : SystemTime) (item : ClipboardItem) : Prop :=
  item.isPinned = false ∧ item.capturedAt ≤ now
    ∧ (fromSecs (policy.maxAgeDays * 24 * 60 * 60) : ℤ) < now - item.capturedAt

instance (policy : RetentionPolicy) (now : SystemTime) (item : ClipboardItem) :
    Decidable (Expired policy now item) :=
  inferInstanceAs (Decidable (_ ∧ _ ∧ _))

/-- The age filter removes exactly the expired items. -/
lemma isFresh_eq_false_iff {policy : RetentionPolicy} {now : SystemTime} {item : ClipboardItem} :
    isFresh policy.maxAge now item = false ↔ Expired policy now item := by
  rcases le_or_gt item.capturedAt now with hpast | hfuture
  · have hage : ((now - item.capturedAt).toNat : ℤ) = now - item.capturedAt :=
      Int.toNat_of_nonneg (sub_nonneg.mpr hpast)
    simp only [isFresh, durationSince, hpast, if_true, Option.all_some, Bool.or_eq_false_iff,
      decide_eq_false_iff_not, not_le, Expired, true_and]
    refine and_congr_right fun _ => ?_
    rw [← hage, RetentionPolicy.maxAge]
    exact Nat.cast_lt.symm
  · have hnot : ¬ item.capturedAt ≤ now := not_le.mpr hfuture
    simp [isFresh, durationSince, Expired, hnot]

end FtnlDesktop
