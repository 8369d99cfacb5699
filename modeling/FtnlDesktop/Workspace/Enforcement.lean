import FtnlDesktop.Workspace.Retention

/-!
# `enforce_retention` and its specification

The loop recounts the unpinned items in every round and removes the last of them by its position.
Nothing of that is left in the specification, which says for each item whether it stays: a pinned
item always, an unpinned one if it is within the age and fewer than `max_items` such items come
before it (`Kept`).

* **`retained_eq_keepWith`** — the result, position by position.
* **`wellFounded_evictRound`** — the unpinned count falls in every round, so the loop ends.
* **`not_breaks`** — while the condition of the loop holds there is an unpinned item, so the
  `else` branch that would leave the loop by `break` is dead.
* **`enforceRetention_spec`** — all of it, for any workspace.
-/

namespace FtnlDesktop

open Eviction

/-! ## The specification -/

/-- The item counts towards `max_items` once the expired ones are gone. -/
def Counted (policy : RetentionPolicy) (now : SystemTime) (item : ClipboardItem) : Prop :=
  item.isPinned = false ∧ ¬ Expired policy now item

instance (policy : RetentionPolicy) (now : SystemTime) (item : ClipboardItem) :
    Decidable (Counted policy now item) :=
  inferInstanceAs (Decidable (_ ∧ _))

/-- Whether the item stays, given the items before it. -/
def Kept (policy : RetentionPolicy) (now : SystemTime) (before : List ClipboardItem)
    (item : ClipboardItem) : Prop :=
  item.isPinned = true ∨
    (¬ Expired policy now item ∧
      before.countP (fun earlier => Counted policy now earlier) < policy.maxItems)

instance (policy : RetentionPolicy) (now : SystemTime) (before : List ClipboardItem)
    (item : ClipboardItem) : Decidable (Kept policy now before item) :=
  inferInstanceAs (Decidable (_ ∨ _))

/-- Whether the item goes: it has expired, or `max_items` others that count come before it. -/
def Dropped (policy : RetentionPolicy) (now : SystemTime) (before : List ClipboardItem)
    (item : ClipboardItem) : Prop :=
  item.isPinned = false ∧
    (Expired policy now item ∨
      policy.maxItems ≤ before.countP (fun earlier => Counted policy now earlier))

instance (policy : RetentionPolicy) (now : SystemTime) (before : List ClipboardItem)
    (item : ClipboardItem) : Decidable (Dropped policy now before item) :=
  inferInstanceAs (Decidable (_ ∧ (_ ∨ _)))

/-- The items that stay of a list that comes after `before`. -/
def keptAfter (policy : RetentionPolicy) (now : SystemTime) (before items : List ClipboardItem) :
    List ClipboardItem :=
  keepWith (fun earlier item => Kept policy now (before ++ earlier) item) items

/-- The items that go. -/
def droppedAfter (policy : RetentionPolicy) (now : SystemTime)
    (before items : List ClipboardItem) : List ClipboardItem :=
  keepWith (fun earlier item => Dropped policy now (before ++ earlier) item) items

section

variable {policy : RetentionPolicy} {now : SystemTime}

lemma isFresh_iff {item : ClipboardItem} :
    isFresh policy.maxAge now item = true ↔ ¬ Expired policy now item := by
  rw [← isFresh_eq_false_iff, Bool.not_eq_false]

lemma counted_iff {item : ClipboardItem} :
    Counted policy now item ↔ (isUnpinned item && isFresh policy.maxAge now item) = true := by
  rw [Bool.and_eq_true, isFresh_iff, isUnpinned, Bool.not_eq_true', Counted]

lemma countP_counted (items : List ClipboardItem) :
    items.countP (fun item => Counted policy now item)
      = items.countP fun item => isUnpinned item && isFresh policy.maxAge now item :=
  List.countP_congr fun item _ => by rw [decide_eq_true_iff, counted_iff]

lemma kept_iff {before : List ClipboardItem} {item : ClipboardItem} :
    Kept policy now before item ↔ (!isUnpinned item || (isFresh policy.maxAge now item &&
      decide (before.countP (fun a => isUnpinned a && isFresh policy.maxAge now a)
        < policy.maxItems))) = true := by
  rw [Bool.or_eq_true, Bool.and_eq_true, isFresh_iff, decide_eq_true_iff, ← countP_counted, Kept,
    isUnpinned, Bool.not_not]

/-- **Position by position**, for the end of a list as well. -/
theorem keepFirst_eq_keptAfter (before items : List ClipboardItem) :
    keepFirst isUnpinned (policy.maxItems - before.countP fun item => Counted policy now item)
        (items.filter (isFresh policy.maxAge now))
      = keptAfter policy now before items := by
  have hexempt : ∀ item, isUnpinned item = false → isFresh policy.maxAge now item = true := by
    intro item hitem
    have hpin : item.isPinned = true := by simpa [isUnpinned] using hitem
    simp [isFresh, hpin]
  rw [countP_counted, keepFirst_filter_eq_keepWith hexempt, keptAfter]
  congr 1
  funext earlier item
  rw [Bool.eq_iff_iff, decide_eq_true_iff, kept_iff]

lemma not_kept_iff {before : List ClipboardItem} {item : ClipboardItem} :
    ¬ Kept policy now before item ↔ Dropped policy now before item := by
  rw [Kept, Dropped, not_or, not_and_or, not_not, not_lt, Bool.not_eq_true]

/-- An item either stays or goes. -/
lemma keptAfter_append_perm (before items : List ClipboardItem) :
    (keptAfter policy now before items ++ droppedAfter policy now before items).Perm items := by
  have hdropped : droppedAfter policy now before items = keepWith
      (fun earlier item => !decide (Kept policy now (before ++ earlier) item)) items := by
    rw [droppedAfter]
    congr 1
    funext earlier item
    rw [← decide_not, decide_eq_decide]
    exact not_kept_iff.symm
  rw [hdropped]
  exact keepWith_append_perm _ _

lemma keptAfter_sublist (before items : List ClipboardItem) :
    List.Sublist (keptAfter policy now before items) items :=
  keepWith_sublist _ _

/-- A kept head stays in front of what is kept of the rest. -/
lemma keptAfter_cons {before : List ClipboardItem} {item : ClipboardItem}
    (h : Kept policy now before item) (items : List ClipboardItem) :
    keptAfter policy now before (item :: items)
      = item :: keptAfter policy now (before ++ [item]) items := by
  rw [keptAfter, keepWith_cons, List.append_nil, decide_eq_true h, keptAfter]
  simp only [List.append_assoc, List.singleton_append, if_true]

theorem retained_eq_keptAfter (items : List ClipboardItem) :
    retained policy now items = keptAfter policy now [] items :=
  keepFirst_eq_keptAfter [] items

end

/-! ## The loop -/

/-- The condition of the `while`. -/
def Overfull (maxItems : ℕ) (items : List ClipboardItem) : Prop :=
  items.countP isUnpinned > maxItems

/-- One round of the loop: the last unpinned item is removed. -/
inductive EvictRound (maxItems : ℕ) : List ClipboardItem → List ClipboardItem → Prop
  | remove {items : List ClipboardItem} {index : ℕ} (hover : Overfull maxItems items)
      (hlast : rposition isUnpinned items = some index) :
      EvictRound maxItems items (items.eraseIdx index)

/-- The loop goes on, and there is no unpinned item to remove: the round that would `break`. -/
def Breaks (maxItems : ℕ) (items : List ClipboardItem) : Prop :=
  Overfull maxItems items ∧ rposition isUnpinned items = none

section

variable {maxItems : ℕ} {items items' : List ClipboardItem}

/-- A count above the bound is positive, so something can be removed. -/
lemma not_breaks (maxItems : ℕ) (items : List ClipboardItem) : ¬ Breaks maxItems items := by
  rintro ⟨hover, hnone⟩
  rw [Overfull, rposition_eq_none.mp hnone] at hover
  omega

lemma EvictRound.countP_lt (h : EvictRound maxItems items items') :
    items'.countP isUnpinned < items.countP isUnpinned := by
  cases h with
  | remove _ hlast =>
      have := countP_eraseIdx_rposition hlast
      omega

/-- **The loop ends**: no sequence of rounds is infinite. -/
theorem wellFounded_evictRound (maxItems : ℕ) :
    WellFounded fun items' items => EvictRound maxItems items items' :=
  Subrelation.wf (fun h => h.countP_lt) (measure (List.countP isUnpinned)).wf

/-- With enough fuel `evictLoop` makes rounds until the condition of the loop fails. -/
lemma evictLoop_rounds (maxItems : ℕ) (items : List ClipboardItem) {fuel : ℕ}
    (h : items.length ≤ fuel) :
    Relation.ReflTransGen (EvictRound maxItems) items (evictLoop maxItems fuel items) ∧
      ¬ Overfull maxItems (evictLoop maxItems fuel items) := by
  induction fuel generalizing items with
  | zero =>
      obtain rfl : items = [] := List.length_eq_zero_iff.mp (by omega)
      exact ⟨.refl, by simp [Overfull, evictLoop]⟩
  | succ fuel ih =>
      have hcount : (items.filter fun item => !item.isPinned).length = items.countP isUnpinned :=
        List.countP_eq_length_filter.symm
      rw [evictLoop, hcount]
      split_ifs with hover
      · obtain ⟨index, hlast⟩ := exists_rposition (p := isUnpinned) (l := items) (by omega)
        have hlen : (items.eraseIdx index).length ≤ fuel := by
          rw [List.length_eraseIdx_of_lt (rposition_lt_length hlast)]
          omega
        have hmatch : rposition (fun item => !item.isPinned) items = some index := hlast
        simp only [hmatch]
        exact ⟨.head (.remove hover hlast) (ih _ hlen).1, (ih _ hlen).2⟩
      · exact ⟨.refl, hover⟩

end

/-- **`enforce_retention` equals its specification**, for every list, policy and time.  No sequence
of rounds is infinite; the loop makes rounds until its condition fails, and none of them reaches
the `break`; what is left of the items are those that `Kept` describes, in their order, and
nothing else of the workspace has changed; and a second clean-up at the same time does nothing. -/
theorem enforceRetention_spec (now : SystemTime) (workspace : ClipboardWorkspace) :
    WellFounded
      (fun items' items => EvictRound workspace.retention.maxItems items items') ∧
    Relation.ReflTransGen (EvictRound workspace.retention.maxItems)
      (workspace.items.filter (isFresh workspace.retention.maxAge now))
      (enforceRetention now workspace).items ∧
    ¬ Overfull workspace.retention.maxItems (enforceRetention now workspace).items ∧
    (∀ items, Relation.ReflTransGen (EvictRound workspace.retention.maxItems)
        (workspace.items.filter (isFresh workspace.retention.maxAge now)) items →
      ¬ Breaks workspace.retention.maxItems items) ∧
    enforceRetention now workspace = { workspace with
      items := keepWith (fun before item => Kept workspace.retention now before item)
        workspace.items } ∧
    List.Sublist (enforceRetention now workspace).items workspace.items ∧
    enforceRetention now (enforceRetention now workspace) = enforceRetention now workspace := by
  have hrounds := evictLoop_rounds workspace.retention.maxItems
    (workspace.items.filter (isFresh workspace.retention.maxAge now)) le_rfl
  refine ⟨wellFounded_evictRound _, hrounds.1, hrounds.2, fun items _ => not_breaks _ items,
    ?_, ?_, ?_⟩
  · rw [enforceRetention_eq, retained_eq_keptAfter]
    rfl
  · rw [enforceRetention_eq]
    exact retained_sublist
  · simp only [enforceRetention_eq, retained_retained]

end FtnlDesktop
