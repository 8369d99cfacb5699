import FtnlDesktop.Workspace.Enforcement
import FtnlDesktop.Workspace.Representation

/-!
# What an ingest leaves behind

An accepted `IngestText` puts one item in front — the first stored copy of the text if the policy
deduplicates and there is one, a new item otherwise — and cleans up after it.

The item in front survives its own clean-up.  It is within the age because the capture is, and it
is the first to be counted, so a policy would have to allow no item at all to lose it; the
representation invariant has `1 ≤ max_items`.  From then on it counts against the others.

* **`retained_front`** — the clean-up of a list with a fresh item in front.
* **`ingest_postcondition`** — the items after the command, position by position.
-/

namespace FtnlDesktop

open Machine

variable {sha256 : Bytes → Digest} {w : ClipboardWorkspace} {now : SystemTime}

/-- The capture is older than the policy allows. -/
def TooOld (policy : RetentionPolicy) (now capturedAt : SystemTime) : Prop :=
  capturedAt ≤ now ∧ (fromSecs (policy.maxAgeDays * 24 * 60 * 60) : ℤ) < now - capturedAt

instance (policy : RetentionPolicy) (now capturedAt : SystemTime) :
    Decidable (TooOld policy now capturedAt) :=
  inferInstanceAs (Decidable (_ ∧ _))

lemma kept_of_not_tooOld {policy : RetentionPolicy} {item : ClipboardItem}
    (hpolicy : policy.InBounds) (h : ¬ TooOld policy now item.capturedAt) :
    Kept policy now [] item := by
  refine Or.inr ⟨?_, hpolicy.one_le_items⟩
  rintro ⟨-, hold⟩
  exact h hold

/-- **The front survives**, and counts before all others. -/
theorem retained_front {policy : RetentionPolicy} {front : ClipboardItem}
    (hpolicy : policy.InBounds) (h : ¬ TooOld policy now front.capturedAt)
    (others : List ClipboardItem) :
    retained policy now (front :: others) = front :: keptAfter policy now [front] others := by
  rw [retained_eq_keptAfter, keptAfter_cons (kept_of_not_tooOld hpolicy h)]
  rfl

/-- The item that the ingest finds among the stored ones. -/
lemma duplicateIndex_eq_some_iff {contentSha256 : String} {index : ℕ} :
    duplicateIndex w contentSha256 = some index ↔ w.retention.deduplicate = true ∧
      (w.items.findIdx? fun item => item.contentSha256 = contentSha256) = some index := by
  rw [duplicateIndex]
  cases w.retention.deduplicate with
  | true => simp
  | false => simp

lemma duplicateIndex_eq_none_iff {contentSha256 : String} :
    duplicateIndex w contentSha256 = none ↔ ¬ (w.retention.deduplicate = true ∧
      ∃ item ∈ w.items, item.contentSha256 = contentSha256) := by
  rw [duplicateIndex]
  cases w.retention.deduplicate with
  | true => simp
  | false => simp

/-- What the ingest puts in front, and what was stored besides it. -/
inductive IngestFront (w : ClipboardWorkspace) (itemId : Uuid) (text contentSha256 : String)
    (byteSize : ℕ) (capturedAt : SystemTime) (sourceFingerprint : Option String) :
    ClipboardItem → List ClipboardItem → Prop
  /-- The first copy: its id, its text and its pin are kept. -/
  | moved {index : ℕ} (hlt : index < w.items.length)
      (hdedup : w.retention.deduplicate = true)
      (hfirst : (w.items.findIdx? fun item => item.contentSha256 = contentSha256) = some index) :
      IngestFront w itemId text contentSha256 byteSize capturedAt sourceFingerprint
        { w.items[index] with capturedAt, sourceFingerprint } (w.items.eraseIdx index)
  | inserted (hnew : ¬ (w.retention.deduplicate = true ∧
      ∃ item ∈ w.items, item.contentSha256 = contentSha256)) :
      IngestFront w itemId text contentSha256 byteSize capturedAt sourceFingerprint
        { itemId, text, contentSha256, byteSize, capturedAt, isPinned := false,
          sourceFingerprint } w.items

section

variable {itemId : Uuid} {text contentSha256 : String} {byteSize : ℕ} {capturedAt : SystemTime}
  {sourceFingerprint : Option String} {front : ClipboardItem} {others : List ClipboardItem}

lemma IngestFront.capturedAt_eq (h : IngestFront w itemId text contentSha256 byteSize capturedAt
    sourceFingerprint front others) : front.capturedAt = capturedAt := by
  cases h with
  | moved hlt hdedup hfirst => rfl
  | inserted hnew => rfl

lemma IngestFront.sourceFingerprint_eq (h : IngestFront w itemId text contentSha256 byteSize
    capturedAt sourceFingerprint front others) : front.sourceFingerprint = sourceFingerprint := by
  cases h with
  | moved hlt hdedup hfirst => rfl
  | inserted hnew => rfl

lemma IngestFront.contentSha256_eq (h : IngestFront w itemId text contentSha256 byteSize
    capturedAt sourceFingerprint front others) : front.contentSha256 = contentSha256 := by
  cases h with
  | moved hlt hdedup hfirst =>
      obtain ⟨_, hdigest, -⟩ := List.findIdx?_eq_some_iff_getElem.mp hfirst
      simpa using hdigest
  | inserted hnew => rfl

/-- The moved item is not among the others. -/
lemma IngestFront.length_lt (h : IngestFront w itemId text contentSha256 byteSize capturedAt
    sourceFingerprint front others) (hdedup : w.retention.deduplicate = true)
    (hstored : ∃ item ∈ w.items, item.contentSha256 = contentSha256) :
    others.length < w.items.length := by
  cases h with
  | moved hlt _ hfirst =>
      rw [List.length_eraseIdx_of_lt hlt]
      omega
  | inserted hnew => exact absurd ⟨hdedup, hstored⟩ hnew

/-- The effect of an ingest, by what it puts in front. -/
lemma Effect.exists_ingestFront {m : ClipboardWorkspace}
    (heffect : Effect sha256 w now
      (.IngestText itemId text contentSha256 byteSize capturedAt sourceFingerprint) m) :
    ∃ front others, IngestFront w itemId text contentSha256 byteSize capturedAt sourceFingerprint
        front others ∧ m.items = retained w.retention now (front :: others) := by
  cases heffect with
  | move hcheck hdup hlt =>
      obtain ⟨hdedup, hfirst⟩ := duplicateIndex_eq_some_iff.mp hdup
      exact ⟨_, _, .moved hlt hdedup hfirst, rfl⟩
  | insert hcheck hdup =>
      exact ⟨_, _, .inserted (duplicateIndex_eq_none_iff.mp hdup), rfl⟩

end

/-- **Ingest postcondition.**  In every reachable workspace an accepted ingest whose capture is
within the retention age puts in front the first stored copy of the text, if the policy
deduplicates and there is one, and a new unpinned item with the given id otherwise.  Behind it
stand the other old items that stay, unchanged and in their order.  Gone are the unpinned ones
that have expired, and those of the rest that `max_items` items precede, the front included. -/
theorem ingest_postcondition {w₀ : ClipboardWorkspace} (horigin : Origin sha256 w₀)
    (rs : List Request) (commandId : Uuid) (expectedRevision : ℕ) (itemId : Uuid)
    (text contentSha256 : String) (byteSize : ℕ) (capturedAt : SystemTime)
    (sourceFingerprint : Option String) (now : SystemTime)
    (haccept : accepts sha256 (exec (serve sha256) w₀ rs) ⟨commandId, expectedRevision,
      .IngestText itemId text contentSha256 byteSize capturedAt sourceFingerprint, now⟩ = true)
    (hage : ¬ TooOld (exec (serve sha256) w₀ rs).retention now capturedAt) :
    let w := exec (serve sha256) w₀ rs
    let w' := serve sha256 w ⟨commandId, expectedRevision,
      .IngestText itemId text contentSha256 byteSize capturedAt sourceFingerprint, now⟩
    ∃ front others,
      IngestFront w itemId text contentSha256 byteSize capturedAt sourceFingerprint
        front others ∧
      front.contentSha256 = contentSha256 ∧ front.capturedAt = capturedAt ∧
      front.sourceFingerprint = sourceFingerprint ∧
      (w.retention.deduplicate = true → (∃ item ∈ w.items, item.contentSha256 = contentSha256) →
        w'.items.length ≤ w.items.length) ∧
      w'.items = front :: keptAfter w.retention now [front] others ∧
      List.Sublist (keptAfter w.retention now [front] others) others ∧
      (keptAfter w.retention now [front] others
        ++ droppedAfter w.retention now [front] others).Perm others := by
  intro w w'
  have hwf : WellFormed sha256 w := wellFormed_of_reachable horigin rs
  rcases serve_cases sha256 w ⟨commandId, expectedRevision, .IngestText itemId text contentSha256
    byteSize capturedAt sourceFingerprint, now⟩ with ⟨hreject, -⟩ | ⟨-, -, -, -, m, heffect, heq⟩
  · exact absurd haccept (by simp [w, hreject])
  obtain ⟨front, others, hfront, hitems⟩ := heffect.exists_ingestFront
  have hfresh : ¬ TooOld w.retention now front.capturedAt := by rwa [hfront.capturedAt_eq]
  have hresult : w'.items = front :: keptAfter w.retention now [front] others :=
    (congrArg ClipboardWorkspace.items heq).trans
      (hitems.trans (retained_front hwf.retention hfresh others))
  refine ⟨front, others, hfront, hfront.contentSha256_eq, hfront.capturedAt_eq,
    hfront.sourceFingerprint_eq, ?_, hresult, keptAfter_sublist _ _, keptAfter_append_perm _ _⟩
  intro hdedup hstored
  have hshorter := hfront.length_lt hdedup hstored
  have hkept : (keptAfter w.retention now [front] others).length ≤ others.length :=
    (keptAfter_sublist _ _).length_le
  rw [hresult, List.length_cons]
  omega

/-- A pinned text is captured again while another one lies in front of it. -/
theorem ingest_postcondition_again :
    ∃ front others,
      (serve exampleSha256 (exec (serve exampleSha256) .default
          [⟨1, 0, .ResumeCapture, 0⟩, ⟨2, 1, exampleIngest 1 "a" 0, 0⟩, ⟨3, 2, .PinItem 1, 0⟩,
           ⟨4, 3, exampleIngest 2 "b" 1, 1⟩])
        ⟨5, 4, exampleIngest 3 "a" 2, 2⟩).items = front :: others ∧
      front.contentSha256 = contentSha256Hex exampleSha256 "a" ∧ front.capturedAt = 2 := by
  obtain ⟨front, others, -, hdigest, hcaptured, -, -, hitems, -⟩ :=
    ingest_postcondition (Origin.default : Origin exampleSha256 .default)
      [⟨1, 0, .ResumeCapture, 0⟩, ⟨2, 1, exampleIngest 1 "a" 0, 0⟩, ⟨3, 2, .PinItem 1, 0⟩,
       ⟨4, 3, exampleIngest 2 "b" 1, 1⟩]
      5 4 3 "a" (contentSha256Hex exampleSha256 "a") 1 2 none 2 (by decide) (by decide)
  exact ⟨front, _, hitems, hdigest, hcaptured⟩

end FtnlDesktop
