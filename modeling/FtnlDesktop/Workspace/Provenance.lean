import FtnlDesktop.Workspace.Effect
import FtnlDesktop.Core.Run

/-!
# Capture gate and provenance

Nothing enters the history, and nothing in it is refreshed, except through an accepted
`IngestText` that found capture active and its source not excluded.  A deduplicating ingest mixes
two captures: the stored item keeps its text and digest and takes the capture time and the source
of the new one.  So an item has two witnesses in its run, the ingest that brought its text and the
ingest, that one or a later one, that brought its metadata; their digests agree.

* **`Effect.mem_items`** — what one effect can have done to an entry of its result.
* **`items_provenance`** — both witnesses, for every item of every reachable workspace, and that a
  step at which no such ingest is accepted adds and refreshes nothing.
-/

namespace FtnlDesktop

open Machine

variable {sha256 : Bytes → Digest} {w m : ClipboardWorkspace} {now : SystemTime}
  {rs : List Request} {item : ClipboardItem}

/-- What an item has from its captures: everything but its id, its size and its pin. -/
structure ClipboardItem.SameCapture (item other : ClipboardItem) : Prop where
  text : other.text = item.text
  contentSha256 : other.contentSha256 = item.contentSha256
  capturedAt : other.capturedAt = item.capturedAt
  sourceFingerprint : other.sourceFingerprint = item.sourceFingerprint

/-- Step `n` of the run from the empty workspace is an accepted ingest with these values, and the
workspace it met was capturing and did not exclude its source. -/
structure IngestedAt (sha256 : Bytes → Digest) (rs : List Request) (n : ℕ)
    (text contentSha256 : String) (capturedAt : SystemTime) (sourceFingerprint : Option String) :
    Prop where
  accepted : ∃ r, rs[n]? = some r ∧ accepts sha256 (stateAt (serve sha256) .default rs n) r = true ∧
    ∃ itemId byteSize, r.action =
      .IngestText itemId text contentSha256 byteSize capturedAt sourceFingerprint
  active : (stateAt (serve sha256) .default rs n).captureState = .Active
  allowed : ∀ value ∈ sourceFingerprint,
    value ∉ (stateAt (serve sha256) .default rs n).excludedSourceFingerprints

/-- The two witnesses of an item among the first `n` steps: the ingest of its text and the ingest of
its capture time and source. -/
def HasProvenance (sha256 : Bytes → Digest) (rs : List Request) (n : ℕ) (item : ClipboardItem) :
    Prop :=
  ∃ i j, i ≤ j ∧ j < n ∧
    (∃ capturedAt sourceFingerprint,
      IngestedAt sha256 rs i item.text item.contentSha256 capturedAt sourceFingerprint) ∧
    ∃ text, IngestedAt sha256 rs j text item.contentSha256 item.capturedAt item.sourceFingerprint

/-! ## One effect -/

lemma sameCapture_pin (item : ClipboardItem) (pin : Bool) :
    { item with isPinned := pin }.SameCapture item := ⟨rfl, rfl, rfl, rfl⟩

/-- Pinning and unpinning change no capture. -/
lemma sameCapture_of_mem_modify {items : List ClipboardItem} {index : ℕ} {pin : Bool}
    (h : item ∈ items.modify index fun item => { item with isPinned := pin }) :
    ∃ old ∈ items, item.SameCapture old := by
  rcases mem_modify h with hmem | ⟨old, hmem, rfl⟩
  · exact ⟨item, hmem, rfl, rfl, rfl, rfl⟩
  · exact ⟨old, hmem, sameCapture_pin old pin⟩

/-- **An entry after an effect** has the captures of an entry before it, or the effect is an ingest
that passed the checks of `ingest_text` and gave it its capture time and source; its text is then
the ingested one or that of a stored entry with the same digest. -/
theorem Effect.mem_items {action : WorkspaceAction} (heffect : Effect sha256 w now action m)
    (hmem : item ∈ m.items) :
    (∃ old ∈ w.items, item.SameCapture old) ∨
    ∃ itemId text byteSize,
      action = .IngestText itemId text item.contentSha256 byteSize item.capturedAt
        item.sourceFingerprint ∧
      Ingestible sha256 w text item.contentSha256 byteSize item.sourceFingerprint ∧
      (item.text = text ∨
        ∃ old ∈ w.items, old.text = item.text ∧ old.contentSha256 = item.contentSha256) := by
  have hself : ∀ {items : List ClipboardItem}, item ∈ items → ∃ old ∈ items, item.SameCapture old :=
    fun h => ⟨item, h, rfl, rfl, rfl, rfl⟩
  cases heffect with
  | pause => exact Or.inl (hself hmem)
  | resume => exact Or.inl (hself hmem)
  | search hlen => exact Or.inl (hself hmem)
  | pin hfind => exact Or.inl (sameCapture_of_mem_modify hmem)
  | unpin hfind => exact Or.inl (sameCapture_of_mem_modify (mem_of_mem_retained hmem))
  | delete hfind => exact Or.inl (hself (List.mem_of_mem_filter hmem))
  | clear => exact Or.inl (hself (List.mem_of_mem_filter hmem))
  | setRetention hpolicy => exact Or.inl (hself (mem_of_mem_retained hmem))
  | setExclusions hlen hwf => exact Or.inl (hself hmem)
  | @move itemId text contentSha256 byteSize capturedAt sourceFingerprint index hcheck hdup hlt =>
      rcases List.mem_cons.mp (mem_of_mem_retained hmem) with rfl | hold
      · -- the moved entry: old text and digest, new capture time and source
        obtain ⟨-, _, hdigest⟩ := duplicateIndex_eq_some hdup
        refine Or.inr ⟨itemId, text, byteSize, ?_, ?_, Or.inr ⟨_, List.getElem_mem hlt, rfl, rfl⟩⟩
        · simp only [hdigest]
        · simpa only [hdigest] using hcheck
      · exact Or.inl (hself (List.mem_of_mem_eraseIdx hold))
  | @insert itemId text contentSha256 byteSize capturedAt sourceFingerprint hcheck hdup =>
      rcases List.mem_cons.mp (mem_of_mem_retained hmem) with rfl | hold
      · exact Or.inr ⟨itemId, text, byteSize, rfl, hcheck, Or.inl rfl⟩
      · exact Or.inl (hself hold)

/-! ## One step -/

/-- An entry after step `n` has the captures of an entry before it, or step `n` is an accepted
ingest that gave it its capture time and source. -/
lemma mem_items_stateAt_succ {n : ℕ} (hn : n < rs.length)
    (hmem : item ∈ (stateAt (serve sha256) .default rs (n + 1)).items) :
    (∃ old ∈ (stateAt (serve sha256) .default rs n).items, item.SameCapture old) ∨
    ∃ text, IngestedAt sha256 rs n text item.contentSha256 item.capturedAt item.sourceFingerprint ∧
      (item.text = text ∨ ∃ old ∈ (stateAt (serve sha256) .default rs n).items,
        old.text = item.text ∧ old.contentSha256 = item.contentSha256) := by
  rw [stateAt_succ _ _ hn] at hmem
  rcases serve_cases sha256 (stateAt (serve sha256) .default rs n) rs[n] with
    ⟨-, heq⟩ | ⟨haccept, -, -, -, m, heffect, heq⟩
  · rw [heq] at hmem
    exact Or.inl ⟨item, hmem, rfl, rfl, rfl, rfl⟩
  · rw [heq] at hmem
    rcases heffect.mem_items hmem with hold | ⟨itemId, text, byteSize, haction, hcheck, htext⟩
    · exact Or.inl hold
    · refine Or.inr ⟨text, ⟨?_, hcheck.active, hcheck.allowed⟩, htext⟩
      exact ⟨rs[n], List.getElem?_eq_getElem hn, haccept, itemId, byteSize, haction⟩

lemma HasProvenance.mono {n n' : ℕ} (h : HasProvenance sha256 rs n item) (hn : n ≤ n') :
    HasProvenance sha256 rs n' item := by
  obtain ⟨i, j, hij, hj, htext, hmeta⟩ := h
  exact ⟨i, j, hij, hj.trans_le hn, htext, hmeta⟩

lemma HasProvenance.of_sameCapture {n : ℕ} {old : ClipboardItem}
    (h : HasProvenance sha256 rs n old) (hsame : item.SameCapture old) :
    HasProvenance sha256 rs n item := by
  obtain ⟨htext, hdigest, htime, hsource⟩ := hsame
  rw [HasProvenance, htext, hdigest, htime, hsource] at h
  exact h

/-! ## Every run -/

/-- The induction over the points of a run. -/
lemma hasProvenance_stateAt {n : ℕ} (hn : n ≤ rs.length)
    (hmem : item ∈ (stateAt (serve sha256) .default rs n).items) :
    HasProvenance sha256 rs n item := by
  induction n generalizing item with
  | zero => simp [ClipboardWorkspace.default] at hmem
  | succ n ih =>
      have hlt : n < rs.length := hn
      rcases mem_items_stateAt_succ hlt hmem with ⟨old, hold, hsame⟩ | ⟨text, hingest, htext⟩
      · exact ((ih hlt.le hold).of_sameCapture hsame).mono n.le_succ
      · rcases htext with rfl | ⟨old, hold, htext, hdigest⟩
        · exact ⟨n, n, le_rfl, n.lt_succ_self, ⟨_, _, hingest⟩, _, hingest⟩
        · -- the text is that of a stored item, whose own witness is earlier
          obtain ⟨i, j, hij, hj, ⟨capturedAt, sourceFingerprint, hfirst⟩, -⟩ := ih hlt.le hold
          rw [htext, hdigest] at hfirst
          exact ⟨i, n, by omega, n.lt_succ_self, ⟨_, _, hfirst⟩, text, hingest⟩

/-- **Capture gate and provenance.**  In every reachable workspace every item has an accepted ingest
that brought its text and digest, and an accepted ingest with the same digest, that one or a later
one, that brought its capture time and source; both found capture active and their source not
excluded.  And an item that a step has added or refreshed has that step as the second of them. -/
theorem items_provenance (sha256 : Bytes → Digest) (rs : List Request) :
    (∀ item ∈ (exec (serve sha256) .default rs).items,
      ∃ i j, i ≤ j ∧ j < rs.length ∧
        (∃ capturedAt sourceFingerprint,
          IngestedAt sha256 rs i item.text item.contentSha256 capturedAt sourceFingerprint) ∧
        ∃ text,
          IngestedAt sha256 rs j text item.contentSha256 item.capturedAt item.sourceFingerprint) ∧
    ∀ n < rs.length, ∀ item ∈ (stateAt (serve sha256) .default rs (n + 1)).items,
      (∃ old ∈ (stateAt (serve sha256) .default rs n).items, item.SameCapture old) ∨
      ∃ text,
        IngestedAt sha256 rs n text item.contentSha256 item.capturedAt item.sourceFingerprint := by
  refine ⟨?_, ?_⟩
  · intro item hmem
    have hexec : exec (serve sha256) .default rs
        = stateAt (serve sha256) .default rs rs.length := by
      rw [stateAt, List.take_length]
    rw [hexec] at hmem
    exact hasProvenance_stateAt le_rfl hmem
  · intro n hn item hmem
    rcases mem_items_stateAt_succ hn hmem with hold | ⟨text, hingest, -⟩
    · exact Or.inl hold
    · exact Or.inr ⟨text, hingest⟩

/-- A text captured twice. -/
def capturedTwice : List Request :=
  [⟨1, 0, .ResumeCapture, 0⟩, ⟨2, 1, exampleIngest 1 "a" 0, 0⟩, ⟨3, 2, exampleIngest 2 "a" 5, 5⟩]

/-- The stored item has the first id and the second capture time. -/
theorem items_provenance_capturedTwice :
    ∃ i j, i ≤ j ∧ j < capturedTwice.length ∧
      (∃ capturedAt sourceFingerprint, IngestedAt exampleSha256 capturedTwice i "a"
        (contentSha256Hex exampleSha256 "a") capturedAt sourceFingerprint) ∧
      ∃ text, IngestedAt exampleSha256 capturedTwice j text (contentSha256Hex exampleSha256 "a")
        5 none :=
  (items_provenance exampleSha256 capturedTwice).1 (exampleItem 1 "a" 5) (by decide)

end FtnlDesktop
