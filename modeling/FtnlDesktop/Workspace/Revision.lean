import FtnlDesktop.Core.Run
import FtnlDesktop.Workspace.Effect

/-!
# The revision identifies the state

Optimistic concurrency: a client reads the workspace at some revision and sends a command that
expects it.  Since a rejected command changes nothing and an accepted one raises the revision by
exactly one, the revision is a rank of the machine `serve` in the sense of `Machine.RankedBy`,
and two points of a run with the same revision are the same workspace.
-/

namespace FtnlDesktop

open Machine

variable (sha256 : Bytes → Digest)

/-- An accepted request raises the revision by exactly one. -/
lemma revision_serve_of_accepts {w : ClipboardWorkspace} {r : Request}
    (h : accepts sha256 w r = true) : (serve sha256 w r).revision = w.revision + 1 := by
  rcases serve_cases sha256 w r with ⟨hrej, -⟩ | ⟨-, -, -, -, m, heffect, heq⟩
  · simp [hrej] at h
  · rw [heq, recordCommand, heffect.revision_eq]

lemma expectedRevision_of_accepts {w : ClipboardWorkspace} {r : Request}
    (h : accepts sha256 w r = true) : r.expectedRevision = w.revision := by
  rcases serve_cases sha256 w r with ⟨hrej, -⟩ | ⟨-, -, hrev, -⟩
  · simp [hrej] at h
  · exact hrev

lemma rankedBy_revision : RankedBy (serve sha256) ClipboardWorkspace.revision := by
  intro w r
  cases hacc : accepts sha256 w r with
  | false => exact Or.inl (serve_of_not_accepts sha256 hacc)
  | true =>
      refine Or.inr ?_
      rw [revision_serve_of_accepts sha256 hacc]
      exact Nat.lt_succ_self _

/-- No command is accepted between two points of a run with the same revision. -/
lemma not_accepts_between (w : ClipboardWorkspace) (rs : List Request) {m n k : ℕ} {r : Request}
    (hrev : (stateAt (serve sha256) w rs m).revision = (stateAt (serve sha256) w rs n).revision)
    (hmk : m ≤ k) (hkn : k < n) (hr : rs[k]? = some r) :
    accepts sha256 (stateAt (serve sha256) w rs k) r = false := by
  obtain ⟨hk, rfl⟩ := List.getElem?_eq_some_iff.mp hr
  by_contra hacc
  rw [Bool.not_eq_false] at hacc
  have hbump := revision_serve_of_accepts sha256 hacc
  have hnext : stateAt (serve sha256) w rs (k + 1)
      = serve sha256 (stateAt (serve sha256) w rs k) rs[k] := stateAt_succ w rs hk
  rw [← hnext] at hbump
  have hlow := rank_stateAt_mono (rankedBy_revision sha256) w rs hmk
  have hhigh := rank_stateAt_mono (rankedBy_revision sha256) w rs (Nat.succ_le_of_lt hkn)
  rw [Nat.succ_eq_add_one, hbump] at hhigh
  omega

/-- **Sound optimistic concurrency.**  A rejected command leaves every field as it was; an
accepted one was sent for the current revision and raises it by one.  Hence in every run of
requests, from any number of clients in any order, points with the same revision are the same
workspace, and a command accepted at point `n` whose issuer had read point `m` was applied to
exactly what the issuer read, with no other command accepted in between. -/
theorem revision_identifies_state :
    (∀ (w : ClipboardWorkspace) (commandId : Uuid) (expectedRevision : ℕ)
        (action : WorkspaceAction) (now : SystemTime),
      match (apply sha256 commandId expectedRevision action now).run w with
      | .error _ w' => w' = w
      | .ok _ w' => w'.revision = w.revision + 1 ∧ expectedRevision = w.revision) ∧
    (∀ (w : ClipboardWorkspace) (rs : List Request) (m n : ℕ),
      (stateAt (serve sha256) w rs m).revision = (stateAt (serve sha256) w rs n).revision →
      stateAt (serve sha256) w rs m = stateAt (serve sha256) w rs n) ∧
    (∀ (w : ClipboardWorkspace) (rs : List Request) (m n : ℕ) (r : Request),
      m ≤ n → rs[n]? = some r → accepts sha256 (stateAt (serve sha256) w rs n) r = true →
      r.expectedRevision = (stateAt (serve sha256) w rs m).revision →
      stateAt (serve sha256) w rs n = stateAt (serve sha256) w rs m ∧
        ∀ (k : ℕ) (other : Request), m ≤ k → k < n → rs[k]? = some other →
          accepts sha256 (stateAt (serve sha256) w rs k) other = false) := by
  refine ⟨?_, ?_, ?_⟩
  · intro w commandId expectedRevision action now
    cases hrun : (apply sha256 commandId expectedRevision action now).run w with
    | error e w' => exact apply_eq_error hrun
    | ok u w' =>
        obtain ⟨-, hrev, -, m, heffect, rfl⟩ := apply_eq_ok_iff.mp hrun
        refine ⟨?_, hrev⟩
        rw [recordCommand, heffect.revision_eq]
  · intro w rs m n hrev
    exact stateAt_eq_of_rank_eq (rankedBy_revision sha256) w rs m n hrev
  · intro w rs m n r hmn hr hacc hread
    have hrev : (stateAt (serve sha256) w rs m).revision
        = (stateAt (serve sha256) w rs n).revision :=
      hread.symm.trans (expectedRevision_of_accepts sha256 hacc)
    refine ⟨stateAt_eq_of_rank_eq (rankedBy_revision sha256) w rs n m hrev.symm, ?_⟩
    intro k other hmk hkn hother
    exact not_accepts_between sha256 w rs hrev hmk hkn hother

/-- Two clients read revision 1; the second one's command is rejected and changes nothing. -/
theorem revision_identifies_state_conflict :
    stateAt (serve exampleSha256) .default
        [⟨1, 0, .ResumeCapture, 0⟩, ⟨2, 1, exampleIngest 1 "a" 0, 0⟩, ⟨3, 1, .PauseCapture, 0⟩] 2
      = stateAt (serve exampleSha256) .default
        [⟨1, 0, .ResumeCapture, 0⟩, ⟨2, 1, exampleIngest 1 "a" 0, 0⟩, ⟨3, 1, .PauseCapture, 0⟩] 3 ∧
    stateAt (serve exampleSha256) .default
        [⟨1, 0, .ResumeCapture, 0⟩, ⟨2, 0, .PauseCapture, 0⟩, ⟨3, 1, .PauseCapture, 0⟩] 2
      = stateAt (serve exampleSha256) .default
        [⟨1, 0, .ResumeCapture, 0⟩, ⟨2, 0, .PauseCapture, 0⟩, ⟨3, 1, .PauseCapture, 0⟩] 1 :=
  ⟨(revision_identifies_state exampleSha256).2.1 .default
      [⟨1, 0, .ResumeCapture, 0⟩, ⟨2, 1, exampleIngest 1 "a" 0, 0⟩, ⟨3, 1, .PauseCapture, 0⟩]
      2 3 (by decide),
    ((revision_identifies_state exampleSha256).2.2 .default
      [⟨1, 0, .ResumeCapture, 0⟩, ⟨2, 0, .PauseCapture, 0⟩, ⟨3, 1, .PauseCapture, 0⟩]
      1 2 ⟨3, 1, .PauseCapture, 0⟩ (by decide) rfl (by decide) (by decide)).1⟩

end FtnlDesktop
