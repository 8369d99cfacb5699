import FtnlDesktop.Core.Throttle
import FtnlDesktop.Receive.Authority

/-!
# How often the app refreshes by itself

Every frame asks whether two seconds have passed since `last_refresh`, and refreshes if they have.
The field is set by every refresh, whoever asks for it, and by the answer that creates a session; a
refresh of the timer reads the clock again for it.  So the timer is a throttle that the user puts
off by refreshing by hand.

Nothing is assumed of the picker: the field is set when a refresh is about to be sent, whatever
becomes of it.

* **`automatic_refreshes_are_paced`** — the refreshes of the timer are two seconds apart, and each
  is two seconds after whatever else has set the field.
-/

namespace FtnlDesktop.Receive

open Machine

variable {crates : AppCrates}

/-! ## When the field is set -/

section LastRefresh

lemma isUntouched_lastRefresh : IsUntouched DesktopApp.lastRefresh :=
  ⟨fun _ _ => rfl, fun _ _ => rfl, fun _ _ => rfl, fun _ _ => rfl⟩

variable (crates) (env : Env) (app : DesktopApp)

lemma dispatch_lastRefresh (command : Command) {effect : Option Effect} {app' : DesktopApp}
    (h : app.dispatch crates command = (effect, app')) : app'.lastRefresh = app.lastRefresh := by
  have hdispatch := isUntouched_lastRefresh.dispatch crates app command
  rwa [h] at hdispatch

lemma send_lastRefresh (effect : Effect) (kind : RequestKind) :
    (app.send crates env effect kind).lastRefresh = app.lastRefresh :=
  isUntouched_lastRefresh.send crates env app effect kind

lemma create_lastRefresh : (app.create crates env).lastRefresh = app.lastRefresh := by
  rw [DesktopApp.create]
  rcases hcommand : app.dispatch crates .Start with ⟨effect, app'⟩
  have hsame := dispatch_lastRefresh crates app .Start hcommand
  cases effect with
  | none => exact hsame
  | some effect => exact (send_lastRefresh crates env _ effect _).trans hsame

lemma retry_lastRefresh : (app.retry crates env).lastRefresh = app.lastRefresh := by
  rw [DesktopApp.retry]
  rcases hcommand : app.dispatch crates .Retry with ⟨_ | ⟨operation, kind⟩, app'⟩
  · have hsame := dispatch_lastRefresh crates app .Retry hcommand
    exact hsame
  · have hsame := dispatch_lastRefresh crates app .Retry hcommand
    have hfail : ∀ effect,
        ({ app' with message := none }.failDispatch crates effect).lastRefresh = app.lastRefresh :=
      fun effect => (isUntouched_lastRefresh.failDispatch crates _ effect).trans hsame
    cases kind with
    | Create => exact (send_lastRefresh crates env _ _ _).trans hsame
    | Refresh =>
        cases app.sessionAuthority with
        | none => exact hfail _
        | some authority => exact (send_lastRefresh crates env _ _ _).trans hsame
    | Download => exact hfail _
    | Cancel => exact hfail _

lemma cancel_lastRefresh : (app.cancel crates env).lastRefresh = app.lastRefresh := by
  rw [DesktopApp.cancel]
  cases app.sessionAuthority with
  | none => rfl
  | some authority =>
      rcases hcommand : app.dispatch crates .Cancel with ⟨effect, app'⟩
      have hsame := dispatch_lastRefresh crates app .Cancel hcommand
      cases effect with
      | none => exact hsame
      | some effect => exact (send_lastRefresh crates env _ effect _).trans hsame

lemma download_lastRefresh : (app.download crates env).lastRefresh = app.lastRefresh := by
  rw [DesktopApp.download]
  cases app.sessionAuthority with
  | none => rfl
  | some authority =>
      cases app.availableSelection crates with
      | none => rfl
      | some file =>
          rcases hcommand : app.dispatch crates .Download with ⟨effect, app'⟩
          have hsame := dispatch_lastRefresh crates app .Download hcommand
          cases effect with
          | none => exact hsame
          | some effect => exact (send_lastRefresh crates env _ effect _).trans hsame

/-- A refresh that gets as far as its request sets the field. -/
lemma refresh_lastRefresh :
    (app.refresh crates env).lastRefresh
      = if app.session.isSome ∧ (app.dispatch crates .Refresh).1.isSome then env.now
        else app.lastRefresh := by
  rw [DesktopApp.refresh, DesktopApp.sessionAuthority]
  cases app.session with
  | none => rfl
  | some session =>
      rcases hcommand : app.dispatch crates .Refresh with ⟨effect, app'⟩
      have hsame := dispatch_lastRefresh crates app .Refresh hcommand
      cases effect with
      | none => exact hsame
      | some effect => exact send_lastRefresh crates env _ effect _

lemma refresh_lastRefresh_cases :
    (app.refresh crates env).lastRefresh = app.lastRefresh
      ∨ (app.refresh crates env).lastRefresh = env.now := by
  rw [refresh_lastRefresh]
  split_ifs
  · exact Or.inr rfl
  · exact Or.inl rfl

lemma call_lastRefresh (call : UserCall) :
    (app.call crates env call).lastRefresh = app.lastRefresh
      ∨ (app.call crates env call).lastRefresh = env.now := by
  cases call with
  | Create => exact Or.inl (create_lastRefresh crates env app)
  | Refresh => exact refresh_lastRefresh_cases crates env app
  | Retry => exact Or.inl (retry_lastRefresh crates env app)
  | Cancel => exact Or.inl (cancel_lastRefresh crates env app)
  | Download => exact Or.inl (download_lastRefresh crates env app)
  | TimerRefresh checked =>
      simp only [DesktopApp.call, DesktopApp.timerRefresh]
      split_ifs
      · exact refresh_lastRefresh_cases crates env app
      · exact Or.inl rfl
  | EditBaseUrl _ | EditApplicationId _ | SelectFile _ | EditDestination _ | SetForce _ =>
      simp only [DesktopApp.call]
      split_ifs
      all_goals exact Or.inl rfl

lemma accept_lastRefresh (kind : ResponseKind) :
    (app.accept crates env kind).lastRefresh = app.lastRefresh
      ∨ (app.accept crates env kind).lastRefresh = env.now := by
  cases kind with
  | Created session => exact Or.inr rfl
  | Snapshot files =>
      simp only [DesktopApp.accept]
      split_ifs
      all_goals exact Or.inl rfl
  | Downloaded path => exact refresh_lastRefresh_cases crates env _
  | Cancelled => exact Or.inl rfl
  | Failed message =>
      exact Or.inl (isUntouched_lastRefresh.dropUnneededSession crates app)

lemma processResponse_lastRefresh (response : Response) :
    (app.processResponse crates env response).lastRefresh = app.lastRefresh
      ∨ (app.processResponse crates env response).lastRefresh = env.now := by
  have hcomplete := isUntouched_lastRefresh.complete crates app response.operation
    (response.kind.completion crates)
  rw [DesktopApp.processResponse]
  rcases hresult : app.complete crates response.operation (response.kind.completion crates) with
    ⟨_ | _, app'⟩
  · rw [hresult] at hcomplete
    exact Or.inl hcomplete
  · rw [hresult] at hcomplete
    rw [← hcomplete]
    exact accept_lastRefresh crates env app' response.kind

end LastRefresh

/-! ## The throttle -/

/-- What an input compares with `last_refresh`. -/
def SystemInput.checked : SystemInput → Option Instant
  | .Call _ (.TimerRefresh checked) => some checked
  | _ => none

/-- What an input may store in `last_refresh`. -/
def SystemInput.stored : SystemInput → Option Instant
  | .Call env _ => some env.now
  | .ProcessResponse env => some env.now
  | .Recv => none
  | .Answer _ => none

/-- The timer starts a refresh. -/
def System.timerStarts (crates : AppCrates) (self : System) : SystemInput → Bool
  | .Call _ (.TimerRefresh checked) =>
      self.app.lifecycle.can crates.picker .Refresh ∧ self.app.session.isSome
        ∧ fromSecs 2 ≤ elapsed checked self.app.lastRefresh
        ∧ (self.app.dispatch crates .Refresh).1.isSome
  | _ => false

lemma System.step_lastRefresh (crates : AppCrates) (self : System) (input : SystemInput) :
    (self.step crates input).app.lastRefresh = self.app.lastRefresh
      ∨ input.stored = some (self.step crates input).app.lastRefresh := by
  cases input with
  | Call env call =>
      refine (call_lastRefresh crates env self.app call).imp_right fun hnow => ?_
      exact congrArg some hnow.symm
  | ProcessResponse env =>
      simp only [System.step, Worker.tryRecv]
      cases self.app.worker.responses with
      | nil => exact Or.inl rfl
      | cons response responses =>
          refine (processResponse_lastRefresh crates env
            { self.app with worker := { self.app.worker with responses } } response).imp_right
              fun hnow => ?_
          exact congrArg some hnow.symm
  | Recv =>
      simp only [System.step]
      cases self.handling with
      | none => cases self.app.worker.requests <;> exact Or.inl rfl
      | some request => exact Or.inl rfl
  | Answer service =>
      simp only [System.step]
      cases self.handling <;> exact Or.inl rfl

lemma System.step_timerStarts {crates : AppCrates} {self : System} {input : SystemInput}
    (h : self.timerStarts crates input = true) :
    input.stored = some (self.step crates input).app.lastRefresh ∧
      ∃ t, input.checked = some t ∧ fromSecs 2 ≤ t - self.app.lastRefresh := by
  cases input with
  | Call env call =>
      cases call with
      | TimerRefresh checked =>
          obtain ⟨hcan, hsession, hdue, heffect⟩ := of_decide_eq_true h
          have hnow : (self.step crates (.Call env (.TimerRefresh checked))).app.lastRefresh
              = env.now := by
            simp only [System.step, DesktopApp.call, DesktopApp.timerRefresh]
            rw [if_pos ⟨hcan, hsession, hdue⟩, refresh_lastRefresh, if_pos ⟨hsession, heffect⟩]
          rw [hnow]
          exact ⟨rfl, checked, rfl, hdue⟩
      | _ => cases h
  | _ => cases h

/-- `self.last_refresh`, as the throttle of the timer. -/
def refreshThrottle (crates : AppCrates) : Throttle (System.step crates) where
  interval := fromSecs 2
  kept system := system.app.lastRefresh
  checked := SystemInput.checked
  stored := SystemInput.stored
  fires := System.timerStarts crates
  moved system input := system.step_lastRefresh crates input
  due _ _ hfires := System.step_timerStarts hfires

/-- A session can be refreshed. -/
def System.CanRefresh (crates : AppCrates) (self : System) : Prop :=
  self.app.lifecycle.can crates.picker .Refresh = true ∧ self.app.session.isSome = true ∧
    (self.app.dispatch crates .Refresh).1.isSome = true

/-- **Automatic refreshes are paced.**  In every run of the system in which the clock does not go
back, the refreshes that the timer starts are two seconds apart, the first one counting from the
start of the app, so that at most `k` of them fall into any `2 * k` seconds.  Each is two seconds
after whatever has set `last_refresh` before.  And the timer does not forget: when it finds a
session that can be refreshed, and checks the clock two seconds after what some earlier input stored
or could have stored, `last_refresh` has been set in between or is now. -/
theorem automatic_refreshes_are_paced (crates : AppCrates) (now : Instant)
    (inputs : List SystemInput)
    (hclock : (now :: (refreshThrottle crates).readings inputs).SortedLE) :
    let times := (refreshThrottle crates).firings (.start now) inputs
    let system := stateAt (System.step crates) (.start now) inputs
    (now :: times).Pairwise (fun t t' => t + fromSecs 2 ≤ t') ∧
    (∀ k t, (times.filter fun t' => t ≤ t' ∧ t' < t + k * fromSecs 2).length ≤ k) ∧
    (∀ m n input, m ≤ n → inputs[n]? = some input → (system n).timerStarts crates input = true →
      (system m).app.lastRefresh + fromSecs 2 ≤ (system (n + 1)).app.lastRefresh) ∧
    ∀ i j input env t checked, i < j → inputs[i]? = some input → input.stored = some t →
      inputs[j]? = some (.Call env (.TimerRefresh checked)) → t + fromSecs 2 ≤ checked →
      (system j).CanRefresh crates →
      ∃ n, ∃ hn : n < inputs.length, i < n ∧ n ≤ j ∧
        ((system n).timerStarts crates inputs[n] = true ∨
          (system (n + 1)).app.lastRefresh ≠ (system n).app.lastRefresh) := by
  intro times system
  have hordered : (refreshThrottle crates).Ordered (.start now) inputs := hclock
  refine ⟨Throttle.spaced hordered, Throttle.length_firings_le hordered, ?_, ?_⟩
  · intro m n input hmn hinput hstarts
    obtain ⟨hn, rfl⟩ := List.getElem?_eq_some_iff.mp hinput
    exact Throttle.kept_add_le_of_fires hordered hmn hn hstarts
  · intro i j input env t checked hij hinput hstored hlate hdue hcan
    obtain ⟨hi, rfl⟩ := List.getElem?_eq_some_iff.mp hinput
    obtain ⟨hj, hcall⟩ := List.getElem?_eq_some_iff.mp hlate
    refine (refreshThrottle crates).exists_restart hordered hij hj hstored hdue fun hlast => ?_
    obtain ⟨hcan, hsession, heffect⟩ := hcan
    rw [hcall]
    exact decide_eq_true ⟨hcan, hsession, hlast, heffect⟩

/-- A tunnel is created at once, and refreshed two seconds later; the clock is read again 50 µs
after the check. -/
def examplePacedInputs : List SystemInput :=
  [.Call ⟨0, true⟩ .Create, .Recv, .Answer exampleService, .ProcessResponse ⟨0, true⟩,
    .Call ⟨fromSecs 1, true⟩ (.TimerRefresh (fromSecs 1)),
    .Call ⟨fromSecs 2 + 50000, true⟩ (.TimerRefresh (fromSecs 2))]

theorem automatic_refreshes_are_paced_example :
    (refreshThrottle exampleCrates).firings (.start 0) examplePacedInputs = [fromSecs 2 + 50000] ∧
      (0 :: (refreshThrottle exampleCrates).firings (.start 0) examplePacedInputs).Pairwise
        fun t t' => t + fromSecs 2 ≤ t' :=
  ⟨by decide +kernel, (automatic_refreshes_are_paced exampleCrates 0 examplePacedInputs
    (List.Pairwise.sortedLE (by decide))).1⟩

end FtnlDesktop.Receive
