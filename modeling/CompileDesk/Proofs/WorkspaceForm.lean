import CompileDesk.Proofs.SessionExpiry

/-!
# The form behind the workspace

The form is cleared when the workspace opens, and no key of the workspace touches it. What could still
fill it in is the result of a login; but a login on its way keeps the login screen shown, also when an
expired session takes the place of the workspace in the schedule. So as long as the workspace is
shown the form holds a user name and nothing else.
-/

namespace CompileDesk

/-- Only the user name is left in the form. -/
structure LoginForm.Bare (f : LoginForm) : Prop where
  password : f.password = ""
  focus : f.focus = .username
  message : f.message = none
  pending : f.pending = false

theorem LoginForm.entered_bare (f : LoginForm) : f.entered.Bare := ⟨rfl, rfl, rfl, rfl⟩

namespace Workshop

variable {σ : Type} {w : Surroundings σ} {service : Service} {x y : Workshop σ}
  {delay : Nat} {gate : LoginGate} {endpoint : String} {screen : Screen} {s : σ}

/-- Where the workspace is shown, only the user name is left in the form. -/
def BareInWorkspace (x : Workshop σ) : Prop := x.app.screen = .workspace → x.app.login.Bare

theorem bareInWorkspace_opened : BareInWorkspace (opened w delay gate endpoint screen s) := by
  obtain ⟨source, status, h⟩ := App.start_eq w { redirectDelay := delay } gate endpoint screen s
  intro _
  rw [opened, h]
  exact ⟨rfl, rfl, rfl, rfl⟩

/-- A step keeps the form bare if no result of a login comes in while the workspace is shown. -/
theorem BareInWorkspace.step {event : Happening} (h : BareInWorkspace x)
    (noLogin : x.app.screen = .workspace → ∀ outcome, .loggedIn outcome ∉ x.results)
    (step : Step w service x event y) : BareInWorkspace y := by
  intro shown
  have stepped := step.stepped
  generalize y.app = app at stepped shown ⊢
  cases stepped with
  | pressed id key =>
    rw [(App.press_acted w id key x.app x.surroundings).screen] at shown
    rw [App.press_login shown]
    exact h shown
  | takenOver now there received =>
    rw [received.screen] at shown
    cases received with
    | stale => exact h shown
    | settled => exact h shown
    | loggedIn outcome => exact absurd there (noLogin shown outcome)
  | ticked now time =>
    obtain same | ⟨⟨target, due⟩, _, _, moved⟩ := x.app.tick_cases now time
    · rw [same] at shown ⊢
      exact h shown
    · rw [moved] at shown ⊢
      cases target with
      | login => cases shown
      | workspace => exact x.app.login.entered_bare
  | aside => exact h shown

theorem Runs.bareInWorkspace {events : List Happening}
    (run : Runs w service (opened w delay gate endpoint screen s) events x) : BareInWorkspace x := by
  induction run with
  | refl => exact bareInWorkspace_opened
  | snoc run step ih => exact ih.step run.loggedIn_notMem step

/-- However key presses, results and ticks come one after another, while the workspace is shown the form
is empty but for the user name, and no login is queued, being made or waiting to be taken over. -/
theorem bare_form_in_workspace {events : List Happening}
    (run : Runs w service (opened w delay gate endpoint screen s) events x)
    (shown : x.app.screen = .workspace) : x.app.login.Bare ∧ x.logins = 0 := by
  have bare := run.bareInWorkspace shown
  refine ⟨bare, ?_⟩
  rw [(run.accounted (accounted_opened w delay gate endpoint screen s)).logins_eq, bare.pending]
  rfl

/-- A user whose first session expired has signed in again, and a late answer of that session is about to
be taken over. -/
theorem bare_form_after_second_login :
    ∃ events, Runs (.constant "int x;") (.ofUrl "http://localhost") (started .login) events
        (expiring ⟨5⟩) ∧
      (expiring ⟨5⟩).app.screen = .workspace ∧ (expiring ⟨5⟩).app.login.username = "u" ∧
      (expiring ⟨5⟩).app.login.Bare ∧ (expiring ⟨5⟩).logins = 0 := by
  obtain ⟨bare, noLogin⟩ := bare_form_in_workspace runs_signingInAgain rfl
  exact ⟨_, runs_signingInAgain, rfl, rfl, bare, noLogin⟩

end Workshop

/-- Between any two turns of the event loop the form is bare if the workspace is shown. -/
theorem EventLoop.turns_bareInWorkspace {σ : Type} (w : Surroundings σ) (service : Service)
    (clock : Nat → Nat) (keys : List KeyboardEvent) (delay : Nat) (gate : LoginGate)
    (endpoint : String) (screen : Screen) (s : σ) (wire : Wire) :
    let app : App := .start w { redirectDelay := delay } gate endpoint screen s
    let last := (turns w service clock 0 keys { app, surroundings := s, wire }).last
    last.app.screen = .workspace → last.app.login.Bare := by
  intro app last
  obtain ⟨events, run⟩ := turns_runs w service clock 0 keys { app, surroundings := s, wire }
  exact run.bareInWorkspace

end CompileDesk
