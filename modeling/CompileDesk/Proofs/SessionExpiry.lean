import CompileDesk.Proofs.SignIn

/-!
# Which session an expiry ends

The number of a request tells requests apart but not sessions. While a request is in flight and the
workspace stays on the screen, no login can be accepted, since a login on its way keeps the login screen
shown. A request that is still in flight when the login screen returns outlives its session: its
expired answer ends the session of the next login. Such a request was taken while an earlier expiry
was about to return.
-/

namespace CompileDesk.Workshop

variable {σ : Type} {w : Surroundings σ} {service : Service} {x y z : Workshop σ}

/-- A login is on its way only while the login screen is shown. -/
def OnLoginWhilePending (x : Workshop σ) : Prop :=
  x.app.login.pending = true → x.app.screen = .login

theorem OnLoginWhilePending.step {event : Happening} (h : OnLoginWhilePending x)
    (step : Step w service x event y) : OnLoginWhilePending y := by
  intro pending
  have stepped := step.stepped
  generalize y.app = app at stepped pending ⊢
  cases stepped with
  | pressed id key =>
    rw [(App.press_acted w id key x.app x.surroundings).screen]
    obtain earlier | shown := App.press_pending pending
    · exact h earlier
    · exact shown
  | takenOver now there received =>
    cases received with
    | stale => exact h pending
    | settled => exact h pending
    | loggedIn => cases pending
  | ticked now time =>
    obtain same | ⟨⟨target, due⟩, _, _, moved⟩ := x.app.tick_cases now time
    · rw [same] at pending ⊢
      exact h pending
    · rw [moved] at pending ⊢
      cases target with
      | login => rfl
      | workspace => cases pending
  | aside => exact h pending

/-- A request is in flight as before, or it has just been queued. -/
theorem Step.inFlight {event : Happening} {id : RequestId} (step : Step w service x event y)
    (busy : y.app.session.inFlight = some id) :
    x.app.session.inFlight = some id ∨ Queues id x y := by
  have stepped := step.stepped
  rw [Queues]
  generalize y.app = app at stepped busy ⊢
  cases stepped with
  | pressed id' key =>
    have acted := App.press_acted w id' key x.app x.surroundings
    generalize (x.app.press w id' key x.surroundings).1 = app at acted busy ⊢
    cases acted with
    | submitted source =>
      cases busy
      exact .inr ⟨source, by simp⟩
    | _ => exact .inl busy
  | takenOver now there received =>
    cases received with
    | settled => cases busy
    | _ => exact .inl busy
  | ticked now time =>
    obtain same | ⟨n, _, _, moved⟩ := x.app.tick_cases now time
    · exact .inl (same ▸ busy)
    · rw [moved] at busy
      exact .inl busy
  | aside => exact .inl busy

theorem Step.screen {event : Happening} (step : Step w service x event y) :
    y.app.screen = x.app.screen ∨ ∃ now n, event = .ticked now ∧ x.app.navigation = some n ∧
      n.due ≤ now ∧ y.app.screen = n.target := by
  have stepped := step.stepped
  generalize y.app = app at stepped ⊢
  cases stepped with
  | pressed id key => exact .inl (App.press_acted w id key x.app x.surroundings).screen
  | takenOver now there received => exact .inl received.screen
  | ticked now time =>
    obtain same | ⟨n, scheduled, due, moved⟩ := x.app.tick_cases now time
    · exact .inl (congrArg App.screen same)
    · exact .inr ⟨now, n, rfl, scheduled, due, congrArg App.screen moved⟩
  | aside => exact .inl rfl

theorem Step.mem_of_acceptsLogin {event : Happening} (step : Step w service x event y)
    (accepts : event.AcceptsLogin) : ∃ outcome, .loggedIn outcome ∈ x.results := by
  cases step with
  | @takeOver result others now arrived =>
    cases result with
    | compiled => exact accepts.elim
    | loggedIn outcome => exact ⟨outcome, arrived ▸ Multiset.mem_cons_self _ others⟩
  | _ => exact accepts.elim

section Opened

variable {delay : Nat} {gate : LoginGate} {endpoint : String} {screen : Screen} {s : σ}

theorem onLoginWhilePending_opened :
    OnLoginWhilePending (opened w delay gate endpoint screen s) := by
  obtain ⟨source, status, h⟩ := App.start_eq w { redirectDelay := delay } gate endpoint screen s
  intro pending
  rw [opened, h] at pending
  cases pending

theorem inFlight_opened : (opened w delay gate endpoint screen s).app.session.inFlight = none := by
  obtain ⟨source, status, h⟩ := App.start_eq w { redirectDelay := delay } gate endpoint screen s
  rw [opened, h]

/-- Where the workspace is shown, no result of a login can be there. -/
theorem Runs.loggedIn_notMem {events : List Happening}
    (run : Runs w service (opened w delay gate endpoint screen s) events x)
    (shown : x.app.screen = .workspace) (outcome : Outcome) : .loggedIn outcome ∉ x.results := by
  intro there
  have accounted := run.accounted (accounted_opened w delay gate endpoint screen s)
  have waiting : Errand.login ∈ x.outstanding :=
    Multiset.mem_add.mpr (.inr (Multiset.mem_map_of_mem CallResult.errand there))
  rw [accounted.awaited, App.login_mem_awaited] at waiting
  have onLogin : OnLoginWhilePending x :=
    run.invariant onLoginWhilePending_opened fun h step => h.step step
  cases shown.symm.trans (onLogin waiting)

/-- A run that never returns to the login screen while a request is in flight. -/
abbrev RunsUndisturbed (w : Surroundings σ) (service : Service) (id : RequestId) (x : Workshop σ)
    (events : List Happening) (y : Workshop σ) : Prop :=
  RunsBy w service (fun u event => u.app.session.inFlight = some id → ¬ Returns u event) x events y

/-- As long as its request is in flight the workspace stays on the screen, and no login is accepted. -/
theorem RunsUndisturbed.since_queued {id : RequestId} {events : List Happening}
    (run : RunsUndisturbed w service id (opened w delay gate endpoint screen s) events x)
    (busy : x.app.session.inFlight = some id) :
    x.app.screen = .workspace ∧
      RunsSince w service (fun u _ v => Queues id u v) (fun _ event => ¬ event.AcceptsLogin)
        (opened w delay gate endpoint screen s) events x := by
  induction run with
  | refl =>
    rw [inFlight_opened] at busy
    cases busy
  | @snoc events event y x run step undisturbed ih =>
    obtain waiting | queues := step.inFlight busy
    · obtain ⟨shown, since⟩ := ih waiting
      refine ⟨?_, since.snoc step ?_⟩
      · obtain same | ⟨now, n, rfl, scheduled, due, moved⟩ := step.screen
        · exact same.trans shown
        · rw [moved]
          cases target : n.target with
          | workspace => rfl
          | login =>
            have returns := App.moves_iff.mpr ⟨n, scheduled, target, due⟩
            exact absurd ⟨now, rfl, returns⟩ (undisturbed waiting)
      · intro accepts
        obtain ⟨outcome, there⟩ := step.mem_of_acceptsLogin accepts
        exact run.runs.loggedIn_notMem shown outcome there
    · exact ⟨(queues.workspace step).2, .of_step run.runs step queues⟩

/-- When an expired answer asks for the login screen, its request was taken after the login that was
accepted last, unless the login screen had returned while the request was in flight. -/
theorem expiry_follows_own_login {id : RequestId} {events : List Happening} {outcome : Outcome}
    {now : Nat} {n : Navigation}
    (run : RunsUndisturbed w service id (opened w delay gate endpoint .login s) events x)
    (asked : x.app.requested? now (.compiled id outcome) = some n) :
    RunsSince w service (fun u _ v => Queues id u v) (fun _ event => ¬ event.AcceptsLogin)
      (opened w delay gate endpoint .login s) events x := by
  refine (run.since_queued ?_).2
  by_contra other
  rw [App.requested?_compiled_of_ne other] at asked
  cases asked

/-- A step by which a request is taken under a number only if no change of screen is scheduled. -/
def TakesAtRest (w : Surroundings σ) (service : Service) (id : RequestId) (x : Workshop σ)
    (event : Happening) : Prop :=
  ∀ y, Step w service x event y → Queues id x y → x.app.navigation = none

theorem takesAtRest_of_ne {id : RequestId} {event : Happening} (x : Workshop σ)
    (other : ∀ key, event ≠ .pressed id key) : TakesAtRest w service id x event := by
  intro y step queues
  obtain ⟨key, same⟩ := queues.pressed step
  exact absurd same (other key)

/-- While the request is in flight, the login screen is not scheduled. -/
def StaysWhileBusy (id : RequestId) (x : Workshop σ) : Prop :=
  x.app.session.inFlight = some id → ∀ n, x.app.navigation = some n → n.target = .workspace

theorem StaysWhileBusy.step {id : RequestId} {event : Happening} (h : StaysWhileBusy id x)
    (rest : TakesAtRest w service id x event) (step : Step w service x event y) :
    StaysWhileBusy id y := by
  intro busy n scheduled
  have fromBefore := step.inFlight busy
  have stepped := step.stepped
  generalize happ : y.app = app at stepped busy scheduled
  cases stepped with
  | pressed id' key =>
    rw [(App.press_acted w id' key x.app x.surroundings).navigation] at scheduled
    obtain waiting | queues := fromBefore
    · exact h waiting n scheduled
    -- the request has just been taken, so nothing was scheduled
    · cases (rest y step queues).symm.trans scheduled
  | takenOver now there received =>
    cases received with
    | stale => exact h busy n scheduled
    | settled => cases busy
    | loggedIn =>
      obtain asked | ⟨_, earlier⟩ := Option.or_eq_some_iff.mp scheduled
      · rw [App.eq_of_requested? asked]
        rfl
      · exact h busy n earlier
  | ticked now time =>
    obtain same | ⟨n, _, _, moved⟩ := x.app.tick_cases now time
    · rw [same] at busy scheduled
      exact h busy n scheduled
    · rw [moved] at scheduled
      cases scheduled
  | aside => exact h busy n scheduled

/-- A request that is taken only while no change of screen is scheduled is never in flight when the
login screen returns. -/
theorem RunsBy.undisturbed {id : RequestId} {events : List Happening}
    (run : RunsBy w service (TakesAtRest w service id) (opened w delay gate endpoint screen s)
      events x) :
    RunsUndisturbed w service id (opened w delay gate endpoint screen s) events x := by
  suffices h : RunsUndisturbed w service id (opened w delay gate endpoint screen s) events x ∧
      StaysWhileBusy id x from h.1
  induction run with
  | refl => exact ⟨.refl, fun busy => by simp [inFlight_opened] at busy⟩
  | snoc _ step rest ih =>
    obtain ⟨undisturbed, stays⟩ := ih
    refine ⟨undisturbed.snoc step ?_, stays.step rest step⟩
    rintro busy ⟨now, _, moves⟩
    obtain ⟨n, scheduled, target, _⟩ := App.moves_iff.mp moves
    cases target.symm.trans (stays busy n scheduled)

end Opened

/-- The program in the workspace with an expired answer to the request in flight. -/
def expiring (id : RequestId) : Workshop (List (String × String)) :=
  let x := resting .workspace { username := "u" }
  { x with
    app := { x.app with session := ⟨2000, .submitting, some id, .busy⟩ }
    results := {.compiled id (.ok ⟨401, ""⟩)} }

/-- What happens until the session of a user expires. -/
def signingInToExpiry : List Happening :=
  signingIn ++ [.pressed ⟨4⟩ { key := .function 5 }, .started (.compile ⟨4⟩ "int x;"),
    .ended (.compiled ⟨4⟩ (.ok ⟨401, ""⟩))]

theorem runs_signingInToExpiry :
    RunsUndisturbed (.constant "int x;") (.ofUrl "http://localhost") ⟨4⟩ (started .login)
      signingInToExpiry (expiring ⟨4⟩) := by
  have signedIn : RunsBy (.constant "int x;") (.ofUrl "http://localhost")
      (TakesAtRest (.constant "int x;") (.ofUrl "http://localhost") ⟨4⟩) (started .login) signingIn
      (resting .workspace { username := "u" }) :=
    runs_signingIn.runsBy fun event there u =>
      takesAtRest_of_ne u fun key same => by simp [same, signingIn] at there
  have queued := signedIn.snoc (.press _ ⟨4⟩ { key := .function 5 }) fun _ _ _ => rfl
  have called := queued.snoc (.start [] [] (rfl : _ = [Effect.compile ⟨4⟩ "int x;"]) rfl)
    (takesAtRest_of_ne _ nofun)
  have answered := called.snoc
    (.finish (.ok ⟨401, ""⟩) (rfl : _ = Call.compile ⟨4⟩ "int x;" ::ₘ 0))
    (takesAtRest_of_ne _ nofun)
  exact answered.undisturbed

/-- The session of the first login expires. -/
theorem expiry_follows_first_login :
    RunsUndisturbed (.constant "int x;") (.ofUrl "http://localhost") ⟨4⟩ (started .login)
        signingInToExpiry (expiring ⟨4⟩) ∧
      (expiring ⟨4⟩).app.requested? 1000 (.compiled ⟨4⟩ (.ok ⟨401, ""⟩)) = some ⟨.login, 3000⟩ ∧
      RunsSince (.constant "int x;") (.ofUrl "http://localhost") (fun u _ v => Queues ⟨4⟩ u v)
        (fun _ event => ¬ event.AcceptsLogin) (started .login) signingInToExpiry (expiring ⟨4⟩) := by
  have asked : (expiring ⟨4⟩).app.requested? 1000 (.compiled ⟨4⟩ (.ok ⟨401, ""⟩)) =
      some ⟨.login, 3000⟩ := rfl
  exact ⟨runs_signingInToExpiry, asked, expiry_follows_own_login runs_signingInToExpiry asked⟩

/-- What happens when the user signs in again while a second request is in flight. -/
def signingInAgain : List Happening :=
  [.started (.compile ⟨5⟩ "int x;"), .ticked 3000, .pressed ⟨6⟩ { key := .char 'p' },
    .pressed ⟨7⟩ { key := .enter }, .started (.login ⟨"u", "p"⟩),
    .ended (.loggedIn (.ok ⟨200, "{}"⟩)), .takenOver (.loggedIn (.ok ⟨200, "{}"⟩)) 3000,
    .ticked 4000, .ended (.compiled ⟨5⟩ (.ok ⟨401, ""⟩))]

theorem runs_signingInAgain :
    Runs (.constant "int x;") (.ofUrl "http://localhost") (started .login)
      ((signingInToExpiry ++ [.takenOver (.compiled ⟨4⟩ (.ok ⟨401, ""⟩)) 1000]) ++
        .pressed ⟨5⟩ { key := .function 5 } :: signingInAgain) (expiring ⟨5⟩) := by
  have expired := runs_signingInToExpiry.runs.snoc
    (.takeOver 1000 (rfl : _ = CallResult.compiled ⟨4⟩ (.ok ⟨401, ""⟩) ::ₘ 0))
  have queued := expired.snoc (.press _ ⟨5⟩ { key := .function 5 })
  have returned := (queued.snoc (.start [] [] (rfl : _ = [Effect.compile ⟨5⟩ "int x;"]) rfl)).snoc
    (.tick _ 3000)
  have typed := (returned.snoc (.press _ ⟨6⟩ { key := .char 'p' })).snoc
    (.press _ ⟨7⟩ { key := .enter })
  have called := typed.snoc (.start [] [] (rfl : _ = [Effect.login ⟨"u", "p"⟩]) rfl)
  have ended := called.snoc (.finish (.ok ⟨200, "{}"⟩)
    (rfl : _ = Call.login ⟨"u", "p"⟩ ::ₘ {Call.compile ⟨5⟩ "int x;"}))
  have taken := ended.snoc (.takeOver 3000 (rfl : _ = CallResult.loggedIn (.ok ⟨200, "{}"⟩) ::ₘ 0))
  have answered := (taken.snoc (.tick _ 4000)).snoc
    (.finish (.ok ⟨401, ""⟩) (rfl : _ = Call.compile ⟨5⟩ "int x;" ::ₘ 0))
  exact answered

/-- A request taken while the first expiry is about to return to the login screen is answered in the next
session, and schedules its end. -/
theorem expiry_outlives_session :
    ∃ events y, Runs (.constant "int x;") (.ofUrl "http://localhost") (started .login) events
        (expiring ⟨5⟩) ∧
      Step (.constant "int x;") (.ofUrl "http://localhost") (expiring ⟨5⟩)
        (.takenOver (.compiled ⟨5⟩ (.ok ⟨401, ""⟩)) 4500) y ∧
      y.app.navigation = some ⟨.login, 6500⟩ ∧
      ¬ RunsSince (.constant "int x;") (.ofUrl "http://localhost") (fun u _ v => Queues ⟨5⟩ u v)
        (fun _ event => ¬ event.AcceptsLogin) (started .login) events (expiring ⟨5⟩) := by
  refine ⟨_, _, runs_signingInAgain,
    .takeOver 4500 (rfl : _ = CallResult.compiled ⟨5⟩ (.ok ⟨401, ""⟩) ::ₘ 0), rfl, ?_⟩
  rintro ⟨before, event, after, u, v, same, _, step, queues, rest⟩
  obtain ⟨key, rfl⟩ := queues.pressed step
  -- The one press with this number splits the run, and an accepted login follows it.
  obtain ⟨-, -, rfl⟩ := (List.append_cons_inj_of_notMem
    (by simp [signingInToExpiry, signingIn]) (by simp [signingInAgain])).mp same
  have accepted : Happening.takenOver (.loggedIn (.ok ⟨200, "{}"⟩)) 3000 ∈ signingInAgain := by
    simp [signingInAgain]
  exact rest.forall_mem _ accepted rfl

end CompileDesk.Workshop
