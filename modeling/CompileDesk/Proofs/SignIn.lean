import CompileDesk.Proofs.NavigationSlot
import CompileDesk.Proofs.OutstandingCalls

/-!
# Signing in comes first

The keys that compile belong to the workspace, and only an accepted login leads there. The slot for
the next change of screen is shared with expired sessions, but a return to the login screen empties
it. So in a run that starts on the login screen, a login was accepted since the last return before a
compilation is queued.
-/

namespace CompileDesk

/-- A login was accepted. -/
def Happening.AcceptsLogin : Happening → Prop
  | .takenOver (.loggedIn (.ok reply)) _ => reply.isSuccess = true
  | _ => False

theorem Action.screen_of_compile {screen : Screen} {focus : LoginField} {key : KeyPress}
    (h : ofKey? screen focus key = some .compile) : screen = .workspace := by
  cases screen with
  | workspace => rfl
  | login =>
    obtain ⟨key, control, _, _⟩ := key
    cases control with
    | true => simp [ofKey?, withControl?] at h
    | false => cases key <;> simp [ofKey?, onLogin?] at h; split at h <;> simp at h

namespace App

variable {σ : Type} {w : Surroundings σ} {id : RequestId} {a : App} {s : σ}

theorem dispatch_count_compile {action : Action} (other : action ≠ .compile) (id' : RequestId)
    (source : String) :
    (a.dispatch w id action s).1.effects.count (.compile id' source) =
      a.effects.count (.compile id' source) := by
  cases action with
  | compile => exact absurd rfl other
  | submitLogin =>
    simp only [dispatch, submitLogin]
    split
    · rfl
    · split <;> simp [queue]
  | toggleTheme =>
    simp only [dispatch, toggleTheme]
    split <;> rfl
  | editSource => simp [dispatch, queue]
  | _ => rfl

/-- Only an accepted login asks for the workspace. -/
theorem acceptsLogin_of_requested? {now : Nat} {r : CallResult} {n : Navigation}
    (asked : a.requested? now r = some n) (workspace : n.target = .workspace) :
    (Happening.takenOver r now).AcceptsLogin := by
  rw [eq_of_requested? asked] at workspace
  cases r with
  | compiled id outcome => cases workspace
  | loggedIn outcome =>
    cases outcome with
    | error e => cases asked
    | ok reply =>
      rw [requested?] at asked
      split at asked
      · assumption
      · cases asked

/-- Only the login screen sends a login on its way. -/
theorem press_pending {key : KeyPress} (h : (a.press w id key s).1.login.pending = true) :
    a.login.pending = true ∨ a.screen = .login := by
  cases screen : a.screen with
  | login => exact .inr rfl
  | workspace =>
    rw [press_login screen] at h
    exact .inl h

/-- Only the workspace queues a compilation. -/
theorem press_queues {key : KeyPress} {id' : RequestId} {source : String}
    (h : a.effects.count (.compile id' source) <
      (a.press w id key s).1.effects.count (.compile id' source)) : a.screen = .workspace := by
  unfold press at h
  split at h
  · rename_i action meaning
    by_cases compiles : action = .compile
    · exact Action.screen_of_compile (compiles ▸ meaning)
    · rw [dispatch_count_compile compiles] at h
      exact absurd h (Nat.lt_irrefl _)
  · exact absurd h (Nat.lt_irrefl _)

end App

namespace Workshop

variable {σ : Type} {w : Surroundings σ} {service : Service} {x y z : Workshop σ}

/-- What a step makes of the program. A step that is no key press, result or tick changes no more than
the source and the status, and takes effects from the queue. -/
inductive Stepped (w : Surroundings σ) (x : Workshop σ) : Happening → App → Prop where
  | pressed (id : RequestId) (key : KeyPress) :
      Stepped w x (.pressed id key) (x.app.press w id key x.surroundings).1
  | takenOver {result : CallResult} {app : App} (now : Nat) (there : result ∈ x.results)
      (received : App.Received x.app now result app) : Stepped w x (.takenOver result now) app
  | ticked (now : Nat) (time : LocalTime) : Stepped w x (.ticked now) (x.app.tick now time)
  | aside {event : Happening} {effects : List Effect} (source : String) (status : Option Status)
      (fewer : effects.Sublist x.app.effects) (rejects : ¬ event.AcceptsLogin)
      (still : ∀ now, event ≠ .ticked now) :
      Stepped w x event { x.app with source, effects, panes := { x.app.panes with status } }

theorem Step.stepped {event : Happening} (step : Step w service x event y) :
    Stepped w x event y.app := by
  cases step with
  | press id key => exact .pressed id key
  | @takeOver result others now arrived =>
    have there : result ∈ x.results := arrived ▸ Multiset.mem_cons_self result others
    exact .takenOver now there (App.receive_received w result now x.app x.surroundings)
  | tick now => exact .ticked now _
  | @start before after effect call queued calls =>
    have fewer : (before ++ after).Sublist x.app.effects := by
      rw [queued]
      exact (List.sublist_cons_self effect after).append_left before
    exact .aside x.app.source x.app.panes.status fewer nofun nofun
  | edit before after queued =>
    obtain ⟨source, status, edited⟩ := App.sourceEdited_eq w (w.editSource x.surroundings).1
      { x.app with effects := before ++ after } (w.editSource x.surroundings).2
    have fewer : (before ++ after).Sublist x.app.effects := by
      rw [queued]
      exact (List.sublist_cons_self _ after).append_left before
    rw [edited]
    exact .aside source status fewer nofun nofun
  | finish => exact .aside x.app.source x.app.panes.status (.refl _) nofun nofun
  | comeDown => exact .aside x.app.source x.app.panes.status (.refl _) nofun nofun
  | outside => exact .aside x.app.source x.app.panes.status (.refl _) nofun nofun

/-! ## Runs by steps of one kind -/

/-- A run by steps of one kind. -/
inductive RunsBy (w : Surroundings σ) (service : Service) (kind : Workshop σ → Happening → Prop)
    (x : Workshop σ) : List Happening → Workshop σ → Prop where
  | refl : RunsBy w service kind x [] x
  | snoc {events : List Happening} {event : Happening} {y z : Workshop σ}
      (run : RunsBy w service kind x events y) (step : Step w service y event z)
      (fits : kind y event) : RunsBy w service kind x (events ++ [event]) z

/-- A run in which a marked step was followed by steps of one kind only. -/
def RunsSince (w : Surroundings σ) (service : Service)
    (marked : Workshop σ → Happening → Workshop σ → Prop) (kind : Workshop σ → Happening → Prop)
    (x : Workshop σ) (events : List Happening) (z : Workshop σ) : Prop :=
  ∃ before event after u v, events = before ++ event :: after ∧ Runs w service x before u ∧
    Step w service u event v ∧ marked u event v ∧ RunsBy w service kind v after z

section Kinds

variable {marked : Workshop σ → Happening → Workshop σ → Prop}
  {kind : Workshop σ → Happening → Prop} {events : List Happening} {event : Happening}

theorem RunsBy.runs (run : RunsBy w service kind x events y) : Runs w service x events y := by
  induction run with
  | refl => exact .refl
  | snoc _ step _ ih => exact ih.snoc step

theorem RunsBy.forall_mem {P : Happening → Prop}
    (run : RunsBy w service (fun _ event => P event) x events y) : ∀ event ∈ events, P event := by
  induction run with
  | refl => nofun
  | snoc _ _ fits ih => exact List.forall_mem_append.mpr ⟨ih, List.forall_mem_singleton.mpr fits⟩

theorem Runs.runsBy (run : Runs w service x events y)
    (fits : ∀ event ∈ events, ∀ u, kind u event) : RunsBy w service kind x events y := by
  induction run with
  | refl => exact .refl
  | snoc run step ih =>
    obtain ⟨earlier, last⟩ := List.forall_mem_append.mp fits
    exact (ih earlier).snoc step (last _ (List.mem_singleton_self _) _)

theorem RunsSince.of_step (run : Runs w service x events y) (step : Step w service y event z)
    (mark : marked y event z) : RunsSince w service marked kind x (events ++ [event]) z :=
  ⟨events, event, [], y, z, rfl, run, step, mark, .refl⟩

theorem RunsSince.snoc (since : RunsSince w service marked kind x events y)
    (step : Step w service y event z) (fits : kind y event) :
    RunsSince w service marked kind x (events ++ [event]) z := by
  obtain ⟨before, first, after, u, v, rfl, run, start, mark, rest⟩ := since
  exact ⟨before, first, after ++ [event], u, v, by simp, run, start, mark, rest.snoc step fits⟩

end Kinds

/-! ## Compilations after a login -/

/-- A step queues a compilation under a number. -/
def Queues (id : RequestId) (x y : Workshop σ) : Prop :=
  ∃ source, x.app.effects.count (.compile id source) < y.app.effects.count (.compile id source)

theorem Queues.of_append {id : RequestId} (source : String)
    (h : y.app.effects = x.app.effects ++ [.compile id source]) : Queues id x y :=
  ⟨source, by simp [h]⟩

/-- A step returns to the login screen. -/
def Returns (x : Workshop σ) (event : Happening) : Prop :=
  ∃ now, event = .ticked now ∧ x.app.Moves now .login

/-- Only a key press queues a compilation, under its own number. -/
theorem Queues.pressed {id : RequestId} {event : Happening} (queues : Queues id x y)
    (step : Step w service x event y) : ∃ key, event = .pressed id key := by
  obtain ⟨source, more⟩ := queues
  have stepped := step.stepped
  generalize y.app = app at stepped more
  cases stepped with
  | pressed id' key =>
    have acted := App.press_acted w id' key x.app x.surroundings
    generalize (x.app.press w id' key x.surroundings).1 = app at acted more
    cases acted with
    | submitted source' =>
      by_cases same : id' = id
      · exact ⟨key, same ▸ rfl⟩
      · simp [same] at more
    | _ => simp at more
  | takenOver now there received =>
    rw [received.effects] at more
    exact absurd more (Nat.lt_irrefl _)
  | ticked now time =>
    obtain same | ⟨n, _, _, moved⟩ := x.app.tick_cases now time
    · rw [same] at more
      exact absurd more (Nat.lt_irrefl _)
    · rw [moved] at more
      exact absurd more (Nat.lt_irrefl _)
  | aside source status fewer => exact absurd more (Nat.not_lt.mpr (fewer.count_le _))

/-- Only the workspace queues a compilation, and it stays on the screen. -/
theorem Queues.workspace {id : RequestId} {event : Happening} (queues : Queues id x y)
    (step : Step w service x event y) : x.app.screen = .workspace ∧ y.app.screen = .workspace := by
  obtain ⟨key, rfl⟩ := queues.pressed step
  obtain ⟨source, more⟩ := queues
  cases step with
  | press =>
    have shown := App.press_queues more
    exact ⟨shown, (App.press_acted w id key x.app x.surroundings).screen.trans shown⟩

/-- Where the workspace is shown or scheduled, a login was accepted since the last return. -/
def SignedIn (w : Surroundings σ) (service : Service) (x : Workshop σ) (events : List Happening)
    (y : Workshop σ) : Prop :=
  y.app.screen = .workspace ∨ (∃ n, y.app.navigation = some n ∧ n.target = .workspace) →
    RunsSince w service (fun _ event _ => event.AcceptsLogin) (fun z event => ¬ Returns z event)
      x events y

theorem SignedIn.step {events : List Happening} {event : Happening}
    (h : SignedIn w service x events y) (run : Runs w service x events y)
    (step : Step w service y event z) : SignedIn w service x (events ++ [event]) z := by
  intro entered
  have stepped := step.stepped
  generalize z.app = app at stepped entered
  cases stepped with
  | pressed id key =>
    have acted := App.press_acted w id key y.app y.surroundings
    rw [acted.screen, acted.navigation] at entered
    exact (h entered).snoc step nofun
  | @takenOver result _ now there received =>
    by_cases accepted : (Happening.takenOver result now).AcceptsLogin
    · exact .of_step run step accepted
    · refine (h ?_).snoc step nofun
      rw [received.screen, received.navigation] at entered
      refine entered.imp_right ?_
      rintro ⟨n, scheduled, workspace⟩
      obtain asked | ⟨_, earlier⟩ := Option.or_eq_some_iff.mp scheduled
      · exact absurd (App.acceptsLogin_of_requested? asked workspace) accepted
      · exact ⟨n, earlier, workspace⟩
  | ticked now time =>
    by_cases returned : Returns y (.ticked now)
    · obtain ⟨_, ticks, _, moved⟩ := returned
      cases ticks
      rw [moved] at entered
      obtain shown | ⟨n, scheduled, _⟩ := entered
      · cases shown
      · cases scheduled
    -- a tick that does not return leads to the workspace, if anywhere
    · refine (h ?_).snoc step returned
      obtain same | ⟨n, scheduled, due, moved⟩ := y.app.tick_cases now time
      · rwa [same] at entered
      · right
        refine ⟨n, scheduled, ?_⟩
        cases target : n.target with
        | workspace => rfl
        | login => exact absurd ⟨now, rfl, App.moves_iff.mpr ⟨n, scheduled, target, due⟩⟩ returned
  | aside source status fewer rejects still =>
    exact (h entered).snoc step fun ⟨now, ticks, _⟩ => still now ticks

theorem Runs.signedIn {events : List Happening} (run : Runs w service x events y)
    (start : SignedIn w service x [] x) : SignedIn w service x events y := by
  induction run with
  | refl => exact start
  | snoc run step ih => exact ih.step run step

/-- In a run that starts on the login screen, whenever a compilation is queued, a login was accepted
before, and no tick since then returned to the login screen. -/
theorem queues_since_accepted_login {delay : Nat} {gate : LoginGate} {endpoint : String} {s : σ}
    {events : List Happening} {event : Happening} {id : RequestId}
    (run : Runs w service (opened w delay gate endpoint .login s) events y)
    (step : Step w service y event z) (queues : Queues id y z) :
    RunsSince w service (fun _ event _ => event.AcceptsLogin) (fun u event => ¬ Returns u event)
      (opened w delay gate endpoint .login s) events y := by
  refine run.signedIn ?_ (.inl (queues.workspace step).1)
  obtain ⟨source, status, h⟩ := App.start_eq w { redirectDelay := delay } gate endpoint .login s
  rintro (shown | ⟨n, scheduled, _⟩)
  · rw [opened, h] at shown
    cases shown
  · rw [opened, h] at scheduled
    cases scheduled

/-- A program that has just been started on a screen. -/
def started (screen : Screen) : Workshop (List (String × String)) :=
  opened (.constant "int x;") 2000 ⟨1000⟩ "http://localhost" screen []

/-- A program at rest that shows a screen with the form as given. -/
def resting (screen : Screen) (login : LoginForm) : Workshop (List (String × String)) :=
  { started screen with app := { (started screen).app with login } }

/-- What happens when a user fills in the form and signs in. -/
def signingIn : List Happening :=
  [.pressed ⟨0⟩ { key := .char 'u' }, .pressed ⟨1⟩ { key := .tab }, .pressed ⟨2⟩ { key := .char 'p' },
    .pressed ⟨3⟩ { key := .enter }, .started (.login ⟨"u", "p"⟩),
    .ended (.loggedIn (.ok ⟨200, "{}"⟩)), .takenOver (.loggedIn (.ok ⟨200, "{}"⟩)) 0, .ticked 1000]

theorem runs_signingIn :
    Runs (.constant "int x;") (.ofUrl "http://localhost") (started .login) signingIn
      (resting .workspace { username := "u" }) := by
  have named : Step (.constant "int x;") (.ofUrl "http://localhost") (started .login)
      (.pressed ⟨0⟩ { key := .char 'u' }) (resting .login { username := "u" }) := .press _ _ _
  have moved : Step (.constant "int x;") (.ofUrl "http://localhost")
      (resting .login { username := "u" }) (.pressed ⟨1⟩ { key := .tab })
      (resting .login { username := "u", focus := .password }) := .press _ _ _
  have filled : Step (.constant "int x;") (.ofUrl "http://localhost")
      (resting .login { username := "u", focus := .password }) (.pressed ⟨2⟩ { key := .char 'p' })
      (resting .login ⟨"u", "p", .password, none, false⟩) := .press _ _ _
  have typed := (((Runs.single named).snoc moved).snoc filled).snoc (.press _ ⟨3⟩ { key := .enter })
  have called := (typed.snoc (.start [] [] (rfl : _ = [Effect.login ⟨"u", "p"⟩]) rfl)).snoc
    (.finish (.ok ⟨200, "{}"⟩) (rfl : _ = Call.login ⟨"u", "p"⟩ ::ₘ 0))
  exact (called.snoc (.takeOver 0 rfl)).snoc (.tick _ 1000)

/-- After a login the first compilation is queued. -/
theorem queues_since_first_login :
    ∃ y z, Runs (.constant "int x;") (.ofUrl "http://localhost") (started .login) signingIn y ∧
      Step (.constant "int x;") (.ofUrl "http://localhost") y
        (.pressed ⟨4⟩ { key := .function 5 }) z ∧ Queues ⟨4⟩ y z ∧
      RunsSince (.constant "int x;") (.ofUrl "http://localhost")
        (fun _ event _ => event.AcceptsLogin) (fun u event => ¬ Returns u event)
        (started .login) signingIn y := by
  have step : Step (.constant "int x;") (.ofUrl "http://localhost")
      (resting .workspace { username := "u" }) (.pressed ⟨4⟩ { key := .function 5 }) _ := .press _ _ _
  refine ⟨_, _, runs_signingIn, step, .of_append "int x;" rfl, ?_⟩
  exact queues_since_accepted_login runs_signingIn step (.of_append "int x;" rfl)

end Workshop
end CompileDesk
