import CompileDesk.Interactive.View
import CompileDesk.Proofs.AppChanges

/-!
# The program without its secrets

Under a veil every password is a row of stars of the same length, and every request has another number.
Whatever happens to the program happens to it under the veil too, with a star for a character that
is typed into the password and with the numbers of the veil. So nothing the program does depends
on more of a password than its length, and the screens are the same with and without the veil.
-/

namespace CompileDesk

variable {σ : Type} (ρ : RequestId → RequestId)

def LoginForm.veiled (f : LoginForm) : LoginForm := { f with password := App.mask f.password }

def Credentials.veiled (c : Credentials) : Credentials := { c with password := App.mask c.password }

def Session.renumbered (s : Session) : Session := { s with inFlight := s.inFlight.map ρ }

def Effect.veiled : Effect → Effect
  | .compile id source => .compile (ρ id) source
  | .login credentials => .login credentials.veiled
  | .editSource => .editSource

def CallResult.renumbered : CallResult → CallResult
  | .compiled id outcome => .compiled (ρ id) outcome
  | .loggedIn outcome => .loggedIn outcome

/-- The action as it is under the veil while a part of the form has the focus. -/
def Action.veiled (focus : LoginField) : Action → Action
  | .input c => .input (if focus = .password then '*' else c)
  | action => action

/-- The program under the veil with the given numbers. -/
def App.veiled (a : App) : App := { a with
  login := a.login.veiled
  session := a.session.renumbered ρ
  effects := a.effects.map (Effect.veiled ρ) }

/-! ## Passwords -/

section Mask

open App (mask)

variable (s : String)

theorem toList_mask : (mask s).toList = List.replicate s.toList.length '*' := by
  simp [mask, Text.repeated, Text.width]

theorem mask_push (c : Char) : mask (s.push c) = (mask s).push '*' := by
  apply String.toList_injective
  simp [toList_mask, List.replicate_succ']

theorem mask_shortened : mask (LoginForm.shortened s) = LoginForm.shortened (mask s) := by
  apply String.toList_injective
  simp [toList_mask, LoginForm.shortened]

theorem mask_mask : mask (mask s) = mask s := by
  apply String.toList_injective
  simp [toList_mask]

theorem isEmpty_mask : (mask s).isEmpty = s.isEmpty := by
  rw [Bool.eq_iff_iff, String.isEmpty_iff, String.isEmpty_iff, ← String.toList_inj,
    ← String.toList_inj, toList_mask]
  simp

end Mask

/-! ## Forms and sessions -/

theorem LoginForm.input_veiled (f : LoginForm) (c : Char) :
    f.veiled.input (if f.focus = .password then '*' else c) = (f.input c).veiled := by
  cases focus : f.focus <;> simp [input, veiled, focus, mask_push]

theorem LoginForm.backspace_veiled (f : LoginForm) : f.veiled.backspace = f.backspace.veiled := by
  cases focus : f.focus <;> simp [backspace, veiled, focus, mask_shortened]

theorem prepare?_mask (username password : String) :
    LoginGate.prepare? username (App.mask password) =
      (LoginGate.prepare? username password).map Credentials.veiled := by
  rw [LoginGate.prepare?, LoginGate.prepare?, isEmpty_mask]
  split <;> rfl

theorem Session.submit?_renumbered (s : Session) (p : Panes) (id : RequestId) :
    (s.renumbered ρ).submit? p (ρ id) =
      (s.submit? p id).map fun (session, panes) => (session.renumbered ρ, panes) := by
  rw [Session.submit?_eq, Session.submit?_eq]
  change (if s.phase = .submitting then _ else _) = _
  split <;> rfl

/-! ## What happens to the program -/

namespace App

theorem withSource_veiled (a : App) (time : LocalTime) (read : Except DeskError String) :
    (a.veiled ρ).withSource time read = (a.withSource time read).veiled ρ := by
  cases read <;> rfl

theorem queue_veiled (a : App) (e : Effect) :
    (a.veiled ρ).queue (e.veiled ρ) = (a.queue e).veiled ρ := by
  simp [queue, veiled]

theorem submitLogin_veiled (a : App) (time : LocalTime) :
    (a.veiled ρ).submitLogin time = (a.submitLogin time).veiled ρ := by
  have busy : ((a.veiled ρ).login.pending || (a.veiled ρ).isRedirecting) =
      (a.login.pending || a.isRedirecting) := rfl
  have prepared : LoginGate.prepare? (a.veiled ρ).login.username (a.veiled ρ).login.password =
      (LoginGate.prepare? a.login.username a.login.password).map Credentials.veiled :=
    prepare?_mask a.login.username a.login.password
  rw [submitLogin, submitLogin, busy, prepared]
  split
  · rfl
  · cases LoginGate.prepare? a.login.username a.login.password with
    | none => rfl
    | some credentials =>
      exact queue_veiled ρ { a with login := { a.login with
        pending := true, message := some ⟨.info, LoginForm.signingIn, time⟩ } } (.login credentials)

theorem submitSource_veiled (a : App) (id : RequestId) :
    (a.veiled ρ).submitSource (ρ id) = (a.submitSource id).veiled ρ := by
  have submitted : (a.veiled ρ).session.submit? (a.veiled ρ).panes (ρ id) =
      (a.session.submit? a.panes id).map fun taken => (taken.1.renumbered ρ, taken.2) :=
    a.session.submit?_renumbered ρ a.panes id
  rw [submitSource, submitSource, submitted]
  cases a.session.submit? a.panes id with
  | none => rfl
  | some taken =>
    exact queue_veiled ρ { a with session := taken.1, panes := taken.2 } (.compile id a.source)

theorem compile_veiled (a : App) (id : RequestId) (read : Except DeskError String) (time : LocalTime) :
    (a.veiled ρ).compile (ρ id) read time = (a.compile id read time).veiled ρ := by
  cases read with
  | error e => rfl
  | ok source => exact submitSource_veiled ρ (a.withSource time (.ok source)) id

theorem toggleTheme_veiled (w : Surroundings σ) (a : App) (s : σ) :
    (a.veiled ρ).toggleTheme w s = ((a.toggleTheme w s).1.veiled ρ, (a.toggleTheme w s).2) := by
  have theme : (a.veiled ρ).theme = a.theme := rfl
  simp only [toggleTheme, theme]
  cases (Theme.toggle w.preferences a.theme s).1 <;> rfl

/-- An action does the same under the veil. -/
theorem dispatch_veiled (w : Surroundings σ) (id : RequestId) (action : Action) (a : App) (s : σ) :
    (a.veiled ρ).dispatch w (ρ id) (action.veiled a.login.focus) s =
      ((a.dispatch w id action s).1.veiled ρ, (a.dispatch w id action s).2) := by
  cases action with
  | input c =>
    exact congrArg (fun login => ({ a.veiled ρ with login }, s)) (a.login.input_veiled c)
  | backspace =>
    exact congrArg (fun login => ({ a.veiled ρ with login }, s)) a.login.backspace_veiled
  | submitLogin => exact congrArg (·, s) (submitLogin_veiled ρ a (w.clock s))
  | compile => exact congrArg (·, s) (compile_veiled ρ a id (w.readSource s) (w.clock s))
  | editSource => exact congrArg (·, s) (queue_veiled ρ a .editSource)
  | toggleTheme => exact toggleTheme_veiled ρ w a s
  | quit | nextField | previousField | nextTab => rfl

theorem sourceEdited_veiled (w : Surroundings σ) (report : Except DeskError Unit) (a : App) (s : σ) :
    (a.veiled ρ).sourceEdited w report s = (a.sourceEdited w report s).veiled ρ := by
  cases report with
  | ok _ => exact withSource_veiled ρ a (w.clock s) (w.readSource s)
  | error e =>
    exact withSource_veiled ρ (a.say .error e.message (w.clock s)) (w.clock s) (w.readSource s)

theorem requested?_veiled {ρ : RequestId → RequestId} (apart : Function.Injective ρ) (a : App)
    (now : Nat) (r : CallResult) :
    (a.veiled ρ).requested? now (r.renumbered ρ) = a.requested? now r := by
  cases r with
  | loggedIn outcome => cases outcome <;> rfl
  | compiled id outcome =>
    cases outcome with
    | error e => rfl
    | ok reply =>
      have mine : (a.veiled ρ).session.inFlight = some (ρ id) ↔ a.session.inFlight = some id :=
        (Option.map_injective apart).eq_iff (b := some id)
      simp only [CallResult.renumbered, requested?, mine]
      rfl

/-- The result of a call is taken over under the veil, with the number that its request has there. -/
theorem receive_veiled {ρ : RequestId → RequestId} (apart : Function.Injective ρ)
    (w : Surroundings σ) (r : CallResult) (now : Nat) (a : App) (s : σ) :
    (a.veiled ρ).receive w (r.renumbered ρ) now s =
      ((a.receive w r now s).1.veiled ρ, (a.receive w r now s).2) := by
  have requested := requested?_veiled apart a now r
  cases r with
  | loggedIn outcome =>
    rw [CallResult.renumbered, receive_loggedIn, receive_loggedIn, ← requested]
    rfl
  | compiled id outcome =>
    have mine : (a.veiled ρ).session.inFlight = some (ρ id) ↔ a.session.inFlight = some id :=
      (Option.map_injective apart).eq_iff (b := some id)
    rw [CallResult.renumbered] at requested ⊢
    by_cases busy : a.session.inFlight = some id
    · rw [receive_compiled_of_eq w _ outcome now s (mine.mpr busy), requested,
        receive_compiled_of_eq w id outcome now s busy]
      rfl
    · rw [receive_compiled_of_ne w _ outcome now s (mt mine.mp busy),
        receive_compiled_of_ne w id outcome now s busy]

theorem navigate_veiled (a : App) (target : Screen) (time : LocalTime) :
    (a.veiled ρ).navigate target time = (a.navigate target time).veiled ρ := by
  cases target <;> rfl

theorem tick_veiled (now : Nat) (a : App) (time : LocalTime) :
    (a.veiled ρ).tick now time = (a.tick now time).veiled ρ := by
  have navigation : (a.veiled ρ).navigation = a.navigation := rfl
  rw [tick, tick, navigation]
  cases a.navigation with
  | none => rfl
  | some n =>
    by_cases due : n.due ≤ now
    · simp only [if_pos due, navigate_veiled]
    · simp only [if_neg due]

/-! ## Screens -/

theorem drawLogin_veiled (f : LoginForm) (c : Canvas) : drawLogin f.veiled c = drawLogin f c := by
  have same : mask f.veiled.password = mask f.password := mask_mask f.password
  rw [drawLogin, drawLogin, same]
  rfl

/-- Nothing on the screen is hidden by the veil. -/
theorem draw_veiled (width height : Nat) (a : App) :
    (a.veiled ρ).draw width height = a.draw width height := by
  have screen : (a.veiled ρ).screen = a.screen := rfl
  rw [draw, draw, screen]
  cases a.screen with
  | login => exact drawLogin_veiled a.login _
  | workspace => rfl

end App
end CompileDesk
