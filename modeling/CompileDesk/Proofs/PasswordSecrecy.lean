import CompileDesk.Proofs.Veiling

/-!
# Passwords stay secret

Two runs of the program are compared that differ in the characters typed while the password has the
focus, one for one, and in the numbers of the requests. Under a veil they are one run: so they show
the same screens, queue the same effects and come to the same states, but for the passwords
themselves.
-/

namespace CompileDesk

/-- A character without the control key. -/
def KeyPress.types (k : KeyPress) : Prop := k.control = false ∧ ∃ c, k.key = .char c

/-- The key press as it is under a veil while a part of the form has the focus. -/
def KeyPress.veiled (focus : LoginField) (k : KeyPress) : KeyPress :=
  match k.control, k.key, focus with
  | false, .char _, .password => ⟨.char '*', false, false, false⟩
  | _, _, _ => k

theorem KeyPress.types.veiled_eq {k : KeyPress} (h : k.types) :
    k.veiled .password = ⟨.char '*', false, false, false⟩ := by
  obtain ⟨key, control, shift, alt⟩ := k
  obtain ⟨rfl, c, rfl⟩ := h
  rfl

theorem KeyPress.veiled_of_ne {focus : LoginField} (other : focus ≠ .password) (k : KeyPress) :
    k.veiled focus = k := by
  unfold veiled
  split
  · exact absurd rfl other
  · rfl

theorem Action.veiled_of_ne {focus : LoginField} (other : focus ≠ .password) (action : Action) :
    action.veiled focus = action := by
  cases action <;> simp [veiled, other]

/-- A key press asks for an action under the veil that is the veiled one. -/
theorem Action.ofKey?_veiled {screen : Screen} {focus : LoginField}
    (shown : focus = .password → screen = .login) (k : KeyPress) :
    ofKey? screen focus (k.veiled focus) = (ofKey? screen focus k).map (Action.veiled focus) := by
  by_cases hidden : focus = .password
  -- On the login screen every character is typed, whichever it is; elsewhere keys have meanings.
  · obtain rfl := shown hidden
    subst hidden
    obtain ⟨key, control, shift, alt⟩ := k
    cases control with
    | false => cases key <;> rfl
    | true =>
      change withControl? .login key = (withControl? .login key).map _
      by_cases quits : key = .char 'c'
      · rw [quits]
        rfl
      · simp [withControl?, quits]
  · have kept : Action.veiled focus = id := funext fun action => action.veiled_of_ne hidden
    rw [k.veiled_of_ne hidden, kept, Option.map_id_fun, id]

namespace App

variable {σ : Type}

/-! ## Runs of the program under the hands of a user -/

/-- One thing that happens to the program while it runs. A key press brings the number that a request
gets if the key asks for one. -/
inductive Event (σ : Type) where
  | pressed (id : RequestId) (key : KeyPress)
  | received (r : CallResult) (now : Nat)
  | edited (report : Except DeskError Unit)
  | ticked (now : Nat)
  | drained
  | outside (s : σ)

namespace Event

def apply (w : Surroundings σ) : Event σ → App × σ → App × σ
  | pressed id key, (a, s) => a.press w id key s
  | received r now, (a, s) => a.receive w r now s
  | edited report, (a, s) => (a.sourceEdited w report s, s)
  | ticked now, (a, s) => (a.tick now (w.clock s), s)
  | drained, (a, s) => (a.takeEffects.2, s)
  | outside s, (a, _) => (a, s)

/-- The same with other numbers for the requests. -/
def renumbered (ρ : RequestId → RequestId) : Event σ → Event σ
  | pressed id key => pressed (ρ id) key
  | received r now => received (r.renumbered ρ) now
  | e => e

/-- The event as it is under a veil while a part of the form has the focus. -/
def veiled (ρ : RequestId → RequestId) (focus : LoginField) : Event σ → Event σ
  | pressed id key => pressed (ρ id) (key.veiled focus)
  | e => e.renumbered ρ

end Event

def played (w : Surroundings σ) (events : List (Event σ)) (x : App × σ) : App × σ :=
  events.foldl (fun x e => e.apply w x) x

/-- Two events that are the same, but for the numbers of requests and for a character typed while the
password has the focus. -/
inductive Alike (ρ : RequestId → RequestId) (focus : LoginField) : Event σ → Event σ → Prop where
  | same (e : Event σ) : Alike ρ focus e (e.renumbered ρ)
  | typed (hidden : focus = .password) (id : RequestId) {key key' : KeyPress} (types : key.types)
      (types' : key'.types) : Alike ρ focus (.pressed id key) (.pressed (ρ id) key')

/-- Two lists of events that are alike one for one; the focus is that of the first run. -/
inductive AllAlike (w : Surroundings σ) (ρ : RequestId → RequestId) :
    App × σ → List (Event σ) → List (Event σ) → Prop where
  | nil (x : App × σ) : AllAlike w ρ x [] []
  | cons {x : App × σ} {e e' : Event σ} {es es' : List (Event σ)}
      (first : Alike ρ x.1.login.focus e e') (rest : AllAlike w ρ (e.apply w x) es es') :
      AllAlike w ρ x (e :: es) (e' :: es')

/-! ## The focus -/

/-- In the workspace the first field of the form has the focus. -/
def FormAtRest (a : App) : Prop := a.screen = .workspace → a.login.focus = .username

theorem FormAtRest.shown {a : App} (h : a.FormAtRest) (hidden : a.login.focus = .password) :
    a.screen = .login := by
  cases screen : a.screen with
  | login => rfl
  | workspace =>
    rw [h screen] at hidden
    cases hidden

theorem formAtRest_start (w : Surroundings σ) (session : Session) (gate : LoginGate)
    (endpoint : String) (screen : Screen) (s : σ) :
    (start w session gate endpoint screen s).FormAtRest := by
  obtain ⟨source, status, started⟩ := start_eq w session gate endpoint screen s
  rw [started]
  exact fun _ => rfl

theorem FormAtRest.apply {a : App} (h : a.FormAtRest) (w : Surroundings σ) (e : Event σ) (s : σ) :
    (e.apply w (a, s)).1.FormAtRest := by
  cases e with
  | pressed id key =>
    have screen := (press_acted w id key a s).screen
    intro inWorkspace
    rw [Event.apply, screen] at inWorkspace
    rw [Event.apply, press_login inWorkspace w id key s]
    exact h inWorkspace
  | received r now =>
    have received := receive_received w r now a s
    intro inWorkspace
    rw [Event.apply, received.screen] at inWorkspace
    rw [Event.apply, received.focus]
    exact h inWorkspace
  | edited report =>
    obtain ⟨source, status, edited⟩ := sourceEdited_eq w report a s
    rw [Event.apply, edited]
    exact h
  | ticked now =>
    obtain same | ⟨n, _, _, moved⟩ := a.tick_cases now (w.clock s)
    · rw [Event.apply, same]
      exact h
    · rw [Event.apply, moved]
      intro inWorkspace
      have target : n.target = .workspace := inWorkspace
      rw [target]
      rfl
  | drained => exact h
  | outside t => exact h

/-! ## One event -/

theorem press_veiled (ρ : RequestId → RequestId) (w : Surroundings σ) (id : RequestId)
    (key : KeyPress) {a : App} (h : a.FormAtRest) (s : σ) :
    (a.veiled ρ).press w (ρ id) (key.veiled a.login.focus) s =
      ((a.press w id key s).1.veiled ρ, (a.press w id key s).2) := by
  have asked : Action.ofKey? (a.veiled ρ).screen (a.veiled ρ).login.focus
      (key.veiled a.login.focus) =
      (Action.ofKey? a.screen a.login.focus key).map (Action.veiled a.login.focus) :=
    Action.ofKey?_veiled h.shown key
  rw [press, press, asked]
  cases Action.ofKey? a.screen a.login.focus key with
  | none => rfl
  | some action => exact dispatch_veiled ρ w id action a s

/-- What happens to the program happens under the veil too. -/
theorem Event.apply_veiled {ρ : RequestId → RequestId} (apart : Function.Injective ρ)
    (w : Surroundings σ) (e : Event σ) {a : App} (h : a.FormAtRest) (s : σ) :
    (e.veiled ρ a.login.focus).apply w (a.veiled ρ, s) =
      ((e.apply w (a, s)).1.veiled ρ, (e.apply w (a, s)).2) := by
  cases e with
  | pressed id key => exact press_veiled ρ w id key h s
  | received r now => exact receive_veiled apart w r now a s
  | edited report => exact congrArg (·, s) (sourceEdited_veiled ρ w report a s)
  | ticked now => exact congrArg (·, s) (tick_veiled ρ now a (w.clock s))
  | drained => rfl
  | outside t => rfl

theorem Event.veiled_renumbered (ρ : RequestId → RequestId) (focus : LoginField) (e : Event σ) :
    (e.renumbered ρ).veiled id focus = e.veiled ρ focus := by
  cases e with
  | received r now => cases r <;> rfl
  | _ => rfl

/-- Events that are alike are the same under the veil. -/
theorem Alike.veiled_eq {ρ : RequestId → RequestId} {focus : LoginField} {e e' : Event σ}
    (h : Alike ρ focus e e') : e'.veiled id focus = e.veiled ρ focus := by
  cases h with
  | same e => exact e.veiled_renumbered ρ focus
  | typed hidden id types types' =>
    subst hidden
    rw [Event.veiled, Event.veiled, types.veiled_eq, types'.veiled_eq]
    rfl

/-! ## Whole runs -/

/-- Two states that are the same but for passwords, which are equally long, and the numbers of
requests. -/
structure Agree (ρ : RequestId → RequestId) (x y : App × σ) : Prop where
  app : y.1.veiled id = x.1.veiled ρ
  surroundings : y.2 = x.2

theorem Agree.draw_eq {ρ : RequestId → RequestId} {x y : App × σ} (h : Agree ρ x y)
    (width height : Nat) : y.1.draw width height = x.1.draw width height := by
  rw [← draw_veiled id width height y.1, h.app, draw_veiled]

theorem Agree.apply {ρ : RequestId → RequestId} (apart : Function.Injective ρ)
    {w : Surroundings σ} {x y : App × σ} (h : Agree ρ x y) (atRest : x.1.FormAtRest)
    (atRest' : y.1.FormAtRest) {e e' : Event σ} (alike : Alike ρ x.1.login.focus e e') :
    Agree ρ (e.apply w x) (e'.apply w y) := by
  obtain ⟨a, s⟩ := x
  obtain ⟨b, t⟩ := y
  obtain ⟨app, rfl⟩ := h
  have focus : (b.veiled id).login.focus = (a.veiled ρ).login.focus := congrArg (·.login.focus) app
  replace focus : b.login.focus = a.login.focus := focus
  -- Under the veil both events are one event at one state.
  have one := e.apply_veiled apart w atRest t
  have other := e'.apply_veiled Function.injective_id w atRest' t
  rw [focus, alike.veiled_eq, app, one, Prod.mk.injEq] at other
  exact ⟨other.1.symm, other.2.symm⟩

theorem AllAlike.agree {ρ : RequestId → RequestId} (apart : Function.Injective ρ)
    {w : Surroundings σ} {x y : App × σ} {es es' : List (Event σ)} (alike : AllAlike w ρ x es es')
    (h : Agree ρ x y) (atRest : x.1.FormAtRest) (atRest' : y.1.FormAtRest) :
    Agree ρ (played w es x) (played w es' y) := by
  induction alike generalizing y with
  | nil x => exact h
  | cons first rest ih =>
    exact ih (h.apply apart atRest atRest' first) (atRest.apply w _ _) (atRest'.apply w _ _)

theorem AllAlike.take {w : Surroundings σ} {ρ : RequestId → RequestId} {x : App × σ}
    {es es' : List (Event σ)} (alike : AllAlike w ρ x es es') (n : Nat) :
    AllAlike w ρ x (es.take n) (es'.take n) := by
  induction alike generalizing n with
  | nil x => cases n <;> exact .nil x
  | @cons x e e' es es' first rest ih =>
    cases n with
    | zero => exact .nil x
    | succ n => exact .cons first (ih n)

theorem agree_start (ρ : RequestId → RequestId) (w : Surroundings σ) (delay : Nat) (gate : LoginGate)
    (endpoint : String) (screen : Screen) (s : σ) :
    Agree ρ (start w { redirectDelay := delay } gate endpoint screen s, s)
      (start w { redirectDelay := delay } gate endpoint screen s, s) := by
  obtain ⟨source, status, started⟩ :=
    start_eq w { redirectDelay := delay } gate endpoint screen s
  refine ⟨?_, rfl⟩
  rw [started]
  rfl

/-- Let two runs from one start be alike but for the characters typed while the password has the focus
and for the numbers of requests. After each event the states are the same, queued effects
included, but for the password in the form and in the credentials, and so are the screens. -/
theorem passwords_stay_secret (w : Surroundings σ) (delay : Nat) (gate : LoginGate)
    (endpoint : String) (screen : Screen) (s : σ) {ρ : RequestId → RequestId}
    (apart : Function.Injective ρ) {es es' : List (Event σ)}
    (alike : AllAlike w ρ (start w { redirectDelay := delay } gate endpoint screen s, s) es es')
    (n : Nat) :
    let x := played w (es.take n) (start w { redirectDelay := delay } gate endpoint screen s, s)
    let y := played w (es'.take n) (start w { redirectDelay := delay } gate endpoint screen s, s)
    Agree ρ x y ∧ ∀ width height, y.1.draw width height = x.1.draw width height := by
  intro x y
  have atRest := formAtRest_start w { redirectDelay := delay } gate endpoint screen s
  have agree : Agree ρ x y :=
    (alike.take n).agree apart (agree_start ρ w delay gate endpoint screen s) atRest atRest
  exact ⟨agree, agree.draw_eq⟩

/-- A user signs in with a password of one character, and compiles. -/
def signInAndCompile (password : Char) (id : Nat) : List (Event (List (String × String))) :=
  [.pressed ⟨id⟩ ⟨.char 'u', false, false, false⟩, .pressed ⟨id⟩ ⟨.tab, false, false, false⟩,
    .pressed ⟨id⟩ ⟨.char password, false, false, false⟩,
    .pressed ⟨id⟩ ⟨.enter, false, false, false⟩, .drained, .received (.loggedIn (.ok ⟨200, ""⟩)) 0,
    .ticked 800, .pressed ⟨id⟩ ⟨.function 5, false, false, false⟩]

theorem alike_signInAndCompile :
    AllAlike (.constant "") (fun id => ⟨id.number + 1⟩)
      (start (.constant "") { redirectDelay := 1500 } ⟨800⟩ "" .login [], [])
      (signInAndCompile 'p' 3) (signInAndCompile 'q' 4) :=
  .cons (.same _) <| .cons (.same _) <| .cons (.typed rfl _ ⟨rfl, 'p', rfl⟩ ⟨rfl, 'q', rfl⟩) <|
    .cons (.same _) <| .cons (.same _) <| .cons (.same _) <| .cons (.same _) <| .cons (.same _) <|
    .nil _

theorem agree_signInAndCompile :
    let x := played (.constant "") ((signInAndCompile 'p' 3).take 8)
      (start (.constant "") { redirectDelay := 1500 } ⟨800⟩ "" .login [], [])
    let y := played (.constant "") ((signInAndCompile 'q' 4).take 8)
      (start (.constant "") { redirectDelay := 1500 } ⟨800⟩ "" .login [], [])
    Agree (fun id => ⟨id.number + 1⟩) x y ∧
      ∀ width height, y.1.draw width height = x.1.draw width height := by
  have apart : Function.Injective fun id : RequestId => (⟨id.number + 1⟩ : RequestId) := by
    rintro ⟨m⟩ ⟨n⟩ same
    simpa using same
  exact passwords_stay_secret (.constant "") 1500 ⟨800⟩ "" .login [] apart alike_signInAndCompile 8

end App
end CompileDesk
