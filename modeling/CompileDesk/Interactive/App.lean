import CompileDesk.Interactive.Key
import CompileDesk.Login.Gate
import CompileDesk.Session.Basic
import CompileDesk.Theme.Preferences

/-! # The interactive program

The program is a state that actions, results of calls and the passing of time change. What has to be
done outside, such as calling the service, is queued as an effect. A change of screen is scheduled for
a time, in milliseconds, and made by the first tick at or after it; a later schedule replaces an
earlier one. Files and preferences are reached through the surroundings.
-/

namespace CompileDesk

structure Surroundings (σ : Type) extends Presenter σ where
  readSource : σ → Except DeskError String
  editSource : σ → Except DeskError Unit × σ
  preferences : Preferences σ

inductive Effect where
  | compile (id : RequestId) (source : String)
  | login (credentials : Credentials)
  | editSource
  deriving DecidableEq, Repr

inductive CallResult where
  | compiled (id : RequestId) (outcome : Outcome)
  | loggedIn (outcome : Outcome)

structure Navigation where
  target : Screen
  due : Nat
  deriving DecidableEq, Repr

/-- The state of the program. The editor has a theme of its own, which follows the chosen one. -/
structure App where
  screen : Screen
  login : LoginForm := {}
  panes : Panes := {}
  session : Session
  gate : LoginGate
  theme : Theme
  editorTheme : Theme
  endpoint : String
  source : String := ""
  navigation : Option Navigation := none
  effects : List Effect := []
  quitting : Bool := false
  deriving DecidableEq

namespace App

def say (a : App) (kind : StatusKind) (text : String) (time : LocalTime) : App :=
  { a with panes := a.panes.withStatus kind text time }

/-- Takes over what reading the source gave. A source that cannot be read counts as empty. -/
def withSource (a : App) (time : LocalTime) : Except DeskError String → App
  | .ok text => { a with source := text }
  | .error e => { a with source := "" }.say .error e.message time

def queue (a : App) (e : Effect) : App := { a with effects := a.effects ++ [e] }

/-- The effects that are queued, and the program without them. -/
def takeEffects (a : App) : List Effect × App := (a.effects, { a with effects := [] })

def start {σ : Type} (w : Surroundings σ) (session : Session) (gate : LoginGate)
    (endpoint : String) (screen : Screen) (s : σ) : App :=
  let theme := Theme.load w.preferences s
  { screen, session, gate, theme, editorTheme := theme, endpoint : App }.withSource (w.clock s) (w.readSource s)

def isRedirecting (a : App) : Bool := a.navigation.isSome

/-- Signs in with the form, unless a login is on its way or a change of screen is scheduled. -/
def submitLogin (a : App) (time : LocalTime) : App :=
  if a.login.pending || a.isRedirecting then a
  else
    match LoginGate.prepare? a.login.username a.login.password with
    | some credentials =>
      { a with login := { a.login with
          pending := true
          message := some ⟨.info, LoginForm.signingIn, time⟩ } }.queue (.login credentials)
    | none =>
      { a with login := { a.login with message := some ⟨.warning, LoginOutcome.missingFields, time⟩ } }

/-- Submits the source under a fresh number, unless a request is in flight. -/
def submitSource (a : App) (id : RequestId) : App :=
  match a.session.submit? a.panes id with
  | some (session, panes) => { a with session, panes }.queue (.compile id a.source)
  | none => a

/-- Reads the source again and submits it; one that cannot be read is not submitted. -/
def compile (a : App) (id : RequestId) (source : Except DeskError String) (time : LocalTime) : App :=
  match source with
  | .ok _ => (a.withSource time source).submitSource id
  | .error _ => a.withSource time source

def themeMessage (t : Theme) : String := "Switched to the " ++ t.name ++ " theme."

def themeFailure (e : DeskError) : String := "Could not save the theme preference: " ++ e.message

/-- Changes to the other theme, if it can be stored. -/
def toggleTheme {σ : Type} (w : Surroundings σ) (a : App) (s : σ) : App × σ :=
  let (result, theme, s) := Theme.toggle w.preferences a.theme s
  match result with
  | .ok chosen =>
    ({ a with theme, editorTheme := chosen }.say .info (themeMessage chosen) (w.clock s), s)
  | .error e => ({ a with theme }.say .error (themeFailure e) (w.clock s), s)

/-- Does what the user wants. The number is one that no earlier request has. -/
def dispatch {σ : Type} (w : Surroundings σ) (id : RequestId) (action : Action) (a : App) (s : σ) :
    App × σ :=
  match action with
  | .quit => ({ a with quitting := true }, s)
  | .nextField => ({ a with login := { a.login with focus := a.login.focus.next } }, s)
  | .previousField => ({ a with login := { a.login with focus := a.login.focus.previous } }, s)
  | .input c => ({ a with login := a.login.input c }, s)
  | .backspace => ({ a with login := a.login.backspace }, s)
  | .submitLogin => (a.submitLogin (w.clock s), s)
  | .compile => (a.compile id (w.readSource s) (w.clock s), s)
  | .editSource => (a.queue .editSource, s)
  | .toggleTheme => a.toggleTheme w s
  | .nextTab => ({ a with panes := { a.panes with tab := a.panes.tab.next } }, s)

def press {σ : Type} (w : Surroundings σ) (id : RequestId) (key : KeyPress) (a : App) (s : σ) :
    App × σ :=
  match Action.ofKey? a.screen a.login.focus key with
  | some action => a.dispatch w id action s
  | none => (a, s)

def sourceEdited {σ : Type} (w : Surroundings σ) (result : Except DeskError Unit) (a : App) (s : σ) :
    App :=
  let a := match result with
    | .ok () => a
    | .error e => a.say .error e.message (w.clock s)
  a.withSource (w.clock s) (w.readSource s)

/-- Schedules a change of screen in place of an earlier one. -/
def schedule (a : App) (target : Screen) (due : Nat) : App :=
  { a with navigation := some ⟨target, due⟩ }

def loginStatus (o : LoginOutcome) (time : LocalTime) : Status :=
  match o with
  | .accepted _ _ => ⟨.success, o.display, time⟩
  | .invalid => ⟨.warning, o.display, time⟩
  | .rejected _ => ⟨.error, o.display, time⟩
  | .unreachable _ => ⟨.error, o.display, time⟩

/-- Takes over the result of a compilation. When the session is over, the login screen is scheduled. -/
def compiled {σ : Type} (w : Surroundings σ) (id : RequestId) (outcome : Outcome) (now : Nat)
    (a : App) (s : σ) : App × σ :=
  let (settlement, b) := Session.settle w.toPresenter a.endpoint id outcome ⟨a.session, a.panes, s⟩
  let a := { a with session := b.session, panes := b.panes }
  match settlement with
  | .unauthorized after => (a.schedule .login (now + after), b.surroundings)
  | _ => (a, b.surroundings)

/-- Takes over the result of a login. When it was accepted, the workspace is scheduled. -/
def loggedIn (outcome : Outcome) (now : Nat) (time : LocalTime) (a : App) : App :=
  let judged := a.gate.conclude a.endpoint outcome
  let a := { a with login := { a.login with
    pending := false, message := some (loginStatus judged time) } }
  match judged with
  | .accepted _ after => a.schedule .workspace (now + after)
  | _ => a

def receive {σ : Type} (w : Surroundings σ) (result : CallResult) (now : Nat) (a : App) (s : σ) :
    App × σ :=
  match result with
  | .compiled id outcome => a.compiled w id outcome now s
  | .loggedIn outcome => (a.loggedIn outcome now (w.clock s), s)

def navigate (a : App) (target : Screen) (time : LocalTime) : App :=
  { a with
    navigation := none
    screen := target
    login := match target with
      | .login => a.login.returned time
      | .workspace => a.login.entered }

/-- Makes the scheduled change of screen if it is due. -/
def tick (now : Nat) (a : App) (time : LocalTime) : App :=
  match a.navigation with
  | some n => if n.due ≤ now then a.navigate n.target time else a
  | none => a

end App
end CompileDesk
