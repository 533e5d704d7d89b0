import CompileDesk.Interactive.App
import CompileDesk.Proofs.SessionInvariant
import Mathlib.Tactic.SplitIfs

/-!
# What changes the program

Each thing that can happen to the program is reduced once to the fields that it changes, together
with the condition under which it does so. Later proofs look at these few shapes and not at the
actions, replies and edits behind them.
-/

namespace CompileDesk

/-- Surroundings in which the source is always the same, preferences are kept in memory, no diagram can
be rendered and the clock stands still. -/
def Surroundings.constant (source : String) : Surroundings (List (String × String)) where
  readSource _ := .ok source
  editSource s := (.ok (), s)
  preferences := .inMemory
  render := .ofFunction fun _ => .error (.unavailable "dot")
  clock _ := ⟨2000, 1, 2, 3, 4, 5, 678⟩

/-- The screen that a result can lead to. -/
def CallResult.target : CallResult → Screen
  | compiled _ _ => .login
  | loggedIn _ => .workspace

/-- What the keys of the workspace ask for. -/
theorem Action.mem_of_ofKey?_workspace {focus : LoginField} {k : KeyPress} {action : Action}
    (asked : ofKey? .workspace focus k = some action) :
    action ∈ [quit, compile, editSource, toggleTheme, nextTab] := by
  obtain ⟨key, control, shift, alt⟩ := k
  cases control with
  | true =>
    change withControl? .workspace key = some action at asked
    unfold withControl? at asked
    split_ifs at asked <;> cases asked <;> simp
  | false =>
    change onWorkspace? key = some action at asked
    cases key with
    | function n =>
      replace asked : (if n = 5 then some compile else none) = some action := asked
      split_ifs at asked
      cases asked
      simp
    | char c =>
      replace asked : (if c = 'e' then some editSource else if c = 't' then some toggleTheme
        else if c = 'q' ∨ c = 'Q' then some quit else none) = some action := asked
      split_ifs at asked <;> cases asked <;> simp
    | tab | escape =>
      cases asked
      simp
    | _ => cases asked

namespace App

variable {σ : Type}

/-- The change of screen that the result of a call asks for at a time: the login screen for an expired
session, if the result is for the request in flight, and the workspace for an accepted login. -/
def requested? (a : App) (now : Nat) : CallResult → Option Navigation
  | .compiled id (.ok reply) =>
    if a.session.inFlight = some id ∧ reply.status = sessionExpiredStatus then
      some ⟨.login, now + a.session.redirectDelay⟩
    else none
  | .loggedIn (.ok reply) =>
    if reply.isSuccess then some ⟨.workspace, now + a.gate.redirectDelay⟩ else none
  | _ => none

def delayTo (a : App) : Screen → Nat
  | .login => a.session.redirectDelay
  | .workspace => a.gate.redirectDelay

theorem eq_of_requested? {a : App} {now : Nat} {r : CallResult} {n : Navigation}
    (h : a.requested? now r = some n) : n = ⟨r.target, now + a.delayTo r.target⟩ := by
  cases r with
  | compiled id outcome =>
    cases outcome with
    | error e => cases h
    | ok reply =>
      rw [requested?] at h
      split at h
      · exact (Option.some.inj h).symm
      · cases h
  | loggedIn outcome =>
    cases outcome with
    | error e => cases h
    | ok reply =>
      rw [requested?] at h
      split at h
      · exact (Option.some.inj h).symm
      · cases h

theorem requested?_compiled_of_ne {a : App} {id : RequestId} (h : a.session.inFlight ≠ some id)
    (now : Nat) (outcome : Outcome) : a.requested? now (.compiled id outcome) = none := by
  cases outcome with
  | error e => rfl
  | ok reply => exact if_neg fun both => h both.1

/-- What an action can make of the program. -/
inductive Acted (w : Surroundings σ) (id : RequestId) (a : App) (s : σ) : App → Prop where
  /-- Only what is shown changes, or that the user wants to quit. -/
  | shown (source : String) (theme editorTheme : Theme) (quitting : Bool) (tab : Tab)
      (status : Option Status) :
      Acted w id a s { a with
        source, theme, editorTheme, quitting, panes := { a.panes with tab, status } }
  /-- Only the form changes, and not whether a login is on its way. -/
  | filled (login : LoginForm) (same : login.pending = a.login.pending) :
      Acted w id a s { a with login }
  /-- A login is queued; none was on its way and no change of screen was scheduled. -/
  | signingIn (credentials : Credentials) (message : Option Status)
      (idle : a.login.pending = false) (still : a.navigation = none) :
      Acted w id a s { a with
        login := { a.login with pending := true, message }
        effects := a.effects ++ [.login credentials] }
  /-- The source as it was read is taken for compilation. -/
  | submitted (source : String) (read : w.readSource s = .ok source)
      (idle : a.session.phase ≠ .submitting) :
      Acted w id a s { a with
        source
        session := a.session.submitted id
        panes := a.panes.cleared
        effects := a.effects ++ [.compile id source] }
  /-- An edit of the source is queued. -/
  | editing : Acted w id a s { a with effects := a.effects ++ [.editSource] }

theorem withSource_eq (a : App) (time : LocalTime) (read : Except DeskError String) :
    ∃ source status, a.withSource time read = { a with source, panes := { a.panes with status } } := by
  cases read with
  | ok source => exact ⟨source, a.panes.status, rfl⟩
  | error e => exact ⟨"", some ⟨.error, e.message, time⟩, rfl⟩

/-- The program starts with nothing scheduled, queued or typed; only the status may tell of a source
that could not be read. -/
theorem start_eq (w : Surroundings σ) (session : Session) (gate : LoginGate) (endpoint : String)
    (screen : Screen) (s : σ) :
    ∃ source status, start w session gate endpoint screen s = {
      screen, session, gate, endpoint, source, panes := { status }
      theme := .load w.preferences s
      editorTheme := .load w.preferences s } := by
  rw [start]
  exact withSource_eq _ (w.clock s) (w.readSource s)

theorem sourceEdited_eq (w : Surroundings σ) (result : Except DeskError Unit) (a : App) (s : σ) :
    ∃ source status,
      a.sourceEdited w result s = { a with source, panes := { a.panes with status } } := by
  cases result with
  | ok _ => exact withSource_eq a (w.clock s) (w.readSource s)
  | error e =>
    obtain ⟨source, status, h⟩ :=
      withSource_eq (a.say .error e.message (w.clock s)) (w.clock s) (w.readSource s)
    exact ⟨source, status, h⟩

theorem submitLogin_eq (a : App) (time : LocalTime) :
    ∃ login effects, a.submitLogin time = { a with login, effects } := by
  rw [submitLogin]
  split
  · exact ⟨a.login, a.effects, rfl⟩
  · split
    · exact ⟨_, _, rfl⟩
    · exact ⟨_, a.effects, rfl⟩

theorem compile_eq (a : App) (id : RequestId) (read : Except DeskError String) (time : LocalTime) :
    ∃ source session panes effects,
      a.compile id read time = { a with source, session, panes, effects } := by
  cases read with
  | error e => exact ⟨"", a.session, _, a.effects, rfl⟩
  | ok source =>
    simp only [compile, withSource, submitSource]
    split
    · exact ⟨source, _, _, _, rfl⟩
    · exact ⟨source, a.session, a.panes, a.effects, rfl⟩

theorem sourceEdited_withEffects (w : Surroundings σ) (result : Except DeskError Unit) (a : App)
    (s : σ) (effects : List Effect) :
    { a with effects }.sourceEdited w result s = { a.sourceEdited w result s with effects } := by
  cases result <;> cases h : w.readSource s <;> simp [sourceEdited, withSource, say, h]

theorem submitLogin_acted (w : Surroundings σ) (id : RequestId) (a : App) (s : σ) :
    Acted w id a s (a.submitLogin (w.clock s)) := by
  unfold submitLogin
  split
  · exact .filled a.login rfl
  · rename_i h
    obtain ⟨idle, still⟩ : a.login.pending = false ∧ a.navigation = none := by
      simpa [isRedirecting] using h
    split
    · exact .signingIn _ _ idle still
    · exact .filled _ rfl

theorem compile_acted (w : Surroundings σ) (id : RequestId) (a : App) (s : σ) :
    Acted w id a s (a.compile id (w.readSource s) (w.clock s)) := by
  cases read : w.readSource s with
  | error e => exact .shown "" a.theme a.editorTheme a.quitting a.panes.tab _
  | ok source =>
    by_cases busy : a.session.phase = .submitting
    · have h : a.compile id (.ok source) (w.clock s) = { a with source } := by
        simp [compile, withSource, submitSource, Session.submit?_eq, busy]
      rw [h]
      exact .shown source a.theme a.editorTheme a.quitting a.panes.tab a.panes.status
    · have h : a.compile id (.ok source) (w.clock s) = { a with
          source
          session := a.session.submitted id
          panes := a.panes.cleared
          effects := a.effects ++ [.compile id source] } := by
        simp [compile, withSource, submitSource, Session.submit?_eq, busy, queue]
      rw [h]
      exact .submitted source read busy

theorem toggleTheme_acted (w : Surroundings σ) (id : RequestId) (a : App) (s : σ) :
    Acted w id a s (a.toggleTheme w s).1 := by
  simp only [toggleTheme]
  split
  · exact .shown a.source _ _ a.quitting a.panes.tab _
  · exact .shown a.source _ a.editorTheme a.quitting a.panes.tab _

/-- Every action has one of the five shapes. -/
theorem dispatch_acted (w : Surroundings σ) (id : RequestId) (action : Action) (a : App) (s : σ) :
    Acted w id a s (a.dispatch w id action s).1 := by
  cases action with
  | quit => exact .shown a.source a.theme a.editorTheme true a.panes.tab a.panes.status
  | nextField => exact .filled { a.login with focus := a.login.focus.next } rfl
  | previousField => exact .filled { a.login with focus := a.login.focus.previous } rfl
  | input c =>
    refine .filled (a.login.input c) ?_
    cases h : a.login.focus <;> simp [LoginForm.input, h]
  | backspace =>
    refine .filled a.login.backspace ?_
    cases h : a.login.focus <;> simp [LoginForm.backspace, h]
  | submitLogin => exact submitLogin_acted w id a s
  | compile => exact compile_acted w id a s
  | editSource => exact .editing
  | toggleTheme => exact toggleTheme_acted w id a s
  | nextTab => exact .shown a.source a.theme a.editorTheme a.quitting a.panes.tab.next a.panes.status

/-- A key press without a meaning changes nothing, and every other one acts. -/
theorem press_acted (w : Surroundings σ) (id : RequestId) (key : KeyPress) (a : App) (s : σ) :
    Acted w id a s (a.press w id key s).1 := by
  unfold press
  split
  · exact dispatch_acted w id _ a s
  · exact .filled a.login rfl

theorem toggleTheme_login (w : Surroundings σ) (a : App) (s : σ) :
    (a.toggleTheme w s).1.login = a.login := by
  simp only [toggleTheme]
  split <;> rfl

theorem dispatch_login {action : Action}
    (inWorkspace : action ∈ [.quit, .compile, .editSource, .toggleTheme, .nextTab])
    (w : Surroundings σ) (id : RequestId) (a : App) (s : σ) :
    (a.dispatch w id action s).1.login = a.login := by
  cases action with
  | quit | editSource | nextTab => rfl
  | compile =>
    obtain ⟨source, session, panes, effects, compiled⟩ := compile_eq a id (w.readSource s) (w.clock s)
    rw [dispatch, compiled]
  | toggleTheme => exact toggleTheme_login w a s
  | _ => simp at inWorkspace

/-- No key of the workspace touches the form. -/
theorem press_login {a : App} (inWorkspace : a.screen = .workspace) (w : Surroundings σ)
    (id : RequestId) (key : KeyPress) (s : σ) : (a.press w id key s).1.login = a.login := by
  rw [press, inWorkspace]
  cases asked : Action.ofKey? .workspace a.login.focus key with
  | none => rfl
  | some action => exact dispatch_login (Action.mem_of_ofKey?_workspace asked) w id a s

section Receive

variable (w : Surroundings σ) (id : RequestId) (outcome : Outcome) (now : Nat) (s : σ)

theorem receive_compiled_of_ne {a : App} (h : a.session.inFlight ≠ some id) :
    a.receive w (.compiled id outcome) now s = (a, s) := by
  simp [receive, compiled, Session.settle_of_ne, h]

/-- The request in flight is settled by its judgement, and an expired session is redirected. -/
theorem receive_compiled_of_eq {a : App} (h : a.session.inFlight = some id) :
    a.receive w (.compiled id outcome) now s =
      let judged := Session.judge w.toPresenter a.endpoint a.session.redirectDelay outcome a.panes s
      ({ a with
        session := a.session.settledIn judged.2.1
        panes := judged.2.2.1
        navigation := (a.requested? now (.compiled id outcome)).or a.navigation }, judged.2.2.2) := by
  have hj := Session.judge_settlement_eq_unauthorized_iff w.toPresenter a.endpoint
    a.session.redirectDelay outcome a.panes s
  simp only [receive, compiled, Session.settle_of_eq w.toPresenter a.endpoint outcome
    (b := ⟨a.session, a.panes, s⟩) h]
  split
  · rename_i after hs
    obtain ⟨⟨reply, rfl, expired⟩, rfl⟩ := (hj _).mp hs
    simp [requested?, h, expired, schedule]
  · rename_i hs
    have none : a.requested? now (.compiled id outcome) = none := by
      cases outcome with
      | error e => rfl
      | ok reply =>
        have : reply.status ≠ sessionExpiredStatus := fun expired =>
          hs _ ((hj a.session.redirectDelay).mpr ⟨⟨reply, rfl, expired⟩, rfl⟩)
        simp [requested?, this]
    simp [none]

theorem receive_loggedIn (a : App) :
    a.receive w (.loggedIn outcome) now s = ({ a with
      login := { a.login with
        pending := false
        message := some (loginStatus (a.gate.conclude a.endpoint outcome) (w.clock s)) }
      navigation := (a.requested? now (.loggedIn outcome)).or a.navigation }, s) := by
  cases outcome with
  | error e => rfl
  | ok reply =>
    by_cases h : reply.isSuccess = true <;>
      simp [receive, loggedIn, LoginGate.conclude, requested?, h, schedule]

end Receive

/-- What a result that is taken over can make of the program. -/
inductive Received (a : App) (now : Nat) : CallResult → App → Prop where
  | stale {id : RequestId} (outcome : Outcome) (other : a.session.inFlight ≠ some id) :
      Received a now (.compiled id outcome) a
  | settled {id : RequestId} (outcome : Outcome) (busy : a.session.inFlight = some id)
      (phase : Phase) (ended : phase ≠ .submitting) (panes : Panes) :
      Received a now (.compiled id outcome) { a with
        session := a.session.settledIn phase
        panes
        navigation := (a.requested? now (.compiled id outcome)).or a.navigation }
  | loggedIn (outcome : Outcome) (message : Option Status) :
      Received a now (.loggedIn outcome) { a with
        login := { a.login with pending := false, message }
        navigation := (a.requested? now (.loggedIn outcome)).or a.navigation }

theorem receive_received (w : Surroundings σ) (r : CallResult) (now : Nat) (a : App) (s : σ) :
    Received a now r (a.receive w r now s).1 := by
  cases r with
  | compiled id outcome =>
    by_cases h : a.session.inFlight = some id
    · rw [receive_compiled_of_eq w id outcome now s h]
      exact .settled outcome h _ (Session.judge_phase_ne_submitting _ _ _ _ _ _) _
    · rw [receive_compiled_of_ne w id outcome now s h]
      exact .stale outcome h
  | loggedIn outcome =>
    rw [receive_loggedIn]
    exact .loggedIn outcome _

theorem Acted.screen {w : Surroundings σ} {id : RequestId} {a b : App} {s : σ}
    (h : Acted w id a s b) : b.screen = a.screen := by
  cases h <;> rfl

theorem Received.screen {a b : App} {now : Nat} {r : CallResult} (h : Received a now r b) :
    b.screen = a.screen := by
  cases h <;> rfl

theorem Received.focus {a b : App} {now : Nat} {r : CallResult} (h : Received a now r b) :
    b.login.focus = a.login.focus := by
  cases h <;> rfl

theorem Received.effects {a b : App} {now : Nat} {r : CallResult} (h : Received a now r b) :
    b.effects = a.effects := by
  cases h <;> rfl

theorem Received.navigation {a b : App} {now : Nat} {r : CallResult} (h : Received a now r b) :
    b.navigation = (a.requested? now r).or a.navigation := by
  cases h with
  | stale outcome other => rw [requested?_compiled_of_ne other, Option.none_or]
  | settled => rfl
  | loggedIn => rfl

section Tick

variable {a : App} {n : Navigation} {now : Nat} {time : LocalTime}

theorem tick_of_due (h : a.navigation = some n) (due : n.due ≤ now) :
    a.tick now time = a.navigate n.target time := by simp [tick, h, due]

theorem tick_of_early (h : a.navigation = some n) (early : now < n.due) : a.tick now time = a := by
  simp [tick, h, Nat.not_le.mpr early]

theorem tick_of_none (h : a.navigation = none) : a.tick now time = a := by simp [tick, h]

theorem tick_cases (a : App) (now : Nat) (time : LocalTime) :
    a.tick now time = a ∨
      ∃ n, a.navigation = some n ∧ n.due ≤ now ∧ a.tick now time = a.navigate n.target time := by
  cases h : a.navigation with
  | none => exact .inl (tick_of_none h)
  | some n =>
    rcases Nat.lt_or_ge now n.due with early | due
    · exact .inl (tick_of_early h early)
    · exact .inr ⟨n, rfl, due, tick_of_due h due⟩

end Tick

end App
end CompileDesk
