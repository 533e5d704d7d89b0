import CompileDesk.Interactive.Loop
import CompileDesk.Proofs.AppChanges
import Mathlib.Data.Multiset.Filter

/-!
# The program with its workers

Workers make the calls to the service while the program goes on. A step is one of the things that can
happen next: a key press, a result that is taken over, a tick, a queued effect that is started, or a
worker that ends, be it because its call came down. Neither the queue, the workers nor the results
have an order in which they must be served, so that the runs contain every interleaving. Each turn
of the event loop is one of them.
-/

namespace CompileDesk

/-- A call to the service that a worker makes. -/
inductive Call where
  | compile (id : RequestId) (source : String)
  | login (credentials : Credentials)
  deriving DecidableEq

namespace Call

def request (service : Service) : Call → Request
  | compile _ source => service.compileRequest source
  | login credentials => service.loginRequest credentials

def result (outcome : Outcome) : Call → CallResult
  | compile id _ => .compiled id outcome
  | login _ => .loggedIn outcome

def crash (service : Service) (reason : Option String) (call : Call) : Outcome :=
  .error ⟨(call.request service).url, Answer.crashDetail reason⟩

end Call

/-- The call that carries out an effect; an edit needs none. -/
def Effect.call? : Effect → Option Call
  | .compile id source => some (.compile id source)
  | .login credentials => some (.login credentials)
  | .editSource => none

/-- The program, its surroundings, the calls that workers are making, and the results that were not
taken over yet. -/
structure Workshop (σ : Type) where
  app : App
  surroundings : σ
  workers : Multiset Call := 0
  results : Multiset CallResult := 0

/-- What happens in a step. -/
inductive Happening where
  | pressed (id : RequestId) (key : KeyPress)
  | takenOver (result : CallResult) (now : Nat)
  | ticked (now : Nat)
  | started (call : Call)
  | edited
  | ended (result : CallResult)
  | changedOutside

namespace Workshop

variable {σ : Type}

/-- A step of the program with its workers. A key press brings the number that a request would get.
The surroundings may also change by themselves. -/
inductive Step (w : Surroundings σ) (service : Service) :
    Workshop σ → Happening → Workshop σ → Prop where
  | press (x : Workshop σ) (id : RequestId) (key : KeyPress) :
      Step w service x (.pressed id key) { x with
        app := (x.app.press w id key x.surroundings).1
        surroundings := (x.app.press w id key x.surroundings).2 }
  | takeOver {x : Workshop σ} {result : CallResult} {others : Multiset CallResult} (now : Nat)
      (arrived : x.results = result ::ₘ others) :
      Step w service x (.takenOver result now) { x with
        app := (x.app.receive w result now x.surroundings).1
        surroundings := (x.app.receive w result now x.surroundings).2
        results := others }
  | tick (x : Workshop σ) (now : Nat) :
      Step w service x (.ticked now) { x with app := x.app.tick now (w.clock x.surroundings) }
  | start {x : Workshop σ} (before after : List Effect) {effect : Effect} {call : Call}
      (queued : x.app.effects = before ++ effect :: after) (calls : effect.call? = some call) :
      Step w service x (.started call) { x with
        app := { x.app with effects := before ++ after }
        workers := call ::ₘ x.workers }
  | edit {x : Workshop σ} (before after : List Effect)
      (queued : x.app.effects = before ++ .editSource :: after) :
      Step w service x .edited { x with
        app := { x.app with effects := before ++ after }.sourceEdited w
          (w.editSource x.surroundings).1 (w.editSource x.surroundings).2
        surroundings := (w.editSource x.surroundings).2 }
  | finish {x : Workshop σ} {call : Call} {others : Multiset Call} (outcome : Outcome)
      (working : x.workers = call ::ₘ others) :
      Step w service x (.ended (call.result outcome)) { x with
        workers := others
        results := call.result outcome ::ₘ x.results }
  | comeDown {x : Workshop σ} {call : Call} {others : Multiset Call} (reason : Option String)
      (working : x.workers = call ::ₘ others) :
      Step w service x (.ended (call.result (call.crash service reason))) { x with
        workers := others
        results := call.result (call.crash service reason) ::ₘ x.results }
  | outside (x : Workshop σ) (s : σ) :
      Step w service x .changedOutside { x with surroundings := s }

/-- A finite run, with what happened in it in order. -/
inductive Runs (w : Surroundings σ) (service : Service) (x : Workshop σ) :
    List Happening → Workshop σ → Prop where
  | refl : Runs w service x [] x
  | snoc {events : List Happening} {event : Happening} {y z : Workshop σ}
      (run : Runs w service x events y) (step : Step w service y event z) :
      Runs w service x (events ++ [event]) z

/-- The program as it starts on a screen, with a new session and no workers. -/
def opened (w : Surroundings σ) (delay : Nat) (gate : LoginGate) (endpoint : String)
    (screen : Screen) (s : σ) : Workshop σ :=
  { app := .start w { redirectDelay := delay } gate endpoint screen s, surroundings := s }

section Runs

variable {w : Surroundings σ} {service : Service} {x y z : Workshop σ}

theorem Runs.single {event : Happening} (step : Step w service x event y) :
    Runs w service x [event] y := .snoc .refl step

theorem Runs.trans {first second : List Happening} (left : Runs w service x first y)
    (right : Runs w service y second z) : Runs w service x (first ++ second) z := by
  induction right with
  | refl => simpa using left
  | snoc _ step ih => simpa using ih.snoc step

/-- What holds at the start and is kept by every step holds after every run. -/
theorem Runs.invariant {P : Workshop σ → Prop} {events : List Happening}
    (run : Runs w service x events y) (start : P x)
    (keep : ∀ {a b event}, P a → Step w service a event b → P b) : P y := by
  induction run with
  | refl => exact start
  | snoc _ step ih => exact keep ih step

end Runs

end Workshop

namespace EventLoop

open Workshop

variable {σ : Type}

/-- The loop between two turns as a workshop with other effects in its queue; all workers have
ended. -/
def workshop (l : EventLoop σ) (effects : List Effect) : Workshop σ where
  app := { l.app with effects }
  surroundings := l.surroundings
  results := l.results

variable (w : Surroundings σ) (service : Service)

theorem receiveAll_runs (now : Nat) (l : EventLoop σ) :
    ∃ events, Runs w service (l.workshop l.app.effects) events
      ((l.receiveAll w now).workshop (l.receiveAll w now).app.effects) := by
  obtain ⟨app, s, wire, results, fresh, terminal, cleared⟩ := l
  induction results generalizing app s with
  | nil => exact ⟨[], .refl⟩
  | cons r rest ih =>
    obtain ⟨events, run⟩ := ih (app.receive w r now s).1 (app.receive w r now s).2
    have step : Step w service
        (workshop ⟨app, s, wire, r :: rest, fresh, terminal, cleared⟩ app.effects)
        (.takenOver r now)
        (workshop ⟨(app.receive w r now s).1, (app.receive w r now s).2, wire, rest, fresh,
          terminal, cleared⟩ (app.receive w r now s).1.effects) :=
      .takeOver now (Multiset.cons_coe r rest).symm
    exact ⟨_, (Runs.single step).trans run⟩

/-- A call that is carried out at once is a run of two steps, in which its worker starts and ends. -/
theorem call_runs (l : EventLoop σ) {effect : Effect} (call : Call) (rest : List Effect)
    (calls : effect.call? = some call) (outcome : Outcome) :
    Runs w service (l.workshop (effect :: rest)) [.started call, .ended (call.result outcome)]
      ({ l with results := l.results ++ [call.result outcome] }.workshop rest) := by
  have start : Step w service (l.workshop (effect :: rest)) (.started call)
      { l.workshop rest with workers := {call} } := .start [] rest rfl calls
  have finish : Step w service { l.workshop rest with workers := {call} }
      (.ended (call.result outcome))
      { l.workshop rest with workers := 0, results := call.result outcome ::ₘ ↑l.results } :=
    .finish outcome rfl
  have results : (↑(l.results ++ [call.result outcome]) : Multiset CallResult) =
      call.result outcome ::ₘ ↑l.results :=
    Multiset.coe_eq_coe.mpr (List.perm_append_singleton _ _)
  have target : { l with results := l.results ++ [call.result outcome] }.workshop rest =
      { l.workshop rest with workers := 0, results := call.result outcome ::ₘ ↑l.results } := by
    simp only [workshop, results]
  rw [target]
  exact (Runs.single start).snoc finish

theorem carryOut_runs (l : EventLoop σ) (effect : Effect) (rest : List Effect) :
    ∃ events, Runs w service (l.workshop (effect :: rest)) events
      ((l.carryOut w service effect).workshop rest) := by
  cases effect with
  | compile id source =>
    exact ⟨_, call_runs w service l (.compile id source) rest rfl
      (l.wire.call (service.compileRequest source)).1⟩
  | login credentials =>
    exact ⟨_, call_runs w service l (.login credentials) rest rfl
      (l.wire.call (service.loginRequest credentials)).1⟩
  | editSource =>
    have step : Step w service (l.workshop (.editSource :: rest)) .edited
        { l.workshop rest with
          app := (l.workshop rest).app.sourceEdited w
            (w.editSource l.surroundings).1 (w.editSource l.surroundings).2
          surroundings := (w.editSource l.surroundings).2 } := .edit [] rest rfl
    have target : (l.edit w).workshop rest = { l.workshop rest with
        app := (l.workshop rest).app.sourceEdited w
          (w.editSource l.surroundings).1 (w.editSource l.surroundings).2
        surroundings := (w.editSource l.surroundings).2 } := by
      simp only [workshop, edit, App.sourceEdited_withEffects]
    rw [← target] at step
    exact ⟨_, Runs.single step⟩

theorem carryOutAll_runs (l : EventLoop σ) :
    ∃ events, Runs w service (l.workshop l.app.effects) events
      ((l.carryOutAll w service).workshop []) := by
  have go (effects : List Effect) (m : EventLoop σ) :
      ∃ events, Runs w service (m.workshop effects) events
        ((effects.foldl (carryOut w service) m).workshop []) := by
    induction effects generalizing m with
    | nil => exact ⟨[], .refl⟩
    | cons effect rest ih =>
      obtain ⟨first, left⟩ := carryOut_runs w service m effect rest
      obtain ⟨second, right⟩ := ih (m.carryOut w service effect)
      exact ⟨first ++ second, left.trans right⟩
  exact go l.app.effects { l with app := { l.app with effects := [] } }

theorem carryOutAll_effects (l : EventLoop σ) : (l.carryOutAll w service).app.effects = [] := by
  have go (effects : List Effect) (m : EventLoop σ) (h : m.app.effects = []) :
      (effects.foldl (carryOut w service) m).app.effects = [] := by
    induction effects generalizing m with
    | nil => exact h
    | cons effect rest ih =>
      apply ih
      cases effect with
      | editSource =>
        obtain ⟨source, status, he⟩ := App.sourceEdited_eq w (w.editSource m.surroundings).1
          m.app (w.editSource m.surroundings).2
        simp only [carryOut, edit, he, h]
      | _ => exact h
  exact go l.app.effects { l with app := { l.app with effects := [] } } rfl

/-- A turn of the loop is a run, whatever key comes and whatever the service answers. -/
theorem turn_runs {now : Nat} {event : KeyboardEvent} {l l' : EventLoop σ}
    (h : l.turn w service now event = .ok l') :
    ∃ events, Runs w service (l.workshop l.app.effects) events (l'.workshop l'.app.effects) := by
  have after (m : EventLoop σ) : ∃ events, Runs w service (m.workshop m.app.effects) events
      (({ m.receiveAll w now with
          app := (m.receiveAll w now).app.tick now
            (w.clock (m.receiveAll w now).surroundings) }.carryOutAll w service).workshop []) := by
    obtain ⟨first, received⟩ := receiveAll_runs w service now m
    have ticked : Step w service _ (.ticked now) _ :=
      .tick ((m.receiveAll w now).workshop (m.receiveAll w now).app.effects) now
    obtain ⟨last, done⟩ := carryOutAll_runs w service { m.receiveAll w now with
      app := (m.receiveAll w now).app.tick now (w.clock (m.receiveAll w now).surroundings) }
    exact ⟨_, (received.snoc ticked).trans done⟩
  cases event with
  | press key =>
    have pressed : Step w service _ (.pressed ⟨l.fresh⟩ key) _ :=
      .press (l.workshop l.app.effects) ⟨l.fresh⟩ key
    simp only [turn, keyboard, Except.map, Except.ok.injEq] at h
    subst h
    rw [carryOutAll_effects]
    obtain ⟨events, run⟩ := after { l with
      app := (l.app.press w ⟨l.fresh⟩ key l.surroundings).1
      surroundings := (l.app.press w ⟨l.fresh⟩ key l.surroundings).2
      fresh := l.fresh + 1 }
    exact ⟨_, (Runs.single pressed).trans run⟩
  | nothing =>
    simp only [turn, keyboard, Except.map, Except.ok.injEq] at h
    subst h
    rw [carryOutAll_effects]
    exact after l
  | failure e => simp [turn, keyboard, Except.map] at h

/-- However many turns the loop takes, it stays within the runs. -/
theorem turns_runs (clock : Nat → Nat) (n : Nat) (keys : List KeyboardEvent) (l : EventLoop σ) :
    ∃ events, Runs w service (l.workshop l.app.effects) events
      ((turns w service clock n keys l).last.workshop
        (turns w service clock n keys l).last.app.effects) := by
  induction keys generalizing n l with
  | nil => exact ⟨[], .refl⟩
  | cons key rest ih =>
    rw [turns]
    cases h : { l with cleared := false }.turn w service (clock n) key with
    | error e => exact ⟨[], .refl⟩
    | ok after =>
      obtain ⟨first, run⟩ := turn_runs w service h
      cases hq : after.app.quitting with
      | true =>
        refine ⟨first, ?_⟩
        simp only [hq, ↓reduceIte]
        exact run
      | false =>
        obtain ⟨second, more⟩ := ih (n + 1) after
        refine ⟨first ++ second, ?_⟩
        simp only [hq, Bool.false_eq_true, ↓reduceIte]
        exact run.trans more

end EventLoop
end CompileDesk
