import CompileDesk.Interactive.App
import CompileDesk.Service.Wire

/-! # The event loop

The loop takes turns. In each turn the screen is drawn and one event of the keyboard is waited for; then
the results of calls that have ended are taken over, a due change of screen is made, and the queued
effects are carried out. Calls to the service are made while the loop goes on; their results are
there by the time of the next event. The editor gets the terminal for itself.
-/

namespace CompileDesk

inductive TerminalChange where
  | rawModeOn
  | rawModeOff
  | alternateScreenOn
  | alternateScreenOff
  deriving DecidableEq, Repr

namespace TerminalChange

def taking : List TerminalChange := [rawModeOn, alternateScreenOn]

def givingBack : List TerminalChange := [rawModeOff, alternateScreenOff]

end TerminalChange

/-- What waiting for the keyboard gives: a key press, something without a meaning, or a failure. -/
inductive KeyboardEvent where
  | press (key : KeyPress)
  | nothing
  | failure (error : IoError)
  deriving DecidableEq, Repr

/-- A drawing of the program, on a terminal that may have been cleared before. -/
structure Drawing where
  app : App
  cleared : Bool := false

/-- The loop between two turns: the program, its surroundings, the wire to the service, the results that
have not been taken over, the number of the next request, what was done to the terminal, and whether the
terminal was cleared since the latest drawing. -/
structure EventLoop (σ : Type) where
  app : App
  surroundings : σ
  wire : Wire
  results : List CallResult := []
  fresh : Nat := 0
  terminal : List TerminalChange := []
  cleared : Bool := false

namespace EventLoop

variable {σ : Type}

def keyboard (w : Surroundings σ) (l : EventLoop σ) : KeyboardEvent → Except IoError (EventLoop σ)
  | .press key =>
    let (app, surroundings) := l.app.press w ⟨l.fresh⟩ key l.surroundings
    .ok { l with app, surroundings, fresh := l.fresh + 1 }
  | .nothing => .ok l
  | .failure e => .error e

def receive (w : Surroundings σ) (now : Nat) (l : EventLoop σ) (r : CallResult) : EventLoop σ :=
  let (app, surroundings) := l.app.receive w r now l.surroundings
  { l with app, surroundings }

def receiveAll (w : Surroundings σ) (now : Nat) (l : EventLoop σ) : EventLoop σ :=
  l.results.foldl (receive w now) { l with results := [] }

/-- Lets the user edit the source, with the terminal given back meanwhile and cleared afterwards. -/
def edit (w : Surroundings σ) (l : EventLoop σ) : EventLoop σ :=
  let (result, surroundings) := w.editSource l.surroundings
  { l with
    surroundings
    app := l.app.sourceEdited w result surroundings
    terminal := l.terminal ++ TerminalChange.givingBack ++ TerminalChange.taking
    cleared := true }

def carryOut (w : Surroundings σ) (service : Service) (l : EventLoop σ) : Effect → EventLoop σ
  | .compile id source =>
    let (outcome, wire) := l.wire.call (service.compileRequest source)
    { l with wire, results := l.results ++ [.compiled id outcome] }
  | .login credentials =>
    let (outcome, wire) := l.wire.call (service.loginRequest credentials)
    { l with wire, results := l.results ++ [.loggedIn outcome] }
  | .editSource => l.edit w

def carryOutAll (w : Surroundings σ) (service : Service) (l : EventLoop σ) : EventLoop σ :=
  let (effects, app) := l.app.takeEffects
  effects.foldl (carryOut w service) { l with app }

def turn (w : Surroundings σ) (service : Service) (now : Nat) (event : KeyboardEvent)
    (l : EventLoop σ) : Except IoError (EventLoop σ) :=
  (l.keyboard w event).map fun l =>
    let l := l.receiveAll w now
    { l with app := l.app.tick now (w.clock l.surroundings) }.carryOutAll w service

def drawing (l : EventLoop σ) : Drawing := ⟨l.app, l.cleared⟩

/-- What a run leaves behind: how it ended, the loop after it, and the drawings. -/
structure Run (σ : Type) where
  result : Except DeskError Unit
  last : EventLoop σ
  drawn : List Drawing

/-- Takes turns until the user quits, waiting for the keyboard fails, or there are no more events. -/
def turns (w : Surroundings σ) (service : Service) (clock : Nat → Nat) :
    Nat → List KeyboardEvent → EventLoop σ → Run σ
  | _, [], l => ⟨.ok (), l, []⟩
  | n, event :: rest, l =>
    match { l with cleared := false }.turn w service (clock n) event with
    | .error e => ⟨.error (.io e), l, [l.drawing]⟩
    | .ok after =>
      if after.app.quitting then ⟨.ok (), after, [l.drawing]⟩
      else
        let run := turns w service clock (n + 1) rest after
        { run with drawn := l.drawing :: run.drawn }

def changing (l : EventLoop σ) (changes : List TerminalChange) : EventLoop σ :=
  { l with terminal := l.terminal ++ changes }

def run (w : Surroundings σ) (service : Service) (clock : Nat → Nat)
    (events : List KeyboardEvent) (l : EventLoop σ) : Run σ :=
  let done := turns w service clock 0 events (l.changing TerminalChange.taking)
  { done with last := done.last.changing TerminalChange.givingBack }

/-- The outcome when the terminal cannot be taken. -/
def refused (l : EventLoop σ) (e : IoError) : Run σ := ⟨.error (.io e), l, []⟩

end EventLoop
end CompileDesk
