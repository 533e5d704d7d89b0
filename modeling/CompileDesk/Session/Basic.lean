import CompileDesk.Panes.Basic

/-! # The compile session

A session has at most one request in flight. Submitting a program empties the panes and disables the
trigger until the request is settled. Settling judges the outcome, shows it and enables the trigger
again; an outcome for any other request is stale and changes nothing.
-/

namespace CompileDesk

structure RequestId where
  number : Nat
  deriving DecidableEq, Repr

inductive Phase where
  | idle
  | submitting
  | succeeded
  | failed
  | unauthorized
  deriving DecidableEq, Repr

def Phase.name : Phase → String
  | idle => "Idle"
  | submitting => "Submitting"
  | succeeded => "Succeeded"
  | failed => "Failed"
  | unauthorized => "Unauthorized"

structure Trigger where
  enabled : Bool
  label : String
  deriving DecidableEq, Repr

namespace Trigger

def ready : Trigger := ⟨true, "Compile"⟩

def busy : Trigger := ⟨false, "Compiling..."⟩

end Trigger

inductive FailureKind where
  | unreachable
  | malformed
  | compiler
  deriving DecidableEq, Repr

inductive Settlement where
  | succeeded
  | failed (kind : FailureKind)
  | unauthorized (after : Nat)
  | stale
  deriving DecidableEq, Repr

/-- A session; the delay before a redirect is in milliseconds. -/
structure Session where
  redirectDelay : Nat
  phase : Phase := .idle
  inFlight : Option RequestId := none
  trigger : Trigger := .ready
  deriving DecidableEq, Repr

/-- A session with the panes it writes to and the surroundings its presenter works in. -/
structure Bench (σ : Type) where
  session : Session
  panes : Panes
  surroundings : σ

namespace Session

def successMessage : String := "Compilation succeeded."

def expiredMessage : String := "Your session has expired. Returning to the login screen..."

def unreachableMessage (endpoint detail : String) : String :=
  "Could not connect to the compiler service at " ++ endpoint ++ ". Is the server running? (" ++
    detail ++ ")"

def unreadableMessage (fault : ReplyFault) : String :=
  "The compiler service returned an unreadable response: " ++ fault.message

/-- The message of a refusal; a blank one is replaced. -/
def refusalMessage (message : String) : String :=
  if Text.blank message then Verdict.genericRefusal else message

/-- Takes a program for compilation under a fresh number, unless a request is in flight. -/
def submit? (s : Session) (p : Panes) (id : RequestId) : Option (Session × Panes) :=
  if s.phase = .submitting then none
  else some ({ s with phase := .submitting, inFlight := some id, trigger := .busy }, p.cleared)

def showVerdict {σ : Type} (presenter : Presenter σ) (delay : Nat) (p : Panes) (s : σ) :
    Verdict → Settlement × Phase × Panes × σ
  | .sessionExpired =>
    (.unauthorized delay, .unauthorized, p.withStatus .warning expiredMessage (presenter.clock s), s)
  | .compiled artifacts =>
    let (p, s) := p.present presenter.render artifacts s
    (.succeeded, .succeeded, p.withStatus .success successMessage (presenter.clock s), s)
  | .refused message =>
    (.failed .compiler, .failed, p.withStatus .error (refusalMessage message) (presenter.clock s), s)

def judge {σ : Type} (presenter : Presenter σ) (endpoint : String) (delay : Nat) (outcome : Outcome)
    (p : Panes) (s : σ) : Settlement × Phase × Panes × σ :=
  match outcome with
  | .error e =>
    (.failed .unreachable, .failed,
      p.withStatus .error (unreachableMessage endpoint e.detail) (presenter.clock s), s)
  | .ok reply =>
    match Verdict.ofReply reply with
    | .error fault =>
      (.failed .malformed, .failed,
        p.withStatus .error (unreadableMessage fault) (presenter.clock s), s)
    | .ok verdict => showVerdict presenter delay p s verdict

def settle {σ : Type} (presenter : Presenter σ) (endpoint : String) (id : RequestId)
    (outcome : Outcome) (b : Bench σ) : Settlement × Bench σ :=
  if b.session.inFlight = some id then
    let (settlement, phase, panes, surroundings) :=
      judge presenter endpoint b.session.redirectDelay outcome b.panes b.surroundings
    (settlement,
      ⟨{ b.session with phase, inFlight := none, trigger := .ready }, panes, surroundings⟩)
  else (.stale, b)

/-- Submits a program, calls the service and settles the request with its answer. Nothing is called
when the program is not taken. -/
def run? {σ : Type} (presenter : Presenter σ) (endpoint : String)
    (call : String → σ → Outcome × σ) (id : RequestId) (source : String) (b : Bench σ) :
    Option (Settlement × Bench σ) :=
  (b.session.submit? b.panes id).map fun (session, panes) =>
    let (outcome, surroundings) := call source b.surroundings
    settle presenter endpoint id outcome ⟨session, panes, surroundings⟩

end Session
end CompileDesk
