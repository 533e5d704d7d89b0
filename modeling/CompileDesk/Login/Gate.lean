import CompileDesk.Service.Reply

/-! # Signing in

A login needs a user name that is not blank and a password that is not empty; the user name is sent
trimmed and the password as it is. The service's answer is judged by its status alone. A message
in its body is shown, unless it is blank.
-/

namespace CompileDesk

inductive LoginOutcome where
  | invalid
  | accepted (message : String) (redirectAfter : Nat)
  | rejected (message : String)
  | unreachable (message : String)
  deriving DecidableEq, Repr

namespace LoginOutcome

def missingFields : String := "Please enter both a username and a password."

def defaultAccepted : String := "Signed in."

def defaultRejected : String := "Invalid credentials."

def message : LoginOutcome → String
  | invalid => missingFields
  | accepted message _ => message
  | rejected message => message
  | unreachable message => message

/-- The message as it is shown: an accepted login announces the next screen. -/
def display : LoginOutcome → String
  | accepted message _ => message ++ " Redirecting..."
  | o => o.message

def isAccepted : LoginOutcome → Bool
  | accepted _ _ => true
  | _ => false

end LoginOutcome

/-- The gate to the workspace; after an accepted login it opens with a delay, in milliseconds. -/
structure LoginGate where
  redirectDelay : Nat
  deriving DecidableEq, Repr

namespace LoginGate

/-- The credentials to send, if both fields are filled in. -/
def prepare? (username password : String) : Option Credentials :=
  if Text.blank username || password.isEmpty then none
  else some ⟨Text.trimmed username, password⟩

def slots : List Json.Slot := [⟨"message", true⟩]

/-- The message in the body of a login reply; a blank one counts as none. -/
def serverMessage? (body : String) : Option String :=
  ((Json.readRecord? slots body).bind fun found => (found.lookup "message").join).filter
    fun m => !Text.blank m

def unreachableMessage (endpoint detail : String) : String :=
  "Could not connect to the server at " ++ endpoint ++ ". Check that it is running. (" ++
    detail ++ ")"

def conclude (gate : LoginGate) (endpoint : String) : Outcome → LoginOutcome
  | .error e => .unreachable (unreachableMessage endpoint e.detail)
  | .ok reply =>
    if reply.isSuccess then
      .accepted ((serverMessage? reply.body).getD LoginOutcome.defaultAccepted) gate.redirectDelay
    else .rejected ((serverMessage? reply.body).getD LoginOutcome.defaultRejected)

/-- Signs in with the fields of a form; nothing is sent when one is missing. -/
def attempt {σ : Type} (gate : LoginGate) (endpoint : String)
    (send : Credentials → σ → Outcome × σ) (username password : String) (s : σ) :
    LoginOutcome × σ :=
  match prepare? username password with
  | none => (.invalid, s)
  | some credentials =>
    let (outcome, s) := send credentials s
    (gate.conclude endpoint outcome, s)

end LoginGate
end CompileDesk
