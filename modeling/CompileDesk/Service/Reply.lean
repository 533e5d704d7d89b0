import CompileDesk.Json.Record
import CompileDesk.Json.Writer
import CompileDesk.Text.Blank

/-! # What the compile service answers

A call to the service ends with a reply, a status and a body, or with a transport error when no reply
came. Statuses from 200 to 299 count as success.
-/

namespace CompileDesk

structure Reply where
  status : Nat
  body : String
  deriving DecidableEq, Repr

def Reply.isSuccess (r : Reply) : Bool := 200 ≤ r.status && r.status < 300

/-- The status with which the service says that the session is over. -/
def sessionExpiredStatus : Nat := 401

/-- Whether the service took the caller for signed in. -/
def Reply.isAuthenticated (r : Reply) : Bool := r.status != sessionExpiredStatus

/-- Why no reply came from an address. -/
structure TransportError where
  url : String
  detail : String
  deriving DecidableEq, Repr

def TransportError.message (e : TransportError) : String := e.url ++ ": " ++ e.detail

abbrev Outcome := Except TransportError Reply

structure Credentials where
  username : String
  password : String
  deriving DecidableEq, Repr

def Credentials.payload (c : Credentials) : String :=
  String.ofList (Json.object
    [("username", .string c.username), ("password", .string c.password)]).render

structure Health where
  status : String
  version : Option String
  deriving DecidableEq, Repr

def Health.slots : List Json.Slot := [⟨"status", false⟩, ⟨"version", true⟩]

/-- Reads a health reply. A body that is no health record is itself the status, trimmed. -/
def Health.ofReply (r : Reply) : Health :=
  match Json.readRecord? Health.slots r.body with
  | some found =>
    ⟨((found.lookup "status").join).getD "", (found.lookup "version").join⟩
  | none => ⟨Text.trimmed r.body, none⟩

end CompileDesk
