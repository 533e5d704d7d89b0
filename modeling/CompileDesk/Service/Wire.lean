import CompileDesk.Service.Reply
import CompileDesk.Settings.Basic

/-! # Talking to the compile service

The service understands three requests. A wire carries them: it answers each request from a sequence
of answers and keeps what was sent, so that the requests of a run can be read off it afterwards.
-/

namespace CompileDesk

inductive Method where
  | get
  | post
  deriving DecidableEq, Repr

def Method.name : Method → String
  | get => "GET"
  | post => "POST"

structure Request where
  method : Method
  url : String
  contentType : Option String := none
  body : Option String := none
  deriving DecidableEq, Repr

/-- What comes back for a request: a reply, the detail of a transport error, or nothing because the
call itself came down, perhaps for a stated reason. -/
inductive Answer where
  | reply (reply : Reply)
  | failed (detail : String)
  | crashed (reason : Option String)
  deriving DecidableEq, Repr

def Answer.crashDetail (reason : Option String) : String :=
  "request worker panicked: " ++ reason.getD "unknown cause"

def Answer.outcome (url : String) : Answer → Outcome
  | reply r => .ok r
  | failed detail => .error ⟨url, detail⟩
  | crashed reason => .error ⟨url, crashDetail reason⟩

/-- A wire: the answer to each request by its number, and the requests sent so far. -/
structure Wire where
  answer : Nat → Answer
  sent : List Request := []

namespace Wire

def exchange (w : Wire) (r : Request) : Answer × Wire :=
  (w.answer w.sent.length, { w with sent := w.sent ++ [r] })

def call (w : Wire) (r : Request) : Outcome × Wire :=
  let (answer, w) := w.exchange r
  (answer.outcome r.url, w)

/-- A wire that answers from a list; requests beyond it fail. -/
def scripted (answers : List Answer) : Wire where
  answer n := (answers[n]?).getD (.failed "no reply scripted")

end Wire

/-- A compile service, known by its address without slashes at the end. -/
structure Service where
  endpoint : String
  deriving DecidableEq, Repr

namespace Service

def ofUrl (url : String) : Service := ⟨Settings.withoutSlashes url⟩

def compileUrl (s : Service) : String := s.endpoint ++ "/compile"

def loginUrl (s : Service) : String := s.endpoint ++ "/login"

def healthUrl (s : Service) : String := s.endpoint ++ "/"

/-- Asks for a compilation; the source is sent as it is. -/
def compileRequest (s : Service) (source : String) : Request :=
  { method := .post, url := s.compileUrl, contentType := some "text/plain", body := some source }

def loginRequest (s : Service) (c : Credentials) : Request :=
  { method := .post, url := s.loginUrl, contentType := some "application/json",
    body := some c.payload }

def healthRequest (s : Service) : Request := { method := .get, url := s.healthUrl }

end Service
end CompileDesk
