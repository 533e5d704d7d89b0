import CompileDesk.Command.Compile

/-! # Asking the service

The service is asked whether it takes a login, and how it is.
-/

namespace CompileDesk.Command

/-- Checks credentials with the service. Nothing is sent when a field is missing. -/
def login (s : Settings) (username password : String) (d : Desk) : Except DeskError Unit × Desk :=
  signIn s username password d

def healthText (health : Health) : String :=
  match health.version with
  | some version => health.status ++ " (version " ++ version ++ ")"
  | none => health.status

/-- Asks the service how it is. Only a service that does not answer is an error. -/
def health (s : Settings) (d : Desk) : Except DeskError Unit × Desk :=
  match d.call s.service.healthRequest with
  | (.error e, d) =>
    (.error (.connectivity (s.service.endpoint ++ " is not reachable (" ++ e.detail ++ ")")), d)
  | (.ok reply, d) =>
    let d := d.write (·.line (Terminal.bold ++ "Server:" ++ Terminal.reset ++ " " ++ Terminal.cyan ++
      s.service.endpoint ++ Terminal.reset))
    let health := Health.ofReply reply
    if reply.isSuccess then (.ok (), d.write (·.success (healthText health)))
    else
      (.ok (), d.write (·.warning ("Server answered with HTTP " ++ Text.ofNat reply.status ++ ": " ++
        health.status)))

end CompileDesk.Command
