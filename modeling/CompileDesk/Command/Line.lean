import CompileDesk.Command.Grammar
import CompileDesk.Shell.Completion

/-! # The command line of the program

The program is interactive unless a command says otherwise. The address of the service and the amount
of logging can be given with every command.
-/

namespace CompileDesk

inductive Task where
  | interact (source : Option String) (skipLogin : Bool)
  | compile (file : String) (credentials : Option (String × String))
  | login (username password : String)
  | health
  | showTheme
  | toggleTheme
  | showSettings
  | changeSetting (name value : String)
  | completions (shell : String)
  deriving DecidableEq, Repr

structure Invocation where
  server : Option String
  verbose : Bool
  task : Task
  deriving DecidableEq, Repr

namespace Invocation

def shared : List CommandOption :=
  [{ long := "server", value := some "URL" }, { long := "verbose", short := some 'v' },
    { long := "help", short := some 'h' }]

def leaf (options : List CommandOption) (operands : List Operand) (needed joined : List String) :
    Grammar :=
  .mk (options ++ shared) operands needed joined []

def credentials : List CommandOption :=
  [{ long := "username", value := some "USERNAME" }, { long := "password", value := some "PASSWORD" }]

def grammar : Grammar :=
  .mk (shared ++ [{ long := "version", short := some 'V' }]) [] [] [] [
    ("tui", leaf [{ long := "source", value := some "FILE", mayBeEmpty := false },
      { long := "skip-login" }] [] [] []),
    ("compile", leaf credentials [⟨"FILE", false⟩] [] ["username", "password"]),
    ("login", leaf credentials [] ["username", "password"] []),
    ("health", leaf [] [] [] []),
    ("theme", .mk shared [] [] [] [("show", leaf [] [] [] []), ("toggle", leaf [] [] [] [])]),
    ("config", .mk shared [] [] [] [("set", leaf [] [⟨"KEY", true⟩, ⟨"VALUE", true⟩] [] [])]),
    ("completions", leaf [] [⟨"SHELL", true⟩] [] [])]

/-- The names of the commands that completion offers. -/
def offered : List String := (grammar.commands.map Prod.fst).filter (· != "completions") ++ ["help"]

def taskOf (p : Parsed) : Task :=
  match p.path, p.operands with
  | ["compile"], [file] =>
    .compile file (match p.option? "username", p.option? "password" with
      | some username, some password => some (username, password)
      | _, _ => none)
  | ["login"], _ =>
    .login ((p.option? "username").getD "") ((p.option? "password").getD "")
  | ["health"], _ => .health
  | ["theme", "toggle"], _ => .toggleTheme
  | "theme" :: _, _ => .showTheme
  | ["config", "set"], [name, value] => .changeSetting name value
  | "config" :: _, _ => .showSettings
  | ["completions"], [shell] => .completions shell
  | _, _ => .interact (p.option? "source") (p.has "skip-login")

def ofWords (words : List String) : Except Halt Invocation :=
  (grammar.read {} words).map fun p => ⟨p.option? "server", p.has "verbose", taskOf p⟩

end Invocation
end CompileDesk
