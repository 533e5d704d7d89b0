import CompileDesk.Diagram.External
import CompileDesk.Editor.External
import CompileDesk.Error
import CompileDesk.Interactive.Loop
import CompileDesk.Service.Wire
import CompileDesk.Settings.Storage
import CompileDesk.Terminal.Message

/-! # What commands work on

A command reads what the host offers and changes a desk: the files, the wire to the service, and what
was written and drawn on the terminal.
-/

namespace CompileDesk

/-- What the host of the program offers and no command changes. The clock gives the time of each
reading, in milliseconds. -/
structure Host where
  home : String
  now : LocalTime
  clock : Nat → Nat
  programs : Programs
  editor : EditorChoice := {}
  keyboard : List KeyboardEvent := []
  terminalFault : Option IoError := none

def Host.folder (h : Host) : String := configFolder h.home

def Host.environment (h : Host) : Program.Environment := [("HOME", h.home)]

/-- What commands change. Of an interactive run it keeps what was done to the state of the terminal and
the drawings. -/
structure Desk where
  files : FileTree
  wire : Wire
  transcript : Transcript := {}
  terminal : List TerminalChange := []
  drawn : List Drawing := []

namespace Desk

def write (d : Desk) (f : Transcript → Transcript) : Desk := { d with transcript := f d.transcript }

def call (d : Desk) (r : Request) : Outcome × Desk :=
  let (outcome, wire) := d.wire.call r
  (outcome, { d with wire })

end Desk

namespace Settings

def service (s : Settings) : Service := .ofUrl s.baseUrl

def gate (s : Settings) : LoginGate := ⟨s.loginRedirect.toNat⟩

def session (s : Settings) : Session := { redirectDelay := s.sessionExpiryRedirect.toNat }

/-- The renderer of the settings; it saves diagrams if the settings say so. -/
def diagramRenderer (s : Settings) (h : Host) : CompileDesk.Renderer FileTree :=
  .external h.programs (h.environment ++ h.editor.environment) h.now s.renderer
    (if s.saveDiagrams then some (diagramsFolder h.folder) else none)

end Settings

/-- How a login outcome ends a command: with the message of the server or with an error. -/
def LoginOutcome.result : LoginOutcome → Except DeskError String
  | .accepted message _ => .ok message
  | .invalid => .error (.validation LoginOutcome.missingFields)
  | .rejected message => .error (.loginRejected message)
  | .unreachable message => .error (.connectivity message)

end CompileDesk
