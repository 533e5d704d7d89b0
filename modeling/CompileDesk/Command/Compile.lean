import CompileDesk.Command.Desk
import CompileDesk.Editor.Source
import CompileDesk.Panes.Table
import CompileDesk.Terminal.Banner

/-! # Compiling a file

The file is read before anything is sent. With credentials, a login comes first, and without its
success nothing is compiled. The panes are written only when the compilation succeeded.
-/

namespace CompileDesk

namespace Transcript

def diagram (t : Transcript) : DiagramView → Transcript
  | .empty => t.line (Terminal.dim ++ "(no diagram)" ++ Terminal.reset)
  | .rendered path bytes edges =>
    let t := t.line (match path with
      | some path => "SVG (" ++ Text.ofNat bytes ++ " bytes) saved to " ++ path
      | none => "SVG rendered (" ++ Text.ofNat bytes ++ " bytes)")
    t.lines (edges.map fun e =>
      "  " ++ Terminal.gray ++ e.source ++ Terminal.reset ++ " → " ++ Terminal.gray ++ e.target ++
        Terminal.reset)
  | .failed source reason =>
    (t.line (Terminal.red ++ "Diagram could not be rendered:" ++ Terminal.reset ++ " " ++ reason)).line
      (Text.trimmedEnd source)

def assembly (t : Transcript) (text : String) : Transcript :=
  t.line (if text.isEmpty then Terminal.dim ++ "(no assembly)" ++ Terminal.reset
    else Text.trimmedEnd text)

def framed (t : Transcript) (name : String) (content : Transcript → Transcript) : Transcript :=
  (content (t.banner Terminal.cyan name)).footer Terminal.cyan

def panes (t : Transcript) (p : Panes) : Transcript :=
  let t := t.framed "ASSEMBLY" fun t => t.assembly p.assembly
  let t := t.framed "DIAGRAM" fun t => t.diagram p.diagram
  let t := t.framed "SYMBOLS" fun t => t.lines (Table.lines p.symbols Terminal.pageWidth)
  match p.status with
  | some status => t.status status
  | none => t

end Transcript

namespace Command

def statusText (p : Panes) : String :=
  match p.status with
  | some status => status.text
  | none => ""

/-- How a settlement ends the command; the status of the panes says why it failed. -/
def settled (p : Panes) : Settlement → Except DeskError Unit
  | .succeeded => .ok ()
  | .unauthorized _ => .error .sessionExpired
  | .failed .unreachable => .error (.connectivity (statusText p))
  | .failed .malformed => .error (.malformedResponse (statusText p))
  | .failed .compiler => .error (.compilation (statusText p))
  | .stale => .error (.compilation "a compilation is already in progress")

def settledLine (label : String) (elapsed : Nat) : Settlement → String
  | .succeeded =>
    Terminal.green ++ "✔ " ++ label ++ " (" ++ Text.ofNat elapsed ++ " ms)" ++ Terminal.reset
  | .unauthorized _ => Terminal.yellow ++ "! " ++ label ++ Terminal.reset
  | _ => Terminal.red ++ "✘ " ++ label ++ Terminal.reset

def deskRenderer (h : Host) (s : Settings) : Renderer Desk :=
  (s.diagramRenderer h).within Desk.files fun files d => { d with files }

def deskPresenter (h : Host) (s : Settings) : Presenter Desk where
  render := deskRenderer h s
  clock _ := h.now

def compileOnce (presenter : Presenter Desk) (s : Settings) (source : String) (d : Desk) :
    Option (Settlement × Bench Desk) :=
  let call (source : String) (d : Desk) : Outcome × Desk := d.call (s.service.compileRequest source)
  Session.run? presenter s.service.endpoint call ⟨0⟩ source ⟨s.session, {}, d⟩

def compileSource (presenter : Presenter Desk) (s : Settings) (source : String) (d : Desk) :
    Settlement × Panes × Desk :=
  match compileOnce presenter s source d with
  | some (settlement, b) => (settlement, b.panes, b.surroundings)
  | none => (.stale, {}, d)

def signIn (s : Settings) (username password : String) (d : Desk) : Except DeskError Unit × Desk :=
  let (outcome, d) := s.gate.attempt s.service.endpoint
    (fun credentials (d : Desk) => d.call (s.service.loginRequest credentials)) username password d
  match outcome.result with
  | .ok message => (.ok (), d.write (·.success message))
  | .error e => (.error e, d)

def compileAndShow (h : Host) (s : Settings) (file source : String) (d : Desk) :
    Except DeskError Unit × Desk :=
  let (settlement, panes, d) := compileSource (deskPresenter h s) s source d
  let d := d.write (·.line (settledLine ("Compiling " ++ file) (h.clock 1 - h.clock 0) settlement))
  (settled panes settlement, if settlement = .succeeded then d.write (·.panes panes) else d)

/-- Compiles a file, after signing in if credentials are given. -/
def compile (h : Host) (s : Settings) (file : String) (credentials : Option (String × String))
    (d : Desk) : Except DeskError Unit × Desk :=
  match SourceFile.contents file d.files with
  | .error e => (.error e, d)
  | .ok source =>
    match credentials with
    | none => compileAndShow h s file source d
    | some (username, password) =>
      match signIn s username password d with
      | (.ok (), d) => compileAndShow h s file source d
      | (.error e, d) => (.error e, d)

end Command
end CompileDesk
