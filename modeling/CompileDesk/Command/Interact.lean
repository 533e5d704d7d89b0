import CompileDesk.Command.Desk
import CompileDesk.Editor.Source
import CompileDesk.Theme.Preferences

/-! # The interactive command

The interactive program works on a source file, which is made when it is missing, and keeps the theme in
the preferences file.
-/

namespace CompileDesk

def Surroundings.ofHost (h : Host) (s : Settings) (path : String) : Surroundings FileTree where
  readSource files := SourceFile.contents path files
  editSource files := h.editor.edit h.programs h.environment path files
  preferences := .inFile (Preferences.file h.folder)
  render := s.diagramRenderer h
  clock _ := h.now

namespace Command

def runLoop {σ : Type} (h : Host) (w : Surroundings σ) (service : Service) (l : EventLoop σ) :
    EventLoop.Run σ :=
  match h.terminalFault with
  | some e => l.refused e
  | none => l.run w service h.clock h.keyboard

def interact (h : Host) (s : Settings) (source : Option String) (skipLogin : Bool) (d : Desk) :
    Except DeskError Unit × Desk :=
  let path := source.getD SourceFile.defaultPath
  match SourceFile.createOrOpen path d.files with
  | (.error e, files) => (.error e, { d with files })
  | (.ok (), files) =>
    let w := Surroundings.ofHost h s path
    let app := App.start w s.session s.gate s.service.endpoint
      (if skipLogin then .workspace else .login) files
    let done := runLoop h w s.service { app, surroundings := files, wire := d.wire }
    (done.result,
      { d with
        files := done.last.surroundings
        wire := done.last.wire
        terminal := d.terminal ++ done.last.terminal
        drawn := d.drawn ++ done.drawn })

end Command
end CompileDesk
